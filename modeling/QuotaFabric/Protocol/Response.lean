import QuotaFabric.Protocol.Request

/-!
# Responses on the wire

Model of the response half of `protocol/message.hpp` and `src/protocol/message.cpp`.  Reservations,
allocations and both kinds of loan are laid out as on disk, so `w_res`, `w_alloc`, `w_borrow`, `w_lend`
and their readers are those of the persistent codec.

* `BinaryWriter.signedVector`, `BinaryReader.signedVector` — one amount for each dimension, without flags;
* `WireEnvelope`, `WireDecision`, `WireResponse` — the fields the encoding carries;
* `encodeResponse`, `decodeResponse`;
* `WireResponse.Encodable` — the field values an encoding can hold;
* `WireResponse.received` — what the peer makes of a response.

Principal result: `readResponse_encodeResponse`.
-/

set_option autoImplicit false

namespace QuotaFabric

open LogParser

/-! ## Enumerations by code -/

instance : Enumeration ViolationCode UInt8 where
  code
    | .none => 0
    | .softLimitExceeded => 1
    | .hardLimitExceeded => 2
    | .parentLimitExceeded => 3
    | .expiredBurst => 4
    | .expiredBorrow => 5
    | .staleReservation => 6
    | .invalidSharedAttribution => 7
    | .physicalCapacityMismatch => 8
    | .stalePolicy => 9
    | .staleQuotaGeneration => 10
    | .staleAuthority => 11
    | .duplicateReservation => 12
    | .duplicateRelease => 13
    | .wrongTenant => 14
    | .invalidHierarchy => 15
    | .impossibleDebt => 16
    | .attributionMismatch => 17
    | .resourceOverflow => 18
  declared :=
    [.none, .softLimitExceeded, .hardLimitExceeded, .parentLimitExceeded, .expiredBurst, .expiredBorrow,
     .staleReservation, .invalidSharedAttribution, .physicalCapacityMismatch, .stalePolicy,
     .staleQuotaGeneration, .staleAuthority, .duplicateReservation, .duplicateRelease, .wrongTenant,
     .invalidHierarchy, .impossibleDebt, .attributionMismatch, .resourceOverflow]
  mem_declared c := by cases c <;> decide
  code_injective c d := by cases c <;> cases d <;> decide

instance : Enumeration DecisionCode UInt8 where
  code
    | .allow => 0
    | .allowGuaranteed => 1
    | .allowBurst => 2
    | .allowBorrow => 3
    | .defer => 4
    | .denySoft => 5
    | .denyHard => 6
    | .denyParent => 7
    | .denyPhysical => 8
    | .recallRequired => 9
    | .reclaimRequired => 10
  declared :=
    [.allow, .allowGuaranteed, .allowBurst, .allowBorrow, .defer, .denySoft, .denyHard, .denyParent,
     .denyPhysical, .recallRequired, .reclaimRequired]
  mem_declared c := by cases c <;> decide
  code_injective c d := by cases c <;> cases d <;> decide

instance : Enumeration ComplianceState UInt8 where
  code
    | .compliant => 0
    | .overSoft => 1
    | .overHard => 2
    | .recallRequired => 3
    | .reclaimRequired => 4
  declared := [.compliant, .overSoft, .overHard, .recallRequired, .reclaimRequired]
  mem_declared c := by cases c <;> decide
  code_injective c d := by cases c <;> cases d <;> decide

instance : Enumeration RecallAction UInt8 where
  code
    | .noAction => 0
    | .stopNewBorrowing => 1
    | .recallBorrowedCapacity => 2
    | .reduceBurst => 3
    | .requestReclaim => 4
    | .requestDemotion => 5
    | .requestPreemption => 6
    | .denyNewReservations => 7
  declared :=
    [.noAction, .stopNewBorrowing, .recallBorrowedCapacity, .reduceBurst, .requestReclaim,
     .requestDemotion, .requestPreemption, .denyNewReservations]
  mem_declared c := by cases c <;> decide
  code_injective c d := by cases c <;> cases d <;> decide

/-! ## Signed vectors -/

/-- `SignedResourceVector`: an amount for each dimension, of either sign. -/
abbrev SignedResourceVector := ResourceDimension → Int

def BinaryWriter.signedVector (v : SignedResourceVector) : Bytes :=
  u16 (UInt16.ofNat allResourceDimensions.length) ++ allResourceDimensions.flatMap fun d => i64 (v d)

section Readers

variable {ω : Type}

/-- The loop of `signed_vector` over the dimensions still to come. -/
def BinaryReader.signedVectorLoop :
    List ResourceDimension → SignedResourceVector → LogParser ω ReadError SignedResourceVector
  | [], r => pure r
  | d :: ds, r => do
    let x ← i64
    signedVectorLoop ds (Function.update r d x)

def BinaryReader.signedVector : LogParser ω ReadError SignedResourceVector := do
  let count ← u16
  if count.toNat > allResourceDimensions.length then
    fail (.decode (text "signed vector dimension count exceeds bound"))
  else signedVectorLoop (allResourceDimensions.take count.toNat) fun _ => 0

end Readers

section SignedVectors

variable {ω : Type} (rest : Bytes)

/-- The loop stores the amounts of the dimensions it visits and keeps the others. -/
theorem read_signedVectorLoop {v : SignedResourceVector} (hv : ∀ d, IsInt64 (v d)) :
    ∀ (ds : List ResourceDimension) (r : SignedResourceVector),
    ∃ r', (BinaryReader.signedVectorLoop ds r : LogParser ω ReadError _).run
        ((ds.flatMap fun d => BinaryWriter.i64 (v d)) ++ rest) = ([], .ok (r', rest)) ∧
      ∀ d, r' d = if d ∈ ds then v d else r d
  | [], r => ⟨r, rfl, fun d => by simp⟩
  | d :: ds, r => by
    obtain ⟨r', hok, hval⟩ := read_signedVectorLoop hv ds (Function.update r d (v d))
    refine ⟨r', ?_, fun e => ?_⟩
    · unfold BinaryReader.signedVectorLoop
      rw [List.flatMap_cons, List.append_assoc, run_bind, read_i64 _ (hv d), andThen_ok_nil]
      exact hok
    · rw [hval e]
      by_cases hed : e = d
      · subst hed
        simp
      · simp [hed]

theorem read_signedVector {v : SignedResourceVector} (hv : ∀ d, IsInt64 (v d)) :
    (BinaryReader.signedVector : LogParser ω ReadError _).run (BinaryWriter.signedVector v ++ rest) =
      ([], .ok (v, rest)) := by
  obtain ⟨r, hok, hval⟩ := read_signedVectorLoop (ω := ω) rest hv allResourceDimensions fun _ => 0
  have hr : r = v := by
    funext d
    rw [hval d, if_pos (mem_allResourceDimensions d)]
  have hcount : (UInt16.ofNat allResourceDimensions.length).toNat = allResourceDimensions.length := by
    decide
  unfold BinaryReader.signedVector BinaryWriter.signedVector
  rw [List.append_assoc, run_bind, read_u16, andThen_ok_nil, hcount, if_neg (lt_irrefl _),
    List.take_length, hok, hr]

end SignedVectors

namespace Protocol

/-! ## Records -/

/-- `QuotaEnvelope`, with the enumerations as any value of their underlying types. -/
structure WireEnvelope where
  tenant : TenantId := {}
  resourceClass : ResourceClassId := {}
  guaranteed : ResourceVector := .empty
  softLimit : ResourceVector := .empty
  hardLimit : ResourceVector := .empty
  burstLimit : ResourceVector := .empty
  currentConsumption : ResourceVector := .empty
  reserved : ResourceVector := .empty
  committedUsage : ResourceVector := .empty
  borrowed : ResourceVector := .empty
  burstUsage : ResourceVector := .empty
  lent : ResourceVector := .empty
  debt : ResourceVector := .empty
  availableGuaranteed : SignedResourceVector := fun _ => 0
  availableSoft : SignedResourceVector := fun _ => 0
  availableBurst : SignedResourceVector := fun _ => 0
  compliance : EnumValue ComplianceState := .of .compliant
  primaryViolation : Option (EnumValue ViolationCode) := none
  generation : QuotaGeneration := {}
  policyGeneration : PolicyGeneration := {}
  epoch : CoordinatorEpoch := {}
  burstExpiresAt : Nanos := 0
  burstActive : Bool := false

/-- The fields of `QuotaDecision` that are sent. -/
structure WireDecision where
  code : EnumValue DecisionCode := .of .allow
  requested : ResourceVector := .empty
  guarantee : ResourceVector := .empty
  softLimit : ResourceVector := .empty
  hardLimit : ResourceVector := .empty
  limitingDimension : Option (EnumValue ResourceDimension) := none
  explanation : Explanation := []

/-- A response, without its snapshot, which is not sent. -/
structure WireResponse where
  ok : Bool := false
  code : EnumValue ViolationCode := .of .none
  message : Str := []
  envelope : WireEnvelope := {}
  decision : WireDecision := {}
  reservation : Reservation := {}
  allocation : Allocation := {}
  borrow : BorrowRecord := {}
  lend : LendingRecord := {}
  recall_ : List (EnumValue RecallAction) := []
  epoch : CoordinatorEpoch := {}
  quotaGeneration : QuotaGeneration := {}
  policyGeneration : PolicyGeneration := {}
  text : Str := []

/-- `response_from`. -/
def responseFrom (st : QuotaStatus) : WireResponse := { ok := st.ok, code := .of st.code, message := st.message }

/-! ## Encoding -/

/-- `w_env`.  Zero stands for no violation. -/
def writeEnvelope (e : WireEnvelope) : Bytes :=
  BinaryWriter.id e.tenant ++ BinaryWriter.id e.resourceClass ++
  BinaryWriter.vector e.guaranteed ++ BinaryWriter.vector e.softLimit ++
  BinaryWriter.vector e.hardLimit ++ BinaryWriter.vector e.burstLimit ++
  BinaryWriter.vector e.currentConsumption ++ BinaryWriter.vector e.reserved ++
  BinaryWriter.vector e.committedUsage ++ BinaryWriter.vector e.borrowed ++
  BinaryWriter.vector e.burstUsage ++ BinaryWriter.vector e.lent ++ BinaryWriter.vector e.debt ++
  BinaryWriter.signedVector e.availableGuaranteed ++ BinaryWriter.signedVector e.availableSoft ++
  BinaryWriter.signedVector e.availableBurst ++
  BinaryWriter.u8 e.compliance.code ++
  BinaryWriter.u8 (match e.primaryViolation with | some v => v.code | none => 0) ++
  BinaryWriter.u64 e.generation.value ++ BinaryWriter.u64 e.policyGeneration.value ++
  BinaryWriter.u64 e.epoch.value ++ BinaryWriter.i64 e.burstExpiresAt ++ BinaryWriter.flag e.burstActive

/-- 255 stands for no limiting dimension. -/
def encodeResponse (r : WireResponse) : Bytes :=
  BinaryWriter.flag r.ok ++ BinaryWriter.u8 r.code.code ++ BinaryWriter.string r.message ++
  writeEnvelope r.envelope ++
  BinaryWriter.u8 r.decision.code.code ++ BinaryWriter.string r.decision.explanation.human ++
  BinaryWriter.vector r.decision.requested ++ BinaryWriter.vector r.decision.guarantee ++
  BinaryWriter.vector r.decision.softLimit ++ BinaryWriter.vector r.decision.hardLimit ++
  BinaryWriter.u8 (match r.decision.limitingDimension with | some d => d.code.toUInt8 | none => 255) ++
  writeReservation r.reservation ++ writeAllocation r.allocation ++ writeBorrow r.borrow ++
  writeLending r.lend ++
  BinaryWriter.count r.recall_.length ++ (r.recall_.flatMap fun a => BinaryWriter.u8 a.code) ++
  BinaryWriter.u64 r.epoch.value ++ BinaryWriter.u64 r.quotaGeneration.value ++
  BinaryWriter.u64 r.policyGeneration.value ++ BinaryWriter.string r.text

/-! ## Decoding -/

section Readers

variable {ω : Type}

/-- `r_env`. -/
def readEnvelope : LogParser ω ReadError WireEnvelope := do
  let tenant ← BinaryReader.id
  let resourceClass ← BinaryReader.id
  let guaranteed ← BinaryReader.vector
  let softLimit ← BinaryReader.vector
  let hardLimit ← BinaryReader.vector
  let burstLimit ← BinaryReader.vector
  let currentConsumption ← BinaryReader.vector
  let reserved ← BinaryReader.vector
  let committedUsage ← BinaryReader.vector
  let borrowed ← BinaryReader.vector
  let burstUsage ← BinaryReader.vector
  let lent ← BinaryReader.vector
  let debt ← BinaryReader.vector
  let availableGuaranteed ← BinaryReader.signedVector
  let availableSoft ← BinaryReader.signedVector
  let availableBurst ← BinaryReader.signedVector
  let compliance ← BinaryReader.u8
  let pv ← BinaryReader.u8
  let generation ← BinaryReader.u64
  let policyGeneration ← BinaryReader.u64
  let epoch ← BinaryReader.u64
  let burstExpiresAt ← BinaryReader.i64
  let burstActive ← BinaryReader.flag
  pure
    { tenant, resourceClass, guaranteed, softLimit, hardLimit, burstLimit, currentConsumption, reserved
      committedUsage, borrowed, burstUsage, lent, debt, availableGuaranteed, availableSoft, availableBurst
      compliance := ⟨compliance⟩, primaryViolation := if pv != 0 then some ⟨pv⟩ else none
      generation := ⟨generation⟩, policyGeneration := ⟨policyGeneration⟩, epoch := ⟨epoch⟩
      burstExpiresAt, burstActive }

/-- The body of `decode_response`. -/
def readResponse : LogParser ω ReadError WireResponse := do
  let ok ← BinaryReader.flag
  let code ← BinaryReader.u8
  let message ← BinaryReader.string
  let envelope ← readEnvelope
  let decisionCode ← BinaryReader.u8
  let explanation ← BinaryReader.string
  let requested ← BinaryReader.vector
  let guarantee ← BinaryReader.vector
  let softLimit ← BinaryReader.vector
  let hardLimit ← BinaryReader.vector
  let ld ← BinaryReader.u8
  let reservation ← readReservation
  let allocation ← readAllocation
  let borrow ← readBorrow
  let lend ← readLending
  let rc ← BinaryReader.u32
  let recall_ ← BinaryReader.u8.collect rc.toNat
  let epoch ← BinaryReader.u64
  let quotaGeneration ← BinaryReader.u64
  let policyGeneration ← BinaryReader.u64
  let text ← BinaryReader.string
  pure
    { ok, code := ⟨code⟩, message, envelope
      decision :=
        { code := ⟨decisionCode⟩, requested, guarantee, softLimit, hardLimit
          limitingDimension := if ld != 255 then some ⟨ld.toUInt16⟩ else none
          explanation := [{ code := .none, detail := explanation }] }
      reservation, allocation, borrow, lend, recall_ := recall_.map EnumValue.mk
      epoch := ⟨epoch⟩, quotaGeneration := ⟨quotaGeneration⟩, policyGeneration := ⟨policyGeneration⟩, text }

end Readers

/-- What is read from the front of `p`; the rest of `p` is not looked at. -/
def decodeResponse (p : Bytes) : Except ReadError WireResponse :=
  match ((readResponse : LogParser Empty ReadError _).run p).2 with
  | .error e => .error e
  | .ok (r, _) => .ok r

/-! ## What is encoded is read back -/

/-- Amounts and instants that 64-bit fields hold, and a violation other than `NONE` if any. -/
structure WireEnvelope.Encodable (e : WireEnvelope) : Prop where
  guaranteed : e.guaranteed.Valid
  softLimit : e.softLimit.Valid
  hardLimit : e.hardLimit.Valid
  burstLimit : e.burstLimit.Valid
  currentConsumption : e.currentConsumption.Valid
  reserved : e.reserved.Valid
  committedUsage : e.committedUsage.Valid
  borrowed : e.borrowed.Valid
  burstUsage : e.burstUsage.Valid
  lent : e.lent.Valid
  debt : e.debt.Valid
  availableGuaranteed : ∀ d, IsInt64 (e.availableGuaranteed d)
  availableSoft : ∀ d, IsInt64 (e.availableSoft d)
  availableBurst : ∀ d, IsInt64 (e.availableBurst d)
  primaryViolation : ∀ v, e.primaryViolation = some v → v ≠ .of .none
  burstExpiresAt : IsInt64 e.burstExpiresAt

/-- The limiting dimension is one the byte can hold beside the mark for none: the declared ones are. -/
structure WireDecision.Encodable (dec : WireDecision) : Prop where
  requested : dec.requested.Valid
  guarantee : dec.guarantee.Valid
  softLimit : dec.softLimit.Valid
  hardLimit : dec.hardLimit.Valid
  explanation : Str.Storable dec.explanation.human
  limitingDimension : ∀ d, dec.limitingDimension = some d → d.code < 255

structure WireResponse.Encodable (r : WireResponse) : Prop where
  message : Str.Storable r.message
  envelope : r.envelope.Encodable
  decision : r.decision.Encodable
  reservation : r.reservation.Storable
  allocation : r.allocation.Storable
  borrow : { r.borrow with resourceClass := {} }.Storable
  lend : r.lend.Storable
  recall_ : r.recall_.length < 2 ^ 32
  text : Str.Storable r.text

/-- What the peer makes of a response: the explanation as one line of rendered text, and the loan
    without its resource class. -/
def WireResponse.received (r : WireResponse) : WireResponse :=
  { r with
    decision := { r.decision with explanation := [{ code := .none, detail := r.decision.explanation.human }] }
    borrow := { r.borrow with resourceClass := {} } }

section RoundTrip

variable {ω : Type} (rest : Bytes)

theorem readEnvelope_writeEnvelope {e : WireEnvelope} (h : e.Encodable) :
    (readEnvelope : LogParser ω ReadError _).run (writeEnvelope e ++ rest) = ([], .ok (e, rest)) := by
  have hpv : (if (match e.primaryViolation with | some v => v.code | none => 0) != 0 then
      some (EnumValue.mk (match e.primaryViolation with | some v => v.code | none => 0)) else none) =
        e.primaryViolation := by
    cases hv : e.primaryViolation with
    | none => rfl
    | some v =>
      have hne : v.code ≠ 0 := fun h0 => h.primaryViolation v hv (congrArg EnumValue.mk h0)
      simp [hne]
  unfold readEnvelope writeEnvelope
  simp only [List.append_assoc, run_bind, andThen_ok_nil, read_id, read_u8, read_u64, read_flag,
    read_vector _ h.guaranteed, read_vector _ h.softLimit, read_vector _ h.hardLimit,
    read_vector _ h.burstLimit, read_vector _ h.currentConsumption, read_vector _ h.reserved,
    read_vector _ h.committedUsage, read_vector _ h.borrowed, read_vector _ h.burstUsage,
    read_vector _ h.lent, read_vector _ h.debt, read_signedVector _ h.availableGuaranteed,
    read_signedVector _ h.availableSoft, read_signedVector _ h.availableBurst,
    read_i64 _ h.burstExpiresAt, run_pure]
  rw [hpv]

theorem writeBorrow_resourceClass (b : BorrowRecord) : writeBorrow { b with resourceClass := {} } = writeBorrow b :=
  rfl

/-- The byte of a limiting dimension, or of its absence, is read back. -/
theorem read_limitingDimension {dec : WireDecision} (h : dec.Encodable) :
    (if (match dec.limitingDimension with | some d => d.code.toUInt8 | none => 255) != 255 then
      some (EnumValue.mk (match dec.limitingDimension with | some d => d.code.toUInt8 | none => 255).toUInt16)
      else none) = dec.limitingDimension := by
  cases hd : dec.limitingDimension with
  | none => rfl
  | some d =>
    have hlt : d.code.toNat < 255 := UInt16.lt_iff_toNat_lt.mp (h.limitingDimension d hd)
    have hbyte : d.code.toUInt8.toNat = d.code.toNat := by
      rw [UInt16.toNat_toUInt8]
      omega
    have hne : d.code.toUInt8 ≠ 255 := by
      intro heq
      rw [heq] at hbyte
      have h255 : (255 : UInt8).toNat = 255 := rfl
      omega
    have hback : d.code.toUInt8.toUInt16 = d.code := by
      apply UInt16.toNat_inj.mp
      rw [UInt8.toNat_toUInt16, hbyte]
    simp only [bne_iff_ne, ne_eq, hne, not_false_eq_true, if_true, hback]

/-- The recall actions, one byte each, are read back. -/
theorem read_recall (as : List (EnumValue RecallAction)) :
    (BinaryReader.u8.collect as.length : LogParser ω ReadError _).run
      ((as.flatMap fun a => BinaryWriter.u8 a.code) ++ rest) = ([], .ok (as.map EnumValue.code, rest)) := by
  have h := run_collect_append (fun b rest => read_u8 (ω := ω) rest b) (as.map EnumValue.code) rest
  rw [List.length_map, List.flatMap_map] at h
  exact h

/-- **What is encoded is read back, to its last byte.** -/
theorem readResponse_encodeResponse {r : WireResponse} (h : r.Encodable) :
    (readResponse : LogParser ω ReadError _).run (encodeResponse r ++ rest) = ([], .ok (r.received, rest)) := by
  have hcount : (UInt32.ofNat r.recall_.length).toNat = r.recall_.length := by
    have := h.recall_
    rw [UInt32.toNat_ofNat']
    omega
  unfold readResponse encodeResponse BinaryWriter.count
  rw [← writeBorrow_resourceClass r.borrow]
  simp only [List.append_assoc, run_bind, andThen_ok_nil, read_u8, read_u32, read_u64, read_flag,
    read_string _ h.message, readEnvelope_writeEnvelope _ h.envelope, read_string _ h.decision.explanation,
    read_vector _ h.decision.requested, read_vector _ h.decision.guarantee,
    read_vector _ h.decision.softLimit, read_vector _ h.decision.hardLimit,
    readReservation_writeReservation h.reservation, readAllocation_writeAllocation h.allocation,
    readBorrow_writeBorrow h.borrow, readLending_writeLending h.lend, hcount, read_recall,
    read_string _ h.text, run_pure, read_limitingDimension h.decision, List.map_map]
  have hrecall : r.recall_.map (EnumValue.mk ∘ EnumValue.code) = r.recall_ := List.map_id _
  rw [hrecall]
  rfl

end RoundTrip

theorem decodeResponse_encodeResponse {r : WireResponse} (h : r.Encodable) :
    decodeResponse (encodeResponse r) = .ok r.received := by
  have hrun := readResponse_encodeResponse (ω := Empty) [] h
  rw [List.append_nil] at hrun
  unfold decodeResponse
  rw [hrun]

/-- A response without contents. -/
theorem encodable_empty : ({} : WireResponse).Encodable where
  message := by decide
  envelope := ⟨by decide, by decide, by decide, by decide, by decide, by decide, by decide, by decide, by decide,
    by decide, by decide, by decide, by decide, by decide, fun _ h => (by cases h), by decide⟩
  decision := ⟨by decide, by decide, by decide, by decide, by decide, fun _ h => (by cases h)⟩
  reservation := ⟨by decide, by decide, by decide, by decide, by decide⟩
  allocation := ⟨by decide, by decide, by decide, by decide, by decide⟩
  borrow := ⟨rfl, by decide, by decide, by decide, by decide, by decide⟩
  lend := ⟨by decide, by decide, by decide, by decide⟩
  recall_ := by decide
  text := by decide

theorem responseFrom_encodable {st : QuotaStatus} (h : Str.Storable st.message) : (responseFrom st).Encodable :=
  { encodable_empty with message := h }

/-- The outcome of a call reaches the peer: success or failure, its code and its text. -/
theorem status_received {st : QuotaStatus} (h : Str.Storable st.message) :
    ∃ r, decodeResponse (encodeResponse (responseFrom st)) = .ok r ∧
      r.ok = st.ok ∧ r.code.declared? = some st.code ∧ r.message = st.message :=
  ⟨_, decodeResponse_encodeResponse (responseFrom_encodable h), rfl, EnumValue.declared?_of st.code, rfl⟩

/-- **Responses survive the wire**: decoding the encoding succeeds and yields every field that is sent,
    with the rendered explanation as its one line. -/
theorem response_round_trip (r : WireResponse) (h : r.Encodable) :
    decodeResponse (encodeResponse r) = .ok r.received ∧
    ((readResponse : LogParser Empty ReadError _).run (encodeResponse r)).2 = .ok (r.received, []) := by
  have hrun := readResponse_encodeResponse (ω := Empty) [] h
  rw [List.append_nil] at hrun
  refine ⟨decodeResponse_encodeResponse h, ?_⟩
  rw [hrun]

/-- A denial with a limiting dimension, a deficit, a loan and two recall actions. -/
def denial : WireResponse :=
  { responseFrom (.failure .staleAuthority (QuotaFabric.text "stale coordinator epoch")) with
    envelope :=
      { hardLimit := .fromScalar .kvCacheBytes 8, availableSoft := fun _ => -3
        primaryViolation := some (.of .hardLimitExceeded), burstActive := true }
    decision :=
      { code := .of .denyHard, requested := .fromScalar .kvCacheBytes 9
        limitingDimension := some (.of .kvCacheBytes)
        explanation := [{ code := .hardLimitExceeded, detail := QuotaFabric.text "kv" }, {}] }
    borrow := { id := ⟨0, 4⟩, resourceClass := ⟨0, 5⟩, reservation := some ⟨0, 6⟩ }
    recall_ := [.of .requestReclaim, ⟨77⟩] }

theorem response_round_trip_denial :
    decodeResponse (encodeResponse denial) = .ok denial.received ∧
    ((readResponse : LogParser Empty ReadError _).run (encodeResponse denial)).2 =
      .ok (denial.received, []) := by
  refine response_round_trip denial
    { encodable_empty with
      message := by decide +kernel
      envelope :=
        { encodable_empty.envelope with
          hardLimit := by decide, availableSoft := by decide
          primaryViolation := by
            rintro v ⟨⟩
            decide }
      decision :=
        { requested := by decide, guarantee := by decide, softLimit := by decide, hardLimit := by decide
          explanation := by decide +kernel
          limitingDimension := by
            rintro d ⟨⟩
            decide }
      borrow := ⟨rfl, by decide, by decide, by decide, by decide, by decide⟩
      recall_ := by decide }

end Protocol

end QuotaFabric
