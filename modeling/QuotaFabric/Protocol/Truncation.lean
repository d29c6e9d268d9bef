import QuotaFabric.Lib.ByteLayout
import QuotaFabric.Protocol.Buffer

/-!
# Messages cut short

Wherever an encoded message is cut, the cut falls into some field, and the reader of that field asks for
more bytes than there are.

* `needs_x` — each reader on what its writer writes: it reads all of it or refuses it, and refuses what is
  left of it when its end is missing.  Only the sizes of the fields matter, not whether their values can be
  stored;
* `WireRequest.SizesFit`, `WireResponse.SizesFit` — the strings have 64-bit lengths;
* `truncated_messages_rejected` — the decoders throw on every proper prefix of a message, and load bytes of
  that prefix only.
-/

set_option autoImplicit false

namespace QuotaFabric

open LogParser

/-- A 64-bit size holds the length of a string. -/
def Str.Sized (s : Str) : Prop := s.length < 2 ^ 64

instance (s : Str) : Decidable s.Sized := inferInstanceAs (Decidable (_ < _))

/-! ## Primitives -/

section Primitives

variable {ω : Type}

theorem needs_u8 (v : UInt8) :
    Needs (BinaryReader.u8 : LogParser ω ReadError _) (BinaryWriter.u8 v) fun a => a = v := by
  have hlen : (BinaryWriter.u8 v).length = 1 := rfl
  have hval : ofLE (BinaryWriter.u8 v) = v.toNat := rfl
  refine (needs_le _ hlen).map fun n hn => ?_
  rw [hn, hval, UInt8.ofNat_toNat]

theorem needs_u16 (v : UInt16) :
    Needs (BinaryReader.u16 : LogParser ω ReadError _) (BinaryWriter.u16 v) fun a => a = v := by
  refine (needs_le _ (length_toLE 2 _)).map fun n hn => ?_
  rw [hn, ofLE_toLE_of_lt v.toNat_lt, UInt16.ofNat_toNat]

theorem needs_u32 (v : UInt32) :
    Needs (BinaryReader.u32 : LogParser ω ReadError _) (BinaryWriter.u32 v) fun a => a = v := by
  refine (needs_le _ (length_toLE 4 _)).map fun n hn => ?_
  rw [hn, ofLE_toLE_of_lt v.toNat_lt, UInt32.ofNat_toNat]

theorem needs_u64 (v : UInt64) :
    Needs (BinaryReader.u64 : LogParser ω ReadError _) (BinaryWriter.u64 v) fun a => a = v := by
  refine (needs_le _ (length_toLE 8 _)).map fun n hn => ?_
  rw [hn, ofLE_toLE_of_lt v.toNat_lt, UInt64.ofNat_toNat]

theorem needs_i64 (v : Int) :
    Needs (BinaryReader.i64 : LogParser ω ReadError _) (BinaryWriter.i64 v) fun _ => True :=
  (needs_le _ (length_toLE 8 _)).map fun _ _ => trivial

theorem needs_string {s : Str} (hs : s.Sized) :
    Needs (BinaryReader.string : LogParser ω ReadError _) (BinaryWriter.string s) fun _ => True := by
  have hlen : (UInt64.ofNat s.length).toNat = s.length := by
    rw [UInt64.toNat_ofNat']
    exact Nat.mod_eq_of_lt hs
  refine (needs_u64 (UInt64.ofNat s.length)).bind fun len hlen' => ?_
  rw [hlen', hlen]
  split
  · exact needs_fail _ _ _
  · have htake := needs_takeBytes (ω := ω) BinaryReader.truncated (rfl : s.length = s.length)
    exact ⟨fun rest w a mid h => ⟨(htake.spans rest w a mid h).1, trivial⟩, htake.cut⟩

theorem needs_id {tag : IdTag} (i : StrongId tag) :
    Needs (BinaryReader.id : LogParser ω ReadError (StrongId tag)) (BinaryWriter.id i) fun _ => True :=
  (needs_u64 i.hi).bind fun _ _ => (needs_u64 i.lo).map fun _ _ => trivial

theorem needs_flag (b : Bool) :
    Needs (BinaryReader.flag : LogParser ω ReadError _) (BinaryWriter.flag b) fun a => a = b := by
  refine (needs_u8 _).map fun v hv => ?_
  rw [hv]
  cases b <;> rfl

theorem needs_optionalId {tag : IdTag} : ∀ i : Option (StrongId tag),
    Needs (BinaryReader.optionalId : LogParser ω ReadError (Option (StrongId tag))) (BinaryWriter.optionalId i)
      fun _ => True
  | none => by
    have hnone : Needs (BinaryReader.optionalId : LogParser ω ReadError (Option (StrongId tag)))
        (BinaryWriter.flag false ++ []) fun _ => True := by
      refine (needs_flag false).bind fun there hthere => ?_
      rw [hthere]
      exact needs_pure trivial
    rwa [List.append_nil] at hnone
  | some i => by
    refine (needs_flag true).bind fun there hthere => ?_
    rw [hthere, if_pos rfl]
    exact (needs_id i).map fun _ _ => trivial

/-- Each round of the loop reads a flag and an amount. -/
theorem needs_vectorLoop (v : ResourceVector) : ∀ (ds : List ResourceDimension) (r : ResourceVector),
    Needs (BinaryReader.vectorLoop ds r : LogParser ω ReadError _)
      (ds.flatMap fun d => BinaryWriter.flag (v.present d) ++ BinaryWriter.i64 (if v.present d then v.get d else 0))
      fun _ => True
  | [], _ => needs_pure trivial
  | d :: ds, r => by
    unfold BinaryReader.vectorLoop
    rw [List.flatMap_cons, List.append_assoc]
    refine (needs_flag _).bind fun present _ => (needs_i64 _).bind fun val _ => ?_
    split
    · exact needs_fail _ _ _
    split
    · split
      · exact needs_fail _ _ _
      · exact needs_vectorLoop v ds _
    · exact needs_vectorLoop v ds _

theorem needs_vector (v : ResourceVector) :
    Needs (BinaryReader.vector : LogParser ω ReadError _) (BinaryWriter.vector v) fun _ => True := by
  have hcount : (UInt16.ofNat allResourceDimensions.length).toNat = allResourceDimensions.length := by
    decide
  refine (needs_u16 _).bind fun count hc => ?_
  rw [hc, hcount, if_neg (lt_irrefl _), List.take_length]
  exact needs_vectorLoop v _ _

theorem needs_signedVectorLoop (v : SignedResourceVector) : ∀ (ds : List ResourceDimension)
    (r : SignedResourceVector), Needs (BinaryReader.signedVectorLoop ds r : LogParser ω ReadError _)
      (ds.flatMap fun d => BinaryWriter.i64 (v d)) fun _ => True
  | [], _ => needs_pure trivial
  | d :: ds, r => by
    unfold BinaryReader.signedVectorLoop
    rw [List.flatMap_cons]
    exact (needs_i64 _).bind fun x _ => needs_signedVectorLoop v ds _

theorem needs_signedVector (v : SignedResourceVector) :
    Needs (BinaryReader.signedVector : LogParser ω ReadError _) (BinaryWriter.signedVector v) fun _ => True := by
  have hcount : (UInt16.ofNat allResourceDimensions.length).toNat = allResourceDimensions.length := by
    decide
  refine (needs_u16 _).bind fun count hc => ?_
  rw [hc, hcount, if_neg (lt_irrefl _), List.take_length]
  exact needs_signedVectorLoop v _ _

end Primitives

/-! ## Records -/

section Records

variable {ω : Type}

theorem needs_readQuota (q : ResourceQuota) :
    Needs (readQuota : LogParser ω ReadError _) (writeQuota q) fun _ => True := by
  unfold readQuota writeQuota
  simp only [List.append_assoc]
  refine (needs_id _).bind fun _ _ => (needs_id _).bind fun _ _ => ?_
  refine (needs_vector _).bind fun _ _ => (needs_vector _).bind fun _ _ => (needs_vector _).bind fun _ _ => ?_
  refine (needs_vector _).bind fun _ _ => (needs_vector _).bind fun _ _ => (needs_vector _).bind fun _ _ => ?_
  refine (needs_vector _).bind fun _ _ => (needs_u64 _).bind fun _ _ => (needs_vector _).bind fun _ _ => ?_
  refine (needs_i64 _).bind fun _ _ => (needs_u32 _).bind fun _ _ => (needs_i64 _).bind fun _ _ => ?_
  refine (needs_flag _).bind fun _ _ => (needs_flag _).bind fun _ _ => (needs_flag _).bind fun _ _ => ?_
  refine (needs_flag _).bind fun _ _ => (needs_i64 _).bind fun _ _ => (needs_flag _).bind fun _ _ => ?_
  refine (needs_u32 _).bind fun _ _ => (needs_u8 _).bind fun _ _ => (needs_u64 _).bind fun _ _ => ?_
  exact (needs_u64 _).bind fun _ _ => (needs_u64 _).map fun _ _ => trivial

theorem needs_readReservation {r : Reservation} (hlabel : r.label.Sized) :
    Needs (readReservation : LogParser ω ReadError _) (writeReservation r) fun _ => True := by
  unfold readReservation writeReservation
  simp only [List.append_assoc]
  refine (needs_id _).bind fun _ _ => (needs_id _).bind fun _ _ => (needs_id _).bind fun _ _ => ?_
  refine (needs_vector _).bind fun _ _ => (needs_vector _).bind fun _ _ => (needs_u8 _).bind fun _ _ => ?_
  refine (needs_i64 _).bind fun _ _ => (needs_i64 _).bind fun _ _ => (needs_u64 _).bind fun _ _ => ?_
  refine (needs_u64 _).bind fun _ _ => (needs_u64 _).bind fun _ _ => (needs_id _).bind fun _ _ => ?_
  refine (needs_id _).bind fun _ _ => (needs_string hlabel).bind fun _ _ => ?_
  exact (needs_u64 _).map fun _ _ => trivial

theorem needs_readAllocation {a : Allocation} (hlabel : a.label.Sized) :
    Needs (readAllocation : LogParser ω ReadError _) (writeAllocation a) fun _ => True := by
  unfold readAllocation writeAllocation
  simp only [List.append_assoc]
  refine (needs_id _).bind fun _ _ => (needs_id _).bind fun _ _ => (needs_id _).bind fun _ _ => ?_
  refine (needs_id _).bind fun _ _ => (needs_vector _).bind fun _ _ => (needs_vector _).bind fun _ _ => ?_
  refine (needs_i64 _).bind fun _ _ => (needs_i64 _).bind fun _ _ => (needs_flag _).bind fun _ _ => ?_
  refine (needs_u64 _).bind fun _ _ => (needs_u64 _).bind fun _ _ => (needs_u64 _).bind fun _ _ => ?_
  refine (needs_id _).bind fun _ _ => (needs_id _).bind fun _ _ => ?_
  exact (needs_string hlabel).map fun _ _ => trivial

theorem needs_readBorrow (b : BorrowRecord) :
    Needs (readBorrow : LogParser ω ReadError _) (writeBorrow b) fun _ => True := by
  unfold readBorrow writeBorrow
  simp only [List.append_assoc]
  refine (needs_id _).bind fun _ _ => (needs_id _).bind fun _ _ => (needs_id _).bind fun _ _ => ?_
  refine (needs_id _).bind fun _ _ => (needs_optionalId _).bind fun _ _ => (needs_vector _).bind fun _ _ => ?_
  refine (needs_vector _).bind fun _ _ => (needs_i64 _).bind fun _ _ => (needs_i64 _).bind fun _ _ => ?_
  refine (needs_u32 _).bind fun _ _ => (needs_vector _).bind fun _ _ => (needs_u64 _).bind fun _ _ => ?_
  refine (needs_u64 _).bind fun _ _ => (needs_u64 _).bind fun _ _ => ?_
  exact (needs_flag _).map fun _ _ => trivial

theorem needs_readLending (l : LendingRecord) :
    Needs (readLending : LogParser ω ReadError _) (writeLending l) fun _ => True := by
  unfold readLending writeLending
  simp only [List.append_assoc]
  refine (needs_id _).bind fun _ _ => (needs_id _).bind fun _ _ => (needs_id _).bind fun _ _ => ?_
  refine (needs_id _).bind fun _ _ => (needs_vector _).bind fun _ _ => (needs_vector _).bind fun _ _ => ?_
  refine (needs_i64 _).bind fun _ _ => (needs_i64 _).bind fun _ _ => (needs_u32 _).bind fun _ _ => ?_
  refine (needs_flag _).bind fun _ _ => (needs_u64 _).bind fun _ _ => (needs_u64 _).bind fun _ _ => ?_
  exact (needs_u64 _).map fun _ _ => trivial

end Records

namespace Protocol

/-! ## Messages -/

/-- The strings of a request have 64-bit lengths. -/
structure WireRequest.SizesFit (q : WireRequest) : Prop where
  name : q.name.Sized
  name2 : q.name2.Sized
  serviceClass : q.serviceClass.Sized
  path : q.path.Sized
  source : q.observation.source.Sized

/-- So have the strings of a response, the rendered explanation among them. -/
structure WireResponse.SizesFit (r : WireResponse) : Prop where
  message : r.message.Sized
  explanation : r.decision.explanation.human.Sized
  reservation : r.reservation.label.Sized
  allocation : r.allocation.label.Sized
  text : r.text.Sized

instance (q : WireRequest) : Decidable q.SizesFit :=
  decidable_of_iff
    (q.name.Sized ∧ q.name2.Sized ∧ q.serviceClass.Sized ∧ q.path.Sized ∧ q.observation.source.Sized)
    ⟨fun ⟨h₁, h₂, h₃, h₄, h₅⟩ => ⟨h₁, h₂, h₃, h₄, h₅⟩, fun h => ⟨h.1, h.2, h.3, h.4, h.5⟩⟩

instance (r : WireResponse) : Decidable r.SizesFit :=
  decidable_of_iff
    (r.message.Sized ∧ r.decision.explanation.human.Sized ∧ r.reservation.label.Sized ∧
      r.allocation.label.Sized ∧ r.text.Sized)
    ⟨fun ⟨h₁, h₂, h₃, h₄, h₅⟩ => ⟨h₁, h₂, h₃, h₄, h₅⟩, fun h => ⟨h.1, h.2, h.3, h.4, h.5⟩⟩

section Messages

variable {ω : Type}

theorem needs_readAuthority (a : Authority) :
    Needs (readAuthority : LogParser ω ReadError _) (writeAuthority a) fun _ => True := by
  unfold readAuthority writeAuthority
  simp only [List.append_assoc]
  refine (needs_u64 _).bind fun _ _ => (needs_u64 _).bind fun _ _ => (needs_u64 _).bind fun _ _ => ?_
  exact (needs_id _).bind fun _ _ => (needs_id _).bind fun _ _ => (needs_u64 _).map fun _ _ => trivial

theorem needs_readObservation {o : WireObservation} (hsource : o.source.Sized) :
    Needs (readObservation : LogParser ω ReadError _) (writeObservation o) fun _ => True := by
  unfold readObservation writeObservation
  simp only [List.append_assoc]
  refine (needs_id _).bind fun _ _ => (needs_id _).bind fun _ _ => (needs_u16 _).bind fun _ _ => ?_
  refine (needs_i64 _).bind fun _ _ => (needs_u8 _).bind fun _ _ => (needs_i64 _).bind fun _ _ => ?_
  refine (needs_u64 _).bind fun _ _ => (needs_id _).bind fun _ _ => (needs_id _).bind fun _ _ => ?_
  exact (needs_string hsource).map fun _ _ => trivial

/-- **`decode_request` needs all of what `encode_request` writes.** -/
theorem needs_readRequest {q : WireRequest} (h : q.SizesFit) :
    Needs (readRequest : LogParser ω ReadError _) (encodeRequest q) fun _ => True := by
  unfold readRequest encodeRequest
  rw [writeGroupId_eq]
  simp only [List.append_assoc]
  refine (needs_u8 _).bind fun _ _ => (needs_readAuthority _).bind fun _ _ => (needs_id _).bind fun _ _ => ?_
  refine (needs_id _).bind fun _ _ => (needs_optionalId _).bind fun _ _ => (needs_u8 _).bind fun _ _ => ?_
  refine (needs_id _).bind fun _ _ => (needs_id _).bind fun _ _ => (needs_id _).bind fun _ _ => ?_
  refine (needs_id _).bind fun _ _ => (needs_id _).bind fun _ _ => (needs_id _).bind fun _ _ => ?_
  refine (needs_u64 _).bind fun _ _ => (needs_string h.name).bind fun _ _ => ?_
  refine (needs_string h.name2).bind fun _ _ => (needs_string h.serviceClass).bind fun _ _ => ?_
  refine (needs_string h.path).bind fun _ _ => (needs_u32 _).bind fun _ _ => (needs_u32 _).bind fun _ _ => ?_
  refine (needs_vector _).bind fun _ _ => (needs_vector _).bind fun _ _ => (needs_readQuota _).bind fun _ _ => ?_
  exact (needs_readObservation h.source).bind fun _ _ => (needs_u64 _).map fun _ _ => trivial

theorem needs_readEnvelope (e : WireEnvelope) :
    Needs (readEnvelope : LogParser ω ReadError _) (writeEnvelope e) fun _ => True := by
  unfold readEnvelope writeEnvelope
  simp only [List.append_assoc]
  refine (needs_id _).bind fun _ _ => (needs_id _).bind fun _ _ => ?_
  refine (needs_vector _).bind fun _ _ => (needs_vector _).bind fun _ _ => (needs_vector _).bind fun _ _ => ?_
  refine (needs_vector _).bind fun _ _ => (needs_vector _).bind fun _ _ => (needs_vector _).bind fun _ _ => ?_
  refine (needs_vector _).bind fun _ _ => (needs_vector _).bind fun _ _ => (needs_vector _).bind fun _ _ => ?_
  refine (needs_vector _).bind fun _ _ => (needs_vector _).bind fun _ _ => ?_
  refine (needs_signedVector _).bind fun _ _ => (needs_signedVector _).bind fun _ _ => ?_
  refine (needs_signedVector _).bind fun _ _ => (needs_u8 _).bind fun _ _ => (needs_u8 _).bind fun _ _ => ?_
  refine (needs_u64 _).bind fun _ _ => (needs_u64 _).bind fun _ _ => (needs_u64 _).bind fun _ _ => ?_
  exact (needs_i64 _).bind fun _ _ => (needs_flag _).map fun _ _ => trivial

/-- **`decode_response` needs all of what `encode_response` writes.** -/
theorem needs_readResponse {r : WireResponse} (h : r.SizesFit) (hrecall : r.recall_.length < 2 ^ 32) :
    Needs (readResponse : LogParser ω ReadError _) (encodeResponse r) fun _ => True := by
  have hcount : (UInt32.ofNat r.recall_.length).toNat = r.recall_.length := by
    rw [UInt32.toNat_ofNat']
    exact Nat.mod_eq_of_lt hrecall
  unfold readResponse encodeResponse BinaryWriter.count
  simp only [List.append_assoc]
  refine (needs_flag _).bind fun _ _ => (needs_u8 _).bind fun _ _ => (needs_string h.message).bind fun _ _ => ?_
  refine (needs_readEnvelope _).bind fun _ _ => (needs_u8 _).bind fun _ _ => ?_
  refine (needs_string h.explanation).bind fun _ _ => (needs_vector _).bind fun _ _ => ?_
  refine (needs_vector _).bind fun _ _ => (needs_vector _).bind fun _ _ => (needs_vector _).bind fun _ _ => ?_
  refine (needs_u8 _).bind fun _ _ => (needs_readReservation h.reservation).bind fun _ _ => ?_
  refine (needs_readAllocation h.allocation).bind fun _ _ => (needs_readBorrow _).bind fun _ _ => ?_
  refine (needs_readLending _).bind fun _ _ => (needs_u32 _).bind fun rc hrc => ?_
  rw [hrc, hcount]
  have hactions : Needs (BinaryReader.u8.collect r.recall_.length : LogParser ω ReadError _)
      (r.recall_.flatMap fun a => BinaryWriter.u8 a.code) fun _ => True :=
    Needs.collect (fun a => needs_u8 a.code) r.recall_
  refine hactions.bind fun _ _ => (needs_u64 _).bind fun _ _ => (needs_u64 _).bind fun _ _ => ?_
  exact (needs_u64 _).bind fun _ _ => (needs_string h.text).map fun _ _ => trivial

end Messages

/-! ## Main result -/

/-- A request cut short is refused. -/
theorem decodeRequest_cut {q : WireRequest} (h : q.SizesFit) {p : Bytes} (hp : p <+: encodeRequest q)
    (hne : p ≠ encodeRequest q) : ∃ e, decodeRequest p = .error e := by
  obtain ⟨w, e, he⟩ := (needs_readRequest (ω := Empty) h).cut p hp hne
  unfold decodeRequest
  rw [he]
  exact ⟨e, rfl⟩

/-- A response cut short is refused. -/
theorem decodeResponse_cut {r : WireResponse} (h : r.SizesFit) (hrecall : r.recall_.length < 2 ^ 32) {p : Bytes}
    (hp : p <+: encodeResponse r) (hne : p ≠ encodeResponse r) : ∃ e, decodeResponse p = .error e := by
  obtain ⟨w, e, he⟩ := (needs_readResponse (ω := Empty) h hrecall).cut p hp hne
  unfold decodeResponse
  rw [he]
  exact ⟨e, rfl⟩

/-- **Truncated messages are always rejected**, with every byte that is read inside the buffer. -/
theorem truncated_messages_rejected :
    (∀ q : WireRequest, q.SizesFit → ∀ p, p <+: encodeRequest q → p ≠ encodeRequest q →
      (∃ e, (BufferReader.decodeRequest p).2 = .error e) ∧
        ∀ i ∈ (BufferReader.decodeRequest p).1, i < p.length) ∧
    ∀ r : WireResponse, r.SizesFit → r.recall_.length < 2 ^ 32 → ∀ p, p <+: encodeResponse r →
      p ≠ encodeResponse r →
      (∃ e, (BufferReader.decodeResponse p).2 = .error e) ∧
        ∀ i ∈ (BufferReader.decodeResponse p).1, i < p.length := by
  constructor
  · intro q h p hp hne
    obtain ⟨hin, heq⟩ := BufferReader.decodeRequest_eq p
    rw [heq]
    exact ⟨decodeRequest_cut h hp hne, hin⟩
  · intro r h hrecall p hp hne
    obtain ⟨hin, heq⟩ := BufferReader.decodeResponse_eq p
    rw [heq]
    exact ⟨decodeResponse_cut h hrecall hp hne, hin⟩

/-- An observation and a denial, each without its last byte. -/
theorem truncated_messages_rejected_last :
    (∃ e, (BufferReader.decodeRequest (encodeRequest observeRequest).dropLast).2 = .error e) ∧
      ∃ e, (BufferReader.decodeResponse (encodeResponse denial).dropLast).2 = .error e := by
  have hcut : ∀ bs : Bytes, bs ≠ [] → bs.dropLast ≠ bs := by
    intro bs hne heq
    have hlen := congrArg List.length heq
    rw [List.length_dropLast] at hlen
    exact hne (List.length_eq_zero_iff.mp (by omega))
  have hreq : encodeRequest observeRequest ≠ [] := List.cons_ne_nil _ _
  have hresp : encodeResponse denial ≠ [] := List.cons_ne_nil _ _
  exact ⟨(truncated_messages_rejected.1 observeRequest (by decide +kernel) _ (List.dropLast_prefix _)
      (hcut _ hreq)).1,
    (truncated_messages_rejected.2 denial (by decide +kernel) (by decide) _ (List.dropLast_prefix _)
      (hcut _ hresp)).1⟩

end Protocol

end QuotaFabric
