import QuotaFabric.Protocol.Request
import QuotaFabric.Lib.ByteLayout

/-!
# What the decoders accept

`decode_frame` and `decode_request` read a message from the front of their input.

* Neither looks at what is left.  `decodeRequest_append` — a request is accepted with anything behind it;
  a frame is accepted from a longer buffer, so the buffer is the encoding of the result only if its length
  is the declared one.
* `decode_request` casts four codes to enumerations without a check.  `requestLayout` says where they stand:
  the fields in front of them have sizes that can be read off the bytes.  `codes_of_decodeRequest` — the
  enumerations of an accepted request are the codes at these places;
* `WireObservation.indices` — the array positions `apply_observation` uses for an observation.
-/

set_option autoImplicit false

namespace QuotaFabric

open LogParser FieldShape

/-! ## Trailing bytes -/

section Steady

variable {ω : Type}

theorem steady_u8 : Steady (BinaryReader.u8 : LogParser ω ReadError _) := (steady_le _ 1).bind fun _ => steady_pure _

theorem steady_u16 : Steady (BinaryReader.u16 : LogParser ω ReadError _) := (steady_le _ 2).bind fun _ => steady_pure _

theorem steady_u32 : Steady (BinaryReader.u32 : LogParser ω ReadError _) := (steady_le _ 4).bind fun _ => steady_pure _

theorem steady_u64 : Steady (BinaryReader.u64 : LogParser ω ReadError _) := (steady_le _ 8).bind fun _ => steady_pure _

theorem steady_i64 : Steady (BinaryReader.i64 : LogParser ω ReadError _) := (steady_le _ 8).bind fun _ => steady_pure _

theorem steady_string : Steady (BinaryReader.string : LogParser ω ReadError _) := by
  refine steady_u64.bind fun len => ?_
  split
  · exact steady_fail _
  · exact steady_takeBytes _ _

theorem steady_id {tag : IdTag} : Steady (BinaryReader.id : LogParser ω ReadError (StrongId tag)) :=
  steady_u64.bind fun _ => steady_u64.bind fun _ => steady_pure _

theorem steady_flag : Steady (BinaryReader.flag : LogParser ω ReadError _) := steady_u8.bind fun _ => steady_pure _

theorem steady_optionalId {tag : IdTag} :
    Steady (BinaryReader.optionalId : LogParser ω ReadError (Option (StrongId tag))) := by
  refine steady_flag.bind fun there => ?_
  split
  · exact steady_id.bind fun _ => steady_pure _
  · exact steady_pure _

theorem steady_vectorLoop : ∀ (ds : List ResourceDimension) (r : ResourceVector),
    Steady (BinaryReader.vectorLoop ds r : LogParser ω ReadError _)
  | [], _ => steady_pure _
  | d :: ds, r => by
    refine steady_flag.bind fun present => steady_i64.bind fun val => ?_
    split
    · exact steady_fail _
    split
    · split
      · exact steady_fail _
      · exact steady_vectorLoop ds _
    · exact steady_vectorLoop ds _

theorem steady_vector : Steady (BinaryReader.vector : LogParser ω ReadError _) := by
  refine steady_u16.bind fun count => ?_
  split
  · exact steady_fail _
  · exact steady_vectorLoop _ _

theorem steady_readQuota : Steady (readQuota : LogParser ω ReadError _) := by
  refine steady_id.bind fun _ => steady_id.bind fun _ => ?_
  refine steady_vector.bind fun _ => steady_vector.bind fun _ => steady_vector.bind fun _ => ?_
  refine steady_vector.bind fun _ => steady_vector.bind fun _ => steady_vector.bind fun _ => ?_
  refine steady_vector.bind fun _ => steady_u64.bind fun _ => steady_vector.bind fun _ => ?_
  refine steady_i64.bind fun _ => steady_u32.bind fun _ => steady_i64.bind fun _ => ?_
  refine steady_flag.bind fun _ => steady_flag.bind fun _ => steady_flag.bind fun _ => ?_
  refine steady_flag.bind fun _ => steady_i64.bind fun _ => steady_flag.bind fun _ => ?_
  refine steady_u32.bind fun _ => steady_u8.bind fun _ => steady_u64.bind fun _ => ?_
  exact steady_u64.bind fun _ => steady_u64.bind fun _ => steady_pure _

namespace Protocol

theorem steady_readAuthority : Steady (readAuthority : LogParser ω ReadError _) := by
  refine steady_u64.bind fun _ => steady_u64.bind fun _ => steady_u64.bind fun _ => ?_
  exact steady_id.bind fun _ => steady_id.bind fun _ => steady_u64.bind fun _ => steady_pure _

theorem steady_readObservation : Steady (readObservation : LogParser ω ReadError _) := by
  refine steady_id.bind fun _ => steady_id.bind fun _ => steady_u16.bind fun _ => steady_i64.bind fun _ => ?_
  refine steady_u8.bind fun _ => steady_i64.bind fun _ => steady_u64.bind fun _ => steady_id.bind fun _ => ?_
  exact steady_id.bind fun _ => steady_string.bind fun _ => steady_pure _

theorem steady_readRequest : Steady (readRequest : LogParser ω ReadError _) := by
  refine steady_u8.bind fun _ => steady_readAuthority.bind fun _ => steady_id.bind fun _ => ?_
  refine steady_id.bind fun _ => steady_optionalId.bind fun _ => steady_u8.bind fun _ => ?_
  refine steady_id.bind fun _ => steady_id.bind fun _ => steady_id.bind fun _ => steady_id.bind fun _ => ?_
  refine steady_id.bind fun _ => steady_id.bind fun _ => steady_u64.bind fun _ => steady_string.bind fun _ => ?_
  refine steady_string.bind fun _ => steady_string.bind fun _ => steady_string.bind fun _ => ?_
  refine steady_u32.bind fun _ => steady_u32.bind fun _ => steady_vector.bind fun _ => ?_
  refine steady_vector.bind fun _ => steady_readQuota.bind fun _ => steady_readObservation.bind fun _ => ?_
  exact steady_u64.bind fun _ => steady_pure _

end Protocol

end Steady

namespace Protocol

/-- A request that is accepted was read from the front. -/
theorem readRequest_of_decodeRequest {p : Bytes} {q : WireRequest} (h : decodeRequest p = .ok q) :
    ∃ w rest, (readRequest : LogParser Empty ReadError _).run p = (w, .ok (q, rest)) := by
  unfold decodeRequest at h
  obtain ⟨w, r, hr⟩ : ∃ w r, (readRequest : LogParser Empty ReadError _).run p = (w, r) := ⟨_, _, rfl⟩
  rw [hr] at h ⊢
  cases r with
  | error e => cases h
  | ok x =>
    obtain ⟨q', rest⟩ := x
    cases h
    exact ⟨w, rest, rfl⟩

/-- **An accepted request is accepted with any bytes behind it.** -/
theorem decodeRequest_append {p : Bytes} {q : WireRequest} (h : decodeRequest p = .ok q) (s : Bytes) :
    decodeRequest (p ++ s) = .ok q := by
  obtain ⟨w, rest, hr⟩ := readRequest_of_decodeRequest h
  unfold decodeRequest
  rw [steady_readRequest p w q rest hr s]

/-- **When trailing bytes are refused.**  A buffer accepted as a frame is the encoding of that frame exactly
    if its length is the declared one; no trailing bytes make a request refused. -/
theorem trailing_bytes (b : Bytes) (f : Frame) (p : Bytes) (q : WireRequest) (s : Bytes) :
    (decodeFrame b = .ok f → (b = f.encode ↔ b.length = 20 + declaredLength b)) ∧
    (decodeRequest p = .ok q → s ≠ [] → ¬ ∃ e, decodeRequest (p ++ s) = .error e) := by
  constructor
  · intro h
    obtain ⟨rest, hb, hf⟩ := decodeFrame_ok_iff.mp h
    have hplen : declaredLength b = f.payload.length := by
      rw [hb]
      exact (header_encode hf rest).2.1
    rw [hplen, ← length_encode]
    constructor
    · intro heq
      rw [heq]
    · intro hlen
      rw [hb, List.length_append] at hlen
      have hnil : rest = [] := List.length_eq_zero_iff.mp (by omega)
      rw [hb, hnil, List.append_nil]
  · rintro h - ⟨e, he⟩
    rw [decodeRequest_append h s] at he
    cases he

/-- An empty ping with one byte behind it, and the same for a request. -/
theorem trailing_bytes_ping :
    let ping : Frame := {}
    (ping.encode ++ [9] = ping.encode ↔ (ping.encode ++ [9]).length = 20 + declaredLength (ping.encode ++ [9])) ∧
    ¬ ∃ e, decodeRequest (encodeRequest observeRequest ++ [9]) = .error e := by
  intro ping
  have hframe : decodeFrame (ping.encode ++ [9]) = .ok ping := decodeFrame_encode (Nat.zero_le _) [9]
  have hreq := decodeRequest_encodeRequest observeRequest_encodable []
  rw [List.append_nil] at hreq
  obtain ⟨hexact, hrefused⟩ := trailing_bytes _ ping _ _ [9]
  exact ⟨hexact hframe, hrefused hreq (List.cons_ne_nil _ _)⟩

/-- Both decoders accept a trailing byte. -/
theorem trailing_byte_accepted :
    (¬ ∀ b f, decodeFrame b = .ok f → b = f.encode) ∧
    ¬ ∀ p q s, decodeRequest p = .ok q → s ≠ [] → ∃ e, decodeRequest (p ++ s) = .error e := by
  constructor
  · intro h
    have heq := h (Frame.encode {} ++ [9]) {} (decodeFrame_encode (Nat.zero_le _) [9])
    have hlen := congrArg List.length heq
    rw [List.length_append, List.length_singleton] at hlen
    omega
  · intro h
    have hreq := decodeRequest_encodeRequest observeRequest_encodable
    have hnil := hreq []
    rw [List.append_nil] at hnil
    obtain ⟨e, he⟩ := h _ _ [9] hnil (List.cons_ne_nil _ _)
    rw [hreq] at he
    cases he

/-! ## Where the codes stand -/

end Protocol

/-- The byte in front of `bs`. -/
def byteAt (bs : Bytes) : UInt8 := UInt8.ofNat (ofLE (bs.take 1))

/-- The 16-bit word in front of `bs`. -/
def wordAt (bs : Bytes) : UInt16 := UInt16.ofNat (ofLE (bs.take 2))

/-! ### The fields of the primitives -/

def u8Shape : FieldShape := .fixed 1

def u16Shape : FieldShape := .fixed 2

def u32Shape : FieldShape := .fixed 4

def u64Shape : FieldShape := .fixed 8

def idShape : FieldShape := .fixed 16

def stringShape : FieldShape := .counted 8 1

def optionalIdShape : FieldShape := .flagged 16

def vectorShape : FieldShape := .counted 2 9

section Lays

variable {ω : Type}

/-- Nothing is said of the result. -/
def anyValue {α : Type} (_ : α) (_ : Bytes) : Prop := True

theorem lays_u8 : Lays (BinaryReader.u8 : LogParser ω ReadError _) [u8Shape] fun b bs => b = byteAt bs :=
  (lays_le _ 1).map fun _ _ h => congrArg UInt8.ofNat h

theorem lays_u16 : Lays (BinaryReader.u16 : LogParser ω ReadError _) [u16Shape] fun v bs => v = wordAt bs :=
  (lays_le _ 2).map fun _ _ h => congrArg UInt16.ofNat h

theorem lays_u32 : Lays (BinaryReader.u32 : LogParser ω ReadError _) [u32Shape] anyValue :=
  (lays_le _ 4).map fun _ _ _ => trivial

theorem lays_u64 : Lays (BinaryReader.u64 : LogParser ω ReadError _) [u64Shape] fun v bs =>
    v = UInt64.ofNat (ofLE (bs.take 8)) :=
  (lays_le _ 8).map fun _ _ h => congrArg UInt64.ofNat h

theorem lays_i64 : Lays (BinaryReader.i64 : LogParser ω ReadError _) [u64Shape] anyValue :=
  (lays_le _ 8).map fun _ _ _ => trivial

theorem lays_flag : Lays (BinaryReader.flag : LogParser ω ReadError _) [u8Shape] fun b bs =>
    b = (byteAt bs != 0) :=
  lays_u8.map fun _ _ h => congrArg (· != 0) h

theorem lays_id {tag : IdTag} : Lays (BinaryReader.id : LogParser ω ReadError (StrongId tag)) [idShape] anyValue := by
  intro bs
  refine Lays.first lays_u64 fun hi _ => Lays.step lays_u64 fun lo _ => gives_pure ⟨?_, trivial⟩
  show (bs.drop 8).drop 8 = bs.drop 16
  rw [List.drop_drop]

/-- The value of a word of `k` bytes fits it. -/
theorem wordValue_lt (k : Nat) (bs : Bytes) : ofLE (bs.take k) < 256 ^ k :=
  lt_of_lt_of_le (ofLE_lt _) (Nat.pow_le_pow_right (by decide) (List.length_take_le k bs))

theorem byteAt_eq_zero_iff (bs : Bytes) : byteAt bs = 0 ↔ ofLE (bs.take 1) = 0 := by
  have hlt := wordValue_lt 1 bs
  have hval : (byteAt bs).toNat = ofLE (bs.take 1) := by
    unfold byteAt
    rw [UInt8.toNat_ofNat']
    omega
  rw [← UInt8.toNat_inj, hval]
  rfl

theorem lays_optionalId {tag : IdTag} :
    Lays (BinaryReader.optionalId : LogParser ω ReadError (Option (StrongId tag))) [optionalIdShape] anyValue := by
  intro bs
  refine Lays.first lays_flag fun there hthere => ?_
  have hthere' : there = (byteAt bs != 0) := hthere
  split
  · rename_i hset
    have hne : ofLE (bs.take 1) ≠ 0 := by
      rw [Ne, ← byteAt_eq_zero_iff]
      intro h0
      rw [hthere', h0] at hset
      cases hset
    refine Lays.step lays_id fun i _ => gives_pure ⟨?_, trivial⟩
    show (bs.drop 1).drop 16 = bs.drop (if ofLE (bs.take 1) = 0 then 1 else 1 + 16)
    rw [if_neg hne, List.drop_drop]
  · rename_i hclear
    have hzero : ofLE (bs.take 1) = 0 := by
      rw [← byteAt_eq_zero_iff]
      simpa [hthere'] using hclear
    refine gives_pure ⟨?_, trivial⟩
    show bs.drop 1 = bs.drop (if ofLE (bs.take 1) = 0 then 1 else 1 + 16)
    rw [if_pos hzero]

theorem lays_string : Lays (BinaryReader.string : LogParser ω ReadError _) [stringShape] anyValue := by
  intro bs
  refine Lays.first lays_u64 fun len hlen => ?_
  have hlt := wordValue_lt 8 bs
  have hval : len.toNat = ofLE (bs.take 8) := by
    rw [hlen, UInt64.toNat_ofNat']
    exact Nat.mod_eq_of_lt hlt
  split
  · exact gives_fail _
  · refine gives_takeBytes _ _ fun _ => ⟨?_, trivial⟩
    show (bs.drop 8).drop len.toNat = bs.drop (8 + 1 * ofLE (bs.take 8))
    rw [hval, one_mul, List.drop_drop]

/-- Each round of the loop reads a flag and an amount. -/
theorem gives_vectorLoop {Q : ResourceVector → Bytes → Prop} : ∀ (ds : List ResourceDimension)
    (r : ResourceVector) (bs : Bytes), (∀ v, Q v (bs.drop (9 * ds.length))) →
    Gives (BinaryReader.vectorLoop ds r : LogParser ω ReadError _) bs Q
  | [], r, bs, h => gives_pure (h r)
  | d :: ds, r, bs, h => by
    have hstep : ∀ v, Q v (((bs.drop 1).drop 8).drop (9 * ds.length)) := fun v => by
      have hlen : 1 + (8 + 9 * ds.length) = 9 * (d :: ds).length := by
        rw [List.length_cons]
        omega
      rw [List.drop_drop, List.drop_drop, hlen]
      exact h v
    refine Lays.first lays_flag fun present _ => Lays.step lays_i64 fun val _ => ?_
    split
    · exact gives_fail _
    split
    · split
      · exact gives_fail _
      · exact gives_vectorLoop ds _ _ hstep
    · exact gives_vectorLoop ds _ _ hstep

theorem lays_vector : Lays (BinaryReader.vector : LogParser ω ReadError _) [vectorShape] anyValue := by
  intro bs
  refine Lays.first lays_u16 fun count hcount => ?_
  have hlt := wordValue_lt 2 bs
  have hval : count.toNat = ofLE (bs.take 2) := by
    rw [hcount]
    show (UInt16.ofNat (ofLE (bs.take 2))).toNat = _
    rw [UInt16.toNat_ofNat']
    exact Nat.mod_eq_of_lt hlt
  split
  · exact gives_fail _
  · rename_i hle
    refine gives_vectorLoop _ _ _ fun v => ⟨?_, trivial⟩
    show (bs.drop 2).drop _ = bs.drop (2 + 9 * ofLE (bs.take 2))
    rw [List.length_take, min_eq_left (not_lt.mp hle), hval, List.drop_drop]

end Lays

/-! ### The fields of a request -/

def authorityLayout : List FieldShape := [u64Shape, u64Shape, u64Shape, idShape, idShape, u64Shape]

/-- The fields of a quota in front of its overcommit mode. -/
def quotaPrefix : List FieldShape :=
  [idShape, idShape, vectorShape, vectorShape, vectorShape, vectorShape, vectorShape, vectorShape, vectorShape,
   u64Shape, vectorShape, u64Shape, u32Shape, u64Shape, u8Shape, u8Shape, u8Shape, u8Shape, u64Shape, u8Shape,
   u32Shape]

def quotaLayout : List FieldShape := quotaPrefix ++ [u8Shape, u64Shape, u64Shape, u64Shape]

/-- The fields of an observation in front of its kind. -/
def observationPrefix : List FieldShape := [idShape, idShape, u16Shape, u64Shape]

def observationLayout : List FieldShape :=
  observationPrefix ++ [u8Shape, u64Shape, u64Shape, idShape, idShape, stringShape]

/-- The fields of a request in front of the group kind. -/
def kindPrefix : List FieldShape := [u8Shape] ++ authorityLayout ++ [idShape, idShape, optionalIdShape]

/-- The fields of a request in front of its quota. -/
def requestPrefix : List FieldShape :=
  kindPrefix ++
    [u8Shape, idShape, idShape, idShape, idShape, idShape, idShape, u64Shape, stringShape, stringShape,
     stringShape, stringShape, u32Shape, u32Shape, vectorShape, vectorShape]

section Lays

variable {ω : Type}

theorem lays_readQuota : Lays (readQuota : LogParser ω ReadError _) quotaLayout fun q bs =>
    q.overcommit = .ofByte (byteAt (skip quotaPrefix bs)) := by
  intro bs
  refine Lays.first lays_id fun _ _ => Lays.step lays_id fun _ _ => ?_
  refine Lays.step lays_vector fun _ _ => Lays.step lays_vector fun _ _ => Lays.step lays_vector fun _ _ => ?_
  refine Lays.step lays_vector fun _ _ => Lays.step lays_vector fun _ _ => Lays.step lays_vector fun _ _ => ?_
  refine Lays.step lays_vector fun _ _ => Lays.step lays_u64 fun _ _ => Lays.step lays_vector fun _ _ => ?_
  refine Lays.step lays_i64 fun _ _ => Lays.step lays_u32 fun _ _ => Lays.step lays_i64 fun _ _ => ?_
  refine Lays.step lays_flag fun _ _ => Lays.step lays_flag fun _ _ => Lays.step lays_flag fun _ _ => ?_
  refine Lays.step lays_flag fun _ _ => Lays.step lays_i64 fun _ _ => Lays.step lays_flag fun _ _ => ?_
  refine Lays.step lays_u32 fun _ _ => Lays.step lays_u8 fun overcommit hover => Lays.step lays_u64 fun _ _ => ?_
  refine Lays.step lays_u64 fun _ _ => Lays.step lays_u64 fun _ _ => gives_pure ⟨rfl, ?_⟩
  exact congrArg OvercommitMode.ofByte hover

namespace Protocol

theorem lays_readAuthority : Lays (readAuthority : LogParser ω ReadError _) authorityLayout anyValue := by
  intro bs
  refine Lays.first lays_u64 fun _ _ => Lays.step lays_u64 fun _ _ => Lays.step lays_u64 fun _ _ => ?_
  refine Lays.step lays_id fun _ _ => Lays.step lays_id fun _ _ => Lays.step lays_u64 fun _ _ => ?_
  exact gives_pure ⟨rfl, trivial⟩

theorem lays_readObservation : Lays (readObservation : LogParser ω ReadError _) observationLayout fun o bs =>
    o.dimension = ⟨wordAt (skip [idShape, idShape] bs)⟩ ∧ o.kind = ⟨byteAt (skip observationPrefix bs)⟩ := by
  intro bs
  refine Lays.first lays_id fun _ _ => Lays.step lays_id fun _ _ => ?_
  refine Lays.step lays_u16 fun dimension hdim => Lays.step lays_i64 fun _ _ => ?_
  refine Lays.step lays_u8 fun kind hkind => Lays.step lays_i64 fun _ _ => Lays.step lays_u64 fun _ _ => ?_
  refine Lays.step lays_id fun _ _ => Lays.step lays_id fun _ _ => Lays.step lays_string fun _ _ => ?_
  exact gives_pure ⟨rfl, congrArg EnumValue.mk hdim, congrArg EnumValue.mk hkind⟩

/-- The enumerations of `q` are the codes that stand in `p`. -/
structure CodesAt (q : WireRequest) (p : Bytes) : Prop where
  kind : q.kind = .ofByte (byteAt (skip kindPrefix p))
  overcommit : q.quota.overcommit = .ofByte (byteAt (skip (requestPrefix ++ quotaPrefix) p))
  dimension : q.observation.dimension = ⟨wordAt (skip (requestPrefix ++ quotaLayout ++ [idShape, idShape]) p)⟩
  observationKind : q.observation.kind = ⟨byteAt (skip (requestPrefix ++ quotaLayout ++ observationPrefix) p)⟩

theorem gives_readRequest (p : Bytes) :
    Gives (readRequest : LogParser ω ReadError _) p fun q _ => CodesAt q p := by
  refine Lays.first lays_u8 fun _ _ => Lays.step lays_readAuthority fun _ _ => ?_
  refine Lays.step lays_id fun _ _ => Lays.step lays_id fun _ _ => Lays.step lays_optionalId fun _ _ => ?_
  refine Lays.step lays_u8 fun kind hkind => Lays.step lays_id fun _ _ => Lays.step lays_id fun _ _ => ?_
  refine Lays.step lays_id fun _ _ => Lays.step lays_id fun _ _ => Lays.step lays_id fun _ _ => ?_
  refine Lays.step lays_id fun _ _ => Lays.step lays_u64 fun _ _ => Lays.step lays_string fun _ _ => ?_
  refine Lays.step lays_string fun _ _ => Lays.step lays_string fun _ _ => Lays.step lays_string fun _ _ => ?_
  refine Lays.step lays_u32 fun _ _ => Lays.step lays_u32 fun _ _ => Lays.step lays_vector fun _ _ => ?_
  refine Lays.step lays_vector fun _ _ => Lays.step lays_readQuota fun quota hquota => ?_
  refine Lays.step lays_readObservation fun observation hobs => Lays.step lays_u64 fun _ _ => gives_pure ?_
  rw [← skip_append] at hquota hobs
  exact ⟨congrArg TenantGroupKind.ofByte hkind, hquota, hobs.1, hobs.2⟩

/-- **The enumerations of an accepted request are the codes at their places, whatever these are.** -/
theorem codes_of_decodeRequest {p : Bytes} {q : WireRequest} (h : decodeRequest p = .ok q) : CodesAt q p := by
  obtain ⟨w, rest, hr⟩ := readRequest_of_decodeRequest h
  exact gives_readRequest p w q rest hr

end Protocol

end Lays

/-! ## Declared codes -/

/-- `kResourceDimensionCount`. -/
def kResourceDimensionCount : Nat := allResourceDimensions.length

def TenantGroupKind.IsDeclared (k : TenantGroupKind) : Prop := ∀ b, k ≠ .undeclared b

def OvercommitMode.IsDeclared (m : OvercommitMode) : Prop := ∀ b, m ≠ .undeclared b

theorem TenantGroupKind.ofByte_isDeclared {b : UInt8} : (TenantGroupKind.ofByte b).IsDeclared ↔ b ≤ 5 := by
  unfold TenantGroupKind.IsDeclared TenantGroupKind.ofByte
  by_cases h : 5 < b
  · rw [dif_pos h]
    exact ⟨fun hno => absurd rfl (hno ⟨b, h⟩), fun hle => absurd h (UInt8.not_lt.mpr hle)⟩
  · rw [dif_neg h]
    refine ⟨fun _ => UInt8.not_lt.mp h, fun _ c => ?_⟩
    split_ifs <;> exact fun hc => (by cases hc)

theorem OvercommitMode.ofByte_isDeclared {b : UInt8} : (OvercommitMode.ofByte b).IsDeclared ↔ b ≤ 2 := by
  unfold OvercommitMode.IsDeclared OvercommitMode.ofByte
  by_cases h : 2 < b
  · rw [dif_pos h]
    exact ⟨fun hno => absurd rfl (hno ⟨b, h⟩), fun hle => absurd h (UInt8.not_lt.mpr hle)⟩
  · rw [dif_neg h]
    refine ⟨fun _ => UInt8.not_lt.mp h, fun _ c => ?_⟩
    split_ifs <;> exact fun hc => (by cases hc)

theorem dimension_isDeclared {v : EnumValue ResourceDimension} :
    v.IsDeclared ↔ v.code.toNat < kResourceDimensionCount := by
  constructor
  · rintro ⟨d, rfl⟩
    cases d <;> decide
  · intro h
    have hall : ∀ n : Fin kResourceDimensionCount, ∃ d : ResourceDimension,
        UInt16.ofNat n.val = Enumeration.code d := by decide
    obtain ⟨d, hd⟩ := hall ⟨v.code.toNat, h⟩
    refine ⟨d, congrArg EnumValue.mk ?_⟩
    rw [← hd, UInt16.ofNat_toNat]

theorem observationKind_isDeclared {v : EnumValue ObservationKind} : v.IsDeclared ↔ v.code ≤ 10 := by
  constructor
  · rintro ⟨k, rfl⟩
    cases k <;> decide
  · intro h
    have hall : ∀ n : Fin 11, ∃ k ∈ (Enumeration.declared : List ObservationKind),
        UInt8.ofNat n.val = Enumeration.code k := by decide
    have hlt : v.code.toNat < 11 := Nat.lt_succ_of_le (UInt8.le_iff_toNat_le.mp h)
    obtain ⟨k, -, hk⟩ := hall ⟨v.code.toNat, hlt⟩
    refine ⟨k, congrArg EnumValue.mk ?_⟩
    rw [← hk, UInt8.ofNat_toNat]

namespace Protocol

/-- The array positions `apply_observation` uses, in the consumption vector or in the window array. -/
def WireObservation.indices (s : Engine) (o : WireObservation) : List Nat :=
  if !s.tenantExists o.tenant then []
  else
    let modelResidency := allResourceDimensions.idxOf .modelResidencyBytes
    match o.kind.declared? with
    | some .computeInterval =>
      if o.dimension ≠ .of .acceleratorComputeTime then [] else [o.dimension.code.toNat]
    | some .transferConsumed =>
      if o.dimension ≠ .of .transferBytes then [] else [allResourceDimensions.idxOf .transferBytes]
    | some .modelResidencyAdded => [modelResidency]
    | some .modelResidencyRemoved => [modelResidency]
    | some .kvUsageChange => [o.dimension.code.toNat]
    | some .tensorUsageChange => [o.dimension.code.toNat]
    | some .usageDelta => [o.dimension.code.toNat]
    | some .allocationStart => []
    | some .allocationResize => []
    | some .allocationRelease => []
    | some .reservationCommitted => []
    -- no case of the switch
    | none => []

/-- The request carries declared enumerators only. -/
structure ValidCodes (q : WireRequest) : Prop where
  dimension : q.observation.dimension.code.toNat < kResourceDimensionCount
  observationKind : q.observation.kind.IsDeclared
  kind : q.kind.IsDeclared
  overcommit : q.quota.overcommit.IsDeclared

/-- Every array position used for the observation is within the array. -/
def InBounds (o : WireObservation) : Prop := ∀ s i, i ∈ o.indices s → i < kResourceDimensionCount

/-- The codes at the four places of a request are declared. -/
structure DeclaredCodes (p : Bytes) : Prop where
  kind : byteAt (skip kindPrefix p) ≤ 5
  overcommit : byteAt (skip (requestPrefix ++ quotaPrefix) p) ≤ 2
  dimension : (wordAt (skip (requestPrefix ++ quotaLayout ++ [idShape, idShape]) p)).toNat < kResourceDimensionCount
  observationKind : byteAt (skip (requestPrefix ++ quotaLayout ++ observationPrefix) p) ≤ 10

/-- A declared dimension is enough for every position. -/
theorem inBounds_of_dimension {o : WireObservation} (h : o.dimension.code.toNat < kResourceDimensionCount) :
    InBounds o := by
  intro s i hi
  have htransfer : allResourceDimensions.idxOf ResourceDimension.transferBytes < kResourceDimensionCount := by decide
  have hresidency : allResourceDimensions.idxOf ResourceDimension.modelResidencyBytes < kResourceDimensionCount := by
    decide
  unfold WireObservation.indices at hi
  split at hi
  · cases hi
  · simp only at hi
    split at hi <;> (try split at hi) <;> simp only [List.mem_singleton, List.not_mem_nil] at hi <;>
      (subst hi; assumption)

theorem validCodes_iff {p : Bytes} {q : WireRequest} (h : CodesAt q p) : ValidCodes q ↔ DeclaredCodes p := by
  have hkind : q.kind.IsDeclared ↔ byteAt (skip kindPrefix p) ≤ 5 := by
    rw [h.kind]
    exact TenantGroupKind.ofByte_isDeclared
  have hover : q.quota.overcommit.IsDeclared ↔ byteAt (skip (requestPrefix ++ quotaPrefix) p) ≤ 2 := by
    rw [h.overcommit]
    exact OvercommitMode.ofByte_isDeclared
  have hobs := observationKind_isDeclared (v := q.observation.kind)
  constructor
  · intro hv
    refine ⟨hkind.mp hv.kind, hover.mp hv.overcommit, ?_, ?_⟩
    · have hdim := hv.dimension
      rw [h.dimension] at hdim
      exact hdim
    · have hk := hobs.mp hv.observationKind
      rw [h.observationKind] at hk
      exact hk
  · intro hd
    refine ⟨?_, hobs.mpr ?_, hkind.mpr hd.kind, hover.mpr hd.overcommit⟩
    · rw [h.dimension]
      exact hd.dimension
    · rw [h.observationKind]
      exact hd.observationKind

/-- **When an accepted request carries valid enumerations**, and its observation stays within the arrays of
    the engine: exactly if the codes at their places in the bytes are declared. -/
theorem enumerations_valid_iff (p : Bytes) (q : WireRequest) (h : decodeRequest p = .ok q) :
    ValidCodes q ∧ InBounds q.observation ↔ DeclaredCodes p := by
  rw [← validCodes_iff (codes_of_decodeRequest h)]
  exact ⟨fun hv => hv.1, fun hv => ⟨hv, inBounds_of_dimension hv.dimension⟩⟩

/-- The observation of `observeRequest` has a dimension no one declared. -/
theorem enumerations_valid_iff_observe :
    ValidCodes { observeRequest with agent := {} } ∧ InBounds observeRequest.observation ↔
      DeclaredCodes (encodeRequest observeRequest ++ []) :=
  enumerations_valid_iff _ { observeRequest with agent := {} }
    (decodeRequest_encodeRequest observeRequest_encodable [])

/-- It is accepted, and a tenant's consumption vector is read and written at position 300. -/
theorem undeclared_dimension_accepted :
    ¬ ∀ p q, decodeRequest p = .ok q → ValidCodes q ∧ InBounds q.observation := by
  intro h
  obtain ⟨-, hbounds⟩ := h _ _ (decodeRequest_encodeRequest observeRequest_encodable [])
  have hmem : 300 ∈ observeRequest.observation.indices
      { tenants := (∅ : UMap TenantId Tenant).insert ⟨0, 1⟩ {} } := by decide +kernel
  exact absurd (hbounds _ 300 hmem) (by decide)

/-! ## The engine's observation -/

/-- The observation the engine is called with, if its dimension is declared.  A kind that is not has no case
    in the switch of `apply_observation`, and `ALLOCATION_START` has an empty one. -/
def WireObservation.toObservation? (o : WireObservation) : Option Observation := do
  let dimension ← o.dimension.declared?
  pure
    { tenant := o.tenant, allocation := o.allocation, dimension, amount := o.amount
      kind := o.kind.declared?.getD .allocationStart, at_ := o.at_
      resourceGeneration := o.resourceGeneration, agent := o.agent, boot := o.boot, source := o.source }

/-- An accepted request with declared codes carries an observation of the engine's own type, and the array
    position of its dimension is the one the code names. -/
theorem toObservation_of_declaredCodes {p : Bytes} {q : WireRequest} (h : decodeRequest p = .ok q)
    (hp : DeclaredCodes p) :
    ∃ obs, q.observation.toObservation? = some obs ∧
      q.observation.dimension = .of obs.dimension ∧ q.observation.kind = .of obs.kind := by
  have hv := (validCodes_iff (codes_of_decodeRequest h)).mpr hp
  obtain ⟨d, hd⟩ := dimension_isDeclared.mpr hv.dimension
  obtain ⟨k, hk⟩ := hv.observationKind
  unfold WireObservation.toObservation?
  rw [hd, hk, EnumValue.declared?_of, EnumValue.declared?_of]
  exact ⟨_, rfl, rfl, rfl⟩

end Protocol

end QuotaFabric
