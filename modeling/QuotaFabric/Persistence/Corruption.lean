import QuotaFabric.Persistence.Store

/-!
# Corrupted files are rejected

A file is a packed body: magic, version and length of the body, the body, and its CRC-32.

* `loadBlob_cases` — a file is refused and nothing changes, or it is too short for its length field,
  or it is the packed body that is then read;
* `crcBit_linear` — one bit of a table word is a linear shift;
* `crc32_detects` — a change within four consecutive bytes changes the checksum.  The table of the
  polynomial `0xEDB88320` has words with distinct top bytes (`crcTable_topInjective`);
* `Damaged` — a flipped bit, a changed window of the body, a missing suffix, additional bytes;
* `damaged_file_rejected` — a damaged file is refused by every engine, which stays as it is.
-/

set_option autoImplicit false

namespace QuotaFabric

open LogParser

/-! ## The checksum -/

theorem low_bit (c : BitVec 32) : c &&& 1 = 1 ↔ c.getLsbD 0 = true := by
  rw [show (1 : BitVec 32) = 1#32 from rfl, BitVec.and_one_eq_setWidth_ofBool_getLsbD]
  cases c.getLsbD 0 <;> decide

/-- One bit of a table word is computed linearly. -/
theorem crcBit_xor (a b : BitVec 32) : crcBit (a ^^^ b) = crcBit a ^^^ crcBit b := by
  -- the polynomial enters once for each set low bit, and twice is not at all
  have htwice : ∀ p x y : BitVec 32, (p ^^^ x) ^^^ (p ^^^ y) = x ^^^ y := by
    intro p x y
    rw [BitVec.xor_comm p x, BitVec.xor_assoc, ← BitVec.xor_assoc p p y, BitVec.xor_self,
      BitVec.zero_xor]
  unfold crcBit
  simp only [low_bit, BitVec.getLsbD_xor, BitVec.ushiftRight_xor_distrib]
  cases a.getLsbD 0 with
  | false =>
    cases b.getLsbD 0 with
    | false => rfl
    | true =>
      show 0xEDB88320 ^^^ (a >>> 1 ^^^ b >>> 1) = a >>> 1 ^^^ (0xEDB88320 ^^^ b >>> 1)
      ac_rfl
  | true =>
    cases b.getLsbD 0 with
    | false => exact (BitVec.xor_assoc ..).symm
    | true => exact (htwice ..).symm

theorem crcBit_linear : Register.Linear crcBit where
  xor := crcBit_xor
  even c hc := by
    unfold crcBit
    rw [if_neg]
    rw [low_bit, hc]
    decide

theorem crcTable_xor (i j : BitVec 8) : crcTable (i ^^^ j) = crcTable i ^^^ crcTable j :=
  crcBit_linear.tableOf_xor i j

/-- The top bytes of the table words are all different. -/
theorem crcTable_topInjective : Register.TopInjective crcTable := by
  have hzero : ∀ n : Fin 256, crcTable (BitVec.ofFin n) >>> 24 = 0#32 → n = 0 := by decide +kernel
  intro i j h
  have htop : crcTable (i ^^^ j) >>> 24 = 0#32 := by
    rw [crcTable_xor, BitVec.ushiftRight_xor_distrib, h, BitVec.xor_self]
  have hxor : i ^^^ j = 0#8 := congrArg BitVec.ofFin (hzero (i ^^^ j).toFin htop)
  exact BitVec.xor_eq_zero_iff.mp hxor

theorem crc32_detects {pre w w' post : Bytes} (hlen : w.length = w'.length) (h4 : w.length ≤ 4)
    (hne : w ≠ w') : crc32 (pre ++ w ++ post) ≠ crc32 (pre ++ w' ++ post) := by
  intro h
  unfold crc32 at h
  rw [BitVec.xor_left_inj] at h
  simp only [List.map_append] at h
  refine Register.run_detects crcTable_topInjective ?_ ?_ ?_ h
  · rw [List.length_map, List.length_map, hlen]
  · rw [List.length_map]; exact h4
  · intro hmap
    exact hne (List.map_injective_iff.mpr (fun _ _ hab => UInt8.toBitVec_inj.mp hab) hmap)

/-! ## Reading the envelope -/

section Words

variable {ω : Type}

theorem run_u32_cases (bs : Bytes) :
    (BinaryReader.u32 : LogParser ω ReadError _).run bs = ([], .error BinaryReader.truncated) ∨
    ∃ v rest, bs = BinaryWriter.u32 v ++ rest ∧
      (BinaryReader.u32 : LogParser ω ReadError _).run bs = ([], .ok (v, rest)) := by
  unfold BinaryReader.u32
  rcases run_le_cases (ω := ω) BinaryReader.truncated 4 bs with h | ⟨n, rest, hn, hbs, h⟩
  · left
    rw [run_bind, h]
    rfl
  · right
    have hnat : (UInt32.ofNat n).toNat = n := by
      rw [UInt32.toNat_ofNat']
      omega
    refine ⟨UInt32.ofNat n, rest, ?_, ?_⟩
    · unfold BinaryWriter.u32
      rw [hnat]
      exact hbs
    · rw [run_bind, h]
      rfl

theorem run_u64_cases (bs : Bytes) :
    (BinaryReader.u64 : LogParser ω ReadError _).run bs = ([], .error BinaryReader.truncated) ∨
    ∃ v rest, bs = BinaryWriter.u64 v ++ rest ∧
      (BinaryReader.u64 : LogParser ω ReadError _).run bs = ([], .ok (v, rest)) := by
  unfold BinaryReader.u64
  rcases run_le_cases (ω := ω) BinaryReader.truncated 8 bs with h | ⟨n, rest, hn, hbs, h⟩
  · left
    rw [run_bind, h]
    rfl
  · right
    have hnat : (UInt64.ofNat n).toNat = n := by
      rw [UInt64.toNat_ofNat']
      omega
    refine ⟨UInt64.ofNat n, rest, ?_, ?_⟩
    · unfold BinaryWriter.u64
      rw [hnat]
      exact hbs
    · rw [run_bind, h]
      rfl

end Words

/-- Magic, version and a length. -/
def envelopeOf (len : UInt64) : Bytes :=
  BinaryWriter.u32 quotaFabricMagic ++ BinaryWriter.u32 1 ++ BinaryWriter.u64 len

theorem length_envelopeOf (len : UInt64) : (envelopeOf len).length = 16 := by
  unfold envelopeOf BinaryWriter.u32 BinaryWriter.u64
  simp

theorem envelopeOf_inj {len len' : UInt64} (h : envelopeOf len = envelopeOf len') : len = len' := by
  unfold envelopeOf at h
  have h8 := List.append_cancel_left h
  unfold BinaryWriter.u64 at h8
  have hval := congrArg ofLE h8
  rw [ofLE_toLE_of_lt len.toNat_lt, ofLE_toLE_of_lt len'.toNat_lt] at hval
  exact UInt64.toNat.inj hval

theorem run_readEnvelope (len : UInt64) (rest : Bytes) :
    readEnvelope.run (envelopeOf len ++ rest) = ([], .ok (len, rest)) := by
  unfold readEnvelope envelopeOf
  rw [List.append_assoc, List.append_assoc, run_bind, read_u32, andThen_ok_nil,
    if_neg (by simp), run_bind, read_u32, andThen_ok_nil, if_neg (by simp), read_u64]

/-- Anything but magic and version in front of a length is an error. -/
theorem readEnvelope_cases (blob : Bytes) :
    (∃ e, (readEnvelope.run blob).2 = .error e) ∨ ∃ len rest, blob = envelopeOf len ++ rest := by
  unfold readEnvelope
  rw [run_bind]
  rcases run_u32_cases (ω := Empty) blob with h | ⟨magic, rest, hblob, h⟩
  · left
    rw [h]
    exact ⟨_, rfl⟩
  rw [h, andThen_ok_nil]
  by_cases hm : magic = quotaFabricMagic
  · rw [if_neg (by simpa using hm), run_bind]
    rcases run_u32_cases (ω := Empty) rest with h' | ⟨version, rest', hrest, h'⟩
    · left
      rw [h']
      exact ⟨_, rfl⟩
    rw [h', andThen_ok_nil]
    by_cases hv : version = 1
    · rw [if_neg (by simpa using hv)]
      rcases run_u64_cases (ω := Empty) rest' with h'' | ⟨len, rest'', hrest', -⟩
      · left
        rw [h'']
        exact ⟨_, rfl⟩
      · right
        refine ⟨len, rest'', ?_⟩
        unfold envelopeOf
        rw [hblob, hrest, hrest', hm, hv, List.append_assoc, List.append_assoc]
    · left
      rw [if_pos (by simpa using hv)]
      exact ⟨_, rfl⟩
  · left
    rw [if_pos (by simpa using hm)]
    exact ⟨_, rfl⟩

theorem writeEnvelope_eq (n : Nat) : writeEnvelope n = envelopeOf (UInt64.ofNat n) := rfl

theorem length_packBody (body : Bytes) : (packBody body).length = body.length + 20 := by
  unfold packBody
  rw [writeEnvelope_eq, List.length_append, List.length_append, length_envelopeOf]
  unfold BinaryWriter.u32
  rw [length_toLE]
  omega

namespace Engine

/-- A packed body is read. -/
theorem loadBlob_packBody (env : Env) (s : Engine) {body : Bytes} (h : body.length < 2 ^ 63) :
    s.loadBlob env (packBody body) = some (s.deserializeState env body) := by
  have hlen : (UInt64.ofNat body.length).toNat = body.length := by
    rw [UInt64.toNat_ofNat']
    omega
  have hrest : (body ++ BinaryWriter.u32 ⟨crc32 body⟩).length = body.length + 4 := by
    unfold BinaryWriter.u32
    rw [List.length_append, length_toLE]
  have hmatch : UInt64.ofNat body.length = UInt64.ofNat (body.length + 4) - 4 := by
    apply UInt64.toNat.inj
    rw [UInt64.toNat_sub, UInt64.toNat_ofNat', UInt64.toNat_ofNat']
    have h4 : (4 : UInt64).toNat = 4 := rfl
    rw [h4]
    omega
  have hcrc : ofLE ((BinaryWriter.u32 ⟨crc32 body⟩).take 4) = (crc32 body).toNat := by
    unfold BinaryWriter.u32
    rw [List.take_of_length_le (by rw [length_toLE]), ofLE_toLE_of_lt (UInt32.toNat_lt _)]
    rfl
  unfold loadBlob packBody
  rw [writeEnvelope_eq, List.append_assoc, run_readEnvelope]
  simp only [hrest, hlen]
  rw [if_neg (not_not.mpr hmatch), if_neg (by omega), List.drop_left' rfl, List.take_left' rfl, hcrc,
    if_neg (by simp)]

/-- **A file is refused, or shorter than its length field says, or a packed body.** -/
theorem loadBlob_cases (env : Env) (s : Engine) {blob : Bytes} (h : blob.length < 2 ^ 63) :
    (∃ message, s.loadBlob env blob = s.refuseLoad message) ∨
    (∃ len rest, blob = envelopeOf len ++ rest ∧ rest.length < 4 ∧
      len = UInt64.ofNat rest.length - 4 ∧ s.loadBlob env blob = none) ∨
    ∃ body, blob = packBody body := by
  unfold loadBlob
  rcases readEnvelope_cases blob with ⟨e, he⟩ | ⟨len, rest, hblob⟩
  · left
    rw [he]
    cases e with
    | decode what => exact ⟨_, rfl⟩
    | refused message => exact ⟨_, rfl⟩
  subst hblob
  rw [run_readEnvelope]
  simp only
  by_cases hmatch : len = UInt64.ofNat rest.length - 4
  · rw [if_neg (by simpa using hmatch)]
    by_cases hshort : rest.length < 4
    · right; left
      rw [if_pos hshort]
      exact ⟨len, rest, rfl, hshort, hmatch, rfl⟩
    rw [if_neg hshort]
    by_cases hcrc : ofLE ((rest.drop len.toNat).take 4) = (crc32 (rest.take len.toNat)).toNat
    · right; right
      have hrest : rest.length < 2 ^ 63 := by
        rw [List.length_append] at h
        omega
      have hlen : len.toNat = rest.length - 4 := by
        rw [hmatch, UInt64.toNat_sub, UInt64.toNat_ofNat']
        have h4 : (4 : UInt64).toNat = 4 := rfl
        rw [h4]
        omega
      have htail : (rest.drop len.toNat).take 4 = rest.drop len.toNat := by
        apply List.take_of_length_le
        rw [List.length_drop]
        omega
      have hbody : (rest.take len.toNat).length = len.toNat := by
        rw [List.length_take]
        omega
      have hword : rest.drop len.toNat = BinaryWriter.u32 ⟨crc32 (rest.take len.toNat)⟩ := by
        unfold BinaryWriter.u32
        apply ofLE_injective
        · rw [List.length_drop, length_toLE]
          omega
        · rw [← htail, hcrc, ofLE_toLE_of_lt (UInt32.toNat_lt _)]
          rfl
      refine ⟨rest.take len.toNat, ?_⟩
      unfold packBody
      rw [← hword, hbody, writeEnvelope_eq, UInt64.ofNat_toNat, List.append_assoc,
        List.take_append_drop]
    · left
      rw [if_pos hcrc]
      exact ⟨_, rfl⟩
  · left
    rw [if_pos hmatch]
    exact ⟨_, rfl⟩

end Engine

/-! ## Damage -/

/-- The ways a saved file is damaged. -/
inductive Damaged (body : Bytes) : Bytes → Prop
  | flipped (i : Nat) (hi : i < (packBody body).length) (bit : Fin 8) :
      Damaged body ((packBody body).set i ((packBody body).get ⟨i, hi⟩ ^^^ 1 <<< UInt8.ofNat bit.val))
  | changed (pre w w' post : Bytes) (hbody : body = pre ++ w ++ post) (hlen : w.length = w'.length)
      (h4 : w.length ≤ 4) (hne : w ≠ w') :
      Damaged body (writeEnvelope body.length ++ (pre ++ w' ++ post) ++ BinaryWriter.u32 ⟨crc32 body⟩)
  | truncated (kept lost : Bytes) (hlost : lost ≠ []) (hfile : packBody body = kept ++ lost) :
      Damaged body kept
  | extended (more : Bytes) (hmore : more ≠ []) : Damaged body (packBody body ++ more)

theorem flip_ne (b : UInt8) (bit : Fin 8) : b ^^^ 1 <<< UInt8.ofNat bit.val ≠ b := by
  intro h
  have hzero : (1 : UInt8) <<< UInt8.ofNat bit.val = 0 := by
    have hx := congrArg (b ^^^ ·) h
    simpa [← UInt8.xor_assoc] using hx
  have hbits : ∀ k : Fin 8, (1 : UInt8) <<< UInt8.ofNat k.val ≠ 0 := by decide
  exact hbits bit hzero

/-- The checksum field determines the checksum. -/
theorem crc_field_inj {body body' : Bytes}
    (h : BinaryWriter.u32 ⟨crc32 body⟩ = BinaryWriter.u32 ⟨crc32 body'⟩) : crc32 body = crc32 body' := by
  unfold BinaryWriter.u32 at h
  have hval := congrArg ofLE h
  rw [ofLE_toLE_of_lt (UInt32.toNat_lt _), ofLE_toLE_of_lt (UInt32.toNat_lt _)] at hval
  exact BitVec.eq_of_toNat_eq hval

/-- Two packed bodies of the same length differ in the body and the checksum only. -/
theorem packBody_split {body x c : Bytes} {n : Nat} (hn : x.length = n)
    (hc : c.length = 4) (h : writeEnvelope n ++ x ++ c = packBody body) :
    body = x ∧ BinaryWriter.u32 ⟨crc32 body⟩ = c := by
  have hlen := congrArg List.length h
  rw [length_packBody, List.length_append, List.length_append, writeEnvelope_eq, length_envelopeOf, hn,
    hc] at hlen
  have hbody : body.length = n := by omega
  unfold packBody at h
  rw [hbody, List.append_assoc, List.append_assoc] at h
  obtain ⟨hx, hcrc⟩ := List.append_inj (List.append_cancel_left h) (by omega)
  exact ⟨hx.symm, hcrc.symm⟩

/-- A string with one byte replaced by another is a different string. -/
theorem set_ne_self {l : Bytes} {i : Nat} {b b' : UInt8} (hi : l[i]? = some b) (hne : b' ≠ b) :
    l.set i b' ≠ l := by
  intro h
  have hlt : i < l.length := (List.getElem?_eq_some_iff.mp hi).1
  have hget : (l.set i b')[i]? = some b' := by rw [List.getElem?_set_self hlt]
  rw [h, hi] at hget
  exact hne (Option.some.inj hget).symm

/-- One replaced byte changes the checksum. -/
theorem crc32_set_ne {body : Bytes} {i : Nat} {b b' : UInt8} (hi : body[i]? = some b) (hne : b' ≠ b) :
    crc32 (body.set i b') ≠ crc32 body := by
  obtain ⟨hlt, hget⟩ := List.getElem?_eq_some_iff.mp hi
  have hbody : body = body.take i ++ [b] ++ body.drop (i + 1) := by
    rw [← hget, List.append_assoc, List.singleton_append, List.cons_getElem_drop_succ,
      List.take_append_drop]
  have hset : body.set i b' = body.take i ++ [b'] ++ body.drop (i + 1) := by
    rw [List.set_eq_take_append_cons_drop, if_pos hlt, List.append_assoc, List.singleton_append]
  rw [hset]
  conv_rhs => rw [hbody]
  exact crc32_detects rfl (by simp) (by simpa using hne)

/-- A packed body with one byte replaced is no packed body. -/
theorem packBody_set_ne {body body' : Bytes} {i : Nat} {b b' : UInt8}
    (hi : (packBody body)[i]? = some b) (hne : b' ≠ b) : (packBody body).set i b' ≠ packBody body' := by
  intro h
  obtain ⟨c, hc⟩ : ∃ c, c = BinaryWriter.u32 ⟨crc32 body⟩ := ⟨_, rfl⟩
  have hc4 : c.length = 4 := by rw [hc]; exact length_toLE 4 _
  have hpack : packBody body = writeEnvelope body.length ++ (body ++ c) := by
    rw [hc, ← List.append_assoc]; rfl
  rw [hpack] at h hi
  rw [List.set_append] at h
  rw [List.getElem?_append] at hi
  by_cases henv : i < (writeEnvelope body.length).length
  · -- in the envelope, which depends on the length only
    rw [if_pos henv] at h hi
    have hlen : body'.length = body.length := by
      have hl := congrArg List.length h
      rw [length_packBody, List.length_append, List.length_append, List.length_set, writeEnvelope_eq,
        length_envelopeOf, hc4] at hl
      omega
    unfold packBody at h
    rw [hlen, List.append_assoc] at h
    exact set_ne_self hi hne (List.append_inj_left h (by rw [List.length_set]))
  · rw [if_neg henv] at h hi
    rw [List.set_append] at h
    rw [List.getElem?_append] at hi
    split at h
    · -- in the body
      rename_i hb
      rw [if_pos hb] at hi
      rw [← List.append_assoc] at h
      obtain ⟨hbody, hcrc⟩ := packBody_split (List.length_set) hc4 h
      rw [hc] at hcrc
      apply crc32_set_ne hi hne
      rw [← hbody]
      exact crc_field_inj hcrc
    · -- in the checksum
      rename_i hb
      rw [if_neg hb] at hi
      rw [← List.append_assoc] at h
      obtain ⟨hbody, hcrc⟩ := packBody_split rfl (by rw [List.length_set]; exact hc4) h
      rw [hbody, ← hc] at hcrc
      exact set_ne_self hi hne hcrc.symm

/-- A window of the body changed, with the old checksum: no packed body. -/
theorem packBody_window_ne {body' pre w w' post : Bytes} (hlen : w.length = w'.length)
    (h4 : w.length ≤ 4) (hne : w ≠ w') :
    writeEnvelope (pre ++ w ++ post).length ++ (pre ++ w' ++ post) ++
      BinaryWriter.u32 ⟨crc32 (pre ++ w ++ post)⟩ ≠ packBody body' := by
  intro h
  have hl : (pre ++ w' ++ post).length = (pre ++ w ++ post).length := by simp [hlen]
  obtain ⟨hbody, hcrc⟩ := packBody_split hl (length_toLE 4 _) h
  have hc := crc_field_inj hcrc
  rw [hbody] at hc
  exact crc32_detects hlen h4 hne hc.symm

/-- A packed body is no proper prefix of another one. -/
theorem packBody_extend_ne {body body' more : Bytes} (h1 : body.length < 2 ^ 63)
    (h2 : body'.length < 2 ^ 63) (hmore : more ≠ []) : packBody body ++ more ≠ packBody body' := by
  intro h
  have henv : envelopeOf (UInt64.ofNat body.length) = envelopeOf (UInt64.ofNat body'.length) := by
    unfold packBody at h
    rw [List.append_assoc, List.append_assoc, List.append_assoc, writeEnvelope_eq, writeEnvelope_eq] at h
    exact List.append_inj_left h (by rw [length_envelopeOf, length_envelopeOf])
  have hlen := congrArg UInt64.toNat (envelopeOf_inj henv)
  rw [UInt64.toNat_ofNat', UInt64.toNat_ofNat'] at hlen
  have htotal := congrArg List.length h
  rw [List.length_append, length_packBody, length_packBody] at htotal
  have hpos := List.length_pos_of_ne_nil hmore
  omega

/-- A saved file cut off within its last four bytes does not match its length field. -/
theorem packBody_short {body rest lost : Bytes} {len : UInt64} (h : body.length < 2 ^ 63)
    (hfile : packBody body = envelopeOf len ++ rest ++ lost) (hrest : rest.length < 4) :
    len ≠ UInt64.ofNat rest.length - 4 := by
  intro hmatch
  have henv : envelopeOf (UInt64.ofNat body.length) = envelopeOf len := by
    unfold packBody at hfile
    rw [List.append_assoc, List.append_assoc, writeEnvelope_eq] at hfile
    exact List.append_inj_left hfile (by rw [length_envelopeOf, length_envelopeOf])
  have hlen := congrArg UInt64.toNat ((envelopeOf_inj henv).trans hmatch)
  rw [UInt64.toNat_sub, UInt64.toNat_ofNat', UInt64.toNat_ofNat'] at hlen
  have h4 : (4 : UInt64).toNat = 4 := rfl
  rw [h4] at hlen
  omega

/-! ## Main result -/

theorem Damaged.length_le {body blob : Bytes} (h : Damaged body blob) :
    (packBody body).length ≤ blob.length ∨
      ∃ lost, lost ≠ [] ∧ packBody body = blob ++ lost := by
  cases h with
  | flipped i hi bit => left; rw [List.length_set]
  | changed pre w w' post hbody hlen h4 hne =>
    left
    rw [length_packBody, List.length_append, List.length_append, writeEnvelope_eq, length_envelopeOf,
      hbody]
    unfold BinaryWriter.u32
    rw [length_toLE]
    simp only [List.length_append]
    omega
  | truncated kept lost hlost hfile => exact Or.inr ⟨lost, hlost, hfile⟩
  | extended more hmore => left; rw [List.length_append]; omega

theorem Damaged.not_packed {body blob : Bytes} (hsize : body.length < 2 ^ 63) (h : Damaged body blob)
    {body' : Bytes} (hsize' : body'.length < 2 ^ 63) : blob ≠ packBody body' := by
  cases h with
  | flipped i hi bit => exact packBody_set_ne (List.getElem?_eq_getElem hi) (flip_ne _ bit)
  | changed pre w w' post hbody hlen h4 hne =>
    subst hbody
    exact packBody_window_ne hlen h4 hne
  | truncated kept lost hlost hfile =>
    rintro rfl
    exact packBody_extend_ne hsize' hsize hlost hfile.symm
  | extended more hmore => exact packBody_extend_ne hsize hsize' hmore

namespace Engine

/-- **Every damaged file is refused, by any engine, and the engine stays as it is.** -/
theorem damaged_file_rejected (env : Env) (saved s : Engine) {blob : Bytes}
    (hsize : saved.saveBlob.length < 2 ^ 63) (h : Damaged saved.serializeState blob) :
    ∃ status, status.ok = false ∧ s.loadFrom env (.bytes blob) = some (status, s) := by
  unfold saveBlob at hsize
  rw [length_packBody] at hsize
  show ∃ status, status.ok = false ∧ s.loadBlob env (measured blob) = some (status, s)
  unfold measured
  split
  · rename_i hblob
    rcases loadBlob_cases env s hblob with ⟨message, hm⟩ | ⟨len, rest, hb, hrest, hmatch, -⟩ | ⟨body', hb⟩
    · exact ⟨_, rfl, hm⟩
    · -- too short for its length field: only a truncated file could be
      exfalso
      rcases h.length_le with hle | ⟨lost, hlost, hfile⟩
      · rw [hb, length_packBody, List.length_append, length_envelopeOf] at hle
        omega
      · rw [hb] at hfile
        exact packBody_short (by omega) hfile hrest hmatch
    · have hlen := congrArg List.length hb
      rw [length_packBody] at hlen
      exact absurd hb (h.not_packed (by omega) (by omega))
  · exact ⟨_, rfl, rfl⟩

theorem length_saveBlob_fresh : ({} : Engine).saveBlob.length = 117 := by decide +kernel

/-- The file of a fresh engine, with one bit of the epoch flipped. -/
theorem damaged_file_rejected_flipped :
    ∃ status, status.ok = false ∧
      ({} : Engine).loadFrom {} (.bytes (({} : Engine).saveBlob.set 20
        (({} : Engine).saveBlob.get ⟨20, by rw [length_saveBlob_fresh]; decide⟩ ^^^
          (1 : UInt8) <<< UInt8.ofNat (3 : Fin 8).val))) =
        some (status, {}) :=
  damaged_file_rejected {} {} {} (by rw [length_saveBlob_fresh]; decide) (.flipped 20 _ 3)

end Engine

end QuotaFabric
