import QuotaFabric.Lib.Machine

/-!
# Integers that are doubles

An integer of at most 53 bits is a double: normalising it only shifts its mantissa, nothing is lost when the
double is packed and unpacked, and truncation gives it back.

* `unpack_pack_normal` — a normal double unpacks to what was packed;
* `unpack_ofInt` — the double of an integer;
* `toInt64_ofInt` — conversion there and back; `not_max_lt_ofInt` — the doubles that fit 64 bits.
-/

set_option autoImplicit false

namespace ExactDouble

open Float.Model hiding toInt64
open Float.Model.UnpackedFloat hiding toInt64 normalize

/-! ## Packing -/

/-- The sign bit is the topmost one. -/
theorem unpackSign_packed {spec : Format} {sign : Sign} {exponent : BitVec spec.exponentBits}
    {mantissa : BitVec spec.mantissaBitsWithoutImplicit} :
    unpackSign (packComponents spec sign exponent mantissa) = sign.toBitVec := by
  ext i hi
  have hbit : i = 0 := by omega
  simp [hbit, unpackSign, packComponents, BitVec.getLsbD_append, BitVec.getElem_append]

/-- The implicit bit stands above the stored ones. -/
theorem toNat_implicit {n : Nat} (v : BitVec n) : (1#1 ++ v).toNat = 2 ^ n + v.toNat := by
  rw [BitVec.toNat_append, ← Nat.shiftLeft_add_eq_or_of_lt v.isLt, Nat.shiftLeft_eq]
  simp

theorem log2_bounds {m k : Nat} (h : m.log2 = k) (h0 : m ≠ 0) : 2 ^ k ≤ m ∧ m < 2 ^ (k + 1) :=
  (Nat.log2_eq_iff h0).mp h

/-- **A normal double unpacks to what was packed.** -/
theorem unpack_pack_normal (sign : Sign) {m : Nat} {e : Int} (hpos : 0 < m) (hm : m.log2 = 52)
    (hlo : -1074 ≤ e) (hhi : e ≤ 971) :
    (Float.Model.pack (.finite sign m e hpos)).unpack = .finite sign m e hpos := by
  obtain ⟨hmlo, hmhi⟩ := log2_bounds hm hpos.ne'
  obtain ⟨b, hb⟩ : ∃ b : Nat, (b : Int) = e + 1075 := ⟨(e + 1075).toNat, by omega⟩
  have hbiased : (e + (Format.binary64.exponentBias : Nat) + (52 : Nat)).toNat = b := by
    have hbias : Format.binary64.exponentBias = 1023 := rfl
    rw [hbias]
    omega
  have hpacked : UnpackedFloat.pack Format.binary64 (.finite sign m e hpos) =
      packComponents Format.binary64 sign (BitVec.ofNat 11 b) (BitVec.ofNat 52 m) := by
    unfold UnpackedFloat.pack
    simp only
    rw [hbiased, if_neg (by show ¬ 2 ^ 11 ≤ b + 1; omega),
      if_pos (by rw [hm]; rfl)]
  have hexp : (BitVec.ofNat 11 b).toNat = b := by
    rw [BitVec.toNat_ofNat]
    exact Nat.mod_eq_of_lt (by omega)
  have hmant : (1#1 ++ BitVec.ofNat 52 m).toNat = m := by
    rw [toNat_implicit, BitVec.toNat_ofNat]
    omega
  have hnotMax : BitVec.ofNat 11 b ≠ -1#11 := fun h => by
    have h' := congrArg BitVec.toNat h
    rw [hexp, show (-1#11).toNat = 2047 from rfl] at h'
    omega
  have hnotZero : BitVec.ofNat 11 b ≠ 0#11 := fun h => by
    have h' := congrArg BitVec.toNat h
    rw [hexp, show (0#11).toNat = 0 from rfl] at h'
    omega
  show UnpackedFloat.unpack Format.binary64 (UnpackedFloat.pack Format.binary64 (.finite sign m e hpos)) = _
  rw [hpacked]
  unfold UnpackedFloat.unpack
  simp only [unpackMantissa_packComponents, unpackExponent_packComponents, unpackSign_packed]
  rw [if_neg hnotMax, if_neg hnotZero]
  congr 1
  · cases sign <;> rfl
  · rw [hexp]
    show (b : Int) - (1023 + 52) = e
    omega

/-! ## Rounding -/

theorem log2_le {m : Nat} (h0 : m ≠ 0) (h : m < 2 ^ 53) : m.log2 ≤ 52 :=
  Nat.lt_succ_iff.mp ((Nat.log2_lt h0).mpr h)

/-- The mantissa of `m` with 53 bits. -/
def scaled (m : Nat) : Nat := m <<< (52 - m.log2)

theorem scaled_eq (m : Nat) : scaled m = m * 2 ^ (52 - m.log2) := Nat.shiftLeft_eq m _

theorem scaled_pos {m : Nat} (h0 : m ≠ 0) : 0 < scaled m := by
  rw [scaled_eq]
  exact Nat.mul_pos (Nat.pos_of_ne_zero h0) (Nat.two_pow_pos _)

theorem log2_scaled {m : Nat} (h0 : m ≠ 0) (h : m.log2 ≤ 52) : (scaled m).log2 = 52 := by
  obtain ⟨hlo, hhi⟩ := log2_bounds rfl h0
  rw [Nat.log2_eq_iff (scaled_pos h0).ne', scaled_eq]
  have hsplit : ∀ k, k ≤ 52 → 2 ^ (52 - k) * 2 ^ k = 2 ^ 52 := fun k hk => by
    rw [← Nat.pow_add, Nat.sub_add_cancel hk]
  have hall := hsplit _ h
  constructor
  · calc 2 ^ 52 = 2 ^ m.log2 * 2 ^ (52 - m.log2) := by rw [Nat.mul_comm, hall]
      _ ≤ m * 2 ^ (52 - m.log2) := Nat.mul_le_mul_right _ hlo
  · calc m * 2 ^ (52 - m.log2) < 2 ^ (m.log2 + 1) * 2 ^ (52 - m.log2) :=
          Nat.mul_lt_mul_of_pos_right hhi (Nat.two_pow_pos _)
      _ = 2 ^ (52 + 1) := by rw [Nat.pow_succ, Nat.pow_succ, Nat.mul_right_comm, Nat.mul_comm (2 ^ m.log2), hall]

/-- A mantissa of 53 bits stands at its target exponent. -/
theorem shiftToTargetExponent_of_log2 {m : Nat} (hm : m.log2 = 52) {e : Int} (he : -1074 ≤ e) :
    shiftToTargetExponent Format.binary64 m e .exact = (⟨m, false, false⟩, e) := by
  have htarget : Format.binary64.targetExponent (totalExponent m e) = e := by
    show max ((m.log2 : Int) + 1 + e - 53) (-1074) = e
    rw [hm]
    omega
  unfold shiftToTargetExponent shiftToExponent
  simp only [htarget, sub_self]
  show ((⟨m, false, false⟩ : ExtendedMantissa), e + (0 : Nat)) = _
  rw [Nat.cast_zero, add_zero]

/-- **An integer of at most 53 bits is not rounded.** -/
theorem round_of_log2 (sign : Sign) {m : Nat} (h0 : m ≠ 0) (h : m.log2 ≤ 52) :
    UnpackedFloat.round Format.binary64 sign m 0 = .finite sign (scaled m) (m.log2 - 52) (scaled_pos h0) := by
  have htarget : Format.binary64.targetExponent (totalExponent m 0) = (m.log2 : Int) - 52 := by
    show max ((m.log2 : Int) + 1 + 0 - 53) (-1074) = _
    omega
  have hshift : decreaseExponent m 0 ((m.log2 : Int) - 52) = (scaled m, (m.log2 : Int) - 52) := by
    unfold decreaseExponent scaled
    have hamount : (0 - ((m.log2 : Int) - 52)).toNat = 52 - m.log2 := by omega
    simp only [hamount]
    congr 1
    omega
  have hstand := shiftToTargetExponent_of_log2 (log2_scaled h0 h) (e := (m.log2 : Int) - 52) (by omega)
  unfold UnpackedFloat.round
  simp only [htarget, hshift]
  unfold roundWithAccuracy
  simp only [hstand]
  have hexact : (⟨scaled m, false, false⟩ : ExtendedMantissa).roundedMantissa = scaled m := rfl
  simp only [hexact, hstand]
  rw [dif_neg (scaled_pos h0).ne']

theorem unpack_ofInt {m : Nat} (h0 : m ≠ 0) (h : m < 2 ^ 53) :
    (Float.Model.ofInt m).unpack = .finite .positive (scaled m) (m.log2 - 52) (scaled_pos h0) := by
  have hlog := log2_le h0 h
  have hnormal : UnpackedFloat.ofInt Format.binary64 m = UnpackedFloat.round Format.binary64 .positive m 0 := by
    unfold UnpackedFloat.ofInt UnpackedFloat.normalize
    have hpos : compare (m : Int) 0 = .gt := by
      rw [compare_gt_iff_gt]
      omega
    rw [hpos, Int.toNat_natCast]
  unfold Float.Model.ofInt
  rw [hnormal, round_of_log2 .positive h0 hlog]
  exact unpack_pack_normal .positive (scaled_pos h0) (log2_scaled h0 hlog) (by omega) (by omega)

/-! ## Truncation -/

theorem shiftRight_mantissa (em : ExtendedMantissa) : ∀ k : Nat, (em >>> k).mantissa = em.mantissa / 2 ^ k
  | 0 => (Nat.div_one _).symm
  | k + 1 => by
    show (em >>> k).mantissa / 2 = _
    rw [shiftRight_mantissa em k, Nat.div_div_eq_div_mul, Nat.pow_succ]

theorem roundToInt_of_nonpos (sign : Sign) (m : Nat) {e : Int} (he : e ≤ 0) :
    roundToInt sign m e = sign.apply (m / 2 ^ (-e).toNat : Nat) := by
  have hkeep : decreaseExponent m e 0 = (m, e) := by
    unfold decreaseExponent
    have hamount : (e - 0).toNat = 0 := by omega
    simp only [hamount]
    rw [Nat.shiftLeft_zero, Nat.cast_zero, sub_zero]
  unfold roundToInt
  simp only [hkeep]
  unfold shiftToExponent
  simp only [shiftRight_mantissa, zero_sub]
  rfl

/-- **An integer of at most 53 bits survives the conversion to a double and back.** -/
theorem toInt64_ofInt (undef : Int) {n : Int} (h0 : 0 ≤ n) (h : n < 2 ^ 53) :
    toInt64 undef (Float.Model.ofInt n) = n := by
  obtain ⟨m, rfl⟩ := Int.eq_ofNat_of_zero_le h0
  by_cases hm : m = 0
  · subst hm
    have hzero : (Float.Model.ofInt ((0 : Nat) : Int)).unpack = .zero .positive := rfl
    unfold toInt64 Float.Model.isFinite
    rw [hzero]
    rfl
  have hunpack := unpack_ofInt hm (by omega)
  have hlog := log2_le hm (by omega)
  have hvalue : (Float.Model.ofInt m).unpack.toInt 0 0 = m := by
    rw [hunpack]
    show roundToInt .positive (scaled m) (m.log2 - 52) = m
    rw [roundToInt_of_nonpos .positive _ (by omega), scaled_eq]
    have hexp : (-((m.log2 : Int) - 52)).toNat = 52 - m.log2 := by omega
    rw [hexp, Nat.mul_div_cancel _ (Nat.two_pow_pos _)]
    rfl
  have hfinite : (Float.Model.ofInt m).isFinite = true := by
    unfold Float.Model.isFinite
    rw [hunpack]
    rfl
  unfold toInt64
  simp only [hvalue, hfinite]
  rw [if_pos ⟨trivial, by unfold INT64_MIN; omega, by unfold INT64_MAX; omega⟩]

/-- The largest 64-bit integer, as a double, is not below such an integer. -/
theorem not_max_lt_ofInt {n : Int} (h0 : 0 ≤ n) (h : n < 2 ^ 53) :
    ¬ Float.Model.ofInt INT64_MAX < Float.Model.ofInt n := by
  obtain ⟨m, rfl⟩ := Int.eq_ofNat_of_zero_le h0
  have hmax : (Float.Model.ofInt INT64_MAX).unpack = .finite .positive (2 ^ 52) 11 (by decide) := by
    have hpack : Float.Model.ofInt INT64_MAX = Float.Model.pack (.finite .positive (2 ^ 52) 11 (by decide)) := by
      decide +kernel
    rw [hpack]
    exact unpack_pack_normal .positive _ (by decide +kernel) (by omega) (by omega)
  intro hlt
  have hcompare : (UnpackedFloat.lt (Float.Model.ofInt INT64_MAX).unpack (Float.Model.ofInt m).unpack) = true := hlt
  rw [hmax] at hcompare
  by_cases hm : m = 0
  · subst hm
    exact absurd hcompare (by decide +kernel)
  rw [unpack_ofInt hm (by omega)] at hcompare
  have hlog := log2_le hm (by omega)
  have hgt : compare (11 : Int) ((m.log2 : Int) - 52) = .gt := by
    rw [compare_gt_iff_gt]
    omega
  unfold UnpackedFloat.lt UnpackedFloat.compare at hcompare
  simp only [hgt] at hcompare
  cases hcompare

end ExactDouble
