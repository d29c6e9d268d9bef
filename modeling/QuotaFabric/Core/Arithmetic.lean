import QuotaFabric.Core.Resource
import QuotaFabric.Lib.CheckedLoop

/-!
# Checked arithmetic on vectors

`add` and `sub` go through the dimensions in order and return in the middle when one of them would leave
the range of an amount; what has been written before stays written.  `scale` multiplies in unsigned
64-bit arithmetic and converts back.

* `scale` — the third operation;
* `add_eq`, `sub_eq` — both loops as loops that stop at a cell;
* `scaleAmount_eq` — what `scale` makes of one amount;
* `ArithmeticChecked`, `checked_arithmetic_iff` — when all three keep to what the header says of them;
* `arithmetic_unchecked` — where they do not.
-/

set_option autoImplicit false

namespace QuotaFabric

namespace ResourceVector

/-! ## `scale` -/

/-- `scale` on one amount: multiplied as `uint64_t`, and converted back. -/
def scaleAmount (factor : UInt64) (v : Int) : Int :=
  if factor ≠ 0 ∧ v > 0 ∧ UInt64.ofInt v > 0xFFFFFFFFFFFFFFFF / factor then INT64_MAX
  else (UInt64.ofInt v * factor).toInt64.toInt

def scale (v : ResourceVector) (factor : UInt64) : ResourceVector := ⟨fun d => (v.cell d).map (scaleAmount factor)⟩

/-- The product, as far as 64 unsigned bits hold it, is read as a signed number. -/
theorem scaleAmount_eq {v : Int} (hv : 0 ≤ v) (hmax : v ≤ INT64_MAX) (factor : UInt64) :
    scaleAmount factor v =
      if v * factor.toNat ≤ INT64_MAX then v * factor.toNat
      else if v * factor.toNat < 2 ^ 64 then v * factor.toNat - 2 ^ 64 else INT64_MAX := by
  obtain ⟨n, rfl⟩ := Int.eq_ofNat_of_zero_le hv
  unfold INT64_MAX at hmax
  have hn : (UInt64.ofInt (n : Int)).toNat = n := by
    unfold UInt64.ofInt
    simp
    omega
  have hwide : factor ≠ 0 ∧ (n : Int) > 0 ∧ UInt64.ofInt (n : Int) > 0xFFFFFFFFFFFFFFFF / factor ↔
      2 ^ 64 ≤ n * factor.toNat := by
    rw [gt_iff_lt, gt_iff_lt, UInt64.lt_iff_toNat_lt, hn, UInt64.toNat_div]
    show _ ∧ _ ∧ 18446744073709551615 / factor.toNat < n ↔ _
    constructor
    · rintro ⟨hf, -, hlt⟩
      have hpos : 0 < factor.toNat := Nat.pos_of_ne_zero fun h0 => hf (UInt64.toNat_inj.mp h0)
      have hmul := (Nat.div_lt_iff_lt_mul hpos).mp hlt
      omega
    · intro hmul
      have hpos : 0 < factor.toNat := Nat.pos_of_ne_zero fun h0 => by rw [h0] at hmul; omega
      have hnpos : 0 < n := Nat.pos_of_ne_zero fun h0 => by rw [h0] at hmul; omega
      refine ⟨?_, by omega, (Nat.div_lt_iff_lt_mul hpos).mpr (by omega)⟩
      rintro rfl
      exact absurd hpos (by decide)
  have hprod : (n : Int) * factor.toNat = ((n * factor.toNat : Nat) : Int) := by push_cast; rfl
  unfold scaleAmount INT64_MAX
  rw [hprod]
  by_cases hw : 2 ^ 64 ≤ n * factor.toNat
  · rw [if_pos (hwide.mpr hw), if_neg (by omega), if_neg (by omega)]
  · rw [if_neg fun h => hw (hwide.mp h)]
    show (UInt64.ofInt (n : Int) * factor).toBitVec.toInt = _
    have hnat : (UInt64.ofInt (n : Int) * factor).toBitVec.toNat = n * factor.toNat := by
      show (UInt64.ofInt (n : Int) * factor).toNat = _
      rw [UInt64.toNat_mul, hn, Nat.mod_eq_of_lt (by omega)]
    rw [BitVec.toInt_eq_toNat_cond, hnat]
    split <;> split <;> omega

/-! ## The loops of `add` and `sub` -/

/-- `add` would exceed 64 bits on `d`. -/
def overflowsAt (o v : ResourceVector) (d : ResourceDimension) : Bool :=
  match o.cell d with
  | none => false
  | some b => decide (b > 0 ∧ v.get d > INT64_MAX - b)

/-- What `add` writes on `d`. -/
def addedCell (o v : ResourceVector) (d : ResourceDimension) : Option Int :=
  match o.cell d with
  | none => v.cell d
  | some b => if b > 0 ∧ v.get d > INT64_MAX - b then some INT64_MAX else some (v.get d + b)

/-- `sub` would fall below zero on `d`. -/
def underflowsAt (o v : ResourceVector) (d : ResourceDimension) : Bool :=
  match v.cell d, o.cell d with
  | some a, some b => decide (a < b)
  | _, _ => false

/-- What `sub` writes on `d`. -/
def subtractedCell (o v : ResourceVector) (d : ResourceDimension) : Option Int :=
  match v.cell d, o.cell d with
  | some a, some b => if a < b then some 0 else some (a - b)
  | _, _ => v.cell d

/-- **`add` writes the dimensions up to the first that would overflow.** -/
theorem add_eq (v o : ResourceVector) (saturate : Bool) :
    add v o saturate =
      (if allResourceDimensions.any (fun d => !saturate && overflowsAt o v d) then .overflow else .ok,
        SparseVec.writeUntil (fun d => !saturate && overflowsAt o v d) (addedCell o v) allResourceDimensions v) := by
  refine SparseVec.loop_eq (addLoop o saturate) (fun v d => !saturate && overflowsAt o v d) (addedCell o)
    (fun v => rfl) ?_ ?_ ?_ allResourceDimensions v allResourceDimensions_nodup
  · intro d ds v hstop
    obtain ⟨hsat, hover⟩ := (Bool.and_eq_true _ _).mp hstop
    unfold overflowsAt at hover
    unfold addLoop
    cases hb : o.cell d with
    | none => rw [hb] at hover; cases hover
    | some b =>
      rw [hb] at hover
      simp only [of_decide_eq_true hover, and_self, if_true]
      rw [if_neg (by simpa using hsat)]
  · intro d ds v hgo
    rw [addLoop]
    unfold addedCell
    cases hb : o.cell d with
    | none => simp only [SparseVec.setCell_self]
    | some b =>
      simp only
      split
      · rename_i hover
        have hsat : saturate = true := by
          unfold overflowsAt at hgo
          rw [hb] at hgo
          simpa [hover] using hgo
        rw [if_pos hsat]
        rfl
      · rfl
  · intro v w d hcell
    have hget : v.get d = w.get d := by unfold SparseVec.get; rw [hcell]
    unfold overflowsAt addedCell
    rw [hcell, hget]
    exact ⟨rfl, rfl⟩

/-- **`sub` writes the dimensions up to the first that would fall below zero.** -/
theorem sub_eq (v o : ResourceVector) (saturate : Bool) :
    sub v o saturate =
      (if allResourceDimensions.any (fun d => !saturate && underflowsAt o v d) then .underflow else .ok,
        SparseVec.writeUntil (fun d => !saturate && underflowsAt o v d) (subtractedCell o v)
          allResourceDimensions v) := by
  refine SparseVec.loop_eq (subLoop o saturate) (fun v d => !saturate && underflowsAt o v d) (subtractedCell o)
    (fun v => rfl) ?_ ?_ ?_ allResourceDimensions v allResourceDimensions_nodup
  · intro d ds v hstop
    obtain ⟨hsat, hunder⟩ := (Bool.and_eq_true _ _).mp hstop
    unfold underflowsAt at hunder
    unfold subLoop
    cases ha : v.cell d with
    | none => rw [ha] at hunder; cases hunder
    | some a =>
      cases hb : o.cell d with
      | none => rw [ha, hb] at hunder; cases hunder
      | some b =>
        rw [ha, hb] at hunder
        simp only [of_decide_eq_true hunder, if_true]
        rw [if_neg (by simpa using hsat)]
  · intro d ds v hgo
    have hself : v.setCell d (v.cell d) = v := SparseVec.setCell_self v d
    rw [subLoop]
    unfold subtractedCell
    unfold underflowsAt at hgo
    cases ha : v.cell d with
    | none =>
      rw [ha] at hself
      simp only [hself]
    | some a =>
      cases hb : o.cell d with
      | none =>
        rw [ha] at hself
        simp only [hself]
      | some b =>
        rw [ha, hb] at hgo
        simp only
        split
        · rename_i hunder
          have hsat : saturate = true := by simpa [hunder] using hgo
          rw [if_pos hsat]
          rfl
        · rfl
  · intro v w d hcell
    unfold underflowsAt subtractedCell
    rw [hcell]
    exact ⟨rfl, rfl⟩

/-! ## Amounts stay in range -/

section Valid

variable {v o : ResourceVector}

theorem writeUntil_valid {stops : ResourceDimension → Bool} {new : ResourceDimension → Option Int}
    {ds : List ResourceDimension} (hv : Valid v)
    (hnew : ∀ d, 0 ≤ (new d).getD 0 ∧ (new d).getD 0 ≤ INT64_MAX) : Valid (SparseVec.writeUntil stops new ds v) := by
  intro d
  show 0 ≤ (if _ then new d else v.cell d).getD 0 ∧ (if _ then new d else v.cell d).getD 0 ≤ _
  split
  · exact hnew d
  · exact hv d

theorem add_amounts (hv : Valid v) (ho : Valid o) (saturate : Bool) : Valid (add v o saturate).2 := by
  rw [add_eq]
  refine writeUntil_valid hv fun d => ?_
  have hd := hv d
  have hod := ho d
  unfold addedCell
  unfold SparseVec.get at *
  cases hb : o.cell d with
  | none => exact hd
  | some b =>
    rw [hb, Option.getD_some] at hod
    simp only
    split
    · exact ⟨by decide, le_refl _⟩
    · rw [Option.getD_some]
      omega

theorem sub_amounts (hv : Valid v) (ho : Valid o) (saturate : Bool) : Valid (sub v o saturate).2 := by
  rw [sub_eq]
  refine writeUntil_valid hv fun d => ?_
  have hd := hv d
  have hod := ho d
  unfold subtractedCell
  unfold SparseVec.get at *
  cases ha : v.cell d with
  | none =>
    have hmax : 0 ≤ INT64_MAX := by decide
    cases o.cell d <;> exact ⟨le_refl _, hmax⟩
  | some a =>
    rw [ha, Option.getD_some] at hd
    cases hb : o.cell d with
    | none => exact hd
    | some b =>
      rw [hb, Option.getD_some] at hod
      simp only
      split
      · exact ⟨le_refl _, by decide⟩
      · rw [Option.getD_some]
        omega

end Valid

/-! ## All or nothing -/

section Unchanged

variable {v o : ResourceVector} {d : ResourceDimension}

/-- Where `add` overflows, it has written on no dimension before anything but what was there. -/
def AddAllOrNothing (v o : ResourceVector) : Prop :=
  (∃ d, overflowsAt o v d = true) → ∀ d ∈ SparseVec.passed (overflowsAt o v) allResourceDimensions,
    o.present d = true → v.present d = true ∧ o.get d = 0

/-- Where `sub` underflows, it has taken nothing off a dimension before. -/
def SubAllOrNothing (v o : ResourceVector) : Prop :=
  (∃ d, underflowsAt o v d = true) → ∀ d ∈ SparseVec.passed (underflowsAt o v) allResourceDimensions,
    v.present d = true → o.present d = true → o.get d = 0

theorem addedCell_eq_iff (h : overflowsAt o v d = false) :
    addedCell o v d = v.cell d ↔ (o.present d = true → v.present d = true ∧ o.get d = 0) := by
  unfold overflowsAt at h
  unfold addedCell SparseVec.present
  unfold SparseVec.get at *
  cases hb : o.cell d with
  | none => simp
  | some b =>
    rw [hb] at h
    simp only
    rw [if_neg (of_decide_eq_false h)]
    cases ha : v.cell d with
    | none => simp
    | some a => simp

theorem subtractedCell_eq_iff (h : underflowsAt o v d = false) :
    subtractedCell o v d = v.cell d ↔ (v.present d = true → o.present d = true → o.get d = 0) := by
  unfold underflowsAt at h
  unfold subtractedCell SparseVec.present SparseVec.get
  cases ha : v.cell d with
  | none => simp
  | some a =>
    cases hb : o.cell d with
    | none => simp
    | some b =>
      rw [ha, hb] at h
      simp only
      rw [if_neg (of_decide_eq_false h)]
      simp

theorem any_iff {p : ResourceDimension → Bool} : allResourceDimensions.any p = true ↔ ∃ d, p d = true := by
  rw [List.any_eq_true]
  exact exists_congr fun d => and_iff_right (mem_allResourceDimensions d)

/-- **A failed `add` leaves the vector as it was** exactly where it has written nothing new by then. -/
theorem add_unchanged_iff :
    (∀ saturate, (add v o saturate).1 ≠ .ok → (add v o saturate).2 = v) ↔ AddAllOrNothing v o := by
  have hsat : (add v o true).1 = .ok := by
    rw [add_eq]
    simp
  have hfail : (add v o false).1 ≠ .ok ↔ ∃ d, overflowsAt o v d = true := by
    rw [add_eq]
    simp only [Bool.not_false, Bool.true_and]
    rw [← any_iff]
    split <;> simp_all
  have hsame : (add v o false).2 = v ↔ ∀ d ∈ SparseVec.passed (overflowsAt o v) allResourceDimensions,
      o.present d = true → v.present d = true ∧ o.get d = 0 := by
    rw [add_eq]
    simp only [Bool.not_false, Bool.true_and]
    rw [SparseVec.writeUntil_eq_self_iff]
    exact forall₂_congr fun d hd => addedCell_eq_iff (SparseVec.not_stops_of_mem_passed hd)
  rw [Bool.forall_bool, hfail, hsame]
  exact and_iff_left fun h => absurd hsat h

/-- **A failed `sub` leaves the vector as it was** exactly where it has taken nothing off by then. -/
theorem sub_unchanged_iff :
    (∀ saturate, (sub v o saturate).1 ≠ .ok → (sub v o saturate).2 = v) ↔ SubAllOrNothing v o := by
  have hsat : (sub v o true).1 = .ok := by
    rw [sub_eq]
    simp
  have hfail : (sub v o false).1 ≠ .ok ↔ ∃ d, underflowsAt o v d = true := by
    rw [sub_eq]
    simp only [Bool.not_false, Bool.true_and]
    rw [← any_iff]
    split <;> simp_all
  have hsame : (sub v o false).2 = v ↔ ∀ d ∈ SparseVec.passed (underflowsAt o v) allResourceDimensions,
      v.present d = true → o.present d = true → o.get d = 0 := by
    rw [sub_eq]
    simp only [Bool.not_false, Bool.true_and]
    rw [SparseVec.writeUntil_eq_self_iff]
    exact forall₂_congr fun d hd => subtractedCell_eq_iff (SparseVec.not_stops_of_mem_passed hd)
  rw [Bool.forall_bool, hfail, hsame]
  exact and_iff_left fun h => absurd hsat h

end Unchanged

/-! ## Main result -/

/-- No product lies between the largest signed and the largest unsigned number. -/
def ScaleFits (v : ResourceVector) (factor : UInt64) : Prop :=
  ∀ d, v.present d = true → ¬ (INT64_MAX < v.get d * factor.toNat ∧ v.get d * factor.toNat < 2 ^ 64)

/-- What the header promises of the three operations: amounts stay in range, `scale` is exact up to the
    largest amount, and a failed operation leaves the vector as it was. -/
structure ArithmeticChecked (a b : ResourceVector) (factor : UInt64) : Prop where
  add_valid : ∀ saturate, (add a b saturate).2.Valid
  sub_valid : ∀ saturate, (sub a b saturate).2.Valid
  scale_valid : (scale a factor).Valid
  scale_exact : ∀ d, a.present d = true → (scale a factor).get d = Min.min (a.get d * factor.toNat) INT64_MAX
  add_unchanged : ∀ saturate, (add a b saturate).1 ≠ .ok → (add a b saturate).2 = a
  sub_unchanged : ∀ saturate, (sub a b saturate).1 ≠ .ok → (sub a b saturate).2 = a

instance (v o : ResourceVector) : Decidable (AddAllOrNothing v o) :=
  inferInstanceAs (Decidable (_ → ∀ d ∈ SparseVec.passed (overflowsAt o v) allResourceDimensions, _ → _))

instance (v o : ResourceVector) : Decidable (SubAllOrNothing v o) :=
  inferInstanceAs (Decidable (_ → ∀ d ∈ SparseVec.passed (underflowsAt o v) allResourceDimensions, _ → _ → _))

instance (v : ResourceVector) (factor : UInt64) : Decidable (ScaleFits v factor) :=
  inferInstanceAs (Decidable (∀ d, v.present d = true → ¬ (_ ∧ _)))

section Main

variable {a b : ResourceVector} {factor : UInt64} {d : ResourceDimension}

theorem get_scale (hd : a.present d = true) : (scale a factor).get d = scaleAmount factor (a.get d) := by
  show ((a.cell d).map (scaleAmount factor)).getD 0 = _
  rw [SparseVec.cell_of_present hd]
  rfl

theorem get_scale_absent (hd : a.present d = false) : (scale a factor).get d = 0 := by
  apply SparseVec.get_of_not_present
  show ((a.cell d).map (scaleAmount factor)).isSome = false
  rw [Option.isSome_map]
  exact hd

/-- **`scale` is exact up to the largest amount** exactly where no product is taken for a negative number. -/
theorem scale_exact_iff (ha : a.Valid) :
    (∀ d, a.present d = true → (scale a factor).get d = Min.min (a.get d * factor.toNat) INT64_MAX) ↔
      ScaleFits a factor := by
  refine forall₂_congr fun d hd => ?_
  have hprod : 0 ≤ a.get d * factor.toNat := mul_nonneg (ha d).1 (Int.natCast_nonneg _)
  obtain ⟨p, hp⟩ : ∃ p, p = a.get d * factor.toNat := ⟨_, rfl⟩
  rw [get_scale hd, scaleAmount_eq (ha d).1 (ha d).2, ← hp]
  rw [← hp] at hprod
  unfold INT64_MAX
  split
  · omega
  · split <;> omega

/-- **The arithmetic is checked** exactly where a failing `add` or `sub` has changed nothing by the time it
    stops, and no product of `scale` is taken for a negative number. -/
theorem checked_arithmetic_iff (ha : a.Valid) (hb : b.Valid) (factor : UInt64) :
    ArithmeticChecked a b factor ↔ AddAllOrNothing a b ∧ SubAllOrNothing a b ∧ ScaleFits a factor := by
  constructor
  · intro h
    exact ⟨add_unchanged_iff.mp h.add_unchanged, sub_unchanged_iff.mp h.sub_unchanged,
      (scale_exact_iff ha).mp h.scale_exact⟩
  · rintro ⟨hadd, hsub, hscale⟩
    have hexact := (scale_exact_iff ha).mpr hscale
    refine ⟨add_amounts ha hb, sub_amounts ha hb, fun d => ?_, hexact, add_unchanged_iff.mpr hadd,
      sub_unchanged_iff.mpr hsub⟩
    have hmax : 0 ≤ INT64_MAX := by decide
    cases hd : a.present d with
    | false => rw [get_scale_absent hd]; exact ⟨le_refl 0, hmax⟩
    | true =>
      have hprod : 0 ≤ a.get d * factor.toNat := mul_nonneg (ha d).1 (Int.natCast_nonneg _)
      rw [hexact d hd]
      exact ⟨le_min hprod hmax, min_le_right _ _⟩

end Main

/-- A sum that overflows on its first dimension, a difference that underflows there. -/
theorem checked_arithmetic_first :
    (add (fromScalar .acceleratorVRAM INT64_MAX) (fromScalar .acceleratorVRAM 1) false).1 = .overflow ∧
      ArithmeticChecked (fromScalar .acceleratorVRAM INT64_MAX) (fromScalar .acceleratorVRAM 1) 4 :=
  ⟨by decide, (checked_arithmetic_iff (by decide) (by decide) 4).mpr (by decide)⟩

/-- Amounts on the first two dimensions. -/
def onTwo (x y : Int) : ResourceVector := (fromScalar .acceleratorVRAM x).put .pageableHostRAM y

/-- **`2^62` and the largest amount, with 1 and 1 added**: `add` fails on the second dimension and keeps the
    first sum, and twice `2^62` becomes a negative amount. -/
theorem arithmetic_unchecked :
    Valid (onTwo 4611686018427387904 INT64_MAX) ∧ Valid (onTwo 1 1) ∧
      (add (onTwo 4611686018427387904 INT64_MAX) (onTwo 1 1) false).1 = .overflow ∧
      (add (onTwo 4611686018427387904 INT64_MAX) (onTwo 1 1) false).2.get .acceleratorVRAM =
        4611686018427387905 ∧
      (scale (onTwo 4611686018427387904 INT64_MAX) 2).get .acceleratorVRAM = -9223372036854775808 ∧
      ¬ ArithmeticChecked (onTwo 4611686018427387904 INT64_MAX) (onTwo 1 1) 2 := by
  have hscale : (scale (onTwo 4611686018427387904 INT64_MAX) 2).get .acceleratorVRAM =
      -9223372036854775808 := by decide
  refine ⟨by decide, by decide, by decide, by decide, hscale, fun h => ?_⟩
  have hvalid := (h.scale_valid .acceleratorVRAM).1
  rw [hscale] at hvalid
  exact absurd hvalid (by decide)

end ResourceVector

end QuotaFabric
