import Mathlib

/-!
# Vectors with optional cells

A vector over an index type whose cells may be unset.  An unset cell reads as `0` but is not
the same thing as a stored `0`: the difference is what a limit table needs in order to tell
"no limit" from "a limit of nothing".

* `SparseVec ι A` with `get` (value, unset reads `0`) and `present`;
* exact addition: unset is the neutral cell, so the vectors form a commutative monoid
  (transported from `ι → WithZero A`);
* `getHom` — reading one cell is additive, so it commutes with sums of any length.
-/

set_option autoImplicit false

/-- A vector of optional cells. -/
@[ext]
structure SparseVec (ι A : Type) where
  cell : ι → Option A

namespace SparseVec

variable {ι A : Type}

/-- Is the cell set? -/
def present (v : SparseVec ι A) (i : ι) : Bool := (v.cell i).isSome

/-- Value of a cell; an unset cell reads as zero. -/
def get [Zero A] (v : SparseVec ι A) (i : ι) : A := (v.cell i).getD 0

/-- Store a value in a cell. -/
def put [DecidableEq ι] (v : SparseVec ι A) (i : ι) (x : A) : SparseVec ι A :=
  ⟨Function.update v.cell i (some x)⟩

/-- The vector with no cell set. -/
def empty : SparseVec ι A := ⟨fun _ => none⟩

instance : Inhabited (SparseVec ι A) := ⟨empty⟩

@[simp] theorem present_empty (i : ι) : (empty : SparseVec ι A).present i = false := rfl

@[simp] theorem get_empty [Zero A] (i : ι) : (empty : SparseVec ι A).get i = 0 := rfl

theorem get_of_not_present [Zero A] {v : SparseVec ι A} {i : ι} (h : v.present i = false) :
    v.get i = 0 := by
  unfold present at h
  unfold get
  rw [Option.isSome_eq_false_iff, Option.isNone_iff_eq_none] at h
  rw [h]; rfl

theorem cell_of_present [Zero A] {v : SparseVec ι A} {i : ι} (h : v.present i = true) :
    v.cell i = some (v.get i) := by
  unfold present at h
  obtain ⟨x, hx⟩ := Option.isSome_iff_exists.mp h
  rw [get, hx]; rfl

/-- A vector is determined by its set cells and its values. -/
theorem ext_get [Zero A] {v w : SparseVec ι A} (hp : ∀ i, v.present i = w.present i)
    (hg : ∀ i, v.get i = w.get i) : v = w := by
  ext1
  funext i
  cases h : v.present i with
  | true => rw [cell_of_present h, cell_of_present ((hp i).symm.trans h), hg i]
  | false =>
    have hw := (hp i).symm.trans h
    unfold present at h hw
    rw [Option.isSome_eq_false_iff, Option.isNone_iff_eq_none] at h hw
    rw [h, hw]

section Put

variable [DecidableEq ι]

@[simp] theorem get_put_self [Zero A] (v : SparseVec ι A) (i : ι) (x : A) : (v.put i x).get i = x := by
  simp [get, put]

theorem get_put_ne [Zero A] (v : SparseVec ι A) {i j : ι} (x : A) (h : j ≠ i) :
    (v.put i x).get j = v.get j := by
  simp [get, put, h]

@[simp] theorem present_put_self (v : SparseVec ι A) (i : ι) (x : A) : (v.put i x).present i = true := by
  simp [present, put]

theorem present_put_ne (v : SparseVec ι A) {i j : ι} (x : A) (h : j ≠ i) :
    (v.put i x).present j = v.present j := by
  simp [present, put, h]

end Put

/-! ## Exact addition -/

/-- The cells of a vector, as elements of the monoid with an adjoined zero. -/
def toWithZero : SparseVec ι A ≃ (ι → WithZero A) where
  toFun v := v.cell
  invFun f := ⟨f⟩
  left_inv _ := rfl
  right_inv _ := rfl

instance [AddCommSemigroup A] : AddCommMonoid (SparseVec ι A) := toWithZero.addCommMonoid

theorem zero_eq_empty [AddCommSemigroup A] : (0 : SparseVec ι A) = empty := rfl

section Add

variable [AddCommMonoid A]

@[simp] theorem get_zero (i : ι) : (0 : SparseVec ι A).get i = 0 := rfl

@[simp] theorem present_zero (i : ι) : (0 : SparseVec ι A).present i = false := rfl

theorem cell_add (v w : SparseVec ι A) (i : ι) :
    (v + w).cell i = (match v.cell i, w.cell i with
      | none, y => y
      | some x, none => some x
      | some x, some y => some (x + y)) := by
  change (toWithZero v i + toWithZero w i : WithZero A) = _
  change WithZero.instAdd.add (toWithZero v i) (toWithZero w i) = _
  cases hv : v.cell i with
  | none => rw [show toWithZero v i = none from hv]; exact zero_add _
  | some x =>
    rw [show toWithZero v i = some x from hv]
    cases hw : w.cell i with
    | none => rw [show toWithZero w i = none from hw]; rfl
    | some y => rw [show toWithZero w i = some y from hw]; rfl

@[simp] theorem get_add (v w : SparseVec ι A) (i : ι) : (v + w).get i = v.get i + w.get i := by
  unfold get
  rw [cell_add]
  cases v.cell i <;> cases w.cell i <;> simp

@[simp] theorem present_add (v w : SparseVec ι A) (i : ι) :
    (v + w).present i = (v.present i || w.present i) := by
  unfold present
  rw [cell_add]
  cases v.cell i <;> cases w.cell i <;> rfl

/-- Reading one cell, as an additive map. -/
def getHom (i : ι) : SparseVec ι A →+ A where
  toFun v := v.get i
  map_zero' := get_zero i
  map_add' v w := get_add v w i

theorem get_sum (l : List (SparseVec ι A)) (i : ι) : l.sum.get i = (l.map (·.get i)).sum :=
  map_list_sum (getHom i) l

end Add

end SparseVec
