import Mathlib

/-!
# A total split at two thresholds

A total is made up of what lies up to a first threshold, between the two, and above the second.  Where it
grows step by step, what the steps add to a part is what the growth as a whole adds to it.

* `between`, `above` — the parts above the first threshold;
* `parts_add` — the three parts make up the total;
* `growth`, `growths` — what one step, and a list of steps, adds to a part;
* `sum_growths` — a list of steps adds what a single one adds.
-/

set_option autoImplicit false

namespace Tiers

variable {α : Type} [AddCommGroup α] [LinearOrder α]

/-- The part between the thresholds. -/
def between (lo hi x : α) : α := max 0 (min (x - lo) (hi - lo))

/-- The part above a threshold. -/
def above (hi x : α) : α := max 0 (x - hi)

/-- What a part gains when the total goes from `x` to `y`. -/
def growth (part : α → α) (x y : α) : α := max 0 (part y - part x)

/-- What each of a list of steps adds to a part. -/
def growths (part : α → α) : α → List α → List α
  | _, [] => []
  | x, a :: l => growth part x (x + a) :: growths part (x + a) l

theorem growth_nonneg {part : α → α} {x y : α} : 0 ≤ growth part x y := le_max_left _ _

variable [IsOrderedAddMonoid α]

section Parts

variable {lo hi : α}

theorem between_mono : Monotone (between lo hi) := fun _ _ h =>
  max_le_max (le_refl 0) (min_le_min (sub_le_sub_right h lo) (le_refl _))

theorem above_mono : Monotone (above hi) := fun _ _ h => max_le_max (le_refl 0) (sub_le_sub_right h hi)

/-- **The parts make up the total.** -/
theorem parts_add (hle : lo ≤ hi) (x : α) : min x lo + between lo hi x + above hi x = x := by
  unfold between above
  rcases le_total x lo with hx | hx
  · have hlow : min (x - lo) (hi - lo) ≤ 0 := (min_le_left _ _).trans (sub_nonpos.mpr hx)
    rw [min_eq_left hx, max_eq_left hlow, max_eq_left (sub_nonpos.mpr (hx.trans hle)), add_zero, add_zero]
  · rw [min_eq_right hx]
    rcases le_total x hi with hxh | hxh
    · rw [min_eq_left (sub_le_sub_right hxh lo), max_eq_right (sub_nonneg.mpr hx),
        max_eq_left (sub_nonpos.mpr hxh), add_zero, add_sub_cancel]
    · rw [min_eq_right (sub_le_sub_right hxh lo), max_eq_right (sub_nonneg.mpr hle),
        max_eq_right (sub_nonneg.mpr hxh), add_sub_cancel, add_sub_cancel]

end Parts

section Growth

variable {part : α → α} {x y : α}

theorem growth_of_mono (hpart : Monotone part) (h : x ≤ y) : growth part x y = part y - part x :=
  max_eq_right (sub_nonneg.mpr (hpart h))

/-- **Steps that only go up** add to a part what a single step over all of them adds. -/
theorem sum_growths (hpart : Monotone part) : ∀ (l : List α) (x : α), (∀ a ∈ l, 0 ≤ a) →
    (growths part x l).sum = growth part x (x + l.sum)
  | [], x, _ => by
    unfold growths growth
    rw [List.sum_nil, add_zero, sub_self, max_self]
  | a :: l, x, h => by
    obtain ⟨ha, hl⟩ := List.forall_mem_cons.mp h
    have hstep : x ≤ x + a := le_add_of_nonneg_right ha
    have hrest : x + a ≤ x + a + l.sum := le_add_of_nonneg_right (List.sum_nonneg hl)
    unfold growths
    rw [List.sum_cons, List.sum_cons, sum_growths hpart l (x + a) hl, growth_of_mono hpart hstep,
      growth_of_mono hpart hrest, ← add_assoc, growth_of_mono hpart (hstep.trans hrest)]
    abel

end Growth

end Tiers
