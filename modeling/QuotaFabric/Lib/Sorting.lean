import Mathlib

/-!
# Sorting by contract

A library sort is known by what it promises only.

* `StrictWeak lt` — the orders a comparison sort may be given;
* `StdSort` — any function that, given such an order, returns a permutation in which no element stands
  before one it should follow; `insertionSort` is one;
* `sort_eq_sort` — where distinct elements are never equivalent, all such functions agree, and the
  order of their input does not matter.
-/

set_option autoImplicit false

/-- A strict weak order. -/
structure StrictWeak {α : Type} (lt : α → α → Bool) : Prop where
  irrefl : ∀ a, lt a a = false
  trans : ∀ {a b c}, lt a b = true → lt b c = true → lt a c = true
  cotrans : ∀ {a b c}, lt a b = false → lt b c = false → lt a c = false

/-- A sort that keeps its promise on strict weak orders. -/
structure StdSort where
  sort : ∀ {α : Type}, (α → α → Bool) → List α → List α
  perm : ∀ {α : Type} {lt : α → α → Bool}, StrictWeak lt → ∀ l, (sort lt l).Perm l
  sorted : ∀ {α : Type} {lt : α → α → Bool}, StrictWeak lt → ∀ l,
    (sort lt l).Pairwise fun a b => lt b a = false

section

variable {α : Type} {lt : α → α → Bool}

/-- What is before the second is not before the first's successors: no two elements are both ways. -/
theorem StrictWeak.asymm (h : StrictWeak lt) {a b : α} (hab : lt a b = true) : lt b a = false := by
  by_contra hba
  have hloop := h.trans hab (by simpa using hba)
  rw [h.irrefl] at hloop
  cases hloop

/-- Insertion sort keeps the promise. -/
def insertionSort : StdSort where
  sort lt l := l.insertionSort fun a b => lt b a = false
  perm _ l := List.perm_insertionSort _ l
  sorted := by
    intro α lt h l
    have htotal : Std.Total fun a b => lt b a = false := ⟨fun a b => by
      cases hba : lt b a with
      | false => exact .inl rfl
      | true => exact .inr (h.asymm hba)⟩
    have htrans : IsTrans α fun a b => lt b a = false := ⟨fun _ _ _ hab hbc => h.cotrans hbc hab⟩
    exact List.pairwise_insertionSort _ l

/-- **Sorted permutations of the same elements are the same**, where distinct elements are never
    equivalent. -/
theorem sort_eq_sort (std std' : StdSort) (h : StrictWeak lt) {l l' : List α} (hperm : l.Perm l')
    (hkey : ∀ a ∈ l, ∀ b ∈ l, lt a b = false → lt b a = false → a = b) :
    std.sort lt l = std'.sort lt l' := by
  apply List.Perm.eq_of_pairwise _ (std.sorted h l) (std'.sorted h l')
  · exact ((std.perm h l).trans hperm).trans (std'.perm h l').symm
  · intro a b ha hb hba hab
    have ha' := (std.perm h l).mem_iff.mp ha
    have hb' := hperm.mem_iff.mpr ((std'.perm h l').mem_iff.mp hb)
    exact hkey a ha' b hb' hab hba

end
