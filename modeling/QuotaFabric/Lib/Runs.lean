import Mathlib

/-!
# Runs of a deterministic machine

A machine is a step function driven by inputs.  `Run step ok s l t` says that `t` is reached
from `s` by the inputs `l`, each of which satisfied the guard `ok` in the state it was given in.

* `Run.invariant` — what one guarded step keeps, a whole run keeps;
* `Run.invariant_hist` — the same for a property that also speaks about the inputs so far;
* `Run.mono` — a run under a stronger guard is a run under a weaker one;
* `Run.monotone`, `Run.no_return` — a key that no step lowers, and one it raised, does not come back;
* `Run.of_check` — where the guard is decidable, a given list of inputs can be checked;
* `Run.always_iff` — what one step keeps exactly under the guard holds all along exactly the guarded runs.
-/

set_option autoImplicit false

variable {σ ι : Type}

/-- Guarded runs, extended at the end. -/
inductive Run (step : σ → ι → σ) (ok : σ → ι → Prop) : σ → List ι → σ → Prop
  | nil (s : σ) : Run step ok s [] s
  | snoc {s t : σ} {l : List ι} {i : ι} (h : Run step ok s l t) (hi : ok t i) :
      Run step ok s (l ++ [i]) (step t i)

namespace Run

variable {step : σ → ι → σ} {ok ok' : σ → ι → Prop} {s t : σ} {l : List ι}

/-- Invariant rule for a property of the state and of the inputs so far. -/
theorem invariant_hist {I : List ι → σ → Prop} (h : Run step ok s l t) (h0 : I [] s)
    (hs : ∀ l t i, I l t → ok t i → I (l ++ [i]) (step t i)) : I l t := by
  induction h with
  | nil => exact h0
  | snoc _ hi ih => exact hs _ _ _ ih hi

/-- Invariant rule. -/
theorem invariant {I : σ → Prop} (h : Run step ok s l t) (h0 : I s)
    (hs : ∀ t i, I t → ok t i → I (step t i)) : I t :=
  h.invariant_hist (I := fun _ t => I t) h0 (fun _ t i => hs t i)

theorem mono (h : Run step ok s l t) (himp : ∀ t i, ok t i → ok' t i) : Run step ok' s l t := by
  induction h with
  | nil => exact .nil s
  | snoc _ hi ih => exact .snoc ih (himp _ _ hi)

theorem monotone {κ : Type} [Preorder κ] {key : σ → κ} (h : Run step ok s l t)
    (hs : ∀ t i, ok t i → key t ≤ key (step t i)) : key s ≤ key t := by
  induction h with
  | nil => exact le_refl _
  | snoc _ hi ih => exact ih.trans (hs _ _ hi)

/-- A run along which a value only grows does not come back to a value it has left. -/
theorem no_return {κ : Type} [PartialOrder κ] {key : σ → κ} {u : σ} {l' : List ι}
    (hs : ∀ t i, ok t i → key t ≤ key (step t i)) (h : Run step ok s l t) (h' : Run step ok t l' u)
    (hne : key t ≠ key s) : key u ≠ key s := by
  intro heq
  have hback : key t ≤ key s := heq ▸ h'.monotone hs
  exact hne (le_antisymm hback (h.monotone hs))

theorem cons {i : ι} (hi : ok s i) (h : Run step ok (step s i) l t) : Run step ok s (i :: l) t := by
  induction h with
  | nil => exact Run.snoc (.nil s) hi
  | snoc _ hj ih => exact ih.snoc hj

/-- Do the inputs satisfy the guard, each in the state it is given in? -/
def check (step : σ → ι → σ) (ok : σ → ι → Prop) [∀ s i, Decidable (ok s i)] : σ → List ι → Bool
  | _, [] => true
  | s, i :: l => decide (ok s i) && check step ok (step s i) l

theorem of_check [∀ s i, Decidable (ok s i)] : ∀ (l : List ι) (s : σ), check step ok s l = true →
    Run step ok s l (l.foldl step s)
  | [], s, _ => .nil s
  | i :: l, s, h => by
    unfold check at h
    rw [Bool.and_eq_true, decide_eq_true_iff] at h
    exact .cons h.1 (of_check l (step s i) h.2)

theorem eq_foldl (h : Run step ok s l t) : t = l.foldl step s := by
  induction h with
  | nil => rfl
  | snoc _ _ ih => rw [List.foldl_append, ← ih, List.foldl_cons, List.foldl_nil]

/-- The last input of a run. -/
theorem of_snoc {i : ι} (h : Run step ok s (l ++ [i]) t) :
    Run step ok s l (l.foldl step s) ∧ ok (l.foldl step s) i := by
  generalize hl : l ++ [i] = l' at h
  cases h with
  | nil => exact absurd hl (by simp)
  | @snoc t' l'' j hrun hj =>
    obtain ⟨rfl, hlast⟩ := List.append_inj' hl rfl
    obtain rfl : i = j := by simpa using hlast
    have ht := hrun.eq_foldl
    exact ⟨ht ▸ hrun, ht ▸ hj⟩

/-- **What one step keeps exactly under the guard holds all along exactly the guarded runs.** -/
theorem always_iff {I : σ → Prop} (h0 : I s) : ∀ l : List ι,
    (∀ t i, i ∈ l → I t → (I (step t i) ↔ ok t i)) →
    ((∀ pre, pre <+: l → I (pre.foldl step s)) ↔ Run step ok s l (l.foldl step s)) := by
  intro l
  induction l using List.reverseRecOn with
  | nil =>
    intro _
    simp only [List.prefix_nil, forall_eq, List.foldl_nil, h0, true_iff]
    exact .nil s
  | append_singleton l i ih =>
    intro hs
    have hprev := ih fun t j hj => hs t j (List.mem_append_left [i] hj)
    have hlast := hs (l.foldl step s) i (by simp)
    rw [List.foldl_append, List.foldl_cons, List.foldl_nil]
    constructor
    · intro hall
      have hrun := hprev.mp fun pre hpre => hall pre (hpre.trans (List.prefix_append l [i]))
      have hnext := hall (l ++ [i]) (List.prefix_refl _)
      rw [List.foldl_append, List.foldl_cons, List.foldl_nil] at hnext
      exact hrun.snoc ((hlast (hall l (List.prefix_append l [i]))).mp hnext)
    · intro hrun pre hpre
      obtain ⟨hrun', hok⟩ := hrun.of_snoc
      have hbefore := hprev.mpr hrun'
      rcases List.prefix_concat_iff.mp hpre with rfl | hpre
      · rw [List.foldl_append, List.foldl_cons, List.foldl_nil]
        exact (hlast (hbefore l (List.prefix_refl l))).mpr hok
      · exact hbefore pre hpre

end Run
