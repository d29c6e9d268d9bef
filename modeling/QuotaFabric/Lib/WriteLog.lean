import Mathlib

/-!
# Logs of writes to named slots

A state whose contents are found in slots, and a log of writes, each of which sets one slot.  Two
writes to the same slot leave the later one.

* `lastWrite` — what a log leaves in a slot;
* `held_foldl` — a slot holds the last write to it, or what it held before;
* `unchanged_iff` — a log changes nothing exactly when each last write is already there;
* `determined_iff` — the state a log leads to does not depend on what was there before exactly when
  every slot in use is written.
-/

set_option autoImplicit false

section

variable {σ κ α : Type} [DecidableEq κ]

/-- The last write of a log to `k`. -/
def lastWrite (slot : α → κ) : List α → κ → Option α
  | [], _ => none
  | a :: log, k => (lastWrite slot log k).or (if slot a = k then some a else none)

theorem lastWrite_eq_none {slot : α → κ} {k : κ} : ∀ {log : List α},
    lastWrite slot log k = none ↔ ∀ a ∈ log, slot a ≠ k
  | [] => by simp [lastWrite]
  | a :: log => by
    have ih : lastWrite slot log k = none ↔ ∀ a ∈ log, slot a ≠ k := lastWrite_eq_none
    rw [lastWrite, Option.or_eq_none_iff, ih, List.forall_mem_cons]
    constructor
    · rintro ⟨h1, h2⟩
      refine ⟨fun h => ?_, h1⟩
      rw [if_pos h] at h2
      cases h2
    · rintro ⟨h1, h2⟩
      exact ⟨h2, if_neg h1⟩

theorem slot_of_lastWrite {slot : α → κ} {k : κ} {a : α} : ∀ {log : List α},
    lastWrite slot log k = some a → a ∈ log ∧ slot a = k
  | [], h => by cases h
  | b :: log, h => by
    rw [lastWrite, Option.or_eq_some_iff] at h
    rcases h with h | ⟨-, h⟩
    · obtain ⟨hm, hs⟩ := slot_of_lastWrite h
      exact ⟨List.mem_cons_of_mem b hm, hs⟩
    · split at h
      · rename_i hs
        cases h
        exact ⟨List.mem_cons_self, hs⟩
      · cases h

theorem lastWrite_append {slot : α → κ} (log log' : List α) (k : κ) :
    lastWrite slot (log ++ log') k = (lastWrite slot log' k).or (lastWrite slot log k) := by
  induction log with
  | nil => rw [List.nil_append, lastWrite, Option.or_none]
  | cons a log ih => rw [List.cons_append, lastWrite, ih, lastWrite, Option.or_assoc]

/-- Where all writes to a slot agree, their number and order do not matter. -/
theorem lastWrite_of_unique {slot : α → κ} {k : κ} {a : α} {log : List α} (ha : a ∈ log)
    (hk : slot a = k) (huniq : ∀ b ∈ log, slot b = k → b = a) : lastWrite slot log k = some a := by
  cases h : lastWrite slot log k with
  | none => exact absurd hk (lastWrite_eq_none.mp h a ha)
  | some b =>
    obtain ⟨hb, hs⟩ := slot_of_lastWrite h
    rw [huniq b hb hs]

variable {slot : α → κ} {held : σ → κ → Option α} {store : σ → α → σ}
  (hstore : ∀ s a k, held (store s a) k = if slot a = k then some a else held s k)

include hstore

theorem held_foldl : ∀ (log : List α) (s : σ) (k : κ),
    held (log.foldl store s) k = (lastWrite slot log k).or (held s k)
  | [], _, _ => rfl
  | a :: log, s, k => by
    rw [List.foldl_cons, held_foldl log, hstore, lastWrite, Option.or_assoc]
    split <;> rfl

/-- **A log changes nothing exactly when each last write is already there.** -/
theorem unchanged_iff {log : List α} {s : σ} :
    (∀ k, held (log.foldl store s) k = held s k) ↔
      ∀ k a, lastWrite slot log k = some a → held s k = some a := by
  constructor
  · intro h k a ha
    have hk := h k
    rw [held_foldl hstore, ha] at hk
    exact hk.symm
  · intro h k
    rw [held_foldl hstore]
    cases ha : lastWrite slot log k with
    | none => rfl
    | some a => exact (h k a ha).symm

/-- **What a log leads to in `k` is the same from a state with nothing in `k` exactly when `k` was
    not in use or is written.** -/
theorem determined_iff {log : List α} {s s₀ : σ} {k : κ} (h₀ : held s₀ k = none) :
    held (log.foldl store s) k = held (log.foldl store s₀) k ↔
      (held s k ≠ none → ∃ a ∈ log, slot a = k) := by
  rw [held_foldl hstore, held_foldl hstore, h₀, Option.or_none]
  cases ha : lastWrite slot log k with
  | none =>
    rw [lastWrite_eq_none] at ha
    constructor
    · intro h hne
      exact absurd h hne
    · intro h
      by_contra hne
      obtain ⟨a, hm, hs⟩ := h hne
      exact ha a hm hs
  | some a =>
    obtain ⟨hm, hs⟩ := slot_of_lastWrite ha
    exact ⟨fun _ _ => ⟨a, hm, hs⟩, fun _ => rfl⟩

end
