import Mathlib

/-!
# Walks along a partial function

* `walk next n k` — `n` steps of `next` from `k`, if that many can be made;
* `Acyclic next` — no step sequence returns to where it started;
* `acyclic_iff_walks_end` — over a finite domain, that is the case exactly when no walk is longer
  than the domain;
* `Revisits next k` — the walk from `k` meets some value twice; `not_revisits_of_ends` — then it does
  not end.
-/

set_option autoImplicit false

section

variable {κ : Type} (next : κ → Option κ)

/-- `n` steps from `k`. -/
def walk : Nat → κ → Option κ
  | 0, k => some k
  | n + 1, k => (next k).bind (walk n)

/-- One step. -/
def Steps (a b : κ) : Prop := next a = some b

/-- No step sequence returns to where it started. -/
def Acyclic : Prop := ∀ k, ¬ Relation.TransGen (Steps next) k k

variable {next}

theorem walk_add (m n : Nat) (k : κ) : walk next (m + n) k = (walk next m k).bind (walk next n) := by
  induction m generalizing k with
  | zero => rw [Nat.zero_add]; rfl
  | succ m ih =>
    rw [Nat.succ_add, walk, walk]
    cases next k with
    | none => rfl
    | some k' => exact ih k'

/-- A walk that ends does not go on. -/
theorem walk_eq_none_of_le {m n : Nat} {k : κ} (h : walk next m k = none) (hle : m ≤ n) :
    walk next n k = none := by
  obtain ⟨d, rfl⟩ := Nat.exists_eq_add_of_le hle
  rw [walk_add, h]
  rfl

theorem transGen_of_walk {n : Nat} {a b : κ} (h : walk next (n + 1) a = some b) :
    Relation.TransGen (Steps next) a b := by
  induction n generalizing a with
  | zero =>
    rw [walk, Option.bind_eq_some_iff] at h
    obtain ⟨c, hc, hb⟩ := h
    cases hb
    exact .single hc
  | succ n ih =>
    rw [walk, Option.bind_eq_some_iff] at h
    obtain ⟨c, hc, hb⟩ := h
    exact .head hc (ih hb)

theorem exists_walk_of_transGen {a b : κ} (h : Relation.TransGen (Steps next) a b) :
    ∃ n, walk next (n + 1) a = some b := by
  induction h with
  | single h => exact ⟨0, by rw [walk, show next a = _ from h]; rfl⟩
  | tail _ hc ih =>
    obtain ⟨n, hn⟩ := ih
    refine ⟨n + 1, ?_⟩
    rw [walk_add (n + 1) 1, hn, Option.bind_some, walk, show next _ = _ from hc]
    rfl

/-- Around a cycle one can walk as often as one likes. -/
theorem walk_mul {m : Nat} {k : κ} (h : walk next m k = some k) (j : Nat) :
    walk next (j * m) k = some k := by
  induction j with
  | zero => rw [Nat.zero_mul]; rfl
  | succ j ih => rw [Nat.succ_mul, walk_add, ih, Option.bind_some, h]

/-- **A partial function with a finite domain is acyclic exactly when its walks end within the size of
    the domain.** -/
theorem acyclic_iff_walks_end [DecidableEq κ] {dom : List κ} (hdom : ∀ k, next k ≠ none → k ∈ dom) :
    Acyclic next ↔ ∀ k, walk next (dom.length + 1) k = none := by
  constructor
  · intro hacyclic k
    by_contra hlong
    have hdefined : ∀ i, i ≤ dom.length + 1 → ∃ x, walk next i k = some x := fun i hi =>
      Option.ne_none_iff_exists'.mp fun hnone => hlong (walk_eq_none_of_le hnone hi)
    -- the first positions of the walk all lie in the domain, so two of them coincide
    let x : Nat → κ := fun i => (walk next i k).getD k
    have hx : ∀ i, i ≤ dom.length + 1 → walk next i k = some (x i) := by
      intro i hi
      obtain ⟨y, hy⟩ := hdefined i hi
      show walk next i k = some ((walk next i k).getD k)
      rw [hy]
      rfl
    have hmem : ∀ i ∈ Finset.range (dom.length + 1), x i ∈ dom.toFinset := by
      intro i hi
      rw [Finset.mem_range] at hi
      rw [List.mem_toFinset]
      apply hdom
      intro hnone
      have hnext := hx (i + 1) (by omega)
      rw [walk_add, hx i (by omega), Option.bind_some, walk, hnone] at hnext
      cases hnext
    have hcard : dom.toFinset.card < (Finset.range (dom.length + 1)).card := by
      rw [Finset.card_range]
      exact Nat.lt_succ_of_le dom.toFinset_card_le
    obtain ⟨i, hi, j, hj, hne, heq⟩ := Finset.exists_ne_map_eq_of_card_lt_of_maps_to hcard hmem
    rw [Finset.mem_range] at hi hj
    have hloop : ∀ i j, i < j → j ≤ dom.length + 1 → x i = x j → False := by
      intro i j hlt hle heq
      have hwalk := hx j hle
      have hj : j = i + (j - i - 1 + 1) := by omega
      rw [hj, walk_add, hx i (by omega), Option.bind_some, ← hj, ← heq] at hwalk
      exact hacyclic _ (transGen_of_walk hwalk)
    rcases Nat.lt_or_gt_of_ne hne with h | h
    · exact hloop i j h (by omega) heq
    · exact hloop j i h (by omega) heq.symm
  · intro hends k hcycle
    obtain ⟨n, hn⟩ := exists_walk_of_transGen hcycle
    have hround := walk_mul hn (dom.length + 1)
    have hlong : dom.length + 1 ≤ (dom.length + 1) * (n + 1) := Nat.le_mul_of_pos_right _ (by omega)
    rw [walk_eq_none_of_le (hends k) hlong] at hround
    cases hround

/-! ## Values met twice -/

/-- The walk from `k` meets some value twice. -/
def Revisits (next : κ → Option κ) (k : κ) : Prop :=
  ∃ i j x, i < j ∧ walk next i k = some x ∧ walk next j k = some x

/-- A walk that ends meets no value twice. -/
theorem not_revisits_of_ends {n : Nat} {k : κ} (h : walk next n k = none) : ¬Revisits next k := by
  rintro ⟨i, j, x, hlt, hi, hj⟩
  obtain ⟨m, rfl⟩ := Nat.exists_eq_add_of_le hlt.le
  have hround : walk next m x = some x := by
    rw [walk_add, hi, Option.bind_some] at hj
    exact hj
  -- going round `n` times takes at least `n` steps
  have hlong : walk next (i + n * m) k = some x := by
    rw [walk_add, hi, Option.bind_some, walk_mul hround]
  have hle : n ≤ i + n * m := (Nat.le_mul_of_pos_right n (by omega)).trans (Nat.le_add_left _ _)
  rw [walk_eq_none_of_le h hle] at hlong
  cases hlong

end
