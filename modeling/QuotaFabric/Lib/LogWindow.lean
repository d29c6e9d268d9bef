import Mathlib

/-!
# Logs that keep their last entries

A machine appends to a log and drops the oldest entries beyond a bound.  If no operation reads the log,
the bound changes nothing but the log itself, and the log is always the end of one unbounded trail.

* `push`, `push_push` — appending and cutting; cutting at every append is cutting once;
* `Writes`, `Appends` — what an operation appends, whatever the log and its bound were;
* `Appends.run` — the same for a sequence of operations.

`put k es s` is the state `s` with the log `es` and the bound `size k`.
-/

set_option autoImplicit false

namespace LogWindow

section Cut

variable {ε : Type} {n : Nat}

theorem rtake_of_length_le {xs : List ε} (h : xs.length ≤ n) : xs.rtake n = xs := by
  unfold List.rtake
  rw [Nat.sub_eq_zero_of_le h, List.drop_zero]

theorem length_rtake (n : Nat) (xs : List ε) : (xs.rtake n).length = min n xs.length := by
  unfold List.rtake
  rw [List.length_drop]
  omega

/-- **Cutting at every append is cutting once.** -/
theorem rtake_append_rtake (n : Nat) (xs ys : List ε) : (xs.rtake n ++ ys).rtake n = (xs ++ ys).rtake n := by
  have hcut : xs.rtake n ++ ys = (xs ++ ys).drop (xs.length - n) := by
    unfold List.rtake
    rw [List.drop_append_of_le_length (Nat.sub_le _ _)]
  rw [hcut]
  unfold List.rtake
  rw [List.drop_drop]
  congr 1
  simp only [List.length_drop, List.length_append]
  omega

/-- The log `es` after `new` was appended, one entry at a time or all at once. -/
def push (n : Nat) (es : List ε) : List ε → List ε
  | [] => es
  | e :: new => (es ++ e :: new).rtake n

theorem push_push (n : Nat) (es new new' : List ε) : push n (push n es new) new' = push n es (new ++ new') := by
  cases new with
  | nil => rfl
  | cons e new =>
    cases new' with
    | nil => rw [List.append_nil]; rfl
    | cons e' new' =>
      show ((es ++ e :: new).rtake n ++ e' :: new').rtake n = (es ++ e :: (new ++ e' :: new')).rtake n
      rw [rtake_append_rtake, List.append_assoc, List.cons_append]

/-- A log within its bound is cut whether or not there is something to append. -/
theorem push_of_length_le {es : List ε} (h : es.length ≤ n) (new : List ε) :
    push n es new = (es ++ new).rtake n := by
  cases new with
  | nil => rw [List.append_nil, rtake_of_length_le h]; rfl
  | cons e new => rfl

end Cut

section Operations

variable {σ ι α β ε κ : Type} (put : κ → List ε → σ → σ) (size : κ → Nat)

/-- Whatever the log and its bound, `f` appends `new` and changes the rest in the same way. -/
def Writes (f : σ → σ) (s : σ) (new : List ε) : Prop :=
  ∀ k es, f (put k es s) = put k (push (size k) es new) (f s)

/-- The same for an operation with a result, which depends on neither. -/
def Appends (f : σ → α × σ) (s : σ) (new : List ε) : Prop :=
  ∀ k es, f (put k es s) = ((f s).1, put k (push (size k) es new) (f s).2)

variable {put size}

/-- An operation that leaves the log where it is. -/
theorem Writes.of_commutes {f : σ → σ} {s : σ} (h : ∀ k es, f (put k es s) = put k es (f s)) :
    Writes put size f s [] := h

theorem Writes.trans {f g : σ → σ} {s : σ} {new new' : List ε} (hf : Writes put size f s new)
    (hg : Writes put size g (f s) new') : Writes put size (fun s => g (f s)) s (new ++ new') := by
  intro k es
  show g (f (put k es s)) = _
  rw [hf, hg, push_push]

/-- The results of operations made one after another. -/
def results (step : σ → ι → α × σ) : σ → List ι → List α
  | _, [] => []
  | s, i :: l => (step s i).1 :: results step (step s i).2 l

/-- **The bound of the log shows nowhere but in the log**: every sequence of operations has one trail;
    whatever the log and its bound were, the results are the same, and so is the state reached, up to the
    log, to which the trail was appended. -/
theorem Appends.run {step : σ → ι → α × σ} (h : ∀ s i, ∃ new, Appends put size (fun s => step s i) s new) :
    ∀ (l : List ι) (s : σ), ∃ trail, ∀ k es,
      results step (put k es s) l = results step s l ∧
      l.foldl (fun s i => (step s i).2) (put k es s) =
        put k (push (size k) es trail) (l.foldl (fun s i => (step s i).2) s) := by
  intro l
  induction l with
  | nil => exact fun s => ⟨[], fun k es => ⟨rfl, rfl⟩⟩
  | cons i l ih =>
    intro s
    obtain ⟨new, hnew⟩ := h s i
    obtain ⟨trail, htrail⟩ := ih (step s i).2
    refine ⟨new ++ trail, fun k es => ?_⟩
    have hstep : step (put k es s) i = ((step s i).1, put k (push (size k) es new) (step s i).2) := hnew k es
    obtain ⟨hout, hlast⟩ := htrail k (push (size k) es new)
    refine ⟨?_, ?_⟩
    · unfold results
      rw [hstep, hout]
    · rw [List.foldl_cons, List.foldl_cons, hstep, hlast, push_push]

end Operations

end LogWindow
