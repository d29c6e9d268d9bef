import QuotaFabric.Lib.SparseVec

/-!
# Loops that stop at a cell

A loop over the indices of a vector writes one cell after another, each from what the cell holds, until an
index makes it stop.  What it has written by then stays.

* `writeUntil` — the vector such a loop leaves;
* `loop_eq` — a loop whose rounds look at their own cell only is one;
* `writeUntil_eq_self_iff` — when it leaves the vector as it was.
-/

set_option autoImplicit false

namespace SparseVec

variable {ι A : Type}

/-- The indices the loop gets through. -/
def passed (stops : ι → Bool) (is : List ι) : List ι := is.takeWhile fun i => !stops i

theorem passed_congr {stops stops' : ι → Bool} : ∀ {is : List ι}, (∀ i ∈ is, stops i = stops' i) →
    passed stops is = passed stops' is
  | [], _ => rfl
  | i :: is, h => by
    obtain ⟨hi, his⟩ := List.forall_mem_cons.mp h
    have hrest : is.takeWhile (fun i => !stops i) = is.takeWhile fun i => !stops' i := passed_congr his
    unfold passed
    rw [List.takeWhile_cons, List.takeWhile_cons, hi, hrest]

theorem not_stops_of_mem_passed {stops : ι → Bool} {is : List ι} {i : ι} (h : i ∈ passed stops is) :
    stops i = false := by
  simpa using List.mem_takeWhile_imp h

variable [DecidableEq ι]

/-- Set or unset a cell. -/
def setCell (v : SparseVec ι A) (i : ι) (c : Option A) : SparseVec ι A := ⟨Function.update v.cell i c⟩

theorem setCell_self (v : SparseVec ι A) (i : ι) : v.setCell i (v.cell i) = v := by
  unfold setCell
  rw [Function.update_eq_self]

theorem cell_setCell_ne (v : SparseVec ι A) {i j : ι} (c : Option A) (h : j ≠ i) :
    (v.setCell i c).cell j = v.cell j := by
  simp [setCell, h]

/-- The vector that is left when the cells are written in turn up to the first index that stops. -/
def writeUntil (stops : ι → Bool) (new : ι → Option A) (is : List ι) (v : SparseVec ι A) : SparseVec ι A :=
  ⟨fun i => if i ∈ passed stops is then new i else v.cell i⟩

section

variable {stops : ι → Bool} {new : ι → Option A} {i : ι} {is : List ι} {v w : SparseVec ι A}

@[simp] theorem writeUntil_nil : writeUntil stops new [] v = v := rfl

/-- The loop stops before it writes. -/
theorem writeUntil_stop (hi : stops i = true) : writeUntil stops new (i :: is) v = v := by
  unfold writeUntil passed
  rw [List.takeWhile_cons_of_neg (by simpa using hi)]
  rfl

/-- A round that writes a cell which is not met again. -/
theorem writeUntil_go (hi : stops i = false) (hnot : i ∉ is) :
    writeUntil stops new (i :: is) v = writeUntil stops new is (v.setCell i (new i)) := by
  unfold writeUntil passed
  rw [List.takeWhile_cons_of_pos (by simpa using hi)]
  ext1
  funext j
  by_cases hj : j = i
  · subst hj
    have hlater : j ∉ is.takeWhile fun k => !stops k := fun hmem =>
      hnot ((List.takeWhile_sublist _).mem hmem)
    simp [hlater, setCell]
  · simp [List.mem_cons, hj, setCell]

/-- Only the indices of the list matter. -/
theorem writeUntil_congr {stops' : ι → Bool} {new' : ι → Option A} (hstops : ∀ i ∈ is, stops i = stops' i)
    (hnew : ∀ i ∈ is, new i = new' i) : writeUntil stops new is v = writeUntil stops' new' is v := by
  unfold writeUntil
  rw [passed_congr hstops]
  ext1
  funext i
  by_cases hi : i ∈ passed stops' is
  · simp only [hi, if_true]
    exact hnew i ((List.takeWhile_sublist _).mem hi)
  · simp only [hi, if_false]

/-- **A loop whose rounds look at their own cell only** ends with one status or the other, and has written
    the cells up to the first index that stops it. -/
theorem loop_eq {σ : Type} {ok stopped : σ} (loop : List ι → SparseVec ι A → σ × SparseVec ι A)
    (stops : SparseVec ι A → ι → Bool) (new : SparseVec ι A → ι → Option A) (hnil : ∀ v, loop [] v = (ok, v))
    (hstop : ∀ i is v, stops v i = true → loop (i :: is) v = (stopped, v))
    (hgo : ∀ i is v, stops v i = false → loop (i :: is) v = loop is (v.setCell i (new v i)))
    (hlocal : ∀ v w i, v.cell i = w.cell i → stops v i = stops w i ∧ new v i = new w i) :
    ∀ (is : List ι) (v : SparseVec ι A), is.Nodup →
      loop is v = (if is.any (stops v) then stopped else ok, writeUntil (stops v) (new v) is v)
  | [], v, _ => hnil v
  | i :: is, v, hnd => by
    obtain ⟨hnot, hnd⟩ := List.nodup_cons.mp hnd
    cases hi : stops v i with
    | true =>
      rw [hstop i is v hi, writeUntil_stop hi, List.any_cons, hi]
      rfl
    | false =>
      -- what is written on `i` is not read again
      have hsame : ∀ j ∈ is, stops (v.setCell i (new v i)) j = stops v j ∧
          new (v.setCell i (new v i)) j = new v j := fun j hj =>
        hlocal _ _ j (cell_setCell_ne v _ fun h => hnot (h ▸ hj))
      have hany : is.any (stops (v.setCell i (new v i))) = is.any (stops v) := by
        rw [Bool.eq_iff_iff, List.any_eq_true, List.any_eq_true]
        exact exists_congr fun j => and_congr_right fun hj => by rw [(hsame j hj).1]
      rw [hgo i is v hi, loop_eq loop stops new hnil hstop hgo hlocal is _ hnd, hany, List.any_cons, hi, Bool.false_or,
        writeUntil_go hi hnot,
        writeUntil_congr (fun j hj => (hsame j hj).1) fun j hj => (hsame j hj).2]

/-- **The vector is as it was** exactly where every cell passed is rewritten with what it held. -/
theorem writeUntil_eq_self_iff :
    writeUntil stops new is v = v ↔ ∀ i ∈ passed stops is, new i = v.cell i := by
  constructor
  · intro h i hi
    have hcell : (writeUntil stops new is v).cell i = new i := if_pos hi
    rw [← hcell, h]
  · intro h
    ext1
    funext i
    show (if i ∈ passed stops is then new i else v.cell i) = v.cell i
    split
    · rename_i hi
      exact h i hi
    · rfl

end

end SparseVec
