import Mathlib

/-!
# Replacing a file by writing beside it and renaming

A file is replaced in four steps: a second file is opened, written, closed, and renamed over the first.
Any of them may fail, and the process may end between any two or in the middle of the writing.  What
reached the disk is what some `Attempt` describes; a process that is killed leaves the files of an
attempt that stopped there.

* `replace_target` — the file has its old content or the whole of the new one;
* `replace_other` — other files keep theirs.
-/

set_option autoImplicit false

/-- What stands under each name. -/
abbrev Files (P β : Type) := P → Option (List β)

namespace AtomicFile

/-- How far one attempt got.  `written` counts the bytes that reached the second file. -/
structure Attempt where
  opened : Bool := true
  written : Nat
  closed : Bool := true
  renamed : Bool := true
  deriving DecidableEq

/-- The new content stands under the name it is meant for. -/
def Attempt.completes (a : Attempt) (length : Nat) : Bool :=
  a.opened && decide (length ≤ a.written) && a.closed && a.renamed

section Replace

variable {P β : Type} [DecidableEq P]

/-- `dst` becomes the file that was `src`. -/
def rename (files : Files P β) (src dst : P) : Files P β :=
  Function.update (Function.update files dst (files src)) src none

/-- One attempt to replace `path` by way of `tmp`. -/
def replace (tmp path : P) (content : List β) (a : Attempt) (files : Files P β) : Files P β :=
  if !a.opened then files
  else
    let files := Function.update files tmp (some (content.take a.written))
    if a.completes content.length then rename files tmp path else files

variable {tmp path p : P} {content : List β} {a : Attempt} {files : Files P β}

/-- **Old or new.** -/
theorem replace_target (h : tmp ≠ path) :
    replace tmp path content a files path =
      if a.completes content.length then some content else files path := by
  unfold replace rename
  cases ho : a.opened with
  | false => simp [Attempt.completes, ho]
  | true =>
    simp only [Bool.not_true, Bool.false_eq_true, if_false]
    cases hc : a.completes content.length with
    | false => simp [Function.update_of_ne h.symm]
    | true =>
      have hwhole : content.length ≤ a.written := by
        unfold Attempt.completes at hc
        simp only [Bool.and_eq_true, decide_eq_true_eq] at hc
        exact hc.1.1.2
      simp [Function.update_of_ne h.symm, List.take_of_length_le hwhole]

/-- Files that are neither replaced nor written beside. -/
theorem replace_other (ht : p ≠ tmp) (hp : p ≠ path) : replace tmp path content a files p = files p := by
  unfold replace rename
  split
  · rfl
  · simp only
    split <;> simp [Function.update_of_ne ht, Function.update_of_ne hp]

end Replace

end AtomicFile
