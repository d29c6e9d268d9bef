import QuotaFabric.Lib.Runs

/-!
# Histories and their replay

A machine of many parts takes its steps in any order.  Some of its steps decide something; what they
decide, in the order of the steps, is the history of a run.  Another machine, which is given one event at
a time, replays the history: it answers each event in a way that agrees with what was decided, and ends in
what the first machine's state stands for.

* `history` — what the steps of a run emit;
* `Replays` — the events of a history, served one at a time;
* `Run.replays` — where every step is replayed, the run is.
-/

set_option autoImplicit false

namespace Replay

variable {σ ι ε α β : Type}

/-- What the steps of a run emit, in order. -/
def history (step : σ → ι → σ) (emits : σ → ι → List ε) : σ → List ι → List ε
  | _, [] => []
  | s, i :: l => emits s i ++ history step emits (step s i) l

theorem history_append {step : σ → ι → σ} {emits : σ → ι → List ε} (l l' : List ι) (s : σ) :
    history step emits s (l ++ l') = history step emits s l ++ history step emits (l.foldl step s) l' := by
  induction l generalizing s with
  | nil => rfl
  | cons i l ih => simp [history, ih]

theorem history_snoc {step : σ → ι → σ} {emits : σ → ι → List ε} (l : List ι) (i : ι) (s : σ) :
    history step emits s (l ++ [i]) = history step emits s l ++ emits (l.foldl step s) i := by
  simp [history_append, history]

/-- Served one at a time from `a`, the events are answered in agreement with themselves and lead to `a'`. -/
def Replays (serve : α → ε → β × α) (agrees : ε → β → Prop) : α → List ε → α → Prop
  | a, [], a' => a = a'
  | a, e :: h, a' => agrees e (serve a e).1 ∧ Replays serve agrees (serve a e).2 h a'

section Replays

variable {serve : α → ε → β × α} {agrees : ε → β → Prop} {a a' a'' : α}

theorem Replays.append : ∀ {h h' : List ε} {a : α}, Replays serve agrees a h a' → Replays serve agrees a' h' a'' →
    Replays serve agrees a (h ++ h') a''
  | [], _, _, hfirst, hrest => by
    cases hfirst
    exact hrest
  | _ :: _, _, _, hfirst, hrest => ⟨hfirst.1, hfirst.2.append hrest⟩

/-- The events of a history that is replayed lead from where it is replayed to where it ends. -/
theorem Replays.foldl : ∀ {h : List ε} {a : α}, Replays serve agrees a h a' →
    h.foldl (fun a e => (serve a e).2) a = a'
  | [], _, hr => hr
  | _ :: _, _, hr => hr.2.foldl

/-- What comes first is replayed first. -/
theorem Replays.split : ∀ {h h' : List ε} {a : α}, Replays serve agrees a (h ++ h') a' →
    ∃ b, Replays serve agrees a h b ∧ Replays serve agrees b h' a'
  | [], _, a, hr => ⟨a, rfl, hr⟩
  | _ :: _, _, _, hr => by
    obtain ⟨b, hfirst, hrest⟩ := hr.2.split
    exact ⟨b, ⟨hr.1, hfirst⟩, hrest⟩

end Replays

/-- **Where every step is replayed, the run is.** -/
theorem Run.replays {step : σ → ι → σ} {ok : σ → ι → Prop} {emits : σ → ι → List ε}
    {serve : α → ε → β × α} {agrees : ε → β → Prop} {abs : σ → α} {I : σ → Prop} {s t : σ} {l : List ι}
    (hrun : Run step ok s l t) (h0 : I s) (hkeep : ∀ s i, I s → ok s i → I (step s i))
    (hstep : ∀ s i, I s → ok s i → Replays serve agrees (abs s) (emits s i) (abs (step s i))) :
    Replays serve agrees (abs s) (history step emits s l) (abs t) := by
  have hall : I t ∧ Replays serve agrees (abs s) (history step emits s l) (abs t) := by
    induction hrun with
    | nil => exact ⟨h0, rfl⟩
    | @snoc t l i hrun hi ih =>
      obtain ⟨hI, hrep⟩ := ih
      refine ⟨hkeep _ _ hI hi, ?_⟩
      rw [history_snoc, ← hrun.eq_foldl]
      exact hrep.append (hstep _ _ hI hi)
  exact hall.2

end Replay
