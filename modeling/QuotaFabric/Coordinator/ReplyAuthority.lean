import QuotaFabric.Coordinator.Service
import QuotaFabric.Engine.EventLog

/-!
# The authority in the responses

A response carries the epoch and the quota generation its thread reads, one after the other, after the
request was decided.  Clients adopt them for their next request.

* `Stage.proceed_engine` — a thread changes the engine through its public calls only;
* `Connection.Fresh` — what a connection's responses show, against the engine and its own requests;
* `replies_never_go_back` — in every run without a wrap of the counters every connection is fresh.
-/

set_option autoImplicit false

namespace QuotaFabric

open AList
open Protocol (WireResponse)

/-! ## Engine calls -/

theorem answer_eq_exec (env : Env) (s : Engine) (q : WireRequest) :
    (answer env s q).2 = s ∨ ∃ call, (answer env s q).2 = (s.exec env call).2 := by
  cases hcall : q.call with
  | some call => exact .inr ⟨call, answer_engine env s hcall⟩
  | none =>
    left
    unfold WireRequest.call at hcall
    unfold answer
    cases htype : q.type <;> simp_all

/-- **A thread changes the engine through its public calls only.** -/
theorem Stage.proceed_engine (env : Env) (sh : Shared) (st : Stage) :
    (st.proceed env sh).2.engine = sh.engine ∨
      ∃ call, (st.proceed env sh).2.engine = (sh.engine.exec env call).2 := by
  cases st with
  | received q =>
    simp only [proceed]
    split
    · exact .inl rfl
    · exact .inl rfl
    · exact .inr ⟨.advanceEpoch, rfl⟩
    · split
      · exact .inl rfl
      · split <;> exact .inl rfl
  | epochCompared q =>
    simp only [proceed]
    split <;> exact .inl rfl
  | generationCompared q =>
    simp only [proceed]
    split <;> exact .inl rfl
  | checked q =>
    simp only [proceed]
    split
    · split <;> exact .inl rfl
    · exact answer_eq_exec env sh.engine q
  | identified q => exact answer_eq_exec env sh.engine q
  | _ => exact .inl rfl

/-! ## What responses show -/

/-- The engine is not behind an epoch and a generation. -/
def Engine.Reached (s : Engine) (epoch : CoordinatorEpoch) (generation : QuotaGeneration) : Prop :=
  epoch.value ≤ s.epoch.value ∧ generation.value ≤ s.quotaGeneration.value

/-- The later response does not show an older authority.  What does not decode is answered without one. -/
def NotBack (x y : Sent) : Prop :=
  x.response.epoch.value ≤ y.response.epoch.value ∧
      x.response.quotaGeneration.value ≤ y.response.quotaGeneration.value ∨
    ∃ what, y.response = Reply.malformed what

/-- An accepted request whose authority was checked is answered with one that is not older. -/
def Renews (f : Frame) (x : Sent) : Prop :=
  ∀ q, arrival f = some (.ok q) → q.call.isSome = true → x.response.ok = true →
    q.auth.epoch.value ≤ x.response.epoch.value ∧ q.auth.quotaGeneration.value ≤ x.response.quotaGeneration.value

namespace Stage

/-- The request a thread holds. -/
def request : Stage → Option WireRequest
  | .waiting => none
  | .received q => some q
  | .epochCompared q => some q
  | .generationCompared q => some q
  | .checked q => some q
  | .identified q => some q
  | .pinged q _ => some q
  | .answered q _ => some q
  | .epochRead q _ => some q
  | .generationRead q _ => some q

/-- What a thread knows of the authorities at its stage, when it has sent `sent`. -/
def Knows (s : Engine) (sent : List Sent) : Stage → Prop
  | .epochCompared q => q.auth.epoch.value ≤ s.epoch.value
  | .generationCompared q => s.Reached q.auth.epoch q.auth.quotaGeneration
  | .checked q => s.Reached q.auth.epoch q.auth.quotaGeneration
  | .identified q => s.Reached q.auth.epoch q.auth.quotaGeneration
  | .pinged q _ => q.call = none
  | .answered q r => q.call.isSome = true → r.ok = true → s.Reached q.auth.epoch q.auth.quotaGeneration
  | .epochRead q r =>
    r.epoch.value ≤ s.epoch.value ∧ (∀ x ∈ sent, x.response.epoch.value ≤ r.epoch.value) ∧
      (q.call.isSome = true → r.ok = true →
        q.auth.epoch.value ≤ r.epoch.value ∧ q.auth.quotaGeneration.value ≤ s.quotaGeneration.value)
  | .generationRead q r =>
    s.Reached r.epoch r.quotaGeneration ∧
      (∀ x ∈ sent, x.response.epoch.value ≤ r.epoch.value ∧
        x.response.quotaGeneration.value ≤ r.quotaGeneration.value) ∧
      (q.call.isSome = true → r.ok = true →
        q.auth.epoch.value ≤ r.epoch.value ∧ q.auth.quotaGeneration.value ≤ r.quotaGeneration.value)
  | _ => True

end Stage

/-- No response shows more than the engine has reached, none shows less than one before it, and none less
    than the accepted request it answers. -/
structure Connection.Fresh (s : Engine) (x : Connection) : Prop where
  notAhead : ∀ y ∈ x.sent, s.Reached y.response.epoch y.response.quotaGeneration
  sorted : x.sent.Pairwise NotBack
  renews : List.Forall₂ Renews (x.taken.take x.sent.length) x.sent

/-- A connection's frames: those answered, then the one its thread holds. -/
structure Connection.Steady (s : Engine) (x : Connection) : Prop where
  notAhead : ∀ y ∈ x.sent, s.Reached y.response.epoch y.response.quotaGeneration
  sorted : x.sent.Pairwise NotBack
  held : ∃ done, List.Forall₂ Renews done x.sent ∧
    match x.stage.request with
    | none => x.taken = done
    | some q => ∃ f, x.taken = done ++ [f] ∧ arrival f = some (.ok q)
  knows : x.stage.Knows s x.sent

section Steady

variable {s s' : Engine} {x : Connection}

theorem Engine.Reached.mono {e : CoordinatorEpoch} {g : QuotaGeneration} (h : s.Reached e g)
    (hle : s'.Reached s.epoch s.quotaGeneration) : s'.Reached e g :=
  ⟨UInt64.le_trans h.1 hle.1, UInt64.le_trans h.2 hle.2⟩

theorem Stage.Knows.mono {st : Stage} {sent : List Sent} (h : st.Knows s sent)
    (hle : s'.Reached s.epoch s.quotaGeneration) : st.Knows s' sent := by
  cases st with
  | epochCompared q => exact UInt64.le_trans h hle.1
  | generationCompared q => exact Engine.Reached.mono h hle
  | checked q => exact Engine.Reached.mono h hle
  | identified q => exact Engine.Reached.mono h hle
  | pinged q epoch => exact h
  | answered q r => exact fun hq hr => Engine.Reached.mono (h hq hr) hle
  | epochRead q r =>
    refine ⟨UInt64.le_trans h.1 hle.1, h.2.1, fun hq hr => ?_⟩
    obtain ⟨he, hg⟩ := h.2.2 hq hr
    exact ⟨he, UInt64.le_trans hg hle.2⟩
  | generationRead q r => exact ⟨Engine.Reached.mono h.1 hle, h.2⟩
  | _ => trivial

/-- What other threads do to the engine disturbs no connection. -/
theorem Connection.Steady.mono (h : x.Steady s) (hle : s'.Reached s.epoch s.quotaGeneration) : x.Steady s' where
  notAhead y hy := (h.notAhead y hy).mono hle
  sorted := h.sorted
  held := h.held
  knows := h.knows.mono hle

theorem Connection.Steady.fresh (h : x.Steady s) : x.Fresh s := by
  refine ⟨h.notAhead, h.sorted, ?_⟩
  obtain ⟨done, hdone, hheld⟩ := h.held
  rw [← hdone.length_eq]
  split at hheld
  · rw [hheld, List.take_length]
    exact hdone
  · obtain ⟨f, htaken, -⟩ := hheld
    rw [htaken, List.take_left]
    exact hdone

theorem Connection.Steady.receive (h : x.Steady s) (hwait : x.stage = .waiting) (f : Frame) :
    (x.receive f).Steady s := by
  obtain ⟨done, hdone, hheld⟩ := h.held
  rw [hwait] at hheld
  have htaken : x.taken = done := hheld
  unfold Connection.receive
  cases hf : arrival f with
  | none => exact h
  | some a =>
    cases a with
    | error what =>
      refine ⟨fun y hy => ?_, ?_, ⟨done ++ [f], ?_, ?_⟩, ?_⟩
      · rcases List.mem_append.mp hy with hy | hy
        · exact h.notAhead y hy
        · rw [List.mem_singleton.mp hy]
          exact ⟨UInt64.zero_le, UInt64.zero_le⟩
      · refine List.pairwise_append.mpr ⟨h.sorted, List.pairwise_singleton .., fun y _ z hz => ?_⟩
        rw [List.mem_singleton.mp hz]
        exact .inr ⟨what, rfl⟩
      · refine List.rel_append hdone (.cons (fun q hq => ?_) .nil)
        rw [hf] at hq
        cases hq
      · simp only [hwait, Stage.request, htaken]
      · simp only [hwait]
        trivial
    | ok q =>
      refine ⟨h.notAhead, h.sorted, ⟨done, hdone, f, ?_, hf⟩, trivial⟩
      simp only [htaken]

end Steady

/-! ## A thread's own step -/

section Own

variable {sh : Shared} {x : Connection} {st : Stage} {sent : List Sent}

/-- No step of a thread takes the engine back. -/
theorem Stage.proceed_reached (env : Env) (h : sh.engine.Unwrapped) (st : Stage) :
    (st.proceed env sh).2.engine.Reached sh.engine.epoch sh.engine.quotaGeneration := by
  rcases st.proceed_engine env sh with hsame | ⟨call, hcall⟩
  · rw [hsame]
    exact ⟨UInt64.le_refl _, UInt64.le_refl _⟩
  · rw [hcall]
    exact Engine.exec_not_back env h call

theorem Stage.Knows.call {env : Env} {q : WireRequest} (h : sh.engine.Reached q.auth.epoch q.auth.quotaGeneration)
    (hle : (Stage.call env sh q).2.engine.Reached sh.engine.epoch sh.engine.quotaGeneration) :
    (Stage.call env sh q).1.Knows (Stage.call env sh q).2.engine sent :=
  fun _ _ => Engine.Reached.mono h hle

theorem value_le_of_eq {tag : GenerationTag} {g g' : Generation tag} (h : g = g') : g.value ≤ g'.value :=
  h ▸ UInt64.le_refl _

/-- **What a thread knows after its own step.** -/
theorem Stage.Knows.proceed (env : Env) (h : st.Knows sh.engine sent) (hun : sh.engine.Unwrapped)
    (hsent : ∀ y ∈ sent, sh.engine.Reached y.response.epoch y.response.quotaGeneration) :
    (st.proceed env sh).1.Knows (st.proceed env sh).2.engine sent := by
  have hle := st.proceed_reached env hun
  cases st with
  | received q =>
    simp only [Stage.proceed]
    split
    · rename_i htype
      simp [Stage.Knows, WireRequest.call, htype]
    · rename_i htype
      simp [Stage.Knows, WireRequest.call, htype]
    · rename_i htype
      simp [Stage.Knows, WireRequest.call, htype]
    · split
      · rename_i hcall
        intro hsome
        simp [Option.isNone_iff_eq_none.mp hcall] at hsome
      · split
        · exact fun _ hok => by cases hok
        · rename_i hepoch
          exact value_le_of_eq (not_not.mp hepoch)
  | epochCompared q =>
    simp only [Stage.proceed]
    split
    · exact fun _ hok => by cases hok
    · rename_i hgen
      exact ⟨h, value_le_of_eq (not_not.mp hgen)⟩
  | generationCompared q =>
    simp only [Stage.proceed]
    split
    · exact fun _ hok => by cases hok
    · exact h
  | checked q =>
    simp only [Stage.proceed] at hle ⊢
    split
    · split
      · exact h
      · exact fun _ hok => by cases hok
    · rename_i htype
      rw [if_neg htype] at hle
      exact Stage.Knows.call h hle
  | identified q => exact Stage.Knows.call h hle
  | pinged q epoch =>
    intro hsome
    rw [show q.call = none from h] at hsome
    cases hsome
  | answered q r =>
    refine ⟨UInt64.le_refl _, fun y hy => (hsent y hy).1, fun hq hr => ?_⟩
    exact h hq hr
  | epochRead q r =>
    obtain ⟨hepoch, hprev, hreq⟩ := h
    exact ⟨⟨hepoch, UInt64.le_refl _⟩, fun y hy => ⟨hprev y hy, (hsent y hy).2⟩, hreq⟩
  | _ => trivial

theorem request_of_undecided {q : WireRequest} (h : st.undecided = [q]) : st.request = some q := by
  cases st with
  | waiting | answered | epochRead | generationRead => cases h
  | _ => simpa [Stage.request, Stage.undecided] using h

/-- **A thread's own step.** -/
theorem Connection.Steady.proceed (env : Env) (h : x.Steady sh.engine) (hun : sh.engine.Unwrapped) :
    (x.proceed env sh).1.Steady (x.proceed env sh).2.engine := by
  have hstep := x.stage.proceeds env sh
  have hle := x.stage.proceed_reached env hun
  have hknows := h.knows.proceed env hun h.notAhead
  obtain ⟨done, hdone, hheld⟩ := h.held
  unfold Connection.proceed
  obtain ⟨stage, correlation, taken, sent⟩ := x
  simp only at *
  generalize (stage.proceed env sh).1 = st' at *
  generalize (stage.proceed env sh).2 = sh' at *
  have hsame : ∀ (q : WireRequest), stage.sends sh = none → stage.request = some q → st'.request = some q →
      Connection.Steady sh'.engine
        ⟨st', correlation, taken, sent ++ (stage.sends sh).toList.map fun resp => ⟨correlation, resp⟩⟩ := by
    intro q hs hr hr'
    rw [hs, Option.toList_none, List.map_nil, List.append_nil]
    refine ⟨fun y hy => (h.notAhead y hy).mono hle, h.sorted, ⟨done, hdone, ?_⟩, hknows⟩
    rw [hr] at hheld
    simp only [hr']
    exact hheld
  cases hstep with
  | idle =>
    simp only [Stage.sends, Option.toList_none, List.map_nil, List.append_nil]
    exact h
  | @looked _ _ q hq hq' =>
    exact hsame q (Stage.undecided_only hq sh).2.1 (request_of_undecided hq) (request_of_undecided hq')
  | @decided _ q r _ hq => exact hsame q (Stage.undecided_only hq sh).2.1 (request_of_undecided hq) rfl
  | readEpoch q r => exact hsame q rfl rfl rfl
  | readGeneration q r => exact hsame q rfl rfl rfl
  | sent q r =>
    -- the response joins those sent before it
    obtain ⟨hreach, hprev, hreq⟩ := h.knows
    obtain ⟨f, htaken, hf⟩ := hheld
    simp only [Stage.sends, Option.toList_some, List.map_cons, List.map_nil]
    refine ⟨fun y hy => ?_, ?_, ⟨done ++ [f], ?_, htaken⟩, trivial⟩
    · rcases List.mem_append.mp hy with hy | hy
      · exact h.notAhead y hy
      · rw [List.mem_singleton.mp hy]
        exact hreach
    · refine List.pairwise_append.mpr ⟨h.sorted, List.pairwise_singleton .., fun y hy z hz => ?_⟩
      rw [List.mem_singleton.mp hz]
      exact .inl (hprev y hy)
    · refine List.rel_append hdone (.cons (fun q' hq' hsome hok => ?_) .nil)
      rw [hf] at hq'
      cases hq'
      exact hreq hsome hok

end Own

namespace Service

variable {c : Service} {m : Nat × ThreadMove}

theorem next_steady (hun : c.shared.engine.Unwrapped) (hc : ∀ i, (c.connection i).Steady c.shared.engine) :
    ∀ i, ((c.next m).connection i).Steady (c.next m).shared.engine := by
  intro i
  unfold next
  cases m.2 with
  | receive f =>
    simp only
    split
    · rename_i hwait
      rw [connection_put]
      split
      · exact (hc m.1).receive (Stage.eq_waiting hwait) f
      · exact hc i
    · exact hc i
  | proceed env =>
    simp only
    rw [connection_put]
    split
    · exact (hc m.1).proceed env hun
    · exact (hc i).mono ((c.connection m.1).stage.proceed_reached env hun)

/-- **Responses never go back.**  Whatever the threads do, in whatever order, while neither counter wraps:
    the epochs and quota generations a connection is shown never decrease and are never ahead of the
    engine, and an accepted request is never answered with an older authority than its own. -/
theorem replies_never_go_back {sh : Shared} {l : List (Nat × ThreadMove)}
    (hrun : Run next (fun c _ => c.shared.engine.Unwrapped) { shared := sh } l c) (i : Nat) :
    (c.connection i).Fresh c.shared.engine := by
  have hempty : ∀ i, (({ shared := sh } : Service).connection i).Steady sh.engine :=
    fun i => ⟨fun _ hy => absurd hy List.not_mem_nil, .nil, ⟨[], .nil, rfl⟩, trivial⟩
  have hall : ∀ i, (c.connection i).Steady c.shared.engine :=
    hrun.invariant (I := fun c : Service => ∀ i, (c.connection i).Steady c.shared.engine) hempty
      fun _ _ hc hun => next_steady hun hc
  exact (hall i).fresh

/-- Two pings on one connection, an `ADVANCE_EPOCH` on another in between. -/
def twoPings : List (Nat × ThreadMove) :=
  (1, .receive (shortFrame 1 .ping {})) :: List.replicate 5 (1, .proceed {}) ++
  (2, .receive (shortFrame 2 .advanceEpoch {})) :: List.replicate 4 (2, .proceed {}) ++
  (1, .receive (shortFrame 3 .ping {})) :: List.replicate 5 (1, .proceed {})

theorem replies_never_go_back_twoPings :
    ((twoPings.foldl next {}).connection 1).sent.map (fun x => x.response.epoch.value) = [1, 2] ∧
      ((twoPings.foldl next {}).connection 1).Fresh (twoPings.foldl next {}).shared.engine := by
  have hrun : Run next (fun c _ => c.shared.engine.Unwrapped) { shared := {} } twoPings (twoPings.foldl next {}) :=
    Run.of_check _ _ (by decide +kernel)
  exact ⟨by decide +kernel, replies_never_go_back hrun 1⟩

end Service

end QuotaFabric
