import QuotaFabric.Coordinator.Service

/-!
# The threads against a server that serves one request at a time

Between the first comparison of a request's authority and its engine call other threads may act.  While
no step replaces a part of the authority that another thread has compared and will not look at again, the
threads together are as good as one: the requests were served one after another, each at the moment its
response was decided.

* `needsEpoch`, `needsGeneration` — the types whose call does not notice that part being replaced;
* `Stage.unaffected`, `Service.Calm` — the guard;
* `linearizable` — a run of such steps is replayed by `serveAlone`;
* `observation_registered` — an accepted observation carries the boot identity its agent registered last.
-/

set_option autoImplicit false

namespace QuotaFabric

open AList Replay
open Protocol (WireResponse responseFrom)

/-! ## What a thread relies on -/

/-- The types whose answer only reads. -/
def isQuery : MessageType → Bool
  | .evaluate => true
  | .recallDecision => true
  | .envelope => true
  | _ => false

def needsEpoch (t : MessageType) : Bool := reliesOnEpoch t || isQuery t

def needsGeneration (t : MessageType) : Bool := reliesOnGeneration t || isQuery t

namespace Stage

/-- The part of the authority a step replaces. -/
def change (sh : Shared) : Stage → Change
  | .received q =>
    match q.type with
    | .hello => .boot q.agentId q.agentBoot
    | .advanceEpoch => .epoch
    | _ => .none
  | .checked q => if Coordinator.storesQuota sh.engine q then .generation else .none
  | .identified q => if Coordinator.storesQuota sh.engine q then .generation else .none
  | _ => .none

/-- A thread that has not compared what is replaced, or will compare it again. -/
def unaffected : Change → Stage → Bool
  | .epoch, .epochCompared q => !needsEpoch q.type
  | .epoch, .generationCompared q => !needsEpoch q.type
  | .epoch, .checked q => !needsEpoch q.type
  | .epoch, .identified q => !needsEpoch q.type
  | .epoch, .pinged _ _ => false
  | .generation, .generationCompared q => !needsGeneration q.type
  | .generation, .checked q => !needsGeneration q.type
  | .generation, .identified q => !needsGeneration q.type
  | .boot agent boot, .identified q => decide (q.observation.agent ≠ agent ∨ q.observation.boot = boot)
  | _, _ => true

end Stage

namespace Service

def change (c : Service) (m : Nat × ThreadMove) : Change :=
  match m.2 with
  | .receive _ => .none
  | .proceed _ => (c.connection m.1).stage.change c.shared

/-- The step replaces nothing that another thread has compared and will not look at again. -/
def Calm (c : Service) (m : Nat × ThreadMove) : Prop :=
  ∀ e ∈ c.connections.entries, e.1 ≠ m.1 → e.2.stage.unaffected (c.change m) = true

instance (c : Service) (m : Nat × ThreadMove) : Decidable (c.Calm m) :=
  inferInstanceAs (Decidable (∀ e ∈ c.connections.entries, _))

end Service

/-! ## Requests that are up to date -/

/-- The request passes every check at this moment. -/
structure Shared.Accepts (sh : Shared) (q : WireRequest) : Prop where
  epoch : sh.engine.epoch = q.auth.epoch
  generation : sh.engine.quotaGeneration = q.auth.quotaGeneration
  policy : sh.engine.policy.generation = q.auth.policyGeneration
  boot : q.type = .observe → sh.identifies q = true

/-- A response that says what the other says, or refuses as the other does. -/
def Agrees (r r' : WireResponse) : Prop := r.ok = r'.ok ∧ (r'.ok = true → r = r')

theorem Agrees.refl (r : WireResponse) : Agrees r r := ⟨rfl, fun _ => rfl⟩

theorem Agrees.refused {r r' : WireResponse} (h : r.ok = false) (h' : r'.ok = false) : Agrees r r' :=
  ⟨h.trans h'.symm, fun hok => by rw [h'] at hok; cases hok⟩

section Served

variable {env : Env} {sh : Shared} {q : WireRequest}

theorem checkAuthority_eq (hepoch : sh.engine.epoch = q.auth.epoch)
    (hgen : sh.engine.quotaGeneration = q.auth.quotaGeneration)
    (hpol : sh.engine.policy.generation = q.auth.policyGeneration) : sh.engine.checkAuthority q = .success := by
  unfold Engine.checkAuthority
  simp [hepoch, hgen, hpol]

theorem checkAndAnswer_accepted (h : sh.Accepts q) :
    sh.checkAndAnswer env q =
      ((answer env sh.engine q).1, { sh with engine := (answer env sh.engine q).2 }) := by
  unfold Shared.checkAndAnswer
  rw [checkAuthority_eq h.epoch h.generation h.policy]
  have hboot : ¬ (q.type = .observe ∧ sh.identifies q = false) := by
    rintro ⟨ho, hf⟩
    rw [h.boot ho] at hf
    cases hf
  simp only [QuotaStatus.success, Bool.not_true, Bool.false_eq_true, if_false, if_neg hboot]

theorem checkAndAnswer_refused (env : Env) (h : ¬ sh.Accepts q) :
    (sh.checkAndAnswer env q).2 = sh ∧ (sh.checkAndAnswer env q).1.ok = false := by
  unfold Shared.checkAndAnswer
  cases hok : (sh.engine.checkAuthority q).ok with
  | false => simp [hok, responseFrom]
  | true =>
    obtain ⟨he, hg, hp⟩ := Coordinator.checkAuthority_ok hok
    have hboot : q.type = .observe ∧ sh.identifies q = false := by
      by_contra hno
      refine h ⟨he, hg, hp, fun ho => ?_⟩
      by_contra hf
      exact hno ⟨ho, by simpa using hf⟩
    simp [hok, hboot, Reply.staleBoot, responseFrom, QuotaStatus.failure]

/-- The types with an engine call are served through the checks. -/
theorem serveAlone_served (h : q.call.isSome = true) : serveAlone env sh (.ok q) = sh.checkAndAnswer env q := by
  unfold serveAlone
  unfold WireRequest.call at h
  cases htype : q.type <;> simp_all [WireRequest.call]

theorem serveAlone_unserved (h : q.call = none) (hhello : q.type ≠ .hello) (hping : q.type ≠ .ping)
    (hadvance : q.type ≠ .advanceEpoch) : serveAlone env sh (.ok q) = (Reply.unsupported, sh) := by
  unfold serveAlone
  simp [h]

end Served

/-! ## What a step leaves of the authority -/

/-- `sh'` differs from `sh` in the part `ch` of the authority at most. -/
structure Shared.Leaves (sh sh' : Shared) (ch : Change) : Prop where
  epoch : ch ≠ .epoch → sh'.engine.epoch = sh.engine.epoch
  generation : ch ≠ .generation → sh'.engine.quotaGeneration = sh.engine.quotaGeneration
  policy : sh'.engine.policy = sh.engine.policy
  agents : sh'.agents = sh.agents ∨ ∃ a b, ch = .boot a b ∧ sh'.agents = sh.agents.insert a b

theorem Shared.Leaves.refl (sh : Shared) (ch : Change) : sh.Leaves sh ch :=
  ⟨fun _ => rfl, fun _ => rfl, rfl, .inl rfl⟩

/-- A type without an engine call has none to answer with. -/
theorem answer_none (env : Env) (s : Engine) {q : WireRequest} (h : q.call = none) :
    answer env s q = (Reply.unsupported, s) := by
  unfold WireRequest.call at h
  unfold answer
  cases htype : q.type <;> simp_all

theorem call_leaves (env : Env) (sh : Shared) (q : WireRequest) :
    sh.Leaves (Stage.call env sh q).2 (if Coordinator.storesQuota sh.engine q then .generation else .none) := by
  unfold Stage.call
  cases hcall : q.call with
  | none =>
    rw [answer_none env sh.engine hcall]
    exact .refl sh _
  | some call =>
    simp only [answer_engine env sh.engine hcall]
    obtain ⟨he, hp⟩ := Coordinator.exec_epoch_policy env sh.engine hcall
    refine ⟨fun _ => he, fun hne => ?_, hp, .inl rfl⟩
    cases hq : Coordinator.storesQuota sh.engine q with
    | false => exact congrArg Controls.quotaGeneration (Coordinator.controls_exec env hcall hq)
    | true => exact absurd (if_pos hq) hne

/-- **What a thread's step leaves of the authority.** -/
theorem Stage.proceed_leaves (env : Env) (sh : Shared) (st : Stage) :
    sh.Leaves (st.proceed env sh).2 (st.change sh) := by
  cases st with
  | received q =>
    simp only [proceed, change]
    cases htype : q.type with
    | hello => exact ⟨fun _ => rfl, fun _ => rfl, rfl, .inr ⟨_, _, rfl, rfl⟩⟩
    | advanceEpoch => exact ⟨fun h => absurd rfl h, fun _ => rfl, rfl, .inl rfl⟩
    | _ =>
      simp only
      repeat' split
      all_goals exact .refl sh _
  | checked q =>
    simp only [proceed, change]
    split
    · split <;> exact .refl sh _
    · exact call_leaves env sh q
  | identified q => exact call_leaves env sh q
  | epochCompared q =>
    simp only [proceed]
    split <;> exact .refl sh _
  | generationCompared q =>
    simp only [proceed]
    split <;> exact .refl sh _
  | _ => exact .refl sh _

/-! ## Threads past a comparison -/

/-- What a thread has compared and relies on. -/
structure Compared (sh : Shared) (q : WireRequest) : Prop where
  served : q.call.isSome = true
  epoch : needsEpoch q.type = true → sh.engine.epoch = q.auth.epoch

structure Checked (sh : Shared) (q : WireRequest) : Prop extends Compared sh q where
  generation : needsGeneration q.type = true → sh.engine.quotaGeneration = q.auth.quotaGeneration

/-- What a thread may rely on at its stage. -/
def Stage.Ok (sh : Shared) : Stage → Prop
  | .epochCompared q => Compared sh q
  | .generationCompared q => Checked sh q
  | .checked q => Checked sh q ∧ sh.engine.policy.generation = q.auth.policyGeneration
  | .identified q =>
    Checked sh q ∧ sh.engine.policy.generation = q.auth.policyGeneration ∧ q.type = .observe ∧
      sh.identifies q = true
  | .pinged q epoch => q.type = .ping ∧ epoch = sh.engine.epoch
  | _ => True

section Keep

variable {sh sh' : Shared} {ch : Change} {q : WireRequest}

theorem Compared.keep (h : Compared sh q) (hleaves : sh.Leaves sh' ch)
    (hun : ch = .epoch → needsEpoch q.type = false) : Compared sh' q := by
  refine ⟨h.served, fun hn => ?_⟩
  rw [hleaves.epoch fun hch => by rw [hun hch] at hn; cases hn]
  exact h.epoch hn

theorem Checked.keep (h : Checked sh q) (hleaves : sh.Leaves sh' ch)
    (hun : ch = .epoch → needsEpoch q.type = false) (hun' : ch = .generation → needsGeneration q.type = false) :
    Checked sh' q := by
  refine ⟨h.toCompared.keep hleaves hun, fun hn => ?_⟩
  rw [hleaves.generation fun hch => by rw [hun' hch] at hn; cases hn]
  exact h.generation hn

theorem identifies_keep (h : sh.identifies q = true) (hleaves : sh.Leaves sh' ch)
    (hun : ∀ a b, ch = .boot a b → q.observation.agent ≠ a ∨ q.observation.boot = b) :
    sh'.identifies q = true := by
  unfold Shared.identifies at *
  rw [decide_eq_true_iff] at *
  rcases hleaves.agents with hsame | ⟨a, b, hch, hins⟩
  · rw [hsame]
    exact h
  · rw [hins]
    rcases hun a b hch with hne | hb
    · rw [lookup_insert_ne hne]
      exact h
    · by_cases ha : q.observation.agent = a
      · rw [ha, hb, lookup_insert]
      · rw [lookup_insert_ne ha]
        exact h

/-- A thread that is not affected by a step keeps what it relies on. -/
theorem Stage.Ok.keep {st : Stage} (h : st.Ok sh) (hleaves : sh.Leaves sh' ch)
    (hun : st.unaffected ch = true) : st.Ok sh' := by
  cases st with
  | epochCompared q =>
    refine Compared.keep h hleaves fun hch => ?_
    simpa [hch, Stage.unaffected] using hun
  | generationCompared q =>
    refine Checked.keep h hleaves (fun hch => ?_) fun hch => ?_
    all_goals simpa [hch, Stage.unaffected] using hun
  | checked q =>
    refine ⟨h.1.keep hleaves (fun hch => ?_) fun hch => ?_, ?_⟩
    · simpa [hch, Stage.unaffected] using hun
    · simpa [hch, Stage.unaffected] using hun
    · rw [hleaves.policy]
      exact h.2
  | identified q =>
    obtain ⟨hq, hpol, htype, hboot⟩ := h
    refine ⟨hq.keep hleaves (fun hch => ?_) fun hch => ?_, ?_, htype, identifies_keep hboot hleaves fun a b hch => ?_⟩
    · simpa [hch, Stage.unaffected] using hun
    · simpa [hch, Stage.unaffected] using hun
    · rw [hleaves.policy]
      exact hpol
    · simpa [hch, Stage.unaffected] using hun
  | pinged q epoch =>
    refine ⟨h.1, h.2.trans (hleaves.epoch fun hch => ?_).symm⟩
    simp [hch, Stage.unaffected] at hun
  | _ => trivial

/-- What a thread may rely on after its own step. -/
theorem Stage.Ok.proceed {st : Stage} (h : st.Ok sh) (env : Env) : (st.proceed env sh).1.Ok (st.proceed env sh).2 := by
  cases st with
  | received q =>
    simp only [Stage.proceed]
    split
    · trivial
    · rename_i htype
      exact ⟨htype, rfl⟩
    · trivial
    · split
      · trivial
      · rename_i hcall
        split
        · trivial
        · rename_i hepoch
          exact ⟨by simpa [Option.isSome_iff_ne_none] using hcall, fun _ => (not_not.mp hepoch).symm⟩
  | epochCompared q =>
    simp only [Stage.proceed]
    split
    · trivial
    · rename_i hgen
      exact ⟨h, fun _ => (not_not.mp hgen).symm⟩
  | generationCompared q =>
    simp only [Stage.proceed]
    split
    · trivial
    · rename_i hpol
      exact ⟨h, (not_not.mp hpol).symm⟩
  | checked q =>
    simp only [Stage.proceed]
    split
    · rename_i htype
      split
      · rename_i hboot
        exact ⟨h.1, h.2, htype, hboot⟩
      · trivial
    · trivial
  | _ => trivial

end Keep

/-! ## Overtaken calls -/

section Overtaken

variable {s : Engine} {q : WireRequest} {call : Call}

theorem validAuthority_stale {auth : Authority} (h : s.epoch ≠ auth.epoch ∨ s.quotaGeneration ≠ auth.quotaGeneration) :
    s.validAuthority auth = false := by
  by_contra hv
  simp only [Engine.validAuthority, Bool.not_eq_false, Bool.and_eq_true, beq_iff_eq] at hv
  rcases h with he | hg
  · exact he hv.1.1.symm
  · exact hg hv.1.2.symm

theorem staleEpoch_of_ne {auth : Authority} (h : s.epoch ≠ auth.epoch) : s.staleEpoch auth = true := by
  unfold Engine.staleEpoch
  simpa using fun heq : auth.epoch = s.epoch => h heq.symm

theorem staleQuotaGen_of_ne {auth : Authority} (h : s.quotaGeneration ≠ auth.quotaGeneration) :
    s.staleQuotaGen auth = true := by
  unfold Engine.staleQuotaGen
  simpa using fun heq : auth.quotaGeneration = s.quotaGeneration => h heq.symm

/-- **A call that was overtaken where its type allows it fails and changes nothing.** -/
theorem exec_overtaken (env : Env) (hcall : q.call = some call)
    (h : needsEpoch q.type = false ∧ s.epoch ≠ q.auth.epoch ∨
      needsGeneration q.type = false ∧ s.quotaGeneration ≠ q.auth.quotaGeneration) :
    Engine.Fenced env s call := by
  have hstale : s.epoch ≠ q.auth.epoch ∨ s.quotaGeneration ≠ q.auth.quotaGeneration := h.imp (·.2) (·.2)
  unfold WireRequest.call at hcall
  cases htype : q.type
  all_goals simp only [htype, Option.some.injEq, reduceCtorEq] at hcall
  all_goals subst hcall
  all_goals rw [htype] at h
  case reserve => exact Engine.reserve_fenced env (validAuthority_stale hstale) _ _
  case startAllocation => exact Engine.startAllocation_fenced env (validAuthority_stale hstale) _ _
  case borrow => exact Engine.borrow_fenced env (validAuthority_stale hstale) _ _
  case lend => exact Engine.lend_fenced env (validAuthority_stale hstale) _ _ _
  case commitReservation =>
    refine (Engine.commitReservation_fenced_iff env s q.auth q.reservation).mpr ?_
    rcases hstale with he | hg
    · exact .inl (staleEpoch_of_ne he)
    · exact .inr (.inl (staleQuotaGen_of_ne hg))
  case release =>
    rcases h with ⟨-, he⟩ | ⟨hn, -⟩
    · exact (Engine.release_fenced_iff env s q.auth q.reservation).mpr (.inl (staleEpoch_of_ne he))
    · cases hn
  case recallBorrow =>
    rcases h with ⟨-, he⟩ | ⟨hn, -⟩
    · exact (Engine.recallBorrow_fenced_iff env s q.auth q.borrow).mpr (.inl (staleEpoch_of_ne he))
    · cases hn
  case releaseAllocation =>
    rcases h with ⟨hn, -⟩ | ⟨-, hg⟩
    · cases hn
    · exact (Engine.releaseAllocation_fenced_iff env s q.auth q.allocation).mpr (.inl (staleQuotaGen_of_ne hg))
  all_goals
    rcases h with ⟨hn, -⟩ | ⟨hn, -⟩
    all_goals cases hn

end Overtaken

/-! ## One step against the server -/

section Step

variable {env : Env} {sh : Shared} {q : WireRequest} {r : WireResponse}

/-- What a refusal is to the server, when the request is not up to date. -/
theorem replays_refused (env : Env) (hserved : q.call.isSome = true) (h : ¬ sh.Accepts q) (hr : r.ok = false) :
    (serveAlone env sh (.ok q)).2 = sh ∧ Agrees r (serveAlone env sh (.ok q)).1 := by
  rw [serveAlone_served hserved]
  obtain ⟨hsame, hrefused⟩ := checkAndAnswer_refused env h
  exact ⟨hsame, .refused hr hrefused⟩

/-- **The engine call is what the server does**: with everything up to date it is the same call, and else
    both refuse. -/
theorem replays_call (hq : Checked sh q) (hpol : sh.engine.policy.generation = q.auth.policyGeneration)
    (hboot : q.type = .observe → sh.identifies q = true) :
    (serveAlone env sh (.ok q)).2 = (Stage.call env sh q).2 ∧
      Agrees (answer env sh.engine q).1 (serveAlone env sh (.ok q)).1 := by
  by_cases hacc : sh.Accepts q
  · rw [serveAlone_served hq.served, checkAndAnswer_accepted hacc]
    exact ⟨rfl, .refl _⟩
  · obtain ⟨call, hcall⟩ := Option.isSome_iff_exists.mp hq.served
    -- only a part that the call compares itself can have been replaced
    have hover : needsEpoch q.type = false ∧ sh.engine.epoch ≠ q.auth.epoch ∨
        needsGeneration q.type = false ∧ sh.engine.quotaGeneration ≠ q.auth.quotaGeneration := by
      by_cases he : sh.engine.epoch = q.auth.epoch
      · refine .inr ⟨?_, fun hg => hacc ⟨he, hg, hpol, hboot⟩⟩
        by_contra hn
        exact hacc ⟨he, hq.generation (by simpa using hn), hpol, hboot⟩
      · refine .inl ⟨?_, he⟩
        by_contra hn
        exact he (hq.epoch (by simpa using hn))
    obtain ⟨hfail, hsame⟩ := exec_overtaken env hcall hover
    obtain ⟨hserve, hagree⟩ := replays_refused env hq.served hacc (answer_failed env sh.engine hcall hfail)
    refine ⟨hserve.trans ?_, hagree⟩
    unfold Stage.call
    simp only [answer_engine env sh.engine hcall, hsame]

/-- **What a step decides, the server answers.** -/
theorem Stage.Ok.replays {st : Stage} (h : st.Ok sh) (hq : st.undecided = [q])
    (hdec : (st.proceed env sh).1 = .answered q r) :
    (serveAlone env sh (.ok q)).2 = (st.proceed env sh).2 ∧ Agrees r (serveAlone env sh (.ok q)).1 := by
  cases st with
  | received q' =>
    cases hq
    simp only [Stage.proceed] at hdec ⊢
    split at hdec
    · rename_i htype
      cases hdec
      simp only [serveAlone, htype]
      exact ⟨trivial, .refl _⟩
    · cases hdec
    · rename_i htype
      cases hdec
      simp only [serveAlone, htype]
      exact ⟨trivial, .refl _⟩
    · rename_i hhello hping hadvance
      split at hdec
      · rename_i hcall
        cases hdec
        rw [serveAlone_unserved (by simpa using hcall) hhello hping hadvance]
        simp only [hcall, if_true]
        exact ⟨trivial, .refl _⟩
      · rename_i hcall
        split at hdec
        · rename_i hepoch
          cases hdec
          rw [if_neg hcall, if_pos hepoch]
          exact replays_refused env (by simpa [Option.isSome_iff_ne_none] using hcall)
            (fun hacc => hepoch hacc.epoch.symm) rfl
        · cases hdec
  | epochCompared q' =>
    cases hq
    simp only [Stage.proceed] at hdec ⊢
    split at hdec
    · rename_i hgen
      cases hdec
      rw [if_pos hgen]
      exact replays_refused env h.served (fun hacc => hgen hacc.generation.symm) rfl
    · cases hdec
  | generationCompared q' =>
    cases hq
    simp only [Stage.proceed] at hdec ⊢
    split at hdec
    · rename_i hpol
      cases hdec
      rw [if_pos hpol]
      exact replays_refused env h.served (fun hacc => hpol hacc.policy.symm) rfl
    · cases hdec
  | checked q' =>
    cases hq
    simp only [Stage.proceed] at hdec ⊢
    split at hdec
    · rename_i htype
      split at hdec
      · cases hdec
      · rename_i hboot
        cases hdec
        rw [if_pos htype, if_neg hboot]
        exact replays_refused env h.1.served (fun hacc => hboot (hacc.boot htype)) rfl
    · rename_i htype
      cases hdec
      rw [if_neg htype]
      exact replays_call h.1 h.2 fun ho => absurd ho htype
  | identified q' =>
    cases hq
    cases hdec
    exact replays_call h.1 h.2.1 fun _ => h.2.2.2
  | pinged q' epoch =>
    cases hq
    obtain ⟨htype, rfl⟩ := h
    cases hdec
    simp only [serveAlone, htype]
    exact ⟨rfl, .refl _⟩
  | _ => cases hq

end Step

/-! ## Runs -/

def Served.serve (sh : Shared) (e : Served) : WireResponse × Shared := serveAlone e.env sh e.arrival

def Served.Agrees (e : Served) (r : WireResponse) : Prop := QuotaFabric.Agrees e.response r

/-- The server replays what a thread's step decides. -/
theorem Stage.Ok.replays_decided {st : Stage} {sh : Shared} (hok : st.Ok sh) (env : Env) (i : Nat) :
    Replays Served.serve Served.Agrees sh
      (if st.undecided.isEmpty then []
        else (st.proceed env sh).1.decided.map fun d =>
          { thread := i, env := env, arrival := .ok d.1, response := d.2 })
      (st.proceed env sh).2 := by
  have hstep := st.proceeds env sh
  obtain ⟨st', hst'⟩ : ∃ st', (st.proceed env sh).1 = st' := ⟨_, rfl⟩
  obtain ⟨sh', hsh'⟩ : ∃ sh', (st.proceed env sh).2 = sh' := ⟨_, rfl⟩
  rw [hst', hsh'] at hstep
  rw [hst', hsh']
  cases hstep with
  | @looked _ _ q hq hq' =>
    rw [hq, (Stage.undecided_only hq' sh).1]
    rfl
  | @decided _ q r _ hq =>
    rw [hq]
    obtain ⟨hserve, hagree⟩ := hok.replays hq hst'
    rw [hsh'] at hserve
    exact ⟨hagree, hserve⟩
  | _ => rfl

namespace Service

variable {c : Service} {m : Nat × ThreadMove}

/-- Every thread may rely on what it has compared. -/
def Guarded (c : Service) : Prop := ∀ i, (c.connection i).stage.Ok c.shared

theorem next_leaves (c : Service) (m : Nat × ThreadMove) : c.shared.Leaves (c.next m).shared (c.change m) := by
  unfold next change
  cases m.2 with
  | receive f =>
    simp only
    split <;> exact .refl _ _
  | proceed env => exact Stage.proceed_leaves env c.shared _

theorem receive_ok {x : Connection} (hx : x.stage.Ok c.shared) (f : Frame) : (x.receive f).stage.Ok c.shared := by
  unfold Connection.receive
  split
  · exact hx
  · exact hx
  · trivial

theorem next_guarded (hcalm : c.Calm m) (hc : c.Guarded) : (c.next m).Guarded := by
  intro i
  by_cases hi : i = m.1
  · subst hi
    unfold next
    cases m.2 with
    | receive f =>
      simp only
      split
      · rw [connection_put, if_pos rfl]
        exact receive_ok (hc m.1) f
      · exact hc m.1
    | proceed env =>
      simp only [connection_put, if_true]
      exact (hc m.1).proceed env
  · rw [next_other hi]
    refine (hc i).keep (next_leaves c m) ?_
    cases hx : c.connections.lookup i with
    | none =>
      unfold connection
      rw [hx]
      unfold Stage.unaffected
      split <;> simp_all
    | some x =>
      have hun := hcalm ⟨i, x⟩ (lookup_eq_some_iff.mp hx) hi
      unfold connection
      rw [hx]
      exact hun

/-- **The server replays a step.** -/
theorem next_replays (hc : c.Guarded) :
    Replays Served.serve Served.Agrees c.shared (c.decides m) (c.next m).shared := by
  unfold decides next
  cases m.2 with
  | receive f =>
    simp only
    split
    · split
      · exact ⟨.refl _, rfl⟩
      · rfl
    · rfl
  | proceed env => exact (hc m.1).replays_decided env m.1

theorem linear_history {sh : Shared} {c : Service} {l : List (Nat × ThreadMove)}
    (hrun : Run next Calm { shared := sh } l c) :
    Replays Served.serve Served.Agrees sh (history { shared := sh } l) c.shared :=
  @Run.replays _ _ _ _ _ next Calm decides Served.serve Served.Agrees shared Guarded _ _ _ hrun
    (fun _ => trivial) (fun _ _ hc hok => next_guarded hok hc) fun _ _ hc _ => next_replays hc

/-- **The threads together are as good as one.**  While every step leaves alone what other threads have
    compared and will not look at again, a run of the threads is a run of a server that serves one request
    at a time: from the same state it serves the requests in the order they were decided in, ends in the
    same state and gives the same responses, where a refusal may be worded otherwise.  At every moment of
    the run each connection has got its part of the responses decided by then, so a request that arrived
    after another was answered is served after it. -/
theorem linearizable {sh : Shared} {c : Service} {l : List (Nat × ThreadMove)}
    (hrun : Run next Calm { shared := sh } l c) :
    Replays Served.serve Served.Agrees sh (history { shared := sh } l) c.shared ∧
    ∀ l₁ l₂, l = l₁ ++ l₂ → history { shared := sh } l₁ <+: history { shared := sh } l ∧
      ∀ i, ((l₁.foldl next { shared := sh }).connection i).Answers (of i (history { shared := sh } l₁)) := by
  refine ⟨linear_history hrun, fun l₁ l₂ hl => ⟨?_, fun i => answered_so_far sh l₁ i⟩⟩
  rw [hl]
  exact ⟨_, (history_append l₁ l₂ _).symm⟩

/-! ## An overtaken reservation -/

def currentAuthority : Authority := { epoch := .initial, quotaGeneration := .initial }

/-- Thread `1` has compared the authority of a reservation when thread `2` advances the epoch; the
    reservation is refused by the engine call. -/
def overtaken : List (Nat × ThreadMove) :=
  [(1, .receive (shortFrame 10 .reserve currentAuthority)),
   (1, .proceed {}), (1, .proceed {}), (1, .proceed {}),
   (2, .receive (shortFrame 20 .advanceEpoch {})),
   (2, .proceed {}),
   (1, .proceed {}), (1, .proceed {}), (2, .proceed {}), (1, .proceed {}), (1, .proceed {})]

theorem linearizable_overtaken :
    (history {} overtaken).map (fun e => (e.thread, e.response.ok)) = [(2, true), (1, false)] ∧
    Replays Served.serve Served.Agrees {} (history {} overtaken) (overtaken.foldl next {}).shared ∧
    ∀ l₁ l₂, overtaken = l₁ ++ l₂ → history {} l₁ <+: history {} overtaken ∧
      ∀ i, ((l₁.foldl next {}).connection i).Answers (of i (history {} l₁)) := by
  have hrun : Run next Calm { shared := {} } overtaken (overtaken.foldl next {}) :=
    Run.of_check _ _ (by decide +kernel)
  exact ⟨by decide +kernel, linearizable hrun⟩

/-! ## Observations -/

end Service

/-- The agent and the boot identity a `HELLO` registers. -/
def registration : Arrival → Option (AgentId × AgentBootId)
  | .ok q => if q.type = .hello then some (q.agentId, q.agentBoot) else none
  | .error _ => none

def register (agents : UMap AgentId AgentBootId) (p : AgentId × AgentBootId) : UMap AgentId AgentBootId :=
  agents.insert p.1 p.2

/-- The registrations of a history, oldest first. -/
def registrations (h : List Served) : List (AgentId × AgentBootId) := h.filterMap fun e => registration e.arrival

section Registrations

variable (env : Env) (sh : Shared)

theorem checkAndAnswer_agents (q : WireRequest) : (sh.checkAndAnswer env q).2.agents = sh.agents := by
  unfold Shared.checkAndAnswer
  simp only
  split
  · rfl
  · split <;> rfl

theorem serveAlone_agents (a : Arrival) :
    (serveAlone env sh a).2.agents = (registration a).toList.foldl register sh.agents := by
  cases a with
  | error what => rfl
  | ok q =>
    unfold serveAlone registration
    simp only
    split
    · rename_i htype
      rw [if_pos htype]
      rfl
    · rename_i htype
      rw [if_neg (by rw [htype]; decide)]
      rfl
    · rename_i htype
      rw [if_neg (by rw [htype]; decide)]
      rfl
    · rename_i hhello _ _
      rw [if_neg hhello]
      split
      · exact checkAndAnswer_agents env sh q
      · rfl

/-- The registered agents after a history. -/
theorem agents_foldl (h : List Served) : ∀ sh : Shared,
    (h.foldl (fun sh e => (e.serve sh).2) sh).agents = (registrations h).foldl register sh.agents := by
  induction h with
  | nil => exact fun _ => rfl
  | cons e h ih =>
    intro sh
    have hsplit : registrations (e :: h) = (registration e.arrival).toList ++ registrations h := by
      unfold registrations
      cases hr : registration e.arrival <;> simp [hr]
    have hserve : (e.serve sh).2.agents = (registration e.arrival).toList.foldl register sh.agents :=
      serveAlone_agents e.env sh e.arrival
    rw [List.foldl_cons, ih, hsplit, List.foldl_append, hserve]

theorem lookup_register (agents : UMap AgentId AgentBootId) (p : AgentId × AgentBootId) (a : AgentId) :
    ((register agents p).lookup a).map (fun b => (a, b)) =
      if p.1 = a then some p else (agents.lookup a).map fun b => (a, b) := by
  unfold register
  by_cases h : p.1 = a
  · subst h
    simp
  · rw [if_neg h, lookup_insert_ne (Ne.symm h)]

/-- An observation is accepted from the registered boot identity only. -/
theorem identifies_of_accepted {env : Env} {sh : Shared} {q : WireRequest} (htype : q.type = .observe)
    (hok : (serveAlone env sh (.ok q)).1.ok = true) : sh.identifies q = true := by
  by_contra hno
  have hserved : q.call.isSome = true := by
    unfold WireRequest.call
    rw [htype]
    rfl
  rw [serveAlone_served hserved] at hok
  have hstale : ¬ sh.Accepts q := fun hacc => hno (hacc.boot htype)
  obtain ⟨-, hrefused⟩ := checkAndAnswer_refused env hstale
  rw [hrefused] at hok
  cases hok

end Registrations

namespace Service

/-- **An accepted observation carries the boot identity its agent registered last.**  From the start of the
    coordinator, with no agent registered, whatever the threads do in a calm run. -/
theorem observation_registered {s : Engine} {c : Service} {l : List (Nat × ThreadMove)}
    (hrun : Run next Calm { shared := { engine := s } } l c) {pre post : List Served} {e : Served} {q : WireRequest}
    (hhist : history { shared := { engine := s } } l = pre ++ e :: post) (harrival : e.arrival = .ok q)
    (htype : q.type = .observe) (hok : e.response.ok = true) :
    lastWrite Prod.fst (registrations pre) q.observation.agent = some (q.observation.agent, q.observation.boot) := by
  have hrep := (linear_history hrun)
  rw [hhist] at hrep
  obtain ⟨sh, hpre, hagree, -⟩ := hrep.split
  -- the server, at that point of the history, accepts it too
  have haccepted : (serveAlone e.env sh (.ok q)).1.ok = true := by
    rw [← harrival]
    exact hagree.1 ▸ hok
  have hboot := identifies_of_accepted htype haccepted
  unfold Shared.identifies at hboot
  rw [decide_eq_true_iff] at hboot
  have hheld := @held_foldl _ _ _ _ Prod.fst
    (fun (m : UMap AgentId AgentBootId) a => (m.lookup a).map fun b => (a, b)) register lookup_register
    (registrations pre) ∅ q.observation.agent
  have hagents : sh.agents = (registrations pre).foldl register ∅ := by
    rw [← hpre.foldl]
    exact agents_foldl pre _
  rw [← hagents, hboot] at hheld
  simpa using hheld.symm

/-- The first observation of an agent that has just registered, about a tenant that has just been created. -/
def reported : List (Nat × ThreadMove) :=
  [(1, .receive (shortFrame 1 .hello {})),
   (1, .proceed {}), (1, .proceed {}), (1, .proceed {}), (1, .proceed {}),
   (2, .receive (shortFrame 2 .createTenant currentAuthority)),
   (2, .proceed {}), (2, .proceed {}), (2, .proceed {}), (2, .proceed {}),
   (1, .receive (shortFrame 3 .observe currentAuthority)),
   (1, .proceed {}), (1, .proceed {}), (1, .proceed {}), (1, .proceed {}), (1, .proceed {})]

/-- What a step decided about, and how. -/
def outline (e : Served) : Option (MessageType × AgentId × AgentBootId) × Bool :=
  (e.arrival.toOption.map fun q => (q.type, q.observation.agent, q.observation.boot), e.response.ok)

theorem observation_registered_reported :
    ∃ pre e, history {} reported = pre ++ [e] ∧ outline e = (some (.observe, {}, {}), true) ∧
      lastWrite Prod.fst (registrations pre) {} = some ({}, {}) := by
  have hrun : Run next Calm { shared := { engine := {} } } reported (reported.foldl next {}) :=
    Run.of_check _ _ (by decide +kernel)
  have hout : (history {} reported).map outline =
      [(some (.hello, {}, {}), true), (some (.createTenant, {}, {}), true),
        (some (.observe, {}, {}), true)] := by
    decide +kernel
  obtain ⟨a, b, e, hh⟩ := List.length_eq_three.mp (by simpa using congrArg List.length hout)
  rw [hh] at hout
  simp only [List.map_cons, List.map_nil, List.cons.injEq, and_true] at hout
  obtain ⟨-, -, he⟩ := hout
  refine ⟨[a, b], e, hh, he, ?_⟩
  cases harr : e.arrival with
  | error what => simp [outline, harr, Except.toOption] at he
  | ok q =>
    simp only [outline, harr, Except.toOption, Option.map_some, Prod.mk.injEq, Option.some.injEq] at he
    obtain ⟨⟨htype, hagent, hboot⟩, hok⟩ := he
    have hhist : history {} reported = [a, b] ++ e :: [] := hh
    have h := observation_registered hrun hhist harr htype hok
    rwa [hagent, hboot] at h

end Service

end QuotaFabric
