import QuotaFabric.Authority.Fencing
import QuotaFabric.Coordinator.Session
import QuotaFabric.Engine.Controls
import QuotaFabric.Engine.Trace

/-!
# Requests overtaken between check and call

`check_authority` and the engine call are two steps.  Some engine calls compare the authority again
under the lock, some compare a part of it, and some take none: what another thread does in between
decides whether a stale request is applied.

* `reliesOnEpoch`, `reliesOnGeneration` — the types whose call does not look at that part again;
* `Change`, `Coordinator.change` — the part of the authority a step replaces;
* `Undisturbed` — the step replaces no part that a thread past its check relies on;
* `no_stale_mutation` — in runs of such steps no stale request changes the engine, and of two quota
  changes made for the same generation only one is applied;
* `quota_applied_twice` — a run in which both are.
-/

set_option autoImplicit false

namespace QuotaFabric

open AList

/-- Types whose engine call does not compare the epoch. -/
def reliesOnEpoch : MessageType → Bool
  | .createGroup => true
  | .createTenant => true
  | .setTenantQuota => true
  | .setGroupQuota => true
  | .releaseAllocation => true
  | .observe => true
  | .snapshot => true
  | _ => false

/-- Types whose engine call does not compare the quota generation. -/
def reliesOnGeneration : MessageType → Bool
  | .createGroup => true
  | .createTenant => true
  | .setTenantQuota => true
  | .setGroupQuota => true
  | .release => true
  | .recallBorrow => true
  | .observe => true
  | .snapshot => true
  | _ => false

/-- The part of the authority a step replaces. -/
inductive Change where
  | none
  | epoch
  | generation
  | boot (agent : AgentId) (boot : AgentBootId)

/-- A thread that does not rely on what is replaced. -/
def Session.unaffected : Change → Session → Bool
  | .epoch, .checked q => !reliesOnEpoch q.type
  | .epoch, .identified q => !reliesOnEpoch q.type
  | .generation, .checked q => !reliesOnGeneration q.type
  | .generation, .identified q => !reliesOnGeneration q.type
  | .boot agent boot, .identified q => decide (q.observation.agent ≠ agent ∨ q.observation.boot = boot)
  | _, _ => true

namespace Coordinator

/-- The quota of `q` is stored: its target exists, and a quota that replaces another is coherent. -/
def storesQuota (s : Engine) (q : WireRequest) : Bool :=
  match q.type with
  | .setTenantQuota =>
    s.tenantExists q.tenant && (!(s.localQuota.lookup q.tenant).isSome || latticeCoherent q.quota)
  | .setGroupQuota => s.groupExists q.group
  | _ => false

def change (c : Coordinator) (m : Nat × Action) : Change :=
  match c.sessions.lookup m.1, m.2 with
  | some (.received q), .proceed _ =>
    match q.type with
    | .hello => .boot q.agentId q.agentBoot
    | .advanceEpoch => .epoch
    | _ => .none
  | some (.checked q), .proceed _ => if storesQuota c.engine q then .generation else .none
  | some (.identified q), .proceed _ => if storesQuota c.engine q then .generation else .none
  | _, _ => .none

/-- The step replaces nothing that another thread past its check relies on. -/
def Undisturbed (c : Coordinator) (m : Nat × Action) : Prop :=
  ∀ e ∈ c.sessions.entries, e.1 ≠ m.1 → e.2.unaffected (c.change m) = true

instance (c : Coordinator) (m : Nat × Action) : Decidable (c.Undisturbed m) :=
  inferInstanceAs (Decidable (∀ e ∈ c.sessions.entries, _))

/-- The request shows the current epoch and generations and, for an observation, the registered boot
    identity. -/
structure UpToDate (c : Coordinator) (q : WireRequest) : Prop where
  epoch : c.engine.epoch = q.auth.epoch
  generation : c.engine.quotaGeneration = q.auth.quotaGeneration
  policy : c.engine.policy.generation = q.auth.policyGeneration
  boot : q.type = .observe → c.agents.lookup q.observation.agent = some q.observation.boot

/-- Whatever engine call comes next: if it changes the state, its request is up to date. -/
def NoStaleMutation (c : Coordinator) : Prop :=
  ∀ i q env, c.due i = some q → (c.next (i, .proceed env)).engine ≠ c.engine → c.UpToDate q

/-- The quota generation a `SET_TENANT_QUOTA` was made for, if the step applies one. -/
def appliedQuota (c : Coordinator) (m : Nat × Action) : Option QuotaGeneration :=
  match c.due m.1, m.2 with
  | some q, .proceed _ =>
    if q.type = .setTenantQuota ∧ storesQuota c.engine q = true then some q.auth.quotaGeneration else none
  | _, _ => none

/-! ## What a step changes -/

section Step

variable {c : Coordinator} {m : Nat × Action}

/-- A request whose call is made and that stores no quota leaves epoch and generations alone. -/
theorem controls_exec (env : Env) {s : Engine} {q : WireRequest} {call : Call} (hcall : q.call = some call)
    (hq : storesQuota s q = false) : (s.exec env call).2.controls = s.controls := by
  cases htype : q.type with
  | setTenantQuota =>
    unfold WireRequest.call at hcall
    unfold storesQuota at hq
    simp only [htype, Option.some.injEq, Bool.and_eq_false_iff, Bool.or_eq_false_iff,
      Bool.not_eq_false'] at hcall hq
    subst hcall
    show (s.setTenantQuota env q.tenant q.quota).2.controls = _
    unfold Engine.setTenantQuota
    rcases hq with hq | ⟨hold, hco⟩
    · simp [hq]
    · split
      · rfl
      · rw [if_pos (by simp [hold, hco])]
  | setGroupQuota =>
    unfold WireRequest.call at hcall
    unfold storesQuota at hq
    simp only [htype, Option.some.injEq] at hcall hq
    subst hcall
    show (s.setGroupQuota env q.group q.quota).2.controls = _
    unfold Engine.setGroupQuota
    simp [hq]
  | _ =>
    refine Engine.exec_controls env s ?_
    unfold WireRequest.call at hcall
    simp only [htype, Option.some.injEq, reduceCtorEq] at hcall
    all_goals
      subst hcall
      rfl

/-- No served call touches the epoch or the policy. -/
theorem exec_epoch_policy (env : Env) (s : Engine) {q : WireRequest} {call : Call} (hcall : q.call = some call) :
    (s.exec env call).2.epoch = s.epoch ∧ (s.exec env call).2.policy = s.policy := by
  cases hq : storesQuota s q with
  | false =>
    have hsame := controls_exec env hcall hq
    exact ⟨congrArg Controls.epoch hsame, congrArg Controls.policy hsame⟩
  | true =>
    unfold WireRequest.call at hcall
    unfold storesQuota at hq
    split at hq
    · rename_i htype
      simp only [htype, Option.some.injEq] at hcall
      subst hcall
      show (s.setTenantQuota env q.tenant q.quota).2.epoch = _ ∧ (s.setTenantQuota env q.tenant q.quota).2.policy = _
      unfold Engine.setTenantQuota
      repeat' split
      all_goals exact ⟨rfl, rfl⟩
    · rename_i htype
      simp only [htype, Option.some.injEq] at hcall
      subst hcall
      show (s.setGroupQuota env q.group q.quota).2.epoch = _ ∧ (s.setGroupQuota env q.group q.quota).2.policy = _
      unfold Engine.setGroupQuota
      split <;> exact ⟨rfl, rfl⟩
    · cases hq

/-- `c'` differs from `c` in the part `ch` of the authority at most. -/
structure Leaves (c c' : Coordinator) (ch : Change) : Prop where
  epoch : ch ≠ .epoch → c'.engine.epoch = c.engine.epoch
  generation : ch ≠ .generation → c'.engine.quotaGeneration = c.engine.quotaGeneration
  policy : c'.engine.policy = c.engine.policy
  agents : c'.agents = c.agents ∨ ∃ a b, ch = .boot a b ∧ c'.agents = c.agents.insert a b

theorem Leaves.same {c' : Coordinator} (ch : Change) (he : c'.engine = c.engine) (ha : c'.agents = c.agents) :
    Leaves c c' ch :=
  ⟨fun _ => by rw [he], fun _ => by rw [he], by rw [he], .inl ha⟩

theorem serve_leaves (env : Env) (c : Coordinator) (i : Nat) (q : WireRequest) :
    Leaves c (c.serve env i q) (if storesQuota c.engine q then .generation else .none) := by
  unfold serve
  cases hcall : q.call with
  | none => exact .same _ rfl rfl
  | some call =>
    obtain ⟨he, hp⟩ := exec_epoch_policy env c.engine hcall
    refine ⟨fun _ => he, fun hne => ?_, hp, .inl rfl⟩
    cases hq : storesQuota c.engine q with
    | false => exact congrArg Controls.quotaGeneration (controls_exec env hcall hq)
    | true => exact absurd (if_pos hq) hne

theorem begin_leaves (env : Env) (c : Coordinator) (i : Nat) (q : WireRequest) :
    Leaves c (c.begin env i q)
      (match q.type with
        | .hello => .boot q.agentId q.agentBoot
        | .advanceEpoch => .epoch
        | _ => .none) := by
  unfold begin
  cases q.type with
  | hello => exact ⟨fun _ => rfl, fun _ => rfl, rfl, .inr ⟨_, _, rfl, rfl⟩⟩
  | advanceEpoch => exact ⟨fun h => absurd rfl h, fun _ => rfl, rfl, .inl rfl⟩
  | _ =>
    simp only
    split <;> exact .same _ rfl rfl

/-- **What a step leaves of the authority.** -/
theorem next_leaves (c : Coordinator) (m : Nat × Action) : Leaves c (c.next m) (c.change m) := by
  unfold next change
  split
  · exact .same _ rfl rfl
  · rename_i q env hs ha
    rw [hs, ha]
    exact begin_leaves env c m.1 q
  · rename_i q env hs ha
    rw [hs, ha]
    by_cases hq : q.type = .observe
    · rw [if_pos hq]
      unfold identify
      split <;> exact .same _ rfl rfl
    · rw [if_neg hq]
      exact serve_leaves env c m.1 q
  · rename_i q env hs ha
    rw [hs, ha]
    exact serve_leaves env c m.1 q
  · exact .same _ rfl rfl

/-- A step leaves the other threads where they are. -/
theorem next_other (c : Coordinator) (m : Nat × Action) {i : Nat} (hi : i ≠ m.1) :
    (c.next m).sessions.lookup i = c.sessions.lookup i := by
  have henter : ∀ (c' : Coordinator) (s : Session), (c'.enter m.1 s).sessions.lookup i = c'.sessions.lookup i :=
    fun c' s => lookup_insert_ne hi
  have hfinish : ∀ c' : Coordinator, (c'.finish m.1).sessions.lookup i = c'.sessions.lookup i :=
    fun c' => lookup_erase_ne hi
  have hserve : ∀ env q, (c.serve env m.1 q).sessions.lookup i = c.sessions.lookup i := by
    intro env q
    unfold serve
    split <;> exact hfinish _
  unfold next
  split
  · exact henter _ _
  · unfold begin
    split
    · exact hfinish _
    · exact hfinish _
    · split
      · exact henter _ _
      · exact hfinish _
  · split
    · unfold identify
      split
      · exact henter _ _
      · exact hfinish _
    · exact hserve _ _
  · exact hserve _ _
  · rfl

end Step

/-! ## Threads past their check -/

/-- What the check found and nobody has replaced since. -/
structure Vouched (c : Coordinator) (q : WireRequest) : Prop where
  epoch : reliesOnEpoch q.type = true → c.engine.epoch = q.auth.epoch
  generation : reliesOnGeneration q.type = true → c.engine.quotaGeneration = q.auth.quotaGeneration
  policy : c.engine.policy.generation = q.auth.policyGeneration

/-- What a thread may rely on. -/
def SessionOk (c : Coordinator) : Session → Prop
  | .received _ => True
  | .checked q => c.Vouched q
  | .identified q =>
    c.Vouched q ∧ q.type = .observe ∧ c.agents.lookup q.observation.agent = some q.observation.boot

def Guarded (c : Coordinator) : Prop := ∀ i s, c.sessions.lookup i = some s → c.SessionOk s

section Guarded

variable {c : Coordinator} {m : Nat × Action}

theorem checkAuthority_ok {s : Engine} {q : WireRequest} (h : (s.checkAuthority q).ok = true) :
    s.epoch = q.auth.epoch ∧ s.quotaGeneration = q.auth.quotaGeneration ∧
      s.policy.generation = q.auth.policyGeneration := by
  unfold Engine.checkAuthority at h
  split at h
  · cases h
  rename_i h1
  split at h
  · cases h
  rename_i h2
  split at h
  · cases h
  rename_i h3
  exact ⟨(not_not.mp h1).symm, (not_not.mp h2).symm, (not_not.mp h3).symm⟩

/-- A thread that is not affected by a step keeps what it relies on. -/
theorem SessionOk.keep {s : Session} (h : c.SessionOk s) (hun : s.unaffected (c.change m) = true) :
    (c.next m).SessionOk s := by
  have hleaves := next_leaves c m
  have hvouched : ∀ q, c.Vouched q → (reliesOnEpoch q.type = true → c.change m ≠ .epoch) →
      (reliesOnGeneration q.type = true → c.change m ≠ .generation) → (c.next m).Vouched q := by
    intro q hq he hg
    refine ⟨fun hr => ?_, fun hr => ?_, ?_⟩
    · rw [hleaves.epoch (he hr)]
      exact hq.epoch hr
    · rw [hleaves.generation (hg hr)]
      exact hq.generation hr
    · rw [hleaves.policy]
      exact hq.policy
  cases s with
  | received q => trivial
  | checked q =>
    refine hvouched q h (fun hr hch => ?_) fun hr hch => ?_
    · simp [Session.unaffected, hch, hr] at hun
    · simp [Session.unaffected, hch, hr] at hun
  | identified q =>
    obtain ⟨hq, htype, hboot⟩ := h
    refine ⟨hvouched q hq (fun hr hch => ?_) (fun hr hch => ?_), htype, ?_⟩
    · simp [Session.unaffected, hch, hr] at hun
    · simp [Session.unaffected, hch, hr] at hun
    · rcases hleaves.agents with hsame | ⟨a, b, hch, hins⟩
      · rw [hsame]
        exact hboot
      · rw [hch] at hun
        rw [hins]
        by_cases ha : q.observation.agent = a
        · have hb : q.observation.boot = b := by simpa [Session.unaffected, ha] using hun
          rw [ha, hb, lookup_insert]
        · rw [lookup_insert_ne ha]
          exact hboot

section Self

variable {i : Nat} {s : Session} {q : WireRequest}

theorem lookup_enter {s' : Session} (h : (c.enter i s').sessions.lookup i = some s) : s = s' := by
  rw [show (c.enter i s').sessions.lookup i = some s' from lookup_insert _] at h
  exact (Option.some.inj h).symm

theorem lookup_finish (h : (c.finish i).sessions.lookup i = some s) : False := by
  rw [show (c.finish i).sessions.lookup i = none from lookup_erase _ _] at h
  cases h

theorem begin_self (env : Env) (h : (c.begin env i q).sessions.lookup i = some s) :
    (c.begin env i q).SessionOk s := by
  revert h
  unfold begin
  split
  · exact fun h => (lookup_finish h).elim
  · exact fun h => (lookup_finish h).elim
  · split
    · rename_i hok
      intro h
      obtain ⟨he, hg, hp⟩ := checkAuthority_ok (Bool.and_eq_true_iff.mp hok).2
      rw [lookup_enter h]
      exact ⟨fun _ => he, fun _ => hg, hp⟩
    · exact fun h => (lookup_finish h).elim

theorem identify_self (hq : c.Vouched q) (htype : q.type = .observe)
    (h : (c.identify i q).sessions.lookup i = some s) : (c.identify i q).SessionOk s := by
  revert h
  unfold identify
  split
  · rename_i hboot
    intro h
    rw [lookup_enter h]
    exact ⟨⟨hq.epoch, hq.generation, hq.policy⟩, htype, hboot⟩
  · exact fun h => (lookup_finish h).elim

theorem serve_self (env : Env) (h : (c.serve env i q).sessions.lookup i = some s) : False := by
  unfold serve at h
  split at h <;> exact lookup_finish h

end Self

/-- What a thread may rely on after its own step. -/
theorem next_self (hc : c.Guarded) {s : Session} (h : (c.next m).sessions.lookup m.1 = some s) :
    (c.next m).SessionOk s := by
  revert h
  unfold next
  split
  · intro h
    rw [lookup_enter h]
    trivial
  · exact fun h => begin_self _ h
  · rename_i q env hs ha
    split
    · rename_i htype
      exact fun h => identify_self (hc m.1 _ hs) htype h
    · exact fun h => (serve_self _ h).elim
  · exact fun h => (serve_self _ h).elim
  · exact fun h => hc m.1 s h

/-- **A step that disturbs no other thread leaves every thread with what it relies on.** -/
theorem next_guarded (hund : c.Undisturbed m) (hc : c.Guarded) : (c.next m).Guarded := by
  intro i s hs
  by_cases hi : i = m.1
  · subst hi
    exact next_self hc hs
  · rw [next_other c m hi] at hs
    exact SessionOk.keep (hc i s hs) (hund ⟨i, s⟩ (lookup_eq_some_iff.mp hs) hi)

end Guarded

/-! ## Engine calls -/

section Calls

variable {env : Env} {s : Engine} {auth : Authority}

theorem epoch_of_not_stale (h : ¬ s.staleEpoch auth = true) : s.epoch = auth.epoch := by
  unfold Engine.staleEpoch at h
  simp only [bne_iff_ne, ne_eq, not_not] at h
  exact h.symm

theorem generation_of_not_stale (h : ¬ s.staleQuotaGen auth = true) : s.quotaGeneration = auth.quotaGeneration := by
  unfold Engine.staleQuotaGen at h
  simp only [bne_iff_ne, ne_eq, not_not] at h
  exact h.symm

/-- A call that compares everything and changes something was made under the current authority. -/
theorem valid_of_changed {c : Call} (hfenced : s.validAuthority auth = false → Engine.Fenced env s c)
    (hne : (s.exec env c).2 ≠ s) : s.epoch = auth.epoch ∧ s.quotaGeneration = auth.quotaGeneration := by
  have hvalid : s.validAuthority auth = true := by
    by_contra hno
    exact hne (hfenced (by simpa using hno)).2
  unfold Engine.validAuthority at hvalid
  simp only [Bool.and_eq_true, beq_iff_eq] at hvalid
  exact ⟨hvalid.1.1.symm, hvalid.1.2.symm⟩

/-- **What a call that changes something has compared.** -/
theorem exec_compares {q : WireRequest} {call : Call} (hcall : q.call = some call)
    (hne : (s.exec env call).2 ≠ s) :
    (reliesOnEpoch q.type = false → s.epoch = q.auth.epoch) ∧
    (reliesOnGeneration q.type = false → s.quotaGeneration = q.auth.quotaGeneration) := by
  cases htype : q.type
  all_goals
    unfold WireRequest.call at hcall
    simp only [htype, Option.some.injEq, reduceCtorEq] at hcall
  all_goals subst hcall
  case reserve =>
    have h := valid_of_changed (fun hv => Engine.reserve_fenced env hv q.tenant q.req) hne
    exact ⟨fun _ => h.1, fun _ => h.2⟩
  case startAllocation =>
    have h := valid_of_changed (fun hv => Engine.startAllocation_fenced env hv q.reservation q.req) hne
    exact ⟨fun _ => h.1, fun _ => h.2⟩
  case borrow =>
    have h := valid_of_changed (fun hv => Engine.borrow_fenced env hv q.tenant q.req) hne
    exact ⟨fun _ => h.1, fun _ => h.2⟩
  case lend =>
    have h := valid_of_changed (fun hv => Engine.lend_fenced env hv q.tenant q.tenant2 q.req) hne
    exact ⟨fun _ => h.1, fun _ => h.2⟩
  case commitReservation =>
    have hfenced := fun h => ((Engine.commitReservation_fenced_iff env s q.auth q.reservation).mpr h).2
    refine ⟨fun _ => epoch_of_not_stale fun h => hne (hfenced (.inl h)),
      fun _ => generation_of_not_stale fun h => hne (hfenced (.inr (.inl h)))⟩
  case release =>
    have hfenced := fun h => ((Engine.release_fenced_iff env s q.auth q.reservation).mpr h).2
    exact ⟨fun _ => epoch_of_not_stale fun h => hne (hfenced (.inl h)), fun h => (by cases h)⟩
  case recallBorrow =>
    have hfenced := fun h => ((Engine.recallBorrow_fenced_iff env s q.auth q.borrow).mpr h).2
    exact ⟨fun _ => epoch_of_not_stale fun h => hne (hfenced (.inl h)), fun h => (by cases h)⟩
  case releaseAllocation =>
    have hfenced := fun h => ((Engine.releaseAllocation_fenced_iff env s q.auth q.allocation).mpr h).2
    exact ⟨fun h => (by cases h), fun _ => generation_of_not_stale fun h => hne (hfenced (.inl h))⟩
  case evaluate | recallDecision | envelope => exact absurd rfl hne
  all_goals exact ⟨fun h => (by cases h), fun h => (by cases h)⟩

end Calls

section Due

variable {c : Coordinator} {i : Nat} {q : WireRequest}

theorem next_due (env : Env) (h : c.due i = some q) : c.next (i, .proceed env) = c.serve env i q := by
  unfold due at h
  unfold next
  simp only
  split at h
  · rename_i q' hs
    split at h
    · cases h
    · rename_i htype
      cases h
      simp only [hs]
      rw [if_neg htype]
  · rename_i q' hs
    cases h
    simp only [hs]
  · cases h

/-- What a thread relies on when its engine call is due. -/
theorem Guarded.due (hc : c.Guarded) (h : c.due i = some q) :
    c.Vouched q ∧ (q.type = .observe → c.agents.lookup q.observation.agent = some q.observation.boot) := by
  unfold Coordinator.due at h
  split at h
  · rename_i q' hs
    split at h
    · cases h
    · rename_i htype
      cases h
      exact ⟨hc i _ hs, fun ho => absurd ho htype⟩
  · rename_i q' hs
    cases h
    obtain ⟨hq, -, hboot⟩ := hc i _ hs
    exact ⟨hq, fun _ => hboot⟩
  · cases h

/-- **A call that is due and changes the engine is up to date.** -/
theorem Guarded.noStaleMutation (hc : c.Guarded) : c.NoStaleMutation := by
  intro i q env hdue hne
  obtain ⟨hq, hboot⟩ := hc.due hdue
  rw [next_due env hdue] at hne
  unfold serve at hne
  split at hne
  · exact absurd rfl hne
  · rename_i call hcall
    obtain ⟨he, hg⟩ := exec_compares hcall hne
    refine ⟨?_, ?_, hq.policy, hboot⟩
    · cases hr : reliesOnEpoch q.type with
      | false => exact he hr
      | true => exact hq.epoch hr
    · cases hr : reliesOnGeneration q.type with
      | false => exact hg hr
      | true => exact hq.generation hr

end Due

/-! ## Quota generations -/

section Applied

variable {c : Coordinator} {m : Nat × Action}

/-- A call that stores a quota advances the quota generation. -/
theorem exec_storesQuota (env : Env) {s : Engine} {q : WireRequest} {call : Call} (hcall : q.call = some call)
    (hq : storesQuota s q = true) : (s.exec env call).2.quotaGeneration = s.quotaGeneration.next := by
  unfold WireRequest.call at hcall
  unfold storesQuota at hq
  split at hq
  · rename_i htype
    simp only [htype, Option.some.injEq] at hcall
    subst hcall
    show (s.setTenantQuota env q.tenant q.quota).2.quotaGeneration = _
    rw [Bool.and_eq_true, Bool.or_eq_true, Bool.not_eq_true'] at hq
    unfold Engine.setTenantQuota
    rw [if_neg (by simp [hq.1]), if_neg ?_]
    · rfl
    · rcases hq.2 with hnew | hco
      · simp [hnew]
      · simp [hco]
  · rename_i htype
    simp only [htype, Option.some.injEq] at hcall
    subst hcall
    show (s.setGroupQuota env q.group q.quota).2.quotaGeneration = _
    unfold Engine.setGroupQuota
    rw [if_neg (by simp [hq])]
    rfl
  · cases hq

theorem storesQuota_call {s : Engine} {q : WireRequest} (hq : storesQuota s q = true) : q.call.isSome = true := by
  unfold WireRequest.call
  unfold storesQuota at hq
  split at hq
  · rename_i htype
    rw [htype]
    rfl
  · rename_i htype
    rw [htype]
    rfl
  · cases hq

theorem serve_storesQuota (env : Env) (i : Nat) {q : WireRequest} (hq : storesQuota c.engine q = true) :
    (c.serve env i q).engine.quotaGeneration = c.engine.quotaGeneration.next := by
  obtain ⟨call, hcall⟩ := Option.isSome_iff_exists.mp (storesQuota_call hq)
  unfold serve
  rw [hcall]
  exact exec_storesQuota env hcall hq

/-- A step either leaves the quota generation alone or advances it. -/
theorem next_generation (c : Coordinator) (m : Nat × Action) :
    (c.next m).engine.quotaGeneration = c.engine.quotaGeneration ∨
      (c.next m).engine.quotaGeneration = c.engine.quotaGeneration.next := by
  by_cases hch : c.change m = .generation
  · right
    unfold change at hch
    unfold next
    split at hch
    · split at hch <;> cases hch
    · rename_i q env hs ha
      split at hch
      · rename_i hq
        rw [hs, ha]
        have htype : q.type ≠ .observe := by
          intro htype
          simp [storesQuota, htype] at hq
        simp only
        rw [if_neg htype]
        exact serve_storesQuota env m.1 hq
      · cases hch
    · rename_i q env hs ha
      split at hch
      · rename_i hq
        rw [hs, ha]
        exact serve_storesQuota env m.1 hq
      · cases hch
    · cases hch
  · exact .inl ((next_leaves c m).generation hch)

/-- A step that applies a quota for `g` is taken at `g` and leaves it. -/
theorem Guarded.applied (hc : c.Guarded) {g : QuotaGeneration} (h : c.appliedQuota m = some g) :
    c.engine.quotaGeneration = g ∧ (c.next m).engine.quotaGeneration = g.next := by
  obtain ⟨i, action⟩ := m
  unfold appliedQuota at h
  split at h
  · rename_i q env hdue hact
    split at h
    · rename_i hq
      have hg : c.engine.quotaGeneration = g := by
        rw [← Option.some.inj h]
        exact (hc.due hdue).1.generation (by rw [hq.1]; rfl)
      have hact' : action = .proceed env := hact
      rw [hact', next_due env hdue, serve_storesQuota env i hq.2, hg]
      exact ⟨rfl, rfl⟩
    · cases h
  · cases h

/-- The step disturbs no other thread, and the quota generation has not reached its end. -/
def Orderly (c : Coordinator) (m : Nat × Action) : Prop :=
  c.Undisturbed m ∧ c.engine.quotaGeneration.value.toNat + 1 < 2 ^ 64

instance (c : Coordinator) (m : Nat × Action) : Decidable (c.Orderly m) :=
  inferInstanceAs (Decidable (_ ∧ _))

theorem Orderly.le (h : c.Orderly m) :
    c.engine.quotaGeneration.value.toNat ≤ (c.next m).engine.quotaGeneration.value.toNat := by
  rcases next_generation c m with hsame | hnext
  · rw [hsame]
  · rw [hnext]
    exact (Generation.lt_next h.2).le

theorem run_guarded {c₀ : Coordinator} {l : List (Nat × Action)} (hc : c₀.Guarded)
    (hrun : Run next Orderly c₀ l c) : c.Guarded :=
  hrun.invariant hc fun _ _ hc hok => next_guarded hok.1 hc

/-- **Requests do not overtake each other.**  Whatever the threads do, in whatever order: while no step
    disturbs another thread, a call that changes the engine is made under the current authority, and
    once a tenant quota was applied for a generation no other is applied for it. -/
theorem no_stale_mutation {c₀ : Coordinator} {l : List (Nat × Action)} (hstart : c₀.sessions = ∅)
    (hrun : Run next Orderly c₀ l c) :
    c.NoStaleMutation ∧
    ∀ m g l' c' m', c.Orderly m → c.appliedQuota m = some g → Run next Orderly (c.next m) l' c' →
      c'.appliedQuota m' ≠ some g := by
  have hempty : c₀.Guarded := by
    intro i s hs
    rw [hstart] at hs
    cases hs
  have hc := run_guarded hempty hrun
  refine ⟨hc.noStaleMutation, fun m g l' c' m' hok happ hrun' happ' => ?_⟩
  have hc' := run_guarded (next_guarded hok.1 hc) hrun'
  obtain ⟨hg, hnext⟩ := hc.applied happ
  obtain ⟨hg', -⟩ := hc'.applied happ'
  -- the generation has moved on and never comes back
  have hlt : g.value.toNat < (c.next m).engine.quotaGeneration.value.toNat := by
    rw [hnext]
    exact Generation.lt_next (hg ▸ hok.2)
  have hle : (c.next m).engine.quotaGeneration.value.toNat ≤ c'.engine.quotaGeneration.value.toNat :=
    @Run.monotone _ _ _ _ _ _ _ _ _ (fun c : Coordinator => c.engine.quotaGeneration.value.toNat) hrun'
      fun _ _ h => h.le
  rw [hg'] at hle
  exact absurd hlt (Nat.not_lt.mpr hle)

end Applied

/-! ## Two quota changes for one generation -/

/-- An administrator's request to limit tenant `7` to `n` units. -/
def limitTo (n : Int) : WireRequest :=
  { type := .setTenantQuota, auth := { epoch := .initial, quotaGeneration := .initial }
    tenant := ⟨0, 7⟩
    quota := { hardLimit := .fromScalar .acceleratorVRAM n } }

/-- Thread `1` creates the tenant and passes the check of its quota change; thread `2` has another one
    under way. -/
def inTurn : List (Nat × Action) :=
  [(1, .receive { type := .createTenant, auth := { epoch := .initial, quotaGeneration := .initial } }),
   (1, .proceed {}),
   (1, .proceed (.numbered 7)),
   (1, .receive (limitTo 10)),
   (2, .receive (limitTo 20)),
   (1, .proceed {})]

/-- Where thread `2` takes its next step after thread `1` has stored its quota, it applies nothing for the
    generation that has passed. -/
theorem no_stale_mutation_inTurn :
    ((inTurn.foldl next {}).next (1, .proceed {})).engine ≠ (inTurn.foldl next {}).engine ∧
    (inTurn.foldl next {}).UpToDate (limitTo 10) ∧
    (((inTurn.foldl next {}).next (1, .proceed {})).next (2, .proceed {})).appliedQuota (2, .proceed {}) ≠
      some .initial := by
  have hrun : Run next Orderly {} inTurn (inTurn.foldl next {}) := Run.of_check _ _ (by decide +kernel)
  obtain ⟨hsafe, honce⟩ := no_stale_mutation rfl hrun
  have hchanged : ((inTurn.foldl next {}).next (1, .proceed {})).engine ≠ (inTurn.foldl next {}).engine := by
    intro h
    exact absurd (congrArg Engine.quotaGeneration h) (by decide +kernel)
  have hrest : Run next Orderly ((inTurn.foldl next {}).next (1, .proceed {})) [(2, .proceed {})]
      (((inTurn.foldl next {}).next (1, .proceed {})).next (2, .proceed {})) :=
    Run.of_check _ _ (by decide +kernel)
  exact ⟨hchanged, hsafe 1 (limitTo 10) {} rfl hchanged,
    honce (1, .proceed {}) .initial [(2, .proceed {})] _ (2, .proceed {}) (by decide +kernel) (by decide +kernel)
      hrest⟩

/-- Thread `2` passes its check before thread `1` has stored its quota. -/
def together : List (Nat × Action) :=
  [(1, .receive { type := .createTenant, auth := { epoch := .initial, quotaGeneration := .initial } }),
   (1, .proceed {}),
   (1, .proceed (.numbered 7)),
   (1, .receive (limitTo 10)),
   (2, .receive (limitTo 20)),
   (1, .proceed {}),
   (2, .proceed {})]

/-- **Both quotas are stored**, the second under a generation that has passed. -/
theorem quota_applied_twice :
    let c := together.foldl next {}
    let c' := c.next (1, .proceed {})
    c.appliedQuota (1, .proceed {}) = some .initial ∧ c'.appliedQuota (2, .proceed {}) = some .initial ∧
    ¬ c'.NoStaleMutation := by
  intro c c'
  refine ⟨by decide +kernel, by decide +kernel, fun hsafe => ?_⟩
  have hchanged : (c'.next (2, .proceed {})).engine ≠ c'.engine := by
    intro h
    exact absurd (congrArg Engine.quotaGeneration h) (by decide +kernel)
  have hup := hsafe 2 (limitTo 20) {} rfl hchanged
  exact absurd hup.generation (by decide +kernel)

end Coordinator

end QuotaFabric
