import QuotaFabric.Persistence.Reload

/-!
# Whether a stale authority stays stale

An authority is valid while it shows the engine's epoch, quota generation and policy generation.
`advance_epoch` and the quota calls count up; `set_policy` stores the generation the caller chose, and
`load_from` stores all three from the file, before it has read anything else.

* `Generations` — the three numbers, ordered componentwise;
* `World`, `World.step` — the engine and the files it has saved; a move is a call or a load of one of
  these files;
* `possible` — the counters do not wrap, and a file that is loaded was saved before;
* `KeepsGenerations` — the policy that is set and the file that is loaded are not behind the engine;
* `deserializeState_generations` — a load of a saved file takes over its numbers, complete or not.

Main result: `stale_stays_stale`.
-/

set_option autoImplicit false

namespace QuotaFabric

open AList LogParser

/-- Epoch, quota generation, policy generation. -/
abbrev Generations := Nat × Nat × Nat

def Authority.generations (a : Authority) : Generations :=
  (a.epoch.value.toNat, a.quotaGeneration.value.toNat, a.policyGeneration.value.toNat)

namespace Engine

def generations (s : Engine) : Generations :=
  (s.epoch.value.toNat, s.quotaGeneration.value.toNat, s.policy.generation.value.toNat)

theorem generation_eq_iff {tag : GenerationTag} {a b : Generation tag} :
    a.value.toNat = b.value.toNat ↔ a = b := by
  obtain ⟨a⟩ := a
  obtain ⟨b⟩ := b
  rw [Generation.mk.injEq]
  exact UInt64.toNat_inj

theorem validAuthority_iff {s : Engine} {a : Authority} :
    s.validAuthority a = true ↔ s.generations = a.generations := by
  unfold validAuthority generations Authority.generations
  rw [Prod.mk.injEq, Prod.mk.injEq, generation_eq_iff, generation_eq_iff, generation_eq_iff,
    Bool.and_eq_true, Bool.and_eq_true, beq_iff_eq, beq_iff_eq, beq_iff_eq, and_assoc,
    eq_comm (a := a.epoch), eq_comm (a := a.quotaGeneration), eq_comm (a := a.policyGeneration)]

/-! ## Calls -/

/-- The counter a call advances does not wrap. -/
def NoWrap (s : Engine) : Call → Prop
  | .advanceEpoch => s.epoch.value.toNat + 1 < 2 ^ 64
  | .setTenantQuota .. => s.quotaGeneration.value.toNat + 1 < 2 ^ 64
  | .setGroupQuota .. => s.quotaGeneration.value.toNat + 1 < 2 ^ 64
  | _ => True

/-- A policy that is set is not behind the current one. -/
def PolicyKeeps (s : Engine) : Call → Prop
  | .setPolicy policy => policy.validate = none →
      s.policy.generation.value.toNat ≤ policy.generation.value.toNat
  | _ => True

/-- **A call does not move the generations back**, unless it installs an older policy. -/
theorem exec_generations (env : Env) {s : Engine} {c : Call} (hwrap : NoWrap s c) (hc : PolicyKeeps s c) :
    s.generations ≤ (s.exec env c).2.generations := by
  cases hctl : c.isControl with
  | false =>
    have hsame := exec_controls env s hctl
    have h1 : (s.exec env c).2.epoch = s.epoch := congrArg Controls.epoch hsame
    have h2 : (s.exec env c).2.quotaGeneration = s.quotaGeneration := congrArg Controls.quotaGeneration hsame
    have h3 : (s.exec env c).2.policy = s.policy := congrArg Controls.policy hsame
    unfold generations
    rw [h1, h2, h3]
  | true =>
    cases c with
    | setPolicy policy =>
      show s.generations ≤ (s.setPolicy env policy).2.generations
      unfold setPolicy
      split
      · exact le_refl _
      · rename_i hvalid
        exact ⟨le_refl _, le_refl _, hc hvalid⟩
    | advanceEpoch => exact ⟨(Generation.lt_next hwrap).le, le_refl _, le_refl _⟩
    | setTenantQuota t q =>
      show s.generations ≤ (s.setTenantQuota env t q).2.generations
      unfold setTenantQuota
      split
      · exact le_refl _
      split
      · exact le_refl _
      · exact ⟨le_refl _, (Generation.lt_next hwrap).le, le_refl _⟩
    | setGroupQuota g q =>
      show s.generations ≤ (s.setGroupQuota env g q).2.generations
      unfold setGroupQuota
      split
      · exact le_refl _
      · exact ⟨le_refl _, (Generation.lt_next hwrap).le, le_refl _⟩
    | _ => cases hctl

/-! ## Loads -/

/-- What the loader stores from a saved file begins with its epoch and generations, and nothing that
    follows is stored there, however far the loader gets. -/
theorem loadState_saved (settings : EngineSettings) (saved : Engine) :
    ∃ log, ((loadState settings).run saved.serializeState).1 =
        [.epoch saved.epoch, .quotaGeneration saved.quotaGeneration,
          .policyGeneration saved.policy.generation] ++ log ∧
      ∀ p ∈ log, p.slot.isAuthority = false := by
  have htail : Yields (do loadHeaderTail; loadRecords settings : Loader)
      (fun p => p.slot.isAuthority = false) fun _ => True := by
    refine (yields_loadHeaderTail.mono fun p (h : p.Fits 0 ∧ _) => h.2).bind fun _ _ => ?_
    refine (yields_loadRecords (le_refl _)).mono fun p hp => ?_
    have hrecord := hp.2
    cases hslot : p.slot <;> rw [hslot] at hrecord <;> first | rfl | cases hrecord
  obtain ⟨rest, hbytes⟩ : ∃ rest, saved.serializeState = BinaryWriter.u32 1 ++
      (BinaryWriter.u64 saved.epoch.value ++ (BinaryWriter.u64 saved.quotaGeneration.value ++
        (BinaryWriter.u64 saved.policy.generation.value ++ rest))) := by
    unfold serializeState writeHeader
    simp only [List.append_assoc]
    exact ⟨_, rfl⟩
  have hheader : loadHeader = (do
      let e ← BinaryReader.u64
      emit (.epoch ⟨e⟩)
      let g ← BinaryReader.u64
      emit (.quotaGeneration ⟨g⟩)
      let p ← BinaryReader.u64
      emit (.policyGeneration ⟨p⟩)
      loadHeaderTail) := rfl
  refine ⟨((do loadHeaderTail; loadRecords settings : Loader).run rest).1, ?_, (htail rest).1⟩
  rw [hbytes]
  unfold loadState
  rw [run_bind, read_u32, andThen_ok_nil, if_neg (by decide), hheader]
  simp only [run_bind, read_u64, run_emit, andThen_ok]
  generalize loadHeaderTail.run rest = r
  obtain ⟨w, result⟩ := r
  cases result with
  | error e => simp only [prepend, andThen_error, List.nil_append, List.cons_append]
  | ok r =>
    obtain ⟨-, left⟩ := r
    simp only [prepend, andThen_ok, List.nil_append, List.cons_append]

/-- **A load of a saved file takes over its epoch and generations**, whether it succeeds or not. -/
theorem deserializeState_generations (env : Env) (s saved : Engine) :
    (s.deserializeState env saved.serializeState).2.generations = saved.generations := by
  obtain ⟨log, hlog, hrest⟩ := loadState_saved s.settings saved
  have hstored : (s.storeAll ((loadState s.settings).run saved.serializeState).1).generations =
      saved.generations := by
    have hlast : ∀ k : Slot, k.isAuthority = true → lastWrite Stored.slot log k = none := by
      intro k hk
      rw [lastWrite_eq_none]
      rintro p hp rfl
      rw [hrest p hp] at hk
      cases hk
    have hheld : ∀ k : Slot, k.isAuthority = true →
        (s.storeAll ((loadState s.settings).run saved.serializeState).1).held k = saved.held k := by
      intro k hk
      rw [held_storeAll, hlog, lastWrite_append, hlast k hk]
      cases k with
      | epoch | quotaGeneration | policyGeneration => rfl
      | _ => cases hk
    have h1 := hheld .epoch rfl
    have h2 := hheld .quotaGeneration rfl
    have h3 := hheld .policyGeneration rfl
    simp only [held, Option.some.injEq, Stored.epoch.injEq, Stored.quotaGeneration.injEq,
      Stored.policyGeneration.injEq] at h1 h2 h3
    unfold generations
    rw [h1, h2, h3]
  unfold deserializeState
  generalize (loadState s.settings).run saved.serializeState = r at hstored
  obtain ⟨log', result⟩ := r
  cases result with
  | error e => exact hstored
  | ok r =>
    show ((s.storeAll log').syncAll env).generations = _
    rw [syncAll_frame]
    exact hstored

theorem act_load_generations {env : Env} {s saved : Engine} (h : s.generations ≤ saved.generations) :
    s.generations ≤ (s.act (.load env (.bytes saved.saveBlob))).generations := by
  by_cases hfile : saved.saveBlob.length < 2 ^ 63
  · rw [act_load (loadFrom_saveBlob hfile env s), deserializeState_generations]
    exact h
  · rw [act_load (loadFrom_overlong hfile env s)]

end Engine

/-! ## Runs -/

/-- An engine, and the engines it was when it saved a file. -/
structure World where
  engine : Engine
  saved : List Engine := []

/-- A call, or a load of the file saved by an earlier engine. -/
inductive Move where
  | call (env : Env) (c : Call)
  | load (env : Env) (file : Engine)

namespace World

/-- `save_to` adds a file when it succeeds. -/
def filesAfter (w : World) (env : Env) : Call → List Engine
  | .saveTo _ => if env.fileOk then w.engine :: w.saved else w.saved
  | _ => w.saved

def step (w : World) : Move → World
  | .call env c => { engine := w.engine.after (env, c), saved := w.filesAfter env c }
  | .load env file => { w with engine := w.engine.act (.load env (.bytes file.saveBlob)) }

/-- Counters do not wrap, and a file that is loaded was saved before. -/
def possible (w : World) : Move → Prop
  | .call _ c => w.engine.NoWrap c
  | .load _ file => file ∈ w.saved

/-- Neither the policy that is set nor the file that is loaded is behind the engine. -/
def KeepsGenerations (w : World) : Move → Prop
  | .call _ c => w.engine.PolicyKeeps c
  | .load _ file => w.engine.generations ≤ file.generations

theorem step_generations {w : World} {m : Move} (hm : w.possible m ∧ w.KeepsGenerations m) :
    w.engine.generations ≤ (w.step m).engine.generations := by
  cases m with
  | call env c => exact Engine.exec_generations env hm.1 hm.2
  | load env file =>
    have hkeep : w.engine.generations ≤ file.generations := hm.2
    simp only [step]
    exact Engine.act_load_generations hkeep

/-- **Once stale, always stale**, in runs that do not install an older policy or load an older file. -/
theorem stale_stays_stale {l₂ l₃ : List Move} {w₁ w₂ w₃ : World}
    (h₂ : Run step (fun w m => w.possible m ∧ w.KeepsGenerations m) w₁ l₂ w₂)
    (h₃ : Run step (fun w m => w.possible m ∧ w.KeepsGenerations m) w₂ l₃ w₃)
    {a : Authority} (hvalid : w₁.engine.validAuthority a = true)
    (hstale : w₂.engine.validAuthority a = false) : w₃.engine.validAuthority a = false := by
  have hstep : ∀ (w : World) (m : Move), w.possible m ∧ w.KeepsGenerations m →
      w.engine.generations ≤ (w.step m).engine.generations := fun _ _ => step_generations
  rw [Engine.validAuthority_iff] at hvalid
  rw [← Bool.not_eq_true, Engine.validAuthority_iff] at hstale ⊢
  rw [← hvalid] at hstale ⊢
  exact @Run.no_return _ _ _ _ _ _ _ _ _ (fun w : World => w.engine.generations) _ _ hstep h₂ h₃ hstale

/-- `set_policy` with the defaults, a name and a chosen generation. -/
def install (n : UInt64) : Move := .call {} (.setPolicy { generation := ⟨n⟩, name := text "p" })

/-- An authority of the first epoch and quota generation, for a policy generation. -/
def policyAuthority (n : UInt64) : Authority :=
  { epoch := .initial, quotaGeneration := .initial, policyGeneration := ⟨n⟩ }

theorem stale_stays_stale_epoch :
    ([install 1, install 2, .call {} .advanceEpoch].foldl step { engine := {} }).engine.validAuthority
      (policyAuthority 1) = false := by
  have h₂ : Run step (fun w m => w.possible m ∧ w.KeepsGenerations m)
      ([install 1].foldl step { engine := {} }) [install 2]
      ([install 1, install 2].foldl step { engine := {} }) := by
    refine .cons ⟨trivial, fun _ => ?_⟩ (.nil _)
    decide +kernel
  have h₃ : Run step (fun w m => w.possible m ∧ w.KeepsGenerations m)
      ([install 1, install 2].foldl step { engine := {} }) [.call {} .advanceEpoch]
      ([install 1, install 2, .call {} .advanceEpoch].foldl step { engine := {} }) := by
    refine .cons ⟨?_, trivial⟩ (.nil _)
    show UInt64.toNat _ + 1 < 2 ^ 64
    decide +kernel
  exact stale_stays_stale h₂ h₃ (by decide +kernel) (by decide +kernel)

/-- **An older policy brings an authority back**: it is valid under generation 1, stale under
    generation 2, and valid again when generation 1 is installed once more. -/
theorem older_policy_revives_authority :
    Run step possible { engine := {} } [install 1, install 2, install 1]
        ([install 1, install 2, install 1].foldl step { engine := {} }) ∧
      ([install 1].foldl step { engine := {} }).engine.validAuthority (policyAuthority 1) = true ∧
      ([install 1, install 2].foldl step { engine := {} }).engine.validAuthority (policyAuthority 1) =
        false ∧
      ([install 1, install 2, install 1].foldl step { engine := {} }).engine.validAuthority
        (policyAuthority 1) = true :=
  ⟨.cons trivial (.cons trivial (.cons trivial (.nil _))), by decide +kernel, by decide +kernel,
    by decide +kernel⟩

end World

end QuotaFabric
