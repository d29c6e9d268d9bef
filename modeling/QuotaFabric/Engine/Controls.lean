import QuotaFabric.Engine.Loans

/-!
# What only configuration calls and observations set

The settings, the epoch, the quota generation, the policy, the quotas and the rolling windows:
reservations, allocations, loans and the hierarchy calls leave them alone, whatever ids they are given.

* `controls` — the settings, the epoch, the generation and the policy together;
* `standing` — these, the quotas and the windows;
* `exec_standing`, `exec_controls` — the calls that keep them;
* `exec_settings` — no call changes the settings;
* `exec_windows`, `exec_localQuota` — windows change by observations only, and the quotas of tenants
  only where one is set;
* `lt_next` — a generation that does not wrap grows.
-/

set_option autoImplicit false

namespace QuotaFabric

/-- The calls that set the epoch, a generation or the policy. -/
def Call.isControl : Call → Bool
  | .setPolicy _ => true
  | .advanceEpoch => true
  | .setTenantQuota .. => true
  | .setGroupQuota .. => true
  | _ => false

structure Controls where
  settings : EngineSettings
  epoch : CoordinatorEpoch
  quotaGeneration : QuotaGeneration
  policy : QuotaPolicy

structure Standing where
  controls : Controls
  localQuota : UMap TenantId ResourceQuota
  groupQuota : UMap TenantGroupId ResourceQuota
  windows : TenantId → ResourceDimension → RollingWindow

theorem Generation.lt_next {tag : GenerationTag} {g : Generation tag} (h : g.value.toNat + 1 < 2 ^ 64) :
    g.value.toNat < g.next.value.toNat := by
  have hone : (1 : UInt64).toNat = 1 := rfl
  unfold Generation.next
  rw [UInt64.toNat_add, hone, Nat.mod_eq_of_lt h]
  omega

namespace Engine

def controls (s : Engine) : Controls := ⟨s.settings, s.epoch, s.quotaGeneration, s.policy⟩

def standing (s : Engine) : Standing :=
  ⟨s.controls, s.localQuota, s.groupQuota, fun x => (s.usageOf x).windows⟩

section Frame

variable (env : Env) (s : Engine)

@[simp] theorem standing_emitEvent (type : EventType) (t : TenantId) (detail : Str) :
    (s.emitEvent env type t detail).standing = s.standing := rfl

/-- A write to one tenant's counters that keeps the windows. -/
theorem standing_modifyUsage (t : TenantId) {f : Usage → Usage} (hf : ∀ u, (f u).windows = u.windows) :
    (s.modifyUsage t f).standing = s.standing := by
  have hwindows : ∀ x, ((s.modifyUsage t f).usageOf x).windows = (s.usageOf x).windows := by
    intro x
    rw [usageOf_modifyUsage]
    split
    · rename_i hx
      rw [hx]
      exact hf _
    · rfl
  unfold standing
  simp only [hwindows]
  rfl

@[simp] theorem standing_syncUsage (k : Nat) (t : TenantId) : (s.syncUsage env k t).standing = s.standing := by
  unfold syncUsage
  refine standing_modifyUsage s t fun u => ?_
  split <;> rfl

@[simp] theorem standing_dropReservation (rid : ReservationId) :
    (s.dropReservation rid).standing = s.standing := rfl

@[simp] theorem standing_openLoan (k : ResourceDimension) (lender borrower : TenantId)
    (amount : ResourceVector) (reservation : Option ReservationId) :
    (s.openLoan env k lender borrower amount reservation).standing = s.standing := by
  unfold openLoan
  simp only [standing_emitEvent]
  rw [standing_modifyUsage, standing_modifyUsage]
  · rfl
  · exact fun _ => rfl
  · exact fun _ => rfl

@[simp] theorem standing_closeBorrow (bid : BorrowId) (b : BorrowRecord) (ret : ResourceVector) :
    (s.closeBorrow bid b ret).standing = s.standing := by
  unfold closeBorrow
  exact standing_modifyUsage _ _ fun _ => rfl

@[simp] theorem standing_closeLending (lid : LendingId) (ret : ResourceVector) :
    (s.closeLending lid ret).standing = s.standing := by
  unfold closeLending
  split
  · rfl
  · simp only
    split
    · exact standing_modifyUsage _ _ fun _ => rfl
    · rfl

theorem standing_returnBorrow (bid : BorrowId) (amount : ResourceVector) :
    (s.returnBorrow env bid amount).2.standing = s.standing := by
  unfold returnBorrow
  split
  · rfl
  split
  · rfl
  · unfold closeLoan
    rw [standing_emitEvent, standing_closeLending, standing_closeBorrow]

theorem standing_returnAll : ∀ (bids : List BorrowId) (s : Engine), (s.returnAll env bids).standing = s.standing
  | [], _ => rfl
  | bid :: bids, _ => (standing_returnAll bids _).trans (standing_returnBorrow env _ bid _)

theorem standing_borrowImpl (k : ResourceDimension) (borrower : TenantId) (amount : ResourceVector)
    (reservation : Option ReservationId) :
    (s.borrowImpl env k borrower amount reservation).2.standing = s.standing := by
  unfold borrowImpl
  split
  · rfl
  · exact standing_openLoan ..

/-- The engine a step of the funding loop leaves, whether it goes on or not. -/
def drawnEngine : Except (QuotaStatus × Engine) Draw → Engine
  | .error e => e.2
  | .ok st => st.engine

theorem standing_fundDimension (eff : ResourceQuota) (cb : ResourceVector) (t : TenantId)
    (req : ResourceVector) (st : Draw) (d : ResourceDimension) :
    (drawnEngine (fundDimension env eff cb t req st d)).standing = st.engine.standing := by
  have hloan := standing_borrowImpl env st.engine d t
    (ResourceVector.fromScalar d (borrowPart eff d (cb.get d) (satAdd (cb.get d) (req.get d)))) none
  unfold fundDimension
  split
  · rfl
  simp only
  split
  · split
    · rename_i e s' heq
      rw [heq] at hloan
      exact (standing_returnAll env _ _).trans hloan
    · rename_i b s' heq
      rw [heq] at hloan
      exact hloan
  · rfl

theorem standing_fundLoop (eff : ResourceQuota) (cb : ResourceVector) (t : TenantId) (req : ResourceVector) :
    ∀ (ds : List ResourceDimension) (st : Draw),
      (drawnEngine (fundLoop env eff cb t req ds st)).standing = st.engine.standing
  | [], _ => rfl
  | d :: ds, st => by
    have hstep := standing_fundDimension env eff cb t req st d
    unfold fundLoop
    split
    · rename_i e heq
      rw [heq] at hstep
      exact hstep
    · rename_i st' heq
      rw [heq] at hstep
      exact (standing_fundLoop eff cb t req ds st').trans hstep

theorem standing_startBurst (eff : ResourceQuota) (t : TenantId) (burst : ResourceVector) :
    (startBurst env eff s t burst).standing = s.standing := by
  unfold startBurst
  split
  · rfl
  · exact standing_modifyUsage _ _ fun _ => rfl

theorem standing_reserve (t : TenantId) (req : ResourceVector) (auth : Authority) :
    (s.reserve env t req auth).2.standing = s.standing := by
  have htouch : (s.modifyUsage t id).standing = s.standing := standing_modifyUsage s t fun _ => rfl
  have hloop := standing_fundLoop env (s.effectiveLattice t) ((s.modifyUsage t id).committed t) t req
    allResourceDimensions { engine := s.modifyUsage t id }
  unfold reserve
  split
  · rfl
  split
  · rfl
  split
  · rfl
  split
  · rfl
  simp only
  split
  · rfl
  split
  · rename_i st s₂ heq
    rw [heq] at hloop
    exact hloop.trans htouch
  · rename_i st heq
    rw [heq] at hloop
    refine Eq.trans ?_ (hloop.trans htouch)
    unfold recordReservation
    simp only [standing_emitEvent, standing_syncUsage]
    exact standing_startBurst env st.engine (s.effectiveLattice t) t st.burst

/-- **A call that is neither for configuration nor an observation keeps all of it.** -/
theorem exec_standing {c : Call} (hc : c.isControl = false) (hobs : ∀ obs, c ≠ .applyObservation obs) :
    (s.exec env c).2.standing = s.standing := by
  cases c with
  | setPolicy policy => cases hc
  | advanceEpoch => cases hc
  | setTenantQuota t q => cases hc
  | setGroupQuota g q => cases hc
  | applyObservation obs => exact absurd rfl (hobs obs)
  | reserve t req auth => exact standing_reserve env s t req auth
  | release rid auth =>
    show (s.release env rid auth).2.standing = s.standing
    unfold release
    split
    · rfl
    split
    · rfl
    split
    · rfl
    · simp only [standing_emitEvent, standing_syncUsage, standing_dropReservation, standing_returnAll]
      rfl
  | borrow b amount auth =>
    show (s.borrow env b amount auth).2.standing = s.standing
    have hloan := standing_borrowImpl env s default b amount none
    unfold borrow
    split
    · rfl
    split
    · rfl
    split
    · rename_i heq
      rw [heq] at hloan
      exact hloan
    · rename_i heq
      rw [heq] at hloan
      exact (standing_syncUsage ..).trans hloan
  | lend l b amount auth =>
    show (s.lend env l b amount auth).2.standing = s.standing
    have hloan := standing_borrowImpl env s default b amount none
    unfold lend
    split
    · rfl
    split
    · rfl
    split
    · rfl
    split
    · rename_i heq
      rw [heq] at hloan
      exact hloan
    · rename_i s₁ heq
      rw [heq] at hloan
      have hsync : ((s₁.syncUsage env 0 l).syncUsage env 1 b).standing = s.standing :=
        ((standing_syncUsage ..).trans (standing_syncUsage ..)).trans hloan
      simp only
      split <;> exact hsync
  | recallBorrow bid auth =>
    show (s.recallBorrow env bid auth).2.standing = s.standing
    unfold recallBorrow
    split
    · rfl
    split
    · rfl
    · rename_i b _
      have hback := standing_returnBorrow env s bid b.consumed
      simp only
      split
      · rw [standing_emitEvent, standing_syncUsage, standing_syncUsage]
        exact hback
      · exact hback
  | createGroup name kind parent =>
    show (s.createGroup env name kind parent).2.standing = s.standing
    unfold createGroup
    split <;> rfl
  | createTenant id name group priority =>
    show (s.createTenant env id name group priority).2.standing = s.standing
    unfold createTenant
    repeat' split
    all_goals rfl
  | createTenantAutoid name group priority =>
    show (s.createTenant env env.tenantId name group priority).2.standing = s.standing
    unfold createTenant
    repeat' split
    all_goals rfl
  | commitReservation rid auth =>
    show (s.commitReservation env rid auth).2.standing = s.standing
    unfold commitReservation
    repeat' split
    all_goals first
      | rfl
      | (simp only [standing_emitEvent, standing_syncUsage]; rfl)
  | startAllocation rid req auth =>
    show (s.startAllocation env rid req auth).2.standing = s.standing
    unfold startAllocation
    repeat' split
    all_goals first
      | rfl
      | (simp only [standing_emitEvent, standing_syncUsage]; rfl)
  | resizeAllocation aid delta auth =>
    show (s.resizeAllocation env aid delta auth).2.standing = s.standing
    unfold resizeAllocation
    split
    · rfl
    split
    · rfl
    split
    · rfl
    · simp only
      split
      · rfl
      · simp only [standing_emitEvent, standing_syncUsage]
        rfl
  | releaseAllocation aid auth =>
    show (s.releaseAllocation env aid auth).2.standing = s.standing
    unfold releaseAllocation
    repeat' split
    all_goals first
      | rfl
      | (simp only [standing_emitEvent, standing_syncUsage]; rfl)
  | saveTo path =>
    show (s.saveTo env path).2.standing = s.standing
    unfold saveTo
    split <;> rfl
  | _ => rfl

/-- **A call that is not for configuration keeps the controls.** -/
theorem exec_controls {c : Call} (hc : c.isControl = false) : (s.exec env c).2.controls = s.controls := by
  by_cases hobs : ∃ obs, c = .applyObservation obs
  · obtain ⟨obs, rfl⟩ := hobs
    show (s.applyObservation env obs).2.controls = s.controls
    unfold applyObservation
    split
    · rfl
    · cases obs.kind
      all_goals simp only
      all_goals try split
      all_goals rfl
  · exact congrArg Standing.controls (exec_standing env s hc fun obs h => hobs ⟨obs, h⟩)

/-- **Only observations change a rolling window.** -/
theorem exec_windows {c : Call} (hobs : ∀ obs, c ≠ .applyObservation obs) (x : TenantId) :
    ((s.exec env c).2.usageOf x).windows = (s.usageOf x).windows := by
  cases hc : c.isControl with
  | false => exact congrFun (congrArg Standing.windows (exec_standing env s hc hobs)) x
  | true =>
    cases c with
    | setPolicy policy =>
      show ((s.setPolicy env policy).2.usageOf x).windows = _
      unfold setPolicy
      split <;> rfl
    | advanceEpoch => rfl
    | setTenantQuota t q =>
      show ((s.setTenantQuota env t q).2.usageOf x).windows = _
      unfold setTenantQuota
      repeat' split
      all_goals rfl
    | setGroupQuota g q =>
      show ((s.setGroupQuota env g q).2.usageOf x).windows = _
      unfold setGroupQuota
      split <;> rfl
    | _ => cases hc

/-- **Only `set_tenant_quota` changes a tenant's own quota.** -/
theorem exec_localQuota {c : Call} (hset : ∀ t q, c ≠ .setTenantQuota t q) :
    (s.exec env c).2.localQuota = s.localQuota := by
  by_cases hobs : ∃ obs, c = .applyObservation obs
  · obtain ⟨obs, rfl⟩ := hobs
    show (s.applyObservation env obs).2.localQuota = s.localQuota
    unfold applyObservation
    split
    · rfl
    · cases obs.kind
      all_goals simp only
      all_goals try split
      all_goals rfl
  · cases hc : c.isControl with
    | false => exact congrArg Standing.localQuota (exec_standing env s hc fun obs h => hobs ⟨obs, h⟩)
    | true =>
      cases c with
      | setPolicy policy =>
        show (s.setPolicy env policy).2.localQuota = _
        unfold setPolicy
        split <;> rfl
      | advanceEpoch => rfl
      | setTenantQuota t q => exact absurd rfl (hset t q)
      | setGroupQuota g q =>
        show (s.setGroupQuota env g q).2.localQuota = _
        unfold setGroupQuota
        split <;> rfl
      | _ => cases hc

/-- No call changes the settings. -/
theorem exec_settings (c : Call) : (s.exec env c).2.settings = s.settings := by
  cases hc : c.isControl with
  | false => exact congrArg Controls.settings (exec_controls env s hc)
  | true =>
    cases c with
    | setPolicy policy =>
      show (s.setPolicy env policy).2.settings = s.settings
      unfold setPolicy
      split <;> rfl
    | advanceEpoch => rfl
    | setTenantQuota t q =>
      show (s.setTenantQuota env t q).2.settings = s.settings
      unfold setTenantQuota
      repeat' split
      all_goals rfl
    | setGroupQuota g q =>
      show (s.setGroupQuota env g q).2.settings = s.settings
      unfold setGroupQuota
      split <;> rfl
    | _ => cases hc

end Frame

end Engine

end QuotaFabric
