import QuotaFabric.Lifecycle.Isolation
import QuotaFabric.Limits.BurstWindow

/-!
# Burst windows that outlive their bursts

`reserve` raises `burst_active` when it charges burst, and only a later `sync_usage` of the tenant, after the
window has expired, takes it back.  The flag stays when the charged reservations are released, and once the
window is over `burst_ok` refuses every further burst until some call resynchronises the tenant.

* `BurstBacked` — the burst counter is covered by the funding of live reservations, and there is no cooldown;
* `WindowCurrent` — the flag is not older than its window;
* `burst_ok_iff` — a tenant without charged reservations may burst exactly there.

As in `Limits.BurstWindow`, the end of a window is the exact sum of a clock reading and a duration.
-/

set_option autoImplicit false

namespace QuotaFabric

open AList

namespace Engine

section Sums

variable {env : Env} {s s' : Engine} {x : TenantId}

theorem fundsFor_iff {rid : ReservationId} : s.fundsFor x rid = true ↔
    ∃ r, s.reservations.lookup rid = some r ∧ r.tenant = x ∧ activeRes r = true := by
  unfold fundsFor
  cases s.reservations.lookup rid with
  | none => simp
  | some r => simp

/-- Records that were left alone fund the same burst. -/
theorem RecordsKept.burstSum (h : RecordsKept s x s') (d : ResourceDimension) :
    s'.burstSum x d = s.burstSum x d := by
  refine total_guard_congr fun rid f => ?_
  rw [fundsFor_iff, fundsFor_iff]
  constructor
  · rintro ⟨hf, r, hr, ht, hact⟩
    have hr' := (h.reservations rid r ht).mp hr
    exact ⟨(h.funding rid r hr' ht) ▸ hf, r, hr', ht, hact⟩
  · rintro ⟨hf, r, hr, ht, hact⟩
    exact ⟨(h.funding rid r hr ht) ▸ hf, r, (h.reservations rid r ht).mpr hr, ht, hact⟩

theorem burstSum_nonneg (hnn : ∀ rid f, s.funding.lookup rid = some f → f.burst.NonNeg) (d : ResourceDimension) :
    0 ≤ s.burstSum x d := by
  refine total_nonneg fun rid f hf => ?_
  split
  · exact hnn rid f hf d
  · exact le_refl 0

end Sums

/-! ## Windows and cooldowns -/

/-- No window opened, and no cooldown changed. -/
structure MarksKept (s s' : Engine) : Prop where
  cooldown : ∀ x, (s'.usageOf x).cooldownUntil = (s.usageOf x).cooldownUntil
  closed : ∀ x, (s.usageOf x).burstActive = false → (s'.usageOf x).burstActive = false

section Marks

variable {env : Env} {s s' s'' : Engine}

theorem MarksKept.refl (s : Engine) : MarksKept s s := ⟨fun _ => rfl, fun _ h => h⟩

theorem MarksKept.trans (h : MarksKept s s') (h' : MarksKept s' s'') : MarksKept s s'' :=
  ⟨fun x => (h'.cooldown x).trans (h.cooldown x), fun x hx => h'.closed x (h.closed x hx)⟩

theorem MarksKept.of_usage (h : s'.usage = s.usage) : MarksKept s s' := by
  have hsame : ∀ x, s'.usageOf x = s.usageOf x := fun x => by
    unfold usageOf
    rw [h]
  exact ⟨fun x => by rw [hsame], fun x hx => by rw [hsame]; exact hx⟩

theorem LoanFrame.marksKept (h : LoanFrame s s') : MarksKept s s' where
  cooldown x := by
    have hsame := congrArg Usage.cooldownUntil (h.capacity x)
    exact hsame
  closed x hx := by
    have hsame := congrArg Usage.burstActive (h.capacity x)
    exact hsame.trans hx

theorem marksKept_syncUsage (env : Env) (k : Nat) (s : Engine) (t : TenantId) :
    MarksKept s (s.syncUsage env k t) where
  cooldown x := by
    unfold syncUsage
    rw [usageOf_modifyUsage]
    split
    · rename_i hx
      subst hx
      split <;> rfl
    · rfl
  closed x hx := by
    unfold syncUsage
    rw [usageOf_modifyUsage]
    split
    · rename_i hxt
      subst hxt
      split
      · rfl
      · exact hx
    · exact hx

/-- A change that is followed by a resynchronisation. -/
theorem MarksKept.sync (h : MarksKept s s') (env : Env) (k : Nat) (t : TenantId) :
    MarksKept s (s'.syncUsage env k t) :=
  h.trans (marksKept_syncUsage env k s' t)

theorem marksKept_borrowImpl (k : ResourceDimension) (borrower : TenantId) (amount : ResourceVector) :
    MarksKept s (s.borrowImpl env k borrower amount none).2 := by
  unfold borrowImpl
  split
  · exact .refl s
  · exact (openLoan_frame ..).marksKept

/-- **Only `reserve` opens a window or writes a cooldown.** -/
theorem exec_marksKept {c : Call} (hno : ∀ t req auth, c ≠ .reserve t req auth) :
    MarksKept s (s.exec env c).2 := by
  cases c with
  | reserve t req auth => exact absurd rfl (hno t req auth)
  | setPolicy policy =>
    show MarksKept s (s.setPolicy env policy).2
    unfold setPolicy
    split <;> exact .of_usage rfl
  | createGroup name kind parent =>
    show MarksKept s (s.createGroup env name kind parent).2
    unfold createGroup
    split <;> exact .of_usage rfl
  | createTenant id name group priority => exact .of_usage (createTenant_sameRecords ..).usage
  | createTenantAutoid name group priority => exact .of_usage (createTenant_sameRecords ..).usage
  | setTenantQuota t q =>
    show MarksKept s (s.setTenantQuota env t q).2
    unfold setTenantQuota
    repeat' split
    all_goals exact .of_usage rfl
  | setGroupQuota g q =>
    show MarksKept s (s.setGroupQuota env g q).2
    unfold setGroupQuota
    split <;> exact .of_usage rfl
  | commitReservation rid auth =>
    have hmark : MarksKept s (s.markCommitted rid) := .of_usage rfl
    show MarksKept s (s.commitReservation env rid auth).2
    unfold commitReservation
    repeat' split
    all_goals first
      | exact .refl s
      | exact (hmark.sync env 0 _).trans (.of_usage rfl)
  | startAllocation rid req auth =>
    show MarksKept s (s.startAllocation env rid req auth).2
    unfold startAllocation
    split
    · exact .refl s
    split
    · exact .refl s
    rename_i r _
    split
    · exact .refl s
    · have henter : MarksKept s (s.withAllocation env r rid req auth) := .of_usage rfl
      exact (henter.sync env 0 r.tenant).trans (.of_usage rfl)
  | resizeAllocation aid delta auth =>
    show MarksKept s (s.resizeAllocation env aid delta auth).2
    unfold resizeAllocation
    split
    · exact .refl s
    split
    · exact .refl s
    rename_i a _
    split
    · exact .refl s
    · have hused : MarksKept s (s.withModified aid fun x => { x with used := resizedUse a delta }) := .of_usage rfl
      simp only
      split
      · exact .of_usage rfl
      · exact (hused.sync env 0 a.tenant).trans (.of_usage rfl)
  | release rid auth =>
    show MarksKept s (s.release env rid auth).2
    unfold release
    split
    · exact .refl s
    split
    · exact .refl s
    rename_i r _
    split
    · exact .refl s
    · have hmark : MarksKept s (s.setStatus rid .released) := .of_usage rfl
      have hback := hmark.trans (returnAll_frame env (s.setStatus rid .released)
        ((s.setStatus rid .released).listedBorrows rid)).marksKept
      have hdrop : MarksKept s (((s.setStatus rid .released).returnAll env
          ((s.setStatus rid .released).listedBorrows rid)).dropReservation rid) := hback.trans (.of_usage rfl)
      exact (hdrop.sync env 0 r.tenant).trans (.of_usage rfl)
  | releaseAllocation aid auth =>
    have hstop : MarksKept s
        (s.withModified aid fun x => { x with active := false, endedAt := env.now }) := .of_usage rfl
    show MarksKept s (s.releaseAllocation env aid auth).2
    unfold releaseAllocation
    repeat' split
    all_goals first
      | exact .refl s
      | exact (hstop.sync env 0 _).trans (.of_usage rfl)
  | borrow b amount auth =>
    have hloan : MarksKept s (s.borrowImpl env default b amount none).2 := marksKept_borrowImpl default b amount
    show MarksKept s (s.borrow env b amount auth).2
    unfold borrow
    split
    · exact .refl s
    split
    · exact .refl s
    split
    · rename_i heq
      rw [heq] at hloan
      exact hloan
    · rename_i heq
      rw [heq] at hloan
      exact hloan.sync env 0 b
  | lend l b amount auth =>
    have hloan : MarksKept s (s.borrowImpl env default b amount none).2 := marksKept_borrowImpl default b amount
    show MarksKept s (s.lend env l b amount auth).2
    unfold lend
    split
    · exact .refl s
    split
    · exact .refl s
    split
    · exact .refl s
    split
    · rename_i heq
      rw [heq] at hloan
      exact hloan
    · rename_i heq
      rw [heq] at hloan
      have hsync := (hloan.sync env 0 l).sync env 1 b
      simp only
      split <;> exact hsync
  | recallBorrow bid auth =>
    show MarksKept s (s.recallBorrow env bid auth).2
    unfold recallBorrow
    split
    · exact .refl s
    split
    · exact .refl s
    rename_i b _
    have hback : MarksKept s (s.returnBorrow env bid b.consumed).2 := by
      unfold returnBorrow
      split
      · exact .refl s
      split
      · exact .refl s
      · exact (closeLoan_frame ..).marksKept
    simp only
    split
    · exact ((hback.sync env 0 b.borrower).sync env 1 b.lender).trans (.of_usage rfl)
    · exact hback
  | applyObservation obs =>
    have hstep : CallStep env s (.applyObservation obs) (s.exec env (.applyObservation obs)).2 :=
      applyObservation_callStep env s obs
    cases hstep with
    | kept _ hkept => exact .of_usage hkept.usage
    | observed hobs => exact ⟨fun x => by rw [hobs.usage x], fun x hx => by rw [hobs.usage x]; exact hx⟩
  | saveTo path =>
    show MarksKept s (s.saveTo env path).2
    unfold saveTo
    split <;> exact .of_usage rfl
  | _ => exact .of_usage rfl

theorem cooldown_startBurst (env : Env) (eff : ResourceQuota) (s : Engine) (t x : TenantId)
    (burst : ResourceVector) :
    ((startBurst env eff s t burst).usageOf x).cooldownUntil = (s.usageOf x).cooldownUntil ∨
    ((startBurst env eff s t burst).usageOf x).cooldownUntil = 0 := by
  unfold startBurst
  split
  · exact .inl rfl
  · rw [usageOf_modifyUsage]
    split
    · exact .inr rfl
    · exact .inl rfl

theorem marksKept_recordReservation (eff : ResourceQuota) (t : TenantId) (req : ResourceVector)
    (auth : Authority) (st : Draw) :
    MarksKept (startBurst env eff st.engine t st.burst) (recordReservation env eff t req auth st).2 := by
  have henter : MarksKept (startBurst env eff st.engine t st.burst)
      ((startBurst env eff st.engine t st.burst).addReservation
        ((startBurst env eff st.engine t st.burst).newReservation env t req auth)
        { burst := st.burst, borrows := st.borrowIds }) := .of_usage rfl
  exact (henter.sync env 0 t).trans (.of_usage rfl)

/-- No call sets a cooldown. -/
theorem after_cooldown {c : Env × Call} (hfresh : FreshLoans c.1 s) (h : ∀ x, (s.usageOf x).cooldownUntil = 0)
    (x : TenantId) : ((s.after c).usageOf x).cooldownUntil = 0 := by
  obtain ⟨env, c⟩ := c
  by_cases hres : ∃ t req auth, c = .reserve t req auth
  · obtain ⟨t, req, auth, rfl⟩ := hres
    show ((s.reserve env t req auth).2.usageOf x).cooldownUntil = 0
    rcases reserve_cases hfresh t req auth with hsame | ⟨st, hback⟩ | ⟨st, hadm⟩
    · rw [hsame]
      exact h x
    · exact (hback.frame.marksKept.cooldown x).trans (h x)
    · rw [reserve_of_funded hadm.accepted hadm.funded, (marksKept_recordReservation ..).cooldown]
      rcases cooldown_startBurst env (s.effectiveLattice t) st.engine t x st.burst with hstart | hstart
      · exact hstart.trans ((hadm.loans.frame.marksKept.cooldown x).trans (h x))
      · exact hstart
  · have hkept : MarksKept s (s.exec env c).2 := exec_marksKept fun t req auth heq => hres ⟨t, req, auth, heq⟩
    exact (hkept.cooldown x).trans (h x)

end Marks

/-! ## Counters that are backed -/

/-- The burst counter of each tenant is at most the burst funding of its live reservations. -/
structure BurstBacked (s : Engine) : Prop where
  consistent : Consistent s
  nonNeg : ∀ rid f, s.funding.lookup rid = some f → f.burst.NonNeg
  counter : ∀ x d, (s.usageOf x).burst.get d ≤ s.burstSum x d
  cooldown : ∀ x, (s.usageOf x).cooldownUntil = 0

theorem Configured.burstBacked {s : Engine} (h : Configured s) : BurstBacked s where
  consistent := by
    have hledger : s.ledger = ({} : Engine).ledger := by
      unfold ledger
      rw [h.reservations, h.funding, h.allocations]
    have hnone : ∀ rid f, s.funding.lookup rid ≠ some f := fun rid f hf => by
      rw [h.funding] at hf
      cases hf
    exact ⟨hledger ▸ Lifecycle.empty, loansPaired_start h.borrows h.lends, fun rid f hf => absurd hf (hnone rid f),
      fun rid f _ hf => absurd hf (hnone rid f)⟩
  nonNeg rid f hf := by
    rw [h.funding] at hf
    cases hf
  counter x d := by
    unfold burstSum
    rw [h.usageOf, h.funding]
    exact le_refl 0
  cooldown x := by rw [h.usageOf]

section Step

variable {env : Env} {s s' : Engine}

theorem SyncedAt.burst_backed {x : TenantId} (h : SyncedAt env s x)
    (hnn : ∀ rid f, s.funding.lookup rid = some f → f.burst.NonNeg) (d : ResourceDimension) :
    0 ≤ (s.usageOf x).burst.get d ∧ (s.usageOf x).burst.get d ≤ s.burstSum x d := by
  rcases h.burst with hb | hb
  · rw [hb]
    exact ⟨sumOf_run_nonNeg env.fundingOrder (p := fun rid _ => s.fundsFor x rid) (f := fun _ f => f.burst)
      (fun rid f hf _ => hnn rid f hf) d, computedBurst_le hnn x d⟩
  · rw [hb]
    exact ⟨le_refl 0, burstSum_nonneg hnn d⟩

/-- A tenant is resynchronised, or keeps its burst counter and what is funded for it. -/
theorem Resynced.burst_cases {ts : List TenantId} {e : Engine} (hsync : Resynced env e s' ts)
    (hframe : LoanFrame s e) (x : TenantId) :
    SyncedAt env s' x ∨
      (s'.usageOf x).burst = (s.usageOf x).burst ∧ ∀ d, s'.burstSum x d = s.burstSum x d := by
  by_cases hx : x ∈ ts
  · exact .inl (hsync.synced x hx)
  · refine .inr ⟨?_, burstSum_congr (hsync.ledger.trans hframe.ledger) x⟩
    rw [hsync.other x hx]
    exact (hframe.counters x).2.2

/-- The same of the call of one tenant that is resynchronised. -/
theorem CallStep.burst_of_acts {c : Call} {t : TenantId} (hstep : CallStep env s c s') (hfresh : FreshIds env s)
    (hs : Consistent s) (hacts : s.actsOn c = some t) (hsync : SyncedAt env s' t) (x : TenantId) :
    SyncedAt env s' x ∨
      (s'.usageOf x).burst = (s.usageOf x).burst ∧ ∀ d, s'.burstSum x d = s.burstSum x d := by
  by_cases hx : x = t
  · subst hx
    exact .inl hsync
  · refine .inr ⟨?_, fun d => (hstep.recordsKept hfresh hs hacts hx).burstSum d⟩
    rcases hstep.usage_other hfresh hs hacts hx with hsame | ⟨-, hfor⟩
    · rw [hsame]
    · rw [hfor.usage x hx]

/-- **A core call recomputes a burst counter, or leaves it and its funding alone.** -/
theorem CallStep.burst_cases {c : Call} (hstep : CallStep env s c s') (hfresh : FreshIds env s)
    (hs : Consistent s) (hcore : c.isCore = true) (x : TenantId) :
    SyncedAt env s' x ∨
      (s'.usageOf x).burst = (s.usageOf x).burst ∧ ∀ d, s'.burstSum x d = s.burstSum x d := by
  cases hstep with
  | kept c hkept => exact .inr ⟨by rw [hkept.usageOf], burstSum_congr hkept.ledger x⟩
  | rolledBack hback => exact .inr ⟨(hback.frame.counters x).2.2, burstSum_congr hback.frame.ledger x⟩
  | admitted hadm =>
    obtain ⟨e, -, hsync⟩ := hadm.recorded
    exact (CallStep.admitted hadm).burst_of_acts hfresh hs rfl (hsync.synced _ List.mem_cons_self) x
  | @committed rid auth r s' hr hstatus hsync =>
    have hstep : CallStep env s (.commitReservation rid auth) s' := .committed hr hstatus hsync
    exact hstep.burst_of_acts hfresh hs (by rw [actsOn, hr]; rfl) (hsync.synced _ List.mem_cons_self) x
  | @released rid auth r mid s' hr hact hmid hsync =>
    have hstep : CallStep env s (.release rid auth) s' := .released hr hact hmid hsync
    exact hstep.burst_of_acts hfresh hs (by rw [actsOn, hr]; rfl) (hsync.synced _ List.mem_cons_self) x
  | borrowed hlender hsync => exact hsync.burst_cases (openLoan_frame ..) x
  | lent hlender hsync => exact hsync.burst_cases (openLoan_frame ..) x
  | recalled hb hrec hsync => exact hsync.burst_cases (closeLoan_frame ..) x
  | _ => cases hcore

/-- The funding is that of before, less that of one reservation, or with that of the one just made. -/
theorem CallStep.funding_cases {c : Call} (hstep : CallStep env s c s') :
    s'.funding = s.funding ∨ (∃ rid, s'.funding = s.funding.erase rid) ∨
    ∃ t req auth st, c = .reserve t req auth ∧ Admitted env s t req auth st s' ∧
      s'.funding = s.funding.insert env.reservationId { burst := st.burst, borrows := st.borrowIds } := by
  cases hstep with
  | kept c hkept => exact .inl (congrArg Ledger.funding hkept.ledger)
  | rolledBack hback => exact .inl hback.frame.funding
  | admitted hadm => exact .inr (.inr ⟨_, _, _, _, rfl, hadm, congrArg Ledger.funding hadm.ledger⟩)
  | committed hr hstatus hsync => exact .inl hsync.funding
  | started hr hact hsync => exact .inl hsync.funding
  | resized hgen ha hact hts hsync => exact .inl hsync.funding
  | @released rid auth r mid s' hr hact hmid hsync =>
    rw [hmid] at hsync
    exact .inr (.inl ⟨rid, congrArg Ledger.funding (hsync.ledger.trans (release_ledger env s rid _))⟩)
  | stopped ha hact hsync => exact .inl hsync.funding
  | borrowed hlender hsync => exact .inl (hsync.funding.trans (openLoan_frame ..).funding)
  | lent hlender hsync => exact .inl (hsync.funding.trans (openLoan_frame ..).funding)
  | recalled hb hrec hsync => exact .inl (hsync.funding.trans (closeLoan_frame ..).funding)
  | observed hobs => exact .inl hobs.funding

/-- Charged burst is not negative. -/
theorem CallStep.funding_nonNeg {c : Call} (hstep : CallStep env s c s')
    (h : ∀ rid f, s.funding.lookup rid = some f → f.burst.NonNeg) :
    ∀ rid f, s'.funding.lookup rid = some f → f.burst.NonNeg := by
  rcases hstep.funding_cases with hsame | ⟨rid, herase⟩ | ⟨t, req, auth, st, -, hadm, hfund⟩
  · rw [hsame]
    exact h
  · rw [herase]
    exact forall_lookup_erase h
  · rw [hfund]
    refine forall_lookup_insert h fun d => ?_
    show 0 ≤ st.burst.get d
    rw [get_fundLoop_burst hadm.funded]
    exact burstNeed_nonneg ..

/-- **A reserve or a release keeps the burst counters backed.** -/
theorem after_burstBacked {c : Env × Call} (hc : reservingCall s c) (h : BurstBacked s) :
    BurstBacked (s.after c) := by
  have hcooldown := after_cooldown hc.2.1.toFreshLoans h.cooldown
  obtain ⟨env, c⟩ := c
  obtain ⟨hkind, hfresh, hamount⟩ := hc
  have hcore := isCore_of_isReserving hkind
  have hconsistent := after_consistent (c := (env, c)) ⟨hfresh, hamount⟩ h.consistent
  have hstep : CallStep env s c (s.after (env, c)) := exec_callStep hfresh.toFreshLoans hamount
  have hnn := hstep.funding_nonNeg h.nonNeg
  refine ⟨hconsistent, hnn, fun x d => ?_, hcooldown⟩
  rcases hstep.burst_cases hfresh h.consistent hcore x with hsync | ⟨hsame, hsum⟩
  · exact (hsync.burst_backed hnn d).2
  · rw [hsame, hsum]
    exact h.counter x d

end Step

/-! ## Main result -/

/-- No live reservation of `t` is charged burst. -/
def NoBurstHeld (s : Engine) (t : TenantId) : Prop :=
  ∀ rid r, s.reservations.lookup rid = some r → r.tenant = t → activeRes r = true →
    ∀ f ∈ s.funding.lookup rid, ∀ d, f.burst.get d = 0

instance (s : Engine) (t : TenantId) : Decidable (s.NoBurstHeld t) :=
  inferInstanceAs (Decidable (∀ rid r, s.reservations.lookup rid = some r → r.tenant = t → activeRes r = true →
    ∀ f ∈ s.funding.lookup rid, ∀ d, f.burst.get d = 0))

/-- Where the window flag is set, the window has not expired; where it is not, the clock has passed the
    cooldown, which ends at its origin. -/
def WindowCurrent (s : Engine) (t : TenantId) (time : Nanos) : Prop :=
  ((s.usageOf t).burstActive = true → time < (s.usageOf t).burstExpires) ∧
    ((s.usageOf t).burstActive = false → 0 ≤ time)

instance (s : Engine) (t : TenantId) (time : Nanos) : Decidable (s.WindowCurrent t time) :=
  inferInstanceAs (Decidable (_ ∧ _))

theorem BurstBacked.burst_nonpos {s : Engine} (h : BurstBacked s) {t : TenantId} (hnone : s.NoBurstHeld t)
    (d : ResourceDimension) : (s.usageOf t).burst.get d ≤ 0 := by
  refine (h.counter t d).trans (le_of_eq ?_)
  refine total_eq_zero fun rid f hf => ?_
  by_cases hmine : s.fundsFor t rid = true
  · obtain ⟨r, hr, ht, hact⟩ := fundsFor_iff.mp hmine
    rw [if_pos hmine]
    exact hnone rid r hr ht hact f hf d
  · rw [if_neg hmine]

/-- **When a tenant that holds no burst may burst**: in every state reached by reserves and releases with a
    clock that does not go back, exactly when its window flag is not older than its window. -/
theorem burst_ok_iff {s₀ s : Engine} {time₀ time : Nanos} {l : List (Env × Call)} (hstart : Configured s₀)
    (hrun : Run tick clockedCall (s₀, time₀) l (s, time)) {t : TenantId} (hnone : s.NoBurstHeld t)
    {d : ResourceDimension} (hlimit : 0 < s.burstLimitOf t d)
    (hwindow : 0 < (s.effectiveLattice t).burstRule.window) (env : Env) :
    s.burstOk env d t (s.effectiveLattice t) = true ↔ s.WindowCurrent t (env.burstAt d) := by
  have hinv : BurstBacked s :=
    hrun.invariant (I := fun w => BurstBacked w.1) hstart.burstBacked
      fun w c hw hc => after_burstBacked hc.1 hw
  have hzero := hinv.burst_nonpos hnone d
  unfold burstLimitOf at hlimit
  unfold burstOk WindowCurrent
  simp only [hinv.cooldown t]
  cases (s.usageOf t).burstActive with
  | true =>
    by_cases hexpired : env.burstAt d ≥ (s.usageOf t).burstExpires
    · simp [hexpired]
    · have hless : (s.usageOf t).burst.get d <
          if (s.effectiveLattice t).burstLimit.present d then (s.effectiveLattice t).burstLimit.get d else 0 := by
        omega
      simp [hexpired, hless, not_le.mp hexpired]
  | false =>
    by_cases hearly : env.burstAt d < 0
    · simp [hearly]
    · simp [hearly, not_le.mpr hlimit, hwindow, not_lt.mp hearly]

/-- A tenant with a burst limit of 5, a window of an hour and no cooldown. -/
def promptTenant : Engine :=
  { burstingTenant with
    localQuota := (∅ : UMap TenantId ResourceQuota).insert cappedTenant
      { softLimit := .fromScalar .acceleratorVRAM 10
        hardLimit := .fromScalar .acceleratorVRAM 100
        burstLimit := .fromScalar .acceleratorVRAM 5
        burstRule := { window := 3600, cooldown := 0 } } }

/-- A burst reservation, released after 10 nanoseconds. -/
def shortBurst : List (Env × Call) := [reserveAt 1 0 15, releaseAt 2 10 ⟨0, 1⟩]

theorem shortBurst_run :
    Run tick clockedCall (promptTenant, 0) shortBurst (shortBurst.foldl tick (promptTenant, 0)) :=
  Run.of_check _ _ (by decide +kernel)

theorem burst_ok_inside_window :
    (shortBurst.foldl tick (promptTenant, 0)).1.burstOk (reserveAt 3 100 15).1 .acceleratorVRAM cappedTenant
      ((shortBurst.foldl tick (promptTenant, 0)).1.effectiveLattice cappedTenant) = true :=
  (burst_ok_iff ⟨rfl, rfl, rfl, rfl, rfl, rfl⟩ shortBurst_run (by decide +kernel) (by decide +kernel)
    (by decide +kernel) (reserveAt 3 100 15).1).mpr (by decide +kernel)

/-- **An hour later the tenant is stuck**, though it holds nothing and there is no cooldown. -/
theorem burst_stuck :
    Configured promptTenant ∧
    Run tick clockedCall (promptTenant, 0) shortBurst (shortBurst.foldl tick (promptTenant, 0)) ∧
    (shortBurst.foldl tick (promptTenant, 0)).1.NoBurstHeld cappedTenant ∧
    isConsumable .acceleratorVRAM = false ∧
    0 < (shortBurst.foldl tick (promptTenant, 0)).1.burstLimitOf cappedTenant .acceleratorVRAM ∧
    ((shortBurst.foldl tick (promptTenant, 0)).1.effectiveLattice cappedTenant).burstRule.window = 3600 ∧
    ((shortBurst.foldl tick (promptTenant, 0)).1.effectiveLattice cappedTenant).burstRule.cooldown = 0 ∧
    (shortBurst.foldl tick (promptTenant, 0)).1.burstOk (reserveAt 3 3600 15).1 .acceleratorVRAM cappedTenant
      ((shortBurst.foldl tick (promptTenant, 0)).1.effectiveLattice cappedTenant) = false :=
  ⟨⟨rfl, rfl, rfl, rfl, rfl, rfl⟩, Run.of_check _ _ (by decide +kernel), by decide +kernel, rfl,
    by decide +kernel, by decide +kernel, by decide +kernel, by decide +kernel⟩

end Engine

end QuotaFabric
