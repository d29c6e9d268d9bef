import QuotaFabric.Limits.Committed
import QuotaFabric.Loans.Rollback

/-!
# Reported usage and resynchronisation

`apply_observation` adds a reported amount to the `consumption` counter of its tenant and stores it
nowhere else.  `sync_usage` rebuilds that counter from the allocation records, so the next call that
resynchronises the tenant drops what was reported.

* `totalObserved` — what a run reports for a tenant on a dimension;
* `resyncs` — the tenants a call resynchronises when it succeeds;
* `exec_consumption_other`, `exec_consumption_failed` — no other tenant's consumption changes, and a
  failed call changes nobody's;
* `SparesReports` — a call resynchronises only tenants without consumption;
* `reported_usage_kept` — then consumption is the sum of the reported amounts all along;
* `reported_usage_lost` — one reservation after one observation loses the reported amount.
-/

set_option autoImplicit false

namespace QuotaFabric

open AList

/-- The kinds of observation that add an amount to the consumption of their dimension. -/
def ObservationKind.addsUsage : ObservationKind → Bool
  | .usageDelta => true
  | .kvUsageChange => true
  | .tensorUsageChange => true
  | _ => false

/-- What a call reports for `t` on `d`. -/
def Call.observed (t : TenantId) (d : ResourceDimension) : Call → Int
  | .applyObservation obs => if obs.tenant = t ∧ obs.dimension = d then obs.amount else 0
  | _ => 0

/-- What a sequence of calls reports for `t` on `d`. -/
def totalObserved (l : List (Env × Call)) (t : TenantId) (d : ResourceDimension) : Int :=
  (l.map fun c => c.2.observed t d).sum

theorem totalObserved_snoc (l : List (Env × Call)) (c : Env × Call) (t : TenantId)
    (d : ResourceDimension) :
    totalObserved (l ++ [c]) t d = totalObserved l t d + c.2.observed t d := by
  unfold totalObserved
  simp

namespace Engine

/-- The tenants a lifecycle call resynchronises when it succeeds.  The commit of a reservation that is
    committed already succeeds before it gets there. -/
def resyncs (s : Engine) : Call → List TenantId
  | .reserve t _ _ => [t]
  | .commitReservation rid _ =>
    (((s.reservations.lookup rid).filter fun r => r.status == .provisional).map (·.tenant)).toList
  | .release rid _ => ((s.reservations.lookup rid).map (·.tenant)).toList
  | .borrow b _ _ => [b]
  | .lend l b _ _ => [b, l]
  | .recallBorrow bid _ =>
    match s.borrows.lookup bid with
    | none => []
    | some b => [b.lender, b.borrower]
  | _ => []

/-- An observation that adds a non-negative amount within 64 bits, or a core call. -/
def reportingCall (s : Engine) (c : Env × Call) : Prop :=
  match c.2 with
  | .applyObservation obs =>
    obs.kind.addsUsage = true ∧ 0 ≤ obs.amount ∧
      (s.usageOf obs.tenant).consumption.get obs.dimension + obs.amount ≤ INT64_MAX
  | _ => coreCall s c

/-- A successful call resynchronises only tenants without consumption. -/
def SparesReports (s : Engine) (c : Env × Call) : Prop :=
  (s.exec c.1 c.2).1.ok = true →
    ∀ x ∈ s.resyncs c.2, ∀ d, (s.usageOf x).consumption.get d = 0

instance (s : Engine) (c : Env × Call) : Decidable (reportingCall s c) := by
  apply Call.casesOn (motive := fun call => Decidable (reportingCall s (c.1, call))) c.2 <;> intros <;> unfold reportingCall <;> infer_instance

instance (s : Engine) (c : Env × Call) : Decidable (SparesReports s c) :=
  inferInstanceAs (Decidable (_ → ∀ x ∈ s.resyncs c.2, ∀ d, (s.usageOf x).consumption.get d = 0))

/-! ## Core calls -/

/-- The consumption of `x` is the same. -/
def SameConsumption (s s' : Engine) (x : TenantId) : Prop :=
  (s'.usageOf x).consumption = (s.usageOf x).consumption

section Core

variable {env : Env} {s : Engine}

theorem Resynced.sameConsumption {mid s' : Engine} {ts : List TenantId} (h : Resynced env mid s' ts)
    {x : TenantId} (hmid : SameConsumption s mid x) (hx : x ∉ ts) : SameConsumption s s' x := by
  unfold SameConsumption
  rw [h.other x hx]
  exact hmid

theorem LoanFrame.sameConsumption {s' : Engine} (h : LoanFrame s s') (x : TenantId) :
    SameConsumption s s' x :=
  (h.counters x).1

/-- A core call leaves the consumption of every tenant it does not resynchronise. -/
theorem exec_consumption_other {c : Call} (hfresh : FreshIds env s) (hamount : c.amount.NonNeg)
    (hc : c.isCore = true) {x : TenantId} (hx : x ∉ s.resyncs c) :
    SameConsumption s (s.exec env c).2 x := by
  cases c with
  | reserve t req auth =>
    show SameConsumption s (s.reserve env t req auth).2 x
    rcases reserve_cases hfresh.toFreshLoans t req auth with heq | ⟨st, hback⟩ | ⟨st, hadm⟩
    · rw [heq]; exact rfl
    · exact hback.frame.sameConsumption x
    · obtain ⟨e, hent, hsync⟩ := hadm.recorded
      refine hsync.sameConsumption ?_ hx
      exact (hent.counters x).1.trans (hadm.loans.frame.counters x).1
  | commitReservation rid auth =>
    show SameConsumption s (s.commitReservation env rid auth).2 x
    rcases commitReservation_cases env s rid auth with heq | ⟨r, hr, hstatus, hsync⟩
    · rw [heq]; exact rfl
    · have hts : s.resyncs (.commitReservation rid auth) = [r.tenant] := by simp [resyncs, hr, hstatus]
      rw [hts] at hx
      exact hsync.sameConsumption rfl hx
  | release rid auth =>
    show SameConsumption s (s.release env rid auth).2 x
    rcases release_cases env s rid auth with heq | ⟨r, mid, hr, -, hret, hsync⟩
    · rw [heq]; exact rfl
    · have hxr : x ∉ [r.tenant] := by simpa [resyncs, hr] using hx
      exact hsync.sameConsumption (hret.frame.sameConsumption x) hxr
  | borrow b amount auth =>
    show SameConsumption s (s.borrow env b amount auth).2 x
    rcases borrow_cases hfresh.toFreshLoans b amount hamount auth with heq | ⟨lender, -, hstep, hsync⟩
    · rw [heq]; exact rfl
    · exact hsync.sameConsumption (hstep.frame.sameConsumption x) hx
  | lend l b amount auth =>
    show SameConsumption s (s.lend env l b amount auth).2 x
    rcases lend_cases hfresh.toFreshLoans l b amount hamount auth with heq | ⟨lender, -, hstep, hsync⟩
    · rw [heq]; exact rfl
    · exact hsync.sameConsumption (hstep.frame.sameConsumption x) hx
  | recallBorrow bid auth =>
    show SameConsumption s (s.recallBorrow env bid auth).2 x
    rcases recallBorrow_cases env s bid auth with heq | ⟨b, hb, -, hstep, hsync⟩
    · rw [heq]; exact rfl
    · have hxb : x ∉ [b.lender, b.borrower] := by simpa [resyncs, hb] using hx
      exact hsync.sameConsumption (hstep.frame.sameConsumption x) hxb
  | _ => cases hc

/-- A failed `reserve` has moved loans at most. -/
theorem reserve_failed_frame (t : TenantId) (req : ResourceVector) (auth : Authority)
    (hfresh : FreshLoans env s) (hfail : (s.reserve env t req auth).1.status.ok = false) :
    LoanFrame s (s.reserve env t req auth).2 := by
  by_cases hacc : Accepted env s t req auth
  · rw [reserve_of_accepted hacc] at hfail ⊢
    cases hloop : fundLoop env (s.effectiveLattice t) (s.committed t) t req allResourceDimensions
        { engine := s.modifyUsage t id } with
    | ok st =>
      rw [hloop] at hfail
      cases hfail
    | error err =>
      obtain ⟨q, s₂⟩ := err
      obtain ⟨pre, d, post, st, hds, hpre, -, -, -, -, hres, -⟩ := fundLoop_stuck hloop
      have hstart := fundInv_start hfresh t
      rw [hds] at hstart
      have hdrawn := (fundInv_ok hfresh hstart hpre).loans.frame
      have hback : LoanSteps env (fun b => b ∈ st.borrowIds) st.engine
          (st.engine.returnAll env st.borrowIds) := returnAll_loanSteps _ _ fun _ hb => hb
      show LoanFrame s s₂
      rw [show s₂ = st.engine.returnAll env st.borrowIds from hres]
      exact hdrawn.trans hback.frame
  · rw [reserve_of_refused hacc]
    exact .refl s

/-- The lending record of a loan that was just opened is there. -/
theorem openLoan_lookup_lending (hlid : env.lendingId default ∉ s.lends) (lender borrower : TenantId)
    (amount : ResourceVector) :
    (s.openLoan env default lender borrower amount none).lends.lookup (env.lendingId default) =
      some (s.newLending env default lender borrower amount) := by
  rw [openLoan_lends, emplace_of_notMem hlid, lookup_insert]

/-- A failed core call changes nobody's consumption. -/
theorem exec_consumption_failed {c : Call} (hfresh : FreshIds env s) (hc : c.isCore = true)
    (hfail : (s.exec env c).1.ok = false) (x : TenantId) : SameConsumption s (s.exec env c).2 x := by
  cases c with
  | reserve t req auth =>
    exact (reserve_failed_frame t req auth hfresh.toFreshLoans hfail).sameConsumption x
  | commitReservation rid auth =>
    have hfail' : (s.commitReservation env rid auth).1.ok = false := hfail
    show SameConsumption s (s.commitReservation env rid auth).2 x
    unfold commitReservation at hfail' ⊢
    repeat' split at hfail'
    all_goals cases hfail'
    all_goals simp_all [SameConsumption]
  | release rid auth =>
    have hfail' : (s.release env rid auth).1.ok = false := hfail
    show SameConsumption s (s.release env rid auth).2 x
    unfold release at hfail' ⊢
    repeat' split at hfail'
    all_goals cases hfail'
    all_goals simp_all [SameConsumption]
  | borrow b amount auth =>
    have hfail' : (s.borrow env b amount auth).1.status.ok = false := hfail
    show SameConsumption s (s.borrow env b amount auth).2 x
    unfold borrow at hfail' ⊢
    split
    · exact rfl
    split
    · exact rfl
    rename_i h1 h2
    rw [if_neg h1, if_neg h2] at hfail'
    cases hl : s.chooseLender env b amount with
    | none => rw [borrowImpl_of_no_lender hl]; exact rfl
    | some lender =>
      rw [borrowImpl_of_lender hl] at hfail'
      cases hfail'
  | lend l b amount auth =>
    have hfail' : (s.lend env l b amount auth).1.status.ok = false := hfail
    show SameConsumption s (s.lend env l b amount auth).2 x
    unfold lend at hfail' ⊢
    split
    · exact rfl
    split
    · exact rfl
    split
    · exact rfl
    rename_i h1 h2 h3
    rw [if_neg h1, if_neg h2, if_neg h3] at hfail'
    cases hl : s.chooseLender env b amount with
    | none => rw [borrowImpl_of_no_lender hl]; exact rfl
    | some lender =>
      rw [borrowImpl_of_lender hl] at hfail'
      have hrec := openLoan_lookup_lending (hfresh.lendingId default) lender b amount
      simp only at hfail'
      rw [show (((s.openLoan env default lender b amount none).syncUsage env 0 l).syncUsage env 1 b).lends
        = (s.openLoan env default lender b amount none).lends from rfl] at hfail'
      rw [show (s.newBorrow env default lender b amount none).lending = env.lendingId default from rfl,
        hrec] at hfail'
      cases hfail'
  | recallBorrow bid auth =>
    have hfail' : (s.recallBorrow env bid auth).1.ok = false := hfail
    show SameConsumption s (s.recallBorrow env bid auth).2 x
    unfold recallBorrow at hfail' ⊢
    split
    · exact rfl
    rename_i h1
    rw [if_neg h1] at hfail'
    cases hb : s.borrows.lookup bid with
    | none => exact rfl
    | some b =>
      rw [hb] at hfail'
      simp only at hfail' ⊢
      unfold returnBorrow at hfail' ⊢
      rw [hb] at hfail' ⊢
      simp only at hfail' ⊢
      split
      · exact rfl
      · rename_i hrec
        rw [if_neg hrec] at hfail'
        cases hfail'
  | _ => cases hc

end Core

/-! ## Runs -/

/-- What the engine counts as consumed is what was reported. -/
structure ReportsKept (s₀ : Engine) (l : List (Env × Call)) (s : Engine) : Prop where
  noAllocation : NoAllocation s
  tenants : s.tenants = s₀.tenants
  counted : ∀ t, s.tenantExists t = true → ∀ d,
    (s.usageOf t).consumption.get d = totalObserved l t d ∧ 0 ≤ totalObserved l t d

section Runs

variable {env : Env} {s₀ s : Engine} {l : List (Env × Call)}

/-- An observation that adds usage, for a tenant that exists. -/
theorem applyObservation_eq {obs : Observation} (hten : s.tenantExists obs.tenant = true)
    (hkind : obs.kind.addsUsage = true) :
    (s.applyObservation env obs).2 =
      ((s.modifyUsage obs.tenant id).modifyUsage obs.tenant
        (shiftConsumption obs.dimension obs.amount)).emitEvent env .violation obs.tenant
          (text "observation " ++ resourceDimensionName obs.dimension) := by
  unfold applyObservation
  rw [if_neg (by simp [hten])]
  cases hk : obs.kind
  all_goals rw [hk] at hkind
  all_goals first | rfl | cases hkind

theorem applyObservation_unknown {obs : Observation} (hten : s.tenantExists obs.tenant = false) :
    (s.applyObservation env obs).2 = s := by
  unfold applyObservation
  rw [if_pos (by simp [hten])]

/-- The counter moves by the reported amount, on the reported dimension. -/
theorem get_shiftConsumption {d e : ResourceDimension} {amount : Int} {u : Usage}
    (h : 0 ≤ u.consumption.get d + amount) :
    (shiftConsumption d amount u).consumption.get e =
      u.consumption.get e + if d = e then amount else 0 := by
  unfold shiftConsumption ResourceVector.set
  simp only
  rw [if_neg (by omega)]
  by_cases he : d = e
  · subst he
    rw [SparseVec.get_put_self, if_pos rfl]
  · rw [SparseVec.get_put_ne _ _ (fun h => he h.symm), if_neg he, add_zero]

theorem ReportsKept.observe (h : ReportsKept s₀ l s) {obs : Observation}
    (hkind : obs.kind.addsUsage = true) (hamount : 0 ≤ obs.amount) :
    ReportsKept s₀ (l ++ [(env, .applyObservation obs)]) (s.applyObservation env obs).2 := by
  cases hten : s.tenantExists obs.tenant with
  | false =>
    rw [applyObservation_unknown hten]
    refine ⟨h.noAllocation, h.tenants, fun t ht d => ?_⟩
    have hne : obs.tenant ≠ t := by
      rintro rfl
      rw [hten] at ht; cases ht
    have hobs : Call.observed t d (.applyObservation obs) = 0 := by simp [Call.observed, hne]
    rw [totalObserved_snoc, hobs, add_zero]
    exact h.counted t ht d
  | true =>
    rw [applyObservation_eq hten hkind]
    refine ⟨h.noAllocation, h.tenants, fun t ht d => ?_⟩
    obtain ⟨hcount, hnn⟩ := h.counted t ht d
    obtain ⟨hcount', hnn'⟩ := h.counted obs.tenant hten obs.dimension
    rw [totalObserved_snoc, usageOf_emitEvent, usageOf_modifyUsage, usageOf_modifyUsage_id,
      usageOf_modifyUsage_id]
    have hobs : Call.observed t d (.applyObservation obs) =
        if obs.tenant = t ∧ obs.dimension = d then obs.amount else 0 := rfl
    rw [hobs]
    by_cases htt : t = obs.tenant
    · subst htt
      rw [if_pos rfl, get_shiftConsumption (by omega), hcount]
      by_cases hd : obs.dimension = d
      · rw [if_pos hd, if_pos ⟨rfl, hd⟩]
        exact ⟨rfl, by omega⟩
      · rw [if_neg hd, if_neg (fun hc => hd hc.2), add_zero]
        exact ⟨rfl, hnn⟩
    · rw [if_neg htt, if_neg (fun hc => htt hc.1.symm), add_zero]
      exact ⟨hcount, hnn⟩

theorem ReportsKept.core (h : ReportsKept s₀ l s) {c : Env × Call} (hc : coreCall s c)
    (hspare : SparesReports s c) : ReportsKept s₀ (l ++ [c]) (s.after c) := by
  obtain ⟨env, c⟩ := c
  obtain ⟨hcore, hfresh, hamount⟩ := hc
  have hstep := exec_capacityStep hfresh hamount hcore
  have hna := hstep.noAllocation h.noAllocation
  have hnone : ∀ t d, Call.observed t d c = 0 := by
    intro t d
    cases c with
    | applyObservation obs => cases hcore
    | _ => rfl
  refine ⟨hna, hstep.config.tenants.trans h.tenants, fun t ht d => ?_⟩
  have ht' : s.tenantExists t = true := by
    unfold tenantExists at ht ⊢
    rw [← hstep.config.tenants]
    exact ht
  obtain ⟨hcount, hnn⟩ := h.counted t ht' d
  rw [totalObserved_snoc, hnone, add_zero]
  refine ⟨?_, hnn⟩
  -- a resynchronised tenant had no consumption, and has none afterwards
  by_cases hx : t ∈ s.resyncs c
  · cases hok : (s.exec env c).1.ok with
    | false =>
      show ((s.exec env c).2.usageOf t).consumption.get d = _
      rw [show _ = _ from exec_consumption_failed hfresh hcore hok t]
      exact hcount
    | true =>
      have hzero := hspare hok t hx d
      rcases hstep.counters t with hsync | ⟨hsame, -⟩
      · show ((s.exec env c).2.usageOf t).consumption.get d = _
        rw [hsync.consumption, computedConsumed_of_noAllocation hna, ← hcount, hzero]
        rfl
      · show ((s.exec env c).2.usageOf t).consumption.get d = _
        rw [hsame]
        exact hcount
  · show ((s.exec env c).2.usageOf t).consumption.get d = _
    rw [show _ = _ from exec_consumption_other hfresh hamount hcore hx]
    exact hcount

/-- **Consumption is the sum of the reported amounts, in every run whose calls resynchronise only
    tenants without consumption.** -/
theorem reported_usage_kept (hconf : Configured s₀)
    (hrun : Run Engine.after (fun s c => reportingCall s c ∧ SparesReports s c) s₀ l s) :
    ∀ t, s.tenantExists t = true → ∀ d, (s.usageOf t).consumption.get d = totalObserved l t d := by
  have hinv : ReportsKept s₀ l s := by
    refine hrun.invariant_hist (I := fun l s => ReportsKept s₀ l s) ?_ ?_
    · refine ⟨?_, rfl, fun t _ d => ?_⟩
      · intro aid a ha
        rw [hconf.allocations] at ha
        cases ha
      · rw [hconf.usageOf]
        exact ⟨rfl, le_refl 0⟩
    · rintro l s ⟨env, c⟩ h ⟨hcall, hspare⟩
      cases c with
      | applyObservation obs => exact h.observe hcall.1 hcall.2.1
      | reserve t req auth => exact h.core hcall hspare
      | commitReservation rid auth => exact h.core hcall hspare
      | release rid auth => exact h.core hcall hspare
      | borrow b amount auth => exact h.core hcall hspare
      | lend l' b amount auth => exact h.core hcall hspare
      | recallBorrow bid auth => exact h.core hcall hspare
      | _ => cases hcall.1
  exact fun t ht d => (hinv.counted t ht d).1

end Runs

/-! ## Usage that is lost -/

/-- Five units reported for the capped tenant. -/
def fiveReported : Observation :=
  { tenant := cappedTenant, dimension := .acceleratorVRAM, amount := 5, kind := .usageDelta }

/-- One observation, then a reservation of 1 by the same tenant. -/
def reportThenReserve : List (Env × Call) :=
  [(.numbered 1, .applyObservation fiveReported),
   (.numbered 2, .reserve cappedTenant (.fromScalar .acceleratorVRAM 1) firstAuthority)]

/-- **A reservation after an observation loses the reported amount.** -/
theorem reported_usage_lost :
    ∃ s, Run Engine.after reportingCall borrowerAndLender reportThenReserve s ∧
      s.tenantExists cappedTenant = true ∧
      (s.usageOf cappedTenant).consumption.get .acceleratorVRAM ≠
        totalObserved reportThenReserve cappedTenant .acceleratorVRAM := by
  refine ⟨_, Run.of_check reportThenReserve borrowerAndLender (by decide +kernel), ?_, ?_⟩
  · decide +kernel
  · decide +kernel

/-- One reservation by the other tenant between two observations. -/
def reportAroundReserve : List (Env × Call) :=
  [(.numbered 1, .applyObservation fiveReported),
   (.numbered 2, .reserve lendingTenant (.fromScalar .acceleratorVRAM 1) firstAuthority),
   (.numbered 3, .applyObservation fiveReported)]

theorem reported_usage_kept_ten :
    ((reportAroundReserve.foldl Engine.after borrowerAndLender).usageOf cappedTenant).consumption.get
        .acceleratorVRAM = 10 ∧
      totalObserved reportAroundReserve cappedTenant .acceleratorVRAM = 10 := by
  have hrun : Run Engine.after (fun s c => reportingCall s c ∧ SparesReports s c) borrowerAndLender
      reportAroundReserve (reportAroundReserve.foldl Engine.after borrowerAndLender) :=
    Run.of_check _ _ (by decide +kernel)
  have hsum : totalObserved reportAroundReserve cappedTenant .acceleratorVRAM = 10 := by decide +kernel
  refine ⟨?_, hsum⟩
  rw [reported_usage_kept borrowerAndLender_configured hrun cappedTenant (by decide +kernel), hsum]

end Engine

end QuotaFabric
