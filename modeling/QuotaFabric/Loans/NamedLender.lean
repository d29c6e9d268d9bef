import QuotaFabric.Accounting.Books
import QuotaFabric.Engine.Controls
import QuotaFabric.Loans.Recall

/-!
# Who lends

`lend` checks the headroom of the tenant it is told to lend from, and then hands the request to
`borrow_impl`, which knows the borrower only and takes the first tenant in hash order that can lend.

* `exec_quotasValid`, `CallStep.coversLoans` — in every run the lent counters cover the loans, so that a new
  loan never overflows the counter of its lender;
* `chooseLender_eq_some_iff` — who is found;
* `lend_ok` — what a `lend` that succeeds did;
* `lend_as_named_iff` — it did what it was told exactly when the search stops at the named lender, and the
  resynchronisation of the borrower finds nothing to repair.
-/

set_option autoImplicit false

namespace QuotaFabric

open AList

/-- A search finds an element if it has the property and nothing before its first occurrence does. -/
theorem find?_eq_some_iff_takeWhile {α : Type} [DecidableEq α] {p : α → Bool} {a : α} :
    ∀ {l : List α}, l.find? p = some a ↔
      p a = true ∧ a ∈ l ∧ ∀ x ∈ l.takeWhile fun y => !decide (y = a), p x = false
  | [] => by simp
  | y :: l => by
    have ih := find?_eq_some_iff_takeWhile (p := p) (a := a) (l := l)
    by_cases hya : y = a
    · subst hya
      cases hp : p y with
      | true => simp [hp]
      | false =>
        have hno : l.find? p ≠ some y := fun h => by
          rw [(ih.mp h).1] at hp
          cases hp
        simp [hp, hno]
    · have hay : ¬ a = y := fun h => hya h.symm
      cases hp : p y with
      | true => simp [hp, hya]
      | false => simp [hp, hya, hay, ih]

namespace Engine

/-! ## The lent counters of every run -/

/-- Any public call, with new ids, non-negative amounts and 64-bit quotas. -/
def validCall (s : Engine) (c : Env × Call) : Prop := anyCall s c ∧ c.2.QuotaValid

instance (s : Engine) (c : Env × Call) : Decidable (validCall s c) := inferInstanceAs (Decidable (_ ∧ _))

section Covers

variable {env : Env} {s s' : Engine} {c : Call}

theorem exec_quotasValid (hquota : c.QuotaValid) (h : QuotasValid s) : QuotasValid (s.exec env c).2 := by
  by_cases hobs : ∃ obs, c = .applyObservation obs
  · obtain ⟨obs, rfl⟩ := hobs
    have hstep := applyObservation_callStep env s obs
    show QuotasValid (s.applyObservation env obs).2
    unfold applyObservation at hstep ⊢
    split
    · exact h
    · cases obs.kind
      all_goals simp only
      all_goals try split
      all_goals exact h.same rfl rfl
  · cases hc : c.isControl with
    | false =>
      have hstand := exec_standing env s hc fun obs h => hobs ⟨obs, h⟩
      exact h.same (congrArg Standing.localQuota hstand) (congrArg Standing.groupQuota hstand)
    | true =>
      cases c with
      | setPolicy policy =>
        show QuotasValid (s.setPolicy env policy).2
        unfold setPolicy
        split <;> exact h.same rfl rfl
      | advanceEpoch => exact h.same rfl rfl
      | setTenantQuota t q =>
        have hq : q.Valid := hquota
        show QuotasValid (s.setTenantQuota env t q).2
        unfold setTenantQuota
        split
        · exact h
        split
        · exact h
        · exact ⟨forall_lookup_insert h.localQuota ⟨hq.guaranteed, hq.softLimit, hq.hardLimit, hq.burstLimit,
            hq.borrowable, hq.physicalCapacity⟩, h.groupQuota⟩
      | setGroupQuota g q =>
        have hq : q.Valid := hquota
        show QuotasValid (s.setGroupQuota env g q).2
        unfold setGroupQuota
        split
        · exact h
        · exact ⟨h.localQuota, forall_lookup_insert h.groupQuota ⟨hq.guaranteed, hq.softLimit, hq.hardLimit,
            hq.burstLimit, hq.borrowable, hq.physicalCapacity⟩⟩
      | _ => cases hc

/-- An observation cannot make a counter negative: `set` refuses such an amount. -/
theorem applyObservation_consumption_nonNeg (obs : Observation) (x : TenantId)
    (h : ∀ x, (s.usageOf x).consumption.NonNeg) :
    ((s.applyObservation env obs).2.usageOf x).consumption.NonNeg := by
  have hmodify : ∀ (e : Engine) (f : Usage → Usage) (type : EventType) (detail : Str),
      (∀ x, e.usageOf x = s.usageOf x) → (∀ u, u.consumption.NonNeg → (f u).consumption.NonNeg) →
      (((e.modifyUsage obs.tenant f).emitEvent env type obs.tenant detail).usageOf x).consumption.NonNeg := by
    intro e f type detail he hf
    rw [usageOf_emitEvent, usageOf_modifyUsage, he, he]
    split
    · exact hf _ (h _)
    · exact h x
  have htouch : ∀ x, (s.modifyUsage obs.tenant id).usageOf x = s.usageOf x := usageOf_modifyUsage_id s obs.tenant
  have hshift : ∀ d amount u, u.consumption.NonNeg → (shiftConsumption d amount u).consumption.NonNeg :=
    fun d amount u hu => ResourceVector.set_nonNeg hu d _
  unfold applyObservation
  split
  · exact h x
  cases obs.kind
  all_goals simp only
  case computeInterval | transferConsumed =>
    split
    · rw [htouch]
      exact h x
    · exact hmodify _ _ _ _ htouch fun u hu => hu
  case modelResidencyAdded => exact hmodify _ _ _ _ htouch (hshift _ _)
  case modelResidencyRemoved => exact hmodify _ _ _ _ htouch fun u hu => ResourceVector.set_nonNeg hu _ _
  case kvUsageChange | tensorUsageChange | usageDelta => exact hmodify _ _ _ _ htouch (hshift _ _)
  all_goals
    rw [usageOf_emitEvent, htouch]
    exact h x

/-- **Every call keeps the lent counters at or above the loans.** -/
theorem CallStep.coversLoans (hstep : CallStep env s c s') (hfresh : FreshLoans env s)
    (hamount : c.amount.NonNeg) (hq : QuotasValid s)
    (hcap : ∀ obs, c = .applyObservation obs → ∀ x, (s'.usageOf x).consumption.NonNeg) (h : CoversLoans s) :
    CoversLoans s' := by
  have hrec := hstep.recordsNonNeg hamount h.records
  -- a change of the other records, then a resynchronisation
  have hrecords : ∀ {e : Engine} {ts : List TenantId}, Resynced env e s' ts →
      (∀ x, e.usageOf x = s.usageOf x) → e.lends = s.lends → CoversLoans s' := by
    intro e ts hsync husage hlends
    refine hsync.coversLoans (h.of_records (hrec.of_ledger hsync.ledger.symm) (fun x => ?_) hlends)
    rw [husage]
    exact ⟨rfl, rfl, rfl⟩
  cases hstep with
  | kept c hsame =>
    refine h.of_records hrec (fun x => ?_) hsame.lends
    rw [hsame.usageOf]
    exact ⟨rfl, rfl, rfl⟩
  | rolledBack hback =>
    have hdrawn := hback.loans.coversLoans hq h
    exact hback.returned.coversLoans (hback.loans.frame.config.quotasValid hq) hdrawn
  | admitted hadm =>
    obtain ⟨e, hent, hsync⟩ := hadm.recorded
    refine hsync.coversLoans ((hadm.loans.coversLoans hq h).of_records (hrec.of_ledger hsync.ledger.symm)
      (fun x => ?_) hent.lends)
    exact ⟨(hent.counters x).1, (hent.counters x).2.1, (hent.counters x).2.2.1⟩
  | committed hr hstatus hsync => exact hrecords hsync (fun _ => rfl) rfl
  | started hr hact hsync => exact hrecords hsync (fun _ => rfl) rfl
  | resized hgen ha hact hts hsync => exact hrecords hsync (fun _ => rfl) rfl
  | stopped ha hact hsync => exact hrecords hsync (fun _ => rfl) rfl
  | @released rid auth r mid s' hr hact hmid hsync =>
    have hmark : CoversLoans (s.setStatus rid .released) :=
      h.of_records ⟨forall_lookup_modify h.records.reservations fun _ hr => hr, h.records.allocations⟩
        (fun _ => ⟨rfl, rfl, rfl⟩) rfl
    have hback : LoanSteps env (fun _ => True) (s.setStatus rid .released) mid :=
      hmid ▸ returnAll_loanSteps _ _ fun _ _ => trivial
    exact hsync.coversLoans ((hback.coversLoans ⟨hq.localQuota, hq.groupQuota⟩ hmark).of_records
      (hrec.of_ledger hsync.ledger.symm) (fun _ => ⟨rfl, rfl, rfl⟩) rfl)
  | borrowed hlender hsync =>
    exact hsync.coversLoans (openLoan_coversLoans hq h hlender hamount (hfresh.lendingId default))
  | lent hlender hsync =>
    exact hsync.coversLoans (openLoan_coversLoans hq h hlender hamount (hfresh.lendingId default))
  | recalled hb hrec' hsync =>
    exact hsync.coversLoans (closeLoan_coversLoans h _ _ (ResourceVector.min_nonNeg _ _))
  | @observed obs s' hobs =>
    refine ⟨hrec, fun x => ⟨hcap obs rfl x, ?_⟩, fun x => ?_, by rw [hobs.lends]; exact h.lends, fun x d => ?_⟩
    · rw [hobs.usage x]
      exact (h.capacity x).2
    · rw [hobs.usage x]
      exact h.lent x
    · have hsum : s'.lentSum x d = s.lentSum x d := by unfold lentSum; rw [hobs.lends]
      rw [hsum, hobs.usage x]
      exact h.covered x d

theorem coversLoans_start (settings : EngineSettings) : CoversLoans { settings := settings } where
  records := ⟨fun _ _ h => (by cases h), fun _ _ h => (by cases h)⟩
  capacity _ := ⟨fun _ => le_refl 0, fun _ => le_refl 0⟩
  lent _ := ResourceVector.valid_empty
  lends _ _ h := by cases h
  covered _ _ := le_refl 0

/-- In every reachable state quotas hold 64-bit amounts, and the lent counters cover the loans. -/
theorem run_coversLoans {settings : EngineSettings} {l : List (Env × Call)}
    (hrun : Run Engine.after validCall { settings := settings } l s) : QuotasValid s ∧ CoversLoans s := by
  refine hrun.invariant (I := fun s => QuotasValid s ∧ CoversLoans s)
    ⟨⟨fun _ _ h => (by cases h), fun _ _ h => (by cases h)⟩, coversLoans_start settings⟩ ?_
  rintro s ⟨env, c⟩ ⟨hq, h⟩ ⟨⟨hfresh, hamount⟩, hquota⟩
  refine ⟨exec_quotasValid hquota hq, (exec_callStep hfresh.toFreshLoans hamount).coversLoans
    hfresh.toFreshLoans hamount hq ?_ h⟩
  rintro obs rfl x
  exact applyObservation_consumption_nonNeg obs x fun x => (h.capacity x).1

end Covers

/-! ## The search for a lender -/

section Search

variable {env : Env} {s : Engine}

/-- The tenants in iteration order, up to the first occurrence of `lender`. -/
def tenantsBefore (env : Env) (s : Engine) (lender : TenantId) : List TenantId :=
  ((env.tenantOrder s.tenants.entries).map fun e => e.1).takeWhile fun x => !decide (x = lender)

theorem chooseLender_eq_some_iff {borrower lender : TenantId} {amount : ResourceVector}
    (hlender : s.tenantExists lender = true) (hcan : s.canLend lender amount = true) :
    s.chooseLender env borrower amount = some lender ↔
      lender ≠ borrower ∧ ∀ x ∈ s.tenantsBefore env lender, x ≠ borrower → s.canLend x amount = false := by
  have hmem : lender ∈ (env.tenantOrder s.tenants.entries).map fun e => e.1 := by
    obtain ⟨tn, htn⟩ := Option.isSome_iff_exists.mp hlender
    exact List.mem_map.mpr ⟨⟨lender, tn⟩, env.tenantOrder.mem_run.mpr (lookup_eq_some_iff.mp htn), rfl⟩
  have hmap : s.chooseLender env borrower amount =
      ((env.tenantOrder s.tenants.entries).map fun e => e.1).find? fun x => !(x == borrower) && s.canLend x amount := by
    unfold chooseLender
    rw [List.find?_map]
    rfl
  rw [hmap, find?_eq_some_iff_takeWhile]
  unfold tenantsBefore
  simp only [hmem, hcan, true_and, Bool.and_true, Bool.not_eq_true', beq_eq_false_iff_ne, Bool.and_eq_false_imp]

end Search

/-! ## Main result -/

/-- The loan `l` that leads from `s` to `s'` is the one that was asked for, and no other tenant notices. -/
structure LentAsNamed (s s' : Engine) (lender borrower : TenantId) (amount : ResourceVector)
    (l : LendingRecord) : Prop where
  fromLender : l.lender = lender
  toBorrower : l.borrower = borrower
  ofAmount : l.amount = amount
  grown : ∀ d, s'.lentSum lender d = s.lentSum lender d + amount.get d
  records : ∀ x, x ≠ lender → SameWhere (fun r => r.lender = x) s.lends s'.lends
  counters : ∀ x, x ≠ lender → ∀ d, (s'.usageOf x).lent.get d = (s.usageOf x).lent.get d

/-- The search stops at the named lender, and the borrower's own lent counter is up to date. -/
structure SearchStopsAt (env : Env) (s : Engine) (lender borrower : TenantId) (amount : ResourceVector) : Prop where
  other : lender ≠ borrower
  first : ∀ x ∈ s.tenantsBefore env lender, x ≠ borrower → s.canLend x amount = false
  current : ∀ d, (s.usageOf borrower).lent.get d = s.lentSum borrower d

section Lend

variable {env : Env} {s : Engine} {lender borrower : TenantId} {amount : ResourceVector} {auth : Authority}

/-- A `lend` that succeeds opened a loan from the tenant the search found. -/
theorem lend_ok (hfresh : FreshLoans env s) {r : LendingRecord}
    (hok : (s.lend env lender borrower amount auth).1 = .ok r) :
    s.tenantExists lender = true ∧ s.canLend lender amount = true ∧
    ∃ found, s.chooseLender env borrower amount = some found ∧
      r = s.newLending env default found borrower amount ∧
      Resynced env (s.openLoan env default found borrower amount none)
        (s.lend env lender borrower amount auth).2 [borrower, lender] := by
  unfold lend at hok ⊢
  split at hok
  · cases hok
  split at hok
  · cases hok
  rename_i hauth hexists
  split at hok
  · cases hok
  rename_i hcan
  rw [if_neg hauth, if_neg hexists, if_neg hcan]
  simp only [Bool.not_eq_true', Bool.not_eq_false] at hexists hcan
  refine ⟨hexists, hcan, ?_⟩
  cases hfound : s.chooseLender env borrower amount with
  | none =>
    rw [borrowImpl_of_no_lender hfound] at hok
    cases hok
  | some found =>
    rw [borrowImpl_of_lender hfound] at hok ⊢
    have hsync := ((Resynced.refl env (s.openLoan env default found borrower amount none)).sync 0
      lender).sync 1 borrower
    have hlook : (((s.openLoan env default found borrower amount none).syncUsage env 0 lender).syncUsage env 1
        borrower).lends.lookup (s.newBorrow env default found borrower amount none).lending =
        some (s.newLending env default found borrower amount) := by
      rw [hsync.lends, openLoan_lends, emplace_of_notMem (hfresh.lendingId default)]
      exact lookup_insert _
    simp only [hlook] at hok ⊢
    refine ⟨found, rfl, ?_, hsync⟩
    cases hok
    rfl

/-- **`lend` lends as it is told** exactly when the named lender is another tenant, the first in iteration
    order that can lend the amount to the borrower, and the borrower's own lent counter is what its records
    add up to; in every reachable state, with every iteration order. -/
theorem lend_as_named_iff {settings : EngineSettings} {h : List (Env × Call)} {r : LendingRecord}
    (hrun : Run Engine.after validCall { settings := settings } h s)
    (hc : validCall s (env, .lend lender borrower amount auth))
    (hok : (s.lend env lender borrower amount auth).1 = .ok r) :
    LentAsNamed s (s.lend env lender borrower amount auth).2 lender borrower amount r ↔
      SearchStopsAt env s lender borrower amount := by
  obtain ⟨hq, hcov⟩ := run_coversLoans hrun
  have hfresh := hc.1.1.toFreshLoans
  obtain ⟨hexists, hcan, found, hfound, hrec, hsync⟩ := lend_ok hfresh hok
  have hlid := hfresh.lendingId default
  have hopened := openLoan_coversLoans hq hcov hfound hc.1.2 hlid
  constructor
  · intro hlent
    have hsame : found = lender := by
      rw [← hlent.fromLender, hrec]
      rfl
    subst hsame
    obtain ⟨hother, hfirst⟩ := (chooseLender_eq_some_iff hexists hcan).mp hfound
    refine ⟨hother, hfirst, fun d => ?_⟩
    rw [← hlent.counters borrower (Ne.symm hother) d, hsync.lent_get hopened List.mem_cons_self,
      lentSum_openLoan found borrower amount hlid, if_neg hother, zero_add]
  · intro hstop
    have hsame : found = lender := by
      rw [(chooseLender_eq_some_iff hexists hcan).mpr ⟨hstop.other, hstop.first⟩] at hfound
      exact (Option.some.inj hfound).symm
    subst hsame
    refine ⟨by rw [hrec]; rfl, by rw [hrec]; rfl, by rw [hrec]; rfl, fun d => ?_, fun x hx => ?_, fun x hx d => ?_⟩
    · rw [hsync.lentSum, lentSum_openLoan found borrower amount hlid, if_pos rfl]
      exact add_comm _ _
    · rw [hsync.lends, openLoan_lends, emplace_of_notMem hlid]
      exact sameWhere_insert hlid fun heq => hx heq.symm
    · by_cases hxb : x = borrower
      · subst hxb
        rw [hsync.lent_get hopened List.mem_cons_self, lentSum_openLoan found x amount hlid, if_neg hstop.other,
          zero_add]
        exact (hstop.current d).symm
      · rw [hsync.other x (by simp [hxb, hx]), lent_openLoan hq hcov hfound, if_neg hx]

end Lend

/-- Two tenants that may lend, and one that wants to borrow. -/
def twoLenders : List (Env × Call) :=
  [(.numbered 1, .createTenant ⟨0, 1⟩ [] none 100),
   (.numbered 2, .createTenant ⟨0, 2⟩ [] none 100),
   (.numbered 3, .createTenant ⟨0, 3⟩ [] none 100),
   (.numbered 4, .setTenantQuota ⟨0, 2⟩
     { guaranteed := .fromScalar .acceleratorVRAM 100, borrowable := .fromScalar .acceleratorVRAM 60 }),
   (.numbered 5, .setTenantQuota ⟨0, 3⟩
     { guaranteed := .fromScalar .acceleratorVRAM 100, borrowable := .fromScalar .acceleratorVRAM 60 })]

/-- `lend` of 20 from one of the lenders. -/
def lendFrom (lender : TenantId) : Env × Call :=
  (.numbered 6, .lend lender ⟨0, 1⟩ (.fromScalar .acceleratorVRAM 20) { epoch := .initial, quotaGeneration := ⟨3⟩ })

/-- What the call returns, and the engine after it. -/
def lentFrom (lender : TenantId) : QuotaResult LendingRecord × Engine :=
  (twoLenders.foldl Engine.after {}).lend (.numbered 6) lender ⟨0, 1⟩ (.fromScalar .acceleratorVRAM 20)
    { epoch := .initial, quotaGeneration := ⟨3⟩ }

theorem lend_as_named_first :
    (lentFrom ⟨0, 3⟩).1.toOption.isSome = true ∧
    ∀ r, (lentFrom ⟨0, 3⟩).1 = .ok r →
      LentAsNamed (twoLenders.foldl Engine.after {}) (lentFrom ⟨0, 3⟩).2 ⟨0, 3⟩ ⟨0, 1⟩
        (.fromScalar .acceleratorVRAM 20) r :=
  ⟨by decide +kernel, fun _ hok =>
    (@lend_as_named_iff _ _ _ _ _ _ {} twoLenders _ (Run.of_check _ _ (by decide +kernel)) (by decide +kernel)
      hok).mpr ⟨by decide, by decide +kernel, by decide +kernel⟩⟩

/-- **Another tenant lends**: the second lender is named, and the third, which the map lists first, lends. -/
theorem lend_from_other_tenant :
    Run Engine.after validCall {} twoLenders (twoLenders.foldl Engine.after {}) ∧
    validCall (twoLenders.foldl Engine.after {}) (lendFrom ⟨0, 2⟩) ∧
    (lentFrom ⟨0, 2⟩).1.toOption.map LendingRecord.lender = some ⟨0, 3⟩ ∧
    (lentFrom ⟨0, 2⟩).2.lentSum ⟨0, 2⟩ .acceleratorVRAM = 0 ∧
    (lentFrom ⟨0, 2⟩).2.lentSum ⟨0, 3⟩ .acceleratorVRAM = 20 ∧
    ((lentFrom ⟨0, 2⟩).2.usageOf ⟨0, 3⟩).lent.get .acceleratorVRAM = 20 :=
  ⟨Run.of_check _ _ (by decide +kernel), by decide +kernel, by decide +kernel, by decide +kernel,
    by decide +kernel, by decide +kernel⟩

end Engine

end QuotaFabric
