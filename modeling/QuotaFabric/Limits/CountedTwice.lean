import QuotaFabric.Decisions.Decomposition
import QuotaFabric.Lib.ExactDoubles
import QuotaFabric.Limits.PhysicalCapacity
import QuotaFabric.Limits.StuckBurst
import QuotaFabric.Limits.TenantCeiling
import QuotaFabric.Loans.BorrowedExact
import QuotaFabric.Loans.Recall

/-!
# What the physical check counts twice

`total_for_phys` adds what a tenant has borrowed and burst to what it has committed.  A reservation is
committed in full, so the burst it was charged and the loans that fund it are in both summands; only
loans taken out on their own are counted once.

* `physicalAllowance_none` — without overcommit the allowance is the capacity;
* `Holding` — the counters of every tenant are within its records, kept by each core call;
* `Counted` — the counters of one tenant are its records, kept while these fit 64 bits;
* `countedOnce`, `heldTwice` — what a tenant holds, and the burst and the loans in it that are added again;
* `physical_check_iff` — when a refusal means that the capacity is exceeded.
-/

set_option autoImplicit false

namespace QuotaFabric

open AList

theorem physicalAllowance_none (env : Env) {d : ResourceDimension} {eff : ResourceQuota}
    (hmode : eff.overcommit = .none) (hpres : eff.physicalCapacity.present d = true)
    (h0 : 0 ≤ eff.physicalCapacity.get d) (h : eff.physicalCapacity.get d < 2 ^ 53) :
    physicalAllowance env d eff = eff.physicalCapacity.get d := by
  unfold physicalAllowance
  rw [hpres, hmode]
  simp only [Bool.not_true, Bool.false_eq_true, if_false, reduceCtorEq, or_self]
  rw [if_neg (ExactDouble.not_max_lt_ofInt h0 h), ExactDouble.toInt64_ofInt _ h0 h]

namespace Engine

/-! ## Two kinds of loans -/

/-- What the unreturned loans of `t` add up to, among those that `p` holds for. -/
def borrowedWhere (s : Engine) (t : TenantId) (p : BorrowId → Prop) [DecidablePred p] (d : ResourceDimension) : Int :=
  total s.borrows fun bid b => if b.borrower == t && !b.recalled then (if p bid then b.consumed.get d else 0) else 0

/-- Unreturned loans of `t` that fund none of its active reservations. -/
def unfundedSum (s : Engine) (t : TenantId) (d : ResourceDimension) : Int :=
  s.borrowedWhere t (fun bid => bid ∉ s.fundingLoans t) d

/-- Unreturned loans of `t` that fund an active reservation of `t`. -/
def reservedLoans (s : Engine) (t : TenantId) (d : ResourceDimension) : Int :=
  s.borrowedWhere t (fun bid => bid ∈ s.fundingLoans t) d

/-- What a request would bring the tenant to, each unit counted once. -/
def countedOnce (s : Engine) (t : TenantId) (d : ResourceDimension) (amount : Int) : Int :=
  (s.usageOf t).consumption.get d + (s.usageOf t).reserved.get d + amount + s.unfundedSum t d

/-- What the counters add to that in `total_for_phys`. -/
def countedTwice (s : Engine) (t : TenantId) (d : ResourceDimension) : Int :=
  (s.usageOf t).burst.get d + ((s.usageOf t).borrowedConsumed.get d - s.unfundedSum t d)

/-- The burst charged to the active reservations of `t`, while its counter is not cleared by the end of the
    burst window, and the loans that fund them. -/
def heldTwice (s : Engine) (t : TenantId) (d : ResourceDimension) : Int :=
  (if (s.usageOf t).burst.isEmpty then 0 else s.burstSum t d) + s.reservedLoans t d

theorem borrowedSum_eq (s : Engine) (t : TenantId) (d : ResourceDimension) :
    s.borrowedSum t d = s.reservedLoans t d + s.unfundedSum t d := by
  unfold borrowedSum reservedLoans unfundedSum borrowedWhere
  rw [← total_add]
  refine total_congr fun bid b _ => ?_
  by_cases hmine : (b.borrower == t && !b.recalled) = true
  · simp only [hmine, if_true]
    by_cases hfunds : bid ∈ s.fundingLoans t
    · rw [if_pos hfunds, if_neg (not_not.mpr hfunds), add_zero]
    · rw [if_neg hfunds, if_pos hfunds, zero_add]
  · simp only [hmine, Bool.false_eq_true, if_false, add_zero]

/-! ## Runs -/

/-- The counters of every tenant are within its records. -/
structure Holding (s : Engine) : Prop where
  consistent : Consistent s
  records : RecordsNonNeg s
  below : CountersBelow s
  loans : LoansCovered s
  funding : ∀ rid f, s.funding.lookup rid = some f → f.burst.NonNeg
  reserved : ∀ x d, 0 ≤ (s.usageOf x).reserved.get d ∧ (s.usageOf x).reserved.get d ≤ INT64_MAX
  burst : ∀ x d, 0 ≤ (s.usageOf x).burst.get d ∧ (s.usageOf x).burst.get d ≤ s.burstSum x d

section Runs

variable {env : Env} {s s' : Engine} {t : TenantId} {d : ResourceDimension}

theorem Configured.holding (h : Configured s) : Holding s := by
  have hnone : ∀ rid f, s.funding.lookup rid ≠ some f := fun rid f hf => by
    rw [h.funding] at hf
    cases hf
  have hledger : s.ledger = ({} : Engine).ledger := by
    unfold ledger
    rw [h.reservations, h.funding, h.allocations]
  have hpaired : LoansPaired s := loansPaired_start h.borrows h.lends
  have hborrowed : ∀ x d, s.borrowedSum x d = 0 := fun x d => by
    unfold borrowedSum
    rw [h.borrows]
    rfl
  have hborrows : ∀ bid b, s.borrows.lookup bid ≠ some b := fun bid b hb => by
    rw [h.borrows] at hb
    cases hb
  refine ⟨h.burstBacked.consistent, ⟨?_, ?_⟩, ⟨?_, h.idle.noAllocation, fun x d => ?_⟩,
    ⟨hpaired, fun bid b hb => absurd hb (hborrows bid b), fun x d => ?_, fun x d => ?_⟩,
    fun rid f hf => absurd hf (hnone rid f), fun x d => ?_, fun x d => ?_⟩
  · rw [h.reservations]
    exact fun rid r hr => by cases hr
  · rw [h.allocations]
    exact fun aid a ha => by cases ha
  · rw [h.reservations]
    exact fun rid r hr => by cases hr
  · rw [h.usageOf, h.idle.reservedSum]
    exact ⟨rfl, le_refl 0⟩
  · rw [h.usageOf, hborrowed]
    exact ⟨le_refl 0, le_refl 0⟩
  · rw [h.usageOf, hborrowed]
    exact ⟨le_refl 0, le_refl 0⟩
  · have hzero : (0 : Int) ≤ INT64_MAX := by decide
    rw [h.usageOf]
    exact ⟨le_refl 0, hzero⟩
  · have hsum : s.burstSum x d = 0 := by
      unfold burstSum
      rw [h.funding]
      rfl
    rw [h.usageOf, hsum]
    exact ⟨le_refl 0, le_refl 0⟩

/-- **Every core call keeps the counters within the records.** -/
theorem after_holding {c : Env × Call} (hc : coreCall s c) (h : Holding s) : Holding (s.after c) := by
  obtain ⟨env, c⟩ := c
  obtain ⟨hcore, hfresh, hamount⟩ := hc
  have hstep : CallStep env s c (s.after (env, c)) := exec_callStep hfresh.toFreshLoans hamount
  have hcap : CapacityStep env c.amount s (s.after (env, c)) := exec_capacityStep hfresh hamount hcore
  have hconsistent := after_consistent (c := (env, c)) ⟨hfresh, hamount⟩ h.consistent
  obtain ⟨s', hs'⟩ : ∃ y, y = s.after (env, c) := ⟨_, rfl⟩
  rw [← hs'] at hstep hcap hconsistent ⊢
  have hrecords := hstep.recordsNonNeg hamount h.records
  have hfunding := hstep.funding_nonNeg h.funding
  refine ⟨hconsistent, hrecords, hcap.countersBelow h.below,
    hstep.loansCovered hfresh.toFreshLoans hamount h.consistent.listed h.loans, hfunding, fun x d => ?_, fun x d => ?_⟩
  · rcases hcap.counters x with hsync | ⟨-, hres, -⟩
    · rw [hsync.reserved]
      exact ⟨recomputedReserved_nonNeg hrecords x d, ResourceVector.sumOf_le_max _ d⟩
    · rw [hres]
      exact h.reserved x d
  · rcases hstep.burst_cases hfresh h.consistent hcore x with hsync | ⟨hsame, hsum⟩
    · exact hsync.burst_backed hfunding d
    · rw [hsame, hsum]
      exact h.burst x d

/-- What the counters add is burst that was charged, and loans that were taken, for active reservations. -/
theorem Holding.countedTwice_le (h : Holding s) (t : TenantId) (d : ResourceDimension) :
    s.countedTwice t d ≤ s.heldTwice t d := by
  have hborrowed := (h.loans.borrowed t d).2
  rw [borrowedSum_eq] at hborrowed
  have hburst : (s.usageOf t).burst.get d ≤ if (s.usageOf t).burst.isEmpty then 0 else s.burstSum t d := by
    split
    · rename_i hcleared
      rw [ResourceVector.isEmpty_iff_eq_empty.mp hcleared]
      exact le_refl 0
    · exact (h.burst t d).2
  unfold countedTwice heldTwice
  omega

theorem Holding.committed (h : Holding s) (t : TenantId) (d : ResourceDimension) :
    (s.committed t).get d = (s.usageOf t).consumption.get d + (s.usageOf t).reserved.get d := by
  unfold Engine.committed
  rw [ResourceVector.accum_of_fits, SparseVec.get_add]
  intro e
  rw [(h.below.counters t e).1, zero_add]
  exact (h.reserved t e).2

/-- Below the largest 64-bit value, saturated sums compare like exact ones. -/
theorem lt_satAdd_iff {cap a b c e : Int} (hcap : cap < INT64_MAX) (hc : 0 ≤ c) (he : 0 ≤ e) :
    cap < satAdd (satAdd (satAdd a b) c) e ↔ cap < a + b + c + e := by
  unfold satAdd
  split <;> split <;> split <;> omega

theorem Holding.lt_totalForPhys (h : Holding s) {cap : Int} (hcap : cap < INT64_MAX) (hd : isConsumable d = false)
    {amount : Int} (hamount : 0 ≤ amount) :
    cap < s.totalForPhys t (.fromScalar d amount) d ↔ cap < s.countedOnce t d amount + s.countedTwice t d := by
  unfold totalForPhys newCommitted currentCommittedScalar
  rw [hd, if_neg Bool.false_ne_true, ResourceVector.get_fromScalar_self hamount, h.committed,
    lt_satAdd_iff hcap (h.loans.borrowed t d).1 (h.burst t d).1]
  unfold countedOnce countedTwice
  omega

/-- A saturated sum stays within 64 bits. -/
theorem Holding.totalForPhys_le_max (h : Holding s) (hd : isConsumable d = false) {req : ResourceVector} :
    s.totalForPhys t req d ≤ INT64_MAX := by
  have hbase : s.currentCommittedScalar t d (s.committed t) ≤ INT64_MAX := by
    unfold currentCommittedScalar
    rw [hd, if_neg Bool.false_ne_true, h.committed, (h.below.counters t d).1, zero_add]
    exact (h.reserved t d).2
  exact satAdd_le_max (satAdd_le_max (satAdd_le_max hbase))

/-! ## Runs within 64 bits -/

/-- The records of `t` add up within 64 bits: its loans together with the amount of the call, and the burst
    that is charged to it afterwards. -/
def RecordsFit (t : TenantId) (s : Engine) (c : Env × Call) : Prop :=
  (∀ d, s.borrowedSum t d + c.2.amount.get d ≤ INT64_MAX) ∧ ∀ d, (s.after c).burstSum t d ≤ INT64_MAX

instance (t : TenantId) (s : Engine) (c : Env × Call) : Decidable (RecordsFit t s c) :=
  inferInstanceAs (Decidable ((∀ _, _) ∧ ∀ _, _))

/-- The counters of `t` are what its records add up to, or its burst counter was cleared. -/
structure Counted (s : Engine) (t : TenantId) : Prop where
  loans : LoansCounted s t
  burst : (s.usageOf t).burst = .empty ∨ ∀ d, (s.usageOf t).burst.get d = s.burstSum t d

theorem Configured.counted (h : Configured s) (t : TenantId) : Counted s t := by
  have hmax : (0 : Int) ≤ INT64_MAX := by decide
  have hborrowed : ∀ d, s.borrowedSum t d = 0 := fun d => by
    unfold borrowedSum
    rw [h.borrows]
    rfl
  refine ⟨⟨loansPaired_start h.borrows h.lends, fun d => ?_, fun d => ?_⟩, .inl ?_⟩
  · rw [hborrowed]
    exact hmax
  · rw [h.usageOf, hborrowed]
    rfl
  · rw [h.usageOf]

/-- A recomputed burst counter is exact, unless the window has ended. -/
theorem SyncedAt.burst_counted {x : TenantId} (h : SyncedAt env s x)
    (hnn : ∀ rid f, s.funding.lookup rid = some f → f.burst.NonNeg) (hfit : ∀ d, s.burstSum x d ≤ INT64_MAX) :
    (s.usageOf x).burst = .empty ∨ ∀ d, (s.usageOf x).burst.get d = s.burstSum x d := by
  rcases h.burst with hb | hb
  · have hsum : s.computedBurst env x = total s.funding fun rid f => if s.fundsFor x rid then f.burst else 0 :=
      sumOf_run_eq env.fundingOrder (p := fun rid _ => s.fundsFor x rid) (f := fun _ f => f.burst)
        (fun rid f hf _ => hnn rid f hf) hfit
    right
    intro d
    unfold burstSum
    rw [hb, hsum, get_total]
    simp only [get_guarded]
  · exact .inl hb

/-- **A core call within 64 bits keeps the counters of `t` exact.** -/
theorem after_counted {c : Env × Call} (hc : coreCall s c) (hfit : RecordsFit t s c) (hs : Holding s)
    (h : Counted s t) : Counted (s.after c) t := by
  obtain ⟨env, c⟩ := c
  obtain ⟨hcore, hfresh, hamount⟩ := hc
  have hstep : CallStep env s c (s.after (env, c)) := exec_callStep hfresh.toFreshLoans hamount
  refine ⟨hstep.loansCounted hfresh.toFreshLoans hamount hs.consistent.listed hfit.1 h.loans, ?_⟩
  rcases hstep.burst_cases hfresh hs.consistent hcore t with hsync | ⟨hsame, hsum⟩
  · exact hsync.burst_counted (hstep.funding_nonNeg hs.funding) hfit.2
  · rw [hsame]
    exact h.burst.imp_right fun hall d => (hall d).trans (hsum d).symm

/-- What the counters add is then all that is held twice. -/
theorem Counted.countedTwice_eq (h : Counted s t) (d : ResourceDimension) : s.countedTwice t d = s.heldTwice t d := by
  have hburst : (s.usageOf t).burst.get d = if (s.usageOf t).burst.isEmpty then 0 else s.burstSum t d := by
    split
    · rename_i hcleared
      rw [ResourceVector.isEmpty_iff_eq_empty.mp hcleared]
      rfl
    · rename_i hset
      rcases h.burst with hempty | hall
      · exact absurd (ResourceVector.isEmpty_iff_eq_empty.mpr hempty) hset
      · exact hall d
  unfold countedTwice heldTwice
  rw [hburst, h.loans.counter d, borrowedSum_eq]
  omega

end Runs

/-! ## Main result -/

theorem fromScalar_only {d : ResourceDimension} {amount : Int} (hamount : 0 ≤ amount) :
    (ResourceVector.fromScalar d amount).only d = .fromScalar d amount := by
  unfold ResourceVector.only
  rw [ResourceVector.get_fromScalar_self hamount, ResourceVector.fromScalar_of_nonneg hamount]

/-- An amount that the setter refuses leaves nothing requested. -/
theorem classify_of_negative {env : Env} {s : Engine} {t : TenantId} {d : ResourceDimension} {amount : Int}
    (hamount : amount < 0) : (s.classify env t (.fromScalar d amount)).code = .allow := by
  have hempty : (ResourceVector.fromScalar d amount).isEmpty = true := by
    unfold ResourceVector.fromScalar ResourceVector.set
    rw [if_pos hamount]
    decide
  unfold classify
  simp only [hempty, if_true]

/-- The verdict on a request for one dimension. -/
theorem classify_fromScalar {env : Env} {s : Engine} {t : TenantId} {d : ResourceDimension} {amount : Int}
    (hamount : 0 ≤ amount) (hent : hasEntitlement (s.effectiveLattice t) = true) :
    (s.classify env t (.fromScalar d amount)).code = s.dimensionCode env t (.fromScalar d amount) d := by
  have hcode := @classify_only_code env s t (.fromScalar d amount) hent d
  rwa [fromScalar_only hamount] at hcode

/-- Below no group, a capacity dimension is refused as physical exactly when the total exceeds the
    allowance. -/
theorem dimensionCode_eq_denyPhysical {env : Env} {s : Engine} {t : TenantId} {req : ResourceVector}
    {d : ResourceDimension} (hd : isConsumable d = false) (hanc : s.ancestorGroups t = []) :
    s.dimensionCode env t req d = .denyPhysical ↔
      physicalAllowance env d (s.effectiveLattice t) < s.totalForPhys t req d := by
  have hparent : s.parentHardOk env t d (req.get d) = true := by
    unfold parentHardOk
    rw [hanc]
    rfl
  unfold dimensionCode
  rw [hd, hparent]
  simp only [Bool.false_eq_true, if_false, Bool.not_true]
  split
  · rename_i hover
    exact ⟨fun _ => hover, fun _ => rfl⟩
  · rename_i hfits
    refine ⟨fun h => absurd h ?_, fun h => absurd h hfits⟩
    unfold capacityCode
    simp only
    split
    · decide
    split
    · decide
    split
    · split <;> decide
    · split <;> decide

/-- A refusal for lack of physical capacity means that the request exceeds it, each unit counted once. -/
def RefusedAboveCapacity (env : Env) (s : Engine) (t : TenantId) (d : ResourceDimension) (amount : Int) : Prop :=
  (s.evaluateReservation env t (.fromScalar d amount)).code = .denyPhysical →
    (s.effectiveLattice t).physicalCapacity.get d < s.countedOnce t d amount

/-- A proper amount that fits the capacity of `t` still fits it with what is held twice. -/
def HoldingsFit (s : Engine) (t : TenantId) (d : ResourceDimension) (amount : Int) : Prop :=
  0 ≤ amount → hasEntitlement (s.effectiveLattice t) = true →
    (s.effectiveLattice t).physicalCapacity.present d = true →
    s.countedOnce t d amount ≤ (s.effectiveLattice t).physicalCapacity.get d →
    s.countedOnce t d amount + s.heldTwice t d ≤ (s.effectiveLattice t).physicalCapacity.get d

instance (s : Engine) (t : TenantId) (d : ResourceDimension) (amount : Int) : Decidable (s.HoldingsFit t d amount) :=
  inferInstanceAs (Decidable (_ → _ → _ → _ → _))

/-- The verdict, for a tenant without overcommit and below no group. -/
theorem Holding.denyPhysical_iff {env : Env} {s : Engine} (hinv : Holding s) {t : TenantId} {d : ResourceDimension}
    (hd : isConsumable d = false) (hanc : s.ancestorGroups t = [])
    (hmode : (s.effectiveLattice t).overcommit = .none)
    (hcap : (s.effectiveLattice t).physicalCapacity.get d < 2 ^ 53) (amount : Int) :
    (s.evaluateReservation env t (.fromScalar d amount)).code = .denyPhysical ↔
      0 ≤ amount ∧ hasEntitlement (s.effectiveLattice t) = true ∧
        (s.effectiveLattice t).physicalCapacity.present d = true ∧
        (s.effectiveLattice t).physicalCapacity.get d < s.countedOnce t d amount + s.countedTwice t d := by
  have hcap0 : 0 ≤ (s.effectiveLattice t).physicalCapacity.get d := by
    rw [effectiveLattice_physicalCapacity]
    exact mergeMin_nonNeg _ d
  have hmax : (s.effectiveLattice t).physicalCapacity.get d < INT64_MAX := by
    unfold INT64_MAX
    omega
  unfold evaluateReservation
  by_cases hamount : 0 ≤ amount
  swap
  · rw [classify_of_negative (not_le.mp hamount)]
    exact ⟨fun h => (by cases h), fun h => absurd h.1 hamount⟩
  by_cases hent : hasEntitlement (s.effectiveLattice t) = true
  swap
  · have hempty : (ResourceVector.fromScalar d amount).isEmpty = false := by
      rw [← fromScalar_only hamount]
      exact ResourceVector.isEmpty_only _ d
    rw [classify_of_no_entitlement hempty (by simpa using hent)]
    exact ⟨fun h => (by cases h), fun h => absurd h.2.1 hent⟩
  rw [classify_fromScalar hamount hent, dimensionCode_eq_denyPhysical hd hanc]
  by_cases hpres : (s.effectiveLattice t).physicalCapacity.present d = true
  · rw [physicalAllowance_none env hmode hpres hcap0 hcap, hinv.lt_totalForPhys hmax hd hamount]
    simp only [hamount, hent, hpres, true_and]
  · have hopen : physicalAllowance env d (s.effectiveLattice t) = INT64_MAX := by
      unfold physicalAllowance
      rw [if_pos (by simpa using hpres)]
    rw [hopen]
    exact ⟨fun h => absurd h (not_lt.mpr (hinv.totalForPhys_le_max hd)), fun h => absurd h.2.2.1 hpres⟩

/-- **When a physical refusal is right**: in every state reached by core calls, a tenant without overcommit
    and below no group is refused only above its capacity if a request that fits also fits with the burst
    and the loans of its active reservations added once more; and only if, as long as its records add up
    within 64 bits. -/
theorem physical_check_iff {s₀ s : Engine} {l : List (Env × Call)} (hstart : Configured s₀)
    (hrun : Run Engine.after coreCall s₀ l s) {t : TenantId} {d : ResourceDimension}
    (hd : isConsumable d = false) (hanc : s.ancestorGroups t = [])
    (hmode : (s.effectiveLattice t).overcommit = .none)
    (hcap : (s.effectiveLattice t).physicalCapacity.get d < 2 ^ 53) (amount : Int) (env : Env) :
    (s.HoldingsFit t d amount → s.RefusedAboveCapacity env t d amount) ∧
    (Run Engine.after (fun s c => coreCall s c ∧ RecordsFit t s c) s₀ l s →
      (s.RefusedAboveCapacity env t d amount ↔ s.HoldingsFit t d amount)) := by
  have hinv : Holding s := hrun.invariant (I := Holding) hstart.holding fun _ _ h hc => after_holding hc h
  have hcode := @Holding.denyPhysical_iff env s hinv t d hd hanc hmode hcap amount
  have hle := hinv.countedTwice_le t d
  have henough : s.HoldingsFit t d amount → s.RefusedAboveCapacity env t d amount := by
    intro h hdeny
    obtain ⟨hamount, hent, hpres, hover⟩ := hcode.mp hdeny
    by_contra honce
    have hfits := h hamount hent hpres (not_lt.mp honce)
    omega
  refine ⟨henough, fun hwithin => ⟨fun h hamount hent hpres honce => ?_, henough⟩⟩
  have hcounted : Holding s ∧ Counted s t := by
    refine hwithin.invariant (I := fun s => Holding s ∧ Counted s t) ⟨hstart.holding, hstart.counted t⟩ ?_
    exact fun _ _ h hc => ⟨after_holding hc.1 h.1, after_counted hc.1 hc.2 h.1 h.2⟩
  rw [← hcounted.2.countedTwice_eq d]
  by_contra hover
  exact absurd (h (hcode.mpr ⟨hamount, hent, hpres, not_le.mp hover⟩)) (not_lt.mpr honce)

/-- A tenant that may burst from 10 to 100, on a device of 20. -/
def smallDevice : Engine :=
  { burstingTenant with
    localQuota := (∅ : UMap TenantId ResourceQuota).insert cappedTenant
      { softLimit := .fromScalar .acceleratorVRAM 10
        hardLimit := .fromScalar .acceleratorVRAM 100
        burstLimit := .fromScalar .acceleratorVRAM 10
        physicalCapacity := .fromScalar .acceleratorVRAM 20
        burstRule := { window := 3600 } } }

/-- Five units of fifteen are charged as burst. -/
def fifteenReserved : List (Env × Call) := [reserveAt 1 0 15]

theorem physical_check_six :
    ((fifteenReserved.foldl Engine.after smallDevice).evaluateReservation {} cappedTenant
      (.fromScalar .acceleratorVRAM 6)).code = .denyPhysical ∧
    (fifteenReserved.foldl Engine.after smallDevice).heldTwice cappedTenant .acceleratorVRAM = 5 ∧
    (fifteenReserved.foldl Engine.after smallDevice).RefusedAboveCapacity {} cappedTenant .acceleratorVRAM 6 := by
  have hrun : Run Engine.after coreCall smallDevice fifteenReserved
      (fifteenReserved.foldl Engine.after smallDevice) := Run.of_check _ _ (by decide +kernel)
  have hwithin : Run Engine.after (fun s c => coreCall s c ∧ RecordsFit cappedTenant s c) smallDevice fifteenReserved
      (fifteenReserved.foldl Engine.after smallDevice) := Run.of_check _ _ (by decide +kernel)
  exact ⟨by decide +kernel, by decide +kernel,
    ((physical_check_iff ⟨rfl, rfl, rfl, rfl, rfl, rfl⟩ hrun rfl (by decide +kernel) (by decide +kernel)
      (by decide +kernel) 6 {}).2 hwithin).mpr (by decide +kernel)⟩

/-- **Five more units fit the device and are refused**: the burst of the first reservation is counted in what
    is reserved and once more on its own. -/
theorem physical_check_double_counts :
    Configured smallDevice ∧
    Run Engine.after coreCall smallDevice fifteenReserved (fifteenReserved.foldl Engine.after smallDevice) ∧
    isConsumable .acceleratorVRAM = false ∧
    (fifteenReserved.foldl Engine.after smallDevice).ancestorGroups cappedTenant = [] ∧
    ((fifteenReserved.foldl Engine.after smallDevice).effectiveLattice cappedTenant).overcommit = .none ∧
    ((fifteenReserved.foldl Engine.after smallDevice).effectiveLattice cappedTenant).physicalCapacity.get
      .acceleratorVRAM = 20 ∧
    ((fifteenReserved.foldl Engine.after smallDevice).evaluateReservation {} cappedTenant
      (.fromScalar .acceleratorVRAM 5)).code = .denyPhysical ∧
    (fifteenReserved.foldl Engine.after smallDevice).countedOnce cappedTenant .acceleratorVRAM 5 = 20 :=
  ⟨⟨rfl, rfl, rfl, rfl, rfl, rfl⟩, Run.of_check _ _ (by decide +kernel), rfl, by decide +kernel, by decide +kernel,
    by decide +kernel, by decide +kernel, by decide +kernel⟩

end Engine

end QuotaFabric
