import QuotaFabric.Loans.Rollback

/-!
# Larger and smaller requests

Along one dimension the cascade of `classify` passes through guarantee, soft, burst and borrow
regimes.  Every test is easier for a smaller amount, except that the burst regime is skipped by an
amount above the hard limit: where no burst may start but some loan is on offer, a request is refused
that would be allowed if it asked for more.

* `AsksLess` — every dimension of one request is present in the other, with at least as much;
* `BurstClosed` — the committed amount would be in the burst regime and no burst may start;
* `dimensionCode_allowed_of_le` — on one dimension asking for less is refused in that case only;
* `smaller_request_allowed_iff` — the same for whole requests;
* `less_is_worse` — a run to a state where asking for less is worse.
-/

set_option autoImplicit false

namespace QuotaFabric

namespace Engine

/-- Every dimension of `small` is present in `large`, with at least as much. -/
def AsksLess (small large : ResourceVector) : Prop :=
  ∀ d, small.present d = true → large.present d = true ∧ small.get d ≤ large.get d

/-- The counters of `t` are 64-bit values. -/
structure CountersFit (s : Engine) (t : TenantId) : Prop where
  consumption : ∀ d, (s.usageOf t).consumption.get d ≤ INT64_MAX
  windows : ∀ d, ((s.usageOf t).windows d).usage ≤ INT64_MAX

/-- The committed amount on `d` would lie over the soft ceiling and within the hard limit, no
    guarantee covers it, and no burst may be drawn. -/
structure BurstClosed (env : Env) (s : Engine) (t : TenantId) (req : ResourceVector)
    (d : ResourceDimension) : Prop where
  capacity : isConsumable d = false
  uncovered : ¬ (s.newCommitted t req d ≤ guaranteeOf (s.effectiveLattice t) d ∧
    s.poolOk env t d (min (s.newCommitted t req d) (guaranteeOf (s.effectiveLattice t) d)) = true)
  overSoft : softOf (s.effectiveLattice t) d < s.newCommitted t req d
  withinHard : s.newCommitted t req d ≤ hardOf (s.effectiveLattice t) d
  closed : s.burstOk env d t (s.effectiveLattice t) = false

/-! ## The tests of the cascade -/

section Tests

variable {env : Env} {s : Engine} {t : TenantId} {d : ResourceDimension}

theorem currentCommittedScalar_le (hfit : CountersFit s t) (d : ResourceDimension) :
    s.currentCommittedScalar t d (s.committed t) ≤ INT64_MAX := by
  unfold currentCommittedScalar
  split
  · exact hfit.windows d
  · exact ResourceVector.foldl_accum_le_max [(s.usageOf t).reserved] _ (hfit.consumption d)

theorem newCommitted_mono (hfit : CountersFit s t) {small large : ResourceVector}
    (h : small.get d ≤ large.get d) : s.newCommitted t small d ≤ s.newCommitted t large d :=
  satAdd_mono_right (currentCommittedScalar_le hfit d) h

theorem totalForPhys_mono {small large : ResourceVector}
    (h : s.newCommitted t small d ≤ s.newCommitted t large d) :
    s.totalForPhys t small d ≤ s.totalForPhys t large d :=
  satAdd_mono_left _ (satAdd_mono_left _ h)

theorem subtreeCommitted_le_max (g : TenantGroupId) : (s.subtreeCommitted env g).get d ≤ INT64_MAX :=
  ResourceVector.sumOf_le_max _ d

theorem poolUsed_le_max (g : TenantGroupId) : (s.poolUsed env g).get d ≤ INT64_MAX :=
  ResourceVector.sumOf_le_max _ d

/-- A parent limit that takes an amount takes a smaller one. -/
theorem parentHardOk_anti {a b : Int} (hab : a ≤ b) (h : s.parentHardOk env t d b = true) :
    s.parentHardOk env t d a = true := by
  unfold parentHardOk at *
  refine List.all_eq_true.mpr fun g hg => ?_
  have hb := (List.all_eq_true.mp h) g hg
  cases hq : s.groupQuota.lookup g with
  | none => rfl
  | some q =>
    rw [hq] at hb
    have hmax : (s.subtreeCommitted env g).get d ≤ INT64_MAX := subtreeCommitted_le_max g
    have hmono := satAdd_mono_right hmax hab
    simp only [Bool.not_eq_true', Bool.and_eq_false_iff, decide_eq_false_iff_not, not_lt] at hb ⊢
    exact hb.imp_right fun hle => hmono.trans hle

/-- A guarantee pool that takes an amount takes a smaller one. -/
theorem poolOk_anti {a b : Int} (hab : a ≤ b) (h : s.poolOk env t d b = true) :
    s.poolOk env t d a = true := by
  unfold poolOk at *
  refine List.all_eq_true.mpr fun g hg => ?_
  have hb := (List.all_eq_true.mp h) g hg
  cases hq : s.groupQuota.lookup g with
  | none => rfl
  | some q =>
    rw [hq] at hb
    have hmax : (s.poolUsed env g).get d ≤ INT64_MAX := poolUsed_le_max g
    have hmono := satAdd_mono_right hmax hab
    simp only [Bool.not_eq_true', Bool.and_eq_false_iff, decide_eq_false_iff_not, not_lt] at hb ⊢
    exact hb.imp_right fun hle => hmono.trans hle

end Tests

/-! ## One dimension -/

section Dimension

variable {env : Env} {s : Engine} {t : TenantId} {small large : ResourceVector} {d : ResourceDimension}

/-- A dimension in the burst regime is refused while no burst may start. -/
theorem dimensionCode_of_burstClosed (h : BurstClosed env s t small d) :
    (s.dimensionCode env t small d).allowed = false := by
  unfold dimensionCode
  rw [h.capacity]
  simp only [Bool.false_eq_true, if_false]
  split
  · rfl
  split
  · rfl
  unfold capacityCode
  simp only
  rw [if_neg h.uncovered, if_neg (not_le.mpr h.overSoft), if_pos h.withinHard, h.closed]
  rfl

/-- The cascade is easier on a smaller amount, outside the closed burst regime. -/
theorem capacityCode_allowed_of_le (hnc : s.newCommitted t small d ≤ s.newCommitted t large d)
    (hd : isConsumable d = false) (hopen : ¬ BurstClosed env s t small d)
    (h : (s.capacityCode env t large d).allowed = true) :
    (s.capacityCode env t small d).allowed = true := by
  unfold capacityCode at *
  simp only at *
  by_cases hg : s.newCommitted t small d ≤ guaranteeOf (s.effectiveLattice t) d ∧
      s.poolOk env t d (min (s.newCommitted t small d) (guaranteeOf (s.effectiveLattice t) d)) = true
  · rw [if_pos hg]; rfl
  rw [if_neg hg]
  by_cases hs : s.newCommitted t small d ≤ softOf (s.effectiveLattice t) d
  · rw [if_pos hs]; rfl
  rw [if_neg hs]
  by_cases hh : s.newCommitted t small d ≤ hardOf (s.effectiveLattice t) d
  · rw [if_pos hh]
    cases hb : s.burstOk env d t (s.effectiveLattice t) with
    | true => rfl
    | false => exact absurd ⟨hd, hg, not_le.mp hs, hh, hb⟩ hopen
  rw [if_neg hh]
  -- over the hard limit: so is the larger amount, and both are left to borrowing
  have hg' : ¬ (s.newCommitted t large d ≤ guaranteeOf (s.effectiveLattice t) d ∧
      s.poolOk env t d (min (s.newCommitted t large d) (guaranteeOf (s.effectiveLattice t) d)) = true) :=
    fun ⟨hle, hpool⟩ => hg ⟨hnc.trans hle, poolOk_anti (min_le_min_right _ hnc) hpool⟩
  rw [if_neg hg', if_neg fun hle => hs (hnc.trans hle), if_neg fun hle => hh (hnc.trans hle)] at h
  exact h

/-- **On one dimension, asking for less is refused in the closed burst regime only.** -/
theorem dimensionCode_allowed_of_le (hfit : CountersFit s t) (hle : small.get d ≤ large.get d)
    (h : (s.dimensionCode env t large d).allowed = true) :
    (s.dimensionCode env t small d).allowed = true ↔ ¬ BurstClosed env s t small d := by
  constructor
  · intro hok hclosed
    rw [dimensionCode_of_burstClosed hclosed] at hok
    cases hok
  · intro hopen
    have hnc := newCommitted_mono hfit hle
    cases hd : isConsumable d with
    | true =>
      unfold dimensionCode at *
      rw [if_pos hd, consumableCode_allowed_iff] at *
      exact h.imp hnc.trans (Or.imp hnc.trans hnc.trans)
    | false =>
      obtain ⟨hparent, hphys, hcode⟩ := dimensionCode_capacity hd h
      rw [hcode] at h
      have hparent' := parentHardOk_anti hle hparent
      have hphys' := (totalForPhys_mono hnc).trans hphys
      unfold dimensionCode
      rw [hd, hparent']
      simp only [Bool.false_eq_true, Bool.not_true, if_false]
      rw [if_neg (not_lt.mpr hphys')]
      exact capacityCode_allowed_of_le hnc hd hopen h

end Dimension

/-! ## Main result -/

/-- **A request below an allowed one is refused exactly when one of its dimensions is in the burst
    regime and no burst may start there.** -/
theorem smaller_request_allowed_iff {env : Env} {s : Engine} {t : TenantId} {small large : ResourceVector}
    (hfit : CountersFit s t) (hless : AsksLess small large)
    (hlarge : (s.evaluateReservation env t large).allowed = true) :
    (s.evaluateReservation env t small).allowed = true ↔
      ∀ d, small.present d = true → ¬ BurstClosed env s t small d := by
  unfold evaluateReservation at *
  rw [classify_allowed_iff] at *
  constructor
  · rintro (hempty | ⟨-, hall⟩) d hd hclosed
    · rw [ResourceVector.isEmpty_iff.mp hempty d] at hd
      cases hd
    · have hok := hall d hd
      rw [dimensionCode_of_burstClosed hclosed] at hok
      cases hok
  · intro hopen
    by_cases hempty : small.isEmpty = true
    · exact Or.inl hempty
    rcases hlarge with hnone | ⟨hent, hall⟩
    · -- what is present in `small` is present in `large`
      refine Or.inl (ResourceVector.isEmpty_iff.mpr fun d => ?_)
      cases hd : small.present d with
      | false => rfl
      | true =>
        have hp := (hless d hd).1
        rw [ResourceVector.isEmpty_iff.mp hnone d] at hp
        cases hp
    · refine Or.inr ⟨hent, fun d hd => ?_⟩
      obtain ⟨hp, hle⟩ := hless d hd
      exact (dimensionCode_allowed_of_le hfit hle (hall d hp)).mpr (hopen d hd)

/-! ## A run -/

/-- A tenant with a soft limit of 5 and a hard limit of 10 takes a loan and gives it back: the lending
    record stays, and what is behind it can be borrowed again. -/
def loanReturned : List (Env × Call) :=
  [(.numbered 1, .createTenant cappedTenant (text "capped") none 100),
   (.numbered 2, .createTenant lendingTenant (text "lender") none 100),
   (.numbered 3, .setTenantQuota cappedTenant
      { softLimit := .fromScalar .acceleratorVRAM 5, hardLimit := .fromScalar .acceleratorVRAM 10 }),
   (.numbered 4, .setTenantQuota lendingTenant
      { guaranteed := .fromScalar .acceleratorVRAM 100
        borrowable := .fromScalar .acceleratorVRAM 60 }),
   (.numbered 5, .borrow cappedTenant (.fromScalar .acceleratorVRAM 1) thirdGeneration),
   (.numbered 6, .recallBorrow ⟨5, 0⟩ thirdGeneration)]

/-- The engine after these calls. -/
def returnedEngine : Engine := loanReturned.foldl Engine.after {}

theorem returnedEngine_fits : CountersFit returnedEngine cappedTenant :=
  ⟨by decide +kernel, by decide +kernel⟩

theorem asksLess_seven_twelve :
    AsksLess (.fromScalar .acceleratorVRAM 7) (.fromScalar .acceleratorVRAM 12) := by
  intro d hd
  rw [ResourceVector.present_fromScalar (by decide), decide_eq_true_eq] at hd
  subst hd
  decide

/-- **In that state 12 units are allowed, by borrowing, and 7 units are refused.** -/
theorem less_is_worse :
    Run Engine.after (fun s c => FreshIds c.1 s) {} loanReturned returnedEngine ∧
      CountersFit returnedEngine cappedTenant ∧
      AsksLess (.fromScalar .acceleratorVRAM 7) (.fromScalar .acceleratorVRAM 12) ∧
      (returnedEngine.evaluateReservation {} cappedTenant
        (.fromScalar .acceleratorVRAM 12)).allowed = true ∧
      (returnedEngine.evaluateReservation {} cappedTenant
        (.fromScalar .acceleratorVRAM 7)).allowed = false := by
  have hrun : Run Engine.after (fun s c => FreshIds c.1 s) {} loanReturned
      (loanReturned.foldl Engine.after {}) := Run.of_check _ _ (by decide +kernel)
  exact ⟨hrun, returnedEngine_fits, asksLess_seven_twelve, by decide +kernel, by decide +kernel⟩

/-- Within the soft limit, in the same state: 3 units are allowed because 12 are. -/
theorem smaller_request_allowed_three :
    (returnedEngine.evaluateReservation {} cappedTenant (.fromScalar .acceleratorVRAM 3)).allowed = true ↔
      ∀ d, (ResourceVector.fromScalar .acceleratorVRAM 3).present d = true →
        ¬ BurstClosed {} returnedEngine cappedTenant (.fromScalar .acceleratorVRAM 3) d := by
  have hless : AsksLess (.fromScalar .acceleratorVRAM 3) (.fromScalar .acceleratorVRAM 12) := by
    intro d hd
    rw [ResourceVector.present_fromScalar (by decide), decide_eq_true_eq] at hd
    subst hd
    decide
  exact smaller_request_allowed_iff returnedEngine_fits hless (by decide +kernel)

end Engine

end QuotaFabric
