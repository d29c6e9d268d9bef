import QuotaFabric.Engine.Decision

/-!
# When an allowed request respects the hard limit

`classify` compares the new use with the guarantee, then with the soft ceiling, and only then with
the hard limit.  The soft ceiling of a dimension without a soft limit is its guarantee, and without
either it is no bound at all, so a hard limit alone is never reached.

* `Clears` — the comparisons that let a dimension through without borrowing;
  `clears_iff_rank` — they are the verdicts up to `ALLOW_BURST`;
* `hard_limit_sound_iff` — an allowed decision respects the hard limits unless some ceiling that is
  looked at earlier lies above one, or the 64-bit sum falls short of the real one;
* `hard_limit_alone_is_ignored` — a tenant with a hard limit of 10 and nothing else is allowed 20.
-/

set_option autoImplicit false

namespace QuotaFabric

namespace Engine

/-- What is in use on `d`: the rolling window, or consumption and reservations. -/
def currentUse (s : Engine) (t : TenantId) (d : ResourceDimension) : Int :=
  if isConsumable d then ((s.usageOf t).windows d).usage
  else (s.usageOf t).consumption.get d + (s.usageOf t).reserved.get d

/-- An allowed decision that does not borrow stays within every hard limit it touches. -/
def HardSound (env : Env) (s : Engine) (t : TenantId) (req : ResourceVector) : Prop :=
  (s.evaluateReservation env t req).allowed = true →
  (s.evaluateReservation env t req).code ≠ .allowBorrow →
  ∀ d, req.present d = true → (s.effectiveLattice t).hardLimit.present d = true →
    s.currentUse t d + req.get d ≤ (s.effectiveLattice t).hardLimit.get d

/-- The comparisons that let `d` through without borrowing. -/
def Clears (env : Env) (s : Engine) (t : TenantId) (req : ResourceVector) (d : ResourceDimension) :
    Prop :=
  let eff := s.effectiveLattice t
  let nc := s.newCommitted t req d
  if isConsumable d then nc ≤ guaranteeOf eff d ∨ nc ≤ softOf eff d ∨ nc ≤ hardOf eff d
  else
    s.parentHardOk env t d (req.get d) = true ∧ s.totalForPhys t req d ≤ physicalAllowance env d eff ∧
      ((nc ≤ guaranteeOf eff d ∧ s.poolOk env t d (min nc (guaranteeOf eff d)) = true) ∨
        nc ≤ softOf eff d ∨ (nc ≤ hardOf eff d ∧ s.burstOk env d t eff = true))

/-- Every requested dimension is let through without borrowing. -/
def Cleared (env : Env) (s : Engine) (t : TenantId) (req : ResourceVector) : Prop :=
  hasEntitlement (s.effectiveLattice t) = true ∧ ∀ d, req.present d = true → Clears env s t req d

/-- The guarantee or the soft ceiling lets an amount through that is over the hard limit. -/
def CeilingAboveHard (s : Engine) (t : TenantId) (req : ResourceVector) (d : ResourceDimension) : Prop :=
  (s.effectiveLattice t).hardLimit.get d < s.newCommitted t req d ∧
    (s.newCommitted t req d ≤ guaranteeOf (s.effectiveLattice t) d ∨
      s.newCommitted t req d ≤ softOf (s.effectiveLattice t) d)

/-- The checked or saturated sum is within the hard limit, the real one is not. -/
def SumFallsShort (s : Engine) (t : TenantId) (req : ResourceVector) (d : ResourceDimension) : Prop :=
  s.newCommitted t req d ≤ (s.effectiveLattice t).hardLimit.get d ∧
    (s.effectiveLattice t).hardLimit.get d < s.currentUse t d + req.get d

/-! ## Verdicts up to `ALLOW_BURST` -/

theorem clears_iff_rank (env : Env) (s : Engine) (t : TenantId) (req : ResourceVector)
    (d : ResourceDimension) : Clears env s t req d ↔ rankOf (s.dimensionCode env t req d) ≤ 15 := by
  unfold Clears dimensionCode
  simp only
  cases hd : isConsumable d with
  | true =>
    simp only [if_true]
    unfold consumableCode
    simp only
    split
    · rename_i h; simp [h, rankOf]
    · rename_i h1
      split
      · rename_i h; simp [h, rankOf]
      · rename_i h2
        split
        · rename_i h; simp [h, rankOf]
        · rename_i h3; simp [h1, h2, h3, rankOf]
  | false =>
    simp only [Bool.false_eq_true, if_false]
    cases hp : s.parentHardOk env t d (req.get d) with
    | false => simp [rankOf]
    | true =>
      simp only [Bool.not_true, Bool.false_eq_true, if_false, true_and]
      by_cases hphys : s.totalForPhys t req d > physicalAllowance env d (s.effectiveLattice t)
      · rw [if_pos hphys]
        simp [rankOf, not_le.mpr hphys]
      · rw [if_neg hphys]
        simp only [not_lt.mp hphys, true_and]
        unfold capacityCode
        simp only
        split
        · rename_i h; exact iff_of_true (Or.inl h) (by decide)
        · rename_i h1
          split
          · rename_i h; simp [h, rankOf]
          · rename_i h2
            split
            · rename_i h3
              cases hb : s.burstOk env d t (s.effectiveLattice t) with
              | true => simp [h3, rankOf]
              | false => simp [h1, h2, rankOf]
            · rename_i h3
              cases hb : s.borrowAvailable env d <;> simp [h1, h2, h3, rankOf]

theorem rank_le_burst_iff (c : DecisionCode) :
    rankOf c ≤ 15 ↔ c.allowed = true ∧ c ≠ .allowBorrow := by
  cases c <;> decide

/-- A decision is allowed without borrowing exactly for an empty or a cleared request. -/
theorem allowed_without_borrow_iff (env : Env) (s : Engine) (t : TenantId) (req : ResourceVector) :
    (s.evaluateReservation env t req).allowed = true ∧
      (s.evaluateReservation env t req).code ≠ .allowBorrow ↔
    req.isEmpty = true ∨ Cleared env s t req := by
  unfold evaluateReservation QuotaDecision.allowed Cleared
  rw [← rank_le_burst_iff]
  unfold classify
  by_cases hE : req.isEmpty = true
  · simp [hE, rankOf]
  · by_cases hH : hasEntitlement (s.effectiveLattice t) = true
    · simp only [hE, hH, Bool.false_eq_true, if_false, Bool.not_true, false_or, true_and]
      rw [rank_scan_le_iff env s t req (by omega)]
      exact forall_congr' fun d => imp_congr_right fun _ => (clears_iff_rank env s t req d).symm
    · simp [hE, hH, rankOf]

/-! ## The hard limit -/

/-- The sum the decision looks at never exceeds the real one. -/
theorem newCommitted_le (s : Engine) {t : TenantId} (req : ResourceVector) (d : ResourceDimension)
    (hres : (s.usageOf t).reserved.NonNeg) : s.newCommitted t req d ≤ s.currentUse t d + req.get d := by
  unfold newCommitted currentCommittedScalar currentUse
  split
  · exact satAdd_le_add
  · have h1 := ResourceVector.accum_le (v := (s.usageOf t).consumption) hres d
    have h2 := satAdd_le_add (a := (s.committed t).get d) (b := req.get d)
    unfold committed at *
    omega

theorem hardOf_of_present {eff : ResourceQuota} {d : ResourceDimension}
    (h : eff.hardLimit.present d = true) : hardOf eff d = eff.hardLimit.get d := by
  unfold hardOf
  rw [if_pos h]

/-- **An allowed decision respects the hard limits exactly when no cleared request has a dimension
    with a ceiling above its hard limit and the new use in between, or a sum that falls short.** -/
theorem hard_limit_sound_iff (env : Env) (s : Engine) (t : TenantId) (req : ResourceVector)
    (hres : (s.usageOf t).reserved.NonNeg) :
    HardSound env s t req ↔
      ¬ (Cleared env s t req ∧
        ∃ d, req.present d = true ∧ (s.effectiveLattice t).hardLimit.present d = true ∧
          (CeilingAboveHard s t req d ∨ SumFallsShort s t req d)) := by
  constructor
  · rintro hsound ⟨hclear, d, hp, hh, hbreach⟩
    obtain ⟨hall, hcode⟩ := (allowed_without_borrow_iff env s t req).mpr (Or.inr hclear)
    have hle := hsound hall hcode d hp hh
    rcases hbreach with ⟨hover, -⟩ | ⟨-, hover⟩
    · have hnc := newCommitted_le s req d hres
      omega
    · omega
  · intro hno hall hcode d hp hh
    rcases (allowed_without_borrow_iff env s t req).mp ⟨hall, hcode⟩ with hempty | hclear
    · rw [ResourceVector.isEmpty_iff.mp hempty d] at hp
      cases hp
    · by_contra hover
      refine hno ⟨hclear, d, hp, hh, ?_⟩
      by_cases hnc : s.newCommitted t req d ≤ (s.effectiveLattice t).hardLimit.get d
      · exact Or.inr ⟨hnc, not_le.mp hover⟩
      · -- past the hard limit, only an earlier ceiling can have let it through
        left
        refine ⟨not_le.mp hnc, ?_⟩
        have hd := hclear.2 d hp
        unfold Clears at hd
        simp only [hardOf_of_present hh, hnc, false_and, or_false] at hd
        split at hd
        · exact hd
        · rcases hd.2.2 with ⟨hg, -⟩ | hs
          · exact Or.inl hg
          · exact Or.inr hs

/-- A tenant with a hard limit of 10, and no other limit. -/
def hardLimitOnly : Engine :=
  { tenants := (∅ : UMap TenantId Tenant).insert ⟨0, 1⟩ { id := ⟨0, 1⟩ }
    localQuota := (∅ : UMap TenantId ResourceQuota).insert ⟨0, 1⟩
      { hardLimit := .fromScalar .acceleratorVRAM 10 } }

/-- Half of it respects it. -/
theorem hard_limit_sound_iff_within :
    (hardLimitOnly.usageOf ⟨0, 1⟩).reserved.NonNeg ∧
      (hardLimitOnly.evaluateReservation {} ⟨0, 1⟩ (.fromScalar .acceleratorVRAM 5)).code = .allow ∧
      HardSound {} hardLimitOnly ⟨0, 1⟩ (.fromScalar .acceleratorVRAM 5) := by
  refine ⟨by decide +kernel, by decide +kernel, (hard_limit_sound_iff {} hardLimitOnly ⟨0, 1⟩
    (.fromScalar .acceleratorVRAM 5) (by decide +kernel)).mpr ?_⟩
  rintro ⟨-, d, hp, hh, hbreach⟩
  have hfits : ∀ d, (ResourceVector.fromScalar .acceleratorVRAM 5).present d = true →
      hardLimitOnly.newCommitted ⟨0, 1⟩ (.fromScalar .acceleratorVRAM 5) d ≤
          (hardLimitOnly.effectiveLattice ⟨0, 1⟩).hardLimit.get d ∧
        hardLimitOnly.currentUse ⟨0, 1⟩ d + (ResourceVector.fromScalar .acceleratorVRAM 5).get d ≤
          (hardLimitOnly.effectiveLattice ⟨0, 1⟩).hardLimit.get d := by decide +kernel
  obtain ⟨hnew, huse⟩ := hfits d hp
  rcases hbreach with ⟨hover, -⟩ | ⟨-, hover⟩
  · exact absurd hnew (not_le.mpr hover)
  · exact absurd huse (not_le.mpr hover)

/-- The request for 20 is allowed under the hard limit of 10. -/
theorem hard_limit_alone_is_ignored :
    (hardLimitOnly.evaluateReservation {} ⟨0, 1⟩ (.fromScalar .acceleratorVRAM 20)).code = .allow ∧
    (hardLimitOnly.effectiveLattice ⟨0, 1⟩).hardLimit.get .acceleratorVRAM = 10 ∧
    hardLimitOnly.currentUse ⟨0, 1⟩ .acceleratorVRAM +
      (ResourceVector.fromScalar .acceleratorVRAM 20).get .acceleratorVRAM = 20 ∧
    ¬ HardSound {} hardLimitOnly ⟨0, 1⟩ (.fromScalar .acceleratorVRAM 20) := by
  refine ⟨by decide +kernel, by decide +kernel, by decide +kernel, fun h => ?_⟩
  have hle := h (by decide +kernel) (by decide +kernel) .acceleratorVRAM (by decide +kernel)
    (by decide +kernel)
  exact absurd hle (by decide +kernel)

end Engine

end QuotaFabric
