import QuotaFabric.Decisions.Decomposition
import QuotaFabric.Limits.Coherence

/-!
# Advertised and granted headroom

`classify` and `compute_envelope` each have a default for a dimension without a soft limit.  Both fall
back on the guarantee; where there is none, `classify` lets every amount pass and the envelope shows
the committed amount as a deficit.

* `envelopeSoftOf` — the soft ceiling of the envelope;
* `softOf_eq_envelopeSoftOf` — it is that of the decision where one of the two limits is set;
* `dimensionCode_within_soft_iff` — without ancestors and physical capacity a decision is `ALLOW` or
  `ALLOW_GUARANTEED` exactly below the guarantee or the soft ceiling;
* `soft_headroom_agrees_iff` — where the two agree.
-/

set_option autoImplicit false

namespace QuotaFabric

/-- The soft ceiling as `compute_envelope` has it. -/
def envelopeSoftOf (eff : ResourceQuota) (d : ResourceDimension) : Int :=
  if eff.softLimit.present d then eff.softLimit.get d else guaranteeOf eff d

section Ceilings

variable {eff : ResourceQuota} {d : ResourceDimension}

theorem softOf_eq_envelopeSoftOf
    (h : eff.softLimit.present d = true ∨ eff.guaranteed.present d = true) :
    softOf eff d = envelopeSoftOf eff d := by
  unfold softOf envelopeSoftOf guaranteeOf
  by_cases hs : eff.softLimit.present d = true
  · rw [if_pos hs, if_pos hs]
  · have hg : eff.guaranteed.present d = true := h.resolve_left hs
    rw [if_neg hs, if_neg hs, if_pos hg, if_pos hg]

theorem softOf_of_unset (hs : eff.softLimit.present d = false) (hg : eff.guaranteed.present d = false) :
    softOf eff d = INT64_MAX ∧ envelopeSoftOf eff d = 0 := by
  unfold softOf envelopeSoftOf guaranteeOf
  rw [hs, hg]
  exact ⟨rfl, rfl⟩

/-- The guarantee of a coherent lattice is below its soft ceiling. -/
theorem guaranteeOf_le_softOf (hcoh : latticeCoherent eff = true) (hsoft : eff.softLimit.NonNeg) :
    guaranteeOf eff d ≤ softOf eff d := by
  unfold guaranteeOf softOf
  by_cases hg : eff.guaranteed.present d = true
  · rw [if_pos hg, if_pos hg]
    split
    · exact ((latticeCoherent_iff eff).mp hcoh).2.2 d hg ‹_›
    · exact le_rfl
  · rw [if_neg hg, if_neg hg]
    split
    · exact hsoft d
    · decide

end Ceilings

namespace Engine

section Agreement

variable {env : Env} {s : Engine} {t : TenantId} {req : ResourceVector} {d : ResourceDimension}

/-- Without ancestors and physical capacity only the tenant's own lattice decides. -/
theorem dimensionCode_alone (hanc : s.ancestorGroups t = [])
    (hphys : (s.effectiveLattice t).physicalCapacity.present d = false) (hd : isConsumable d = false)
    (hnc : s.newCommitted t req d ≤ INT64_MAX) :
    s.dimensionCode env t req d = s.capacityCode env t req d := by
  have hparent : s.parentHardOk env t d (req.get d) = true := by
    unfold parentHardOk
    rw [hanc]
    rfl
  have hallowance : physicalAllowance env d (s.effectiveLattice t) = INT64_MAX := by
    unfold physicalAllowance
    rw [hphys]
    rfl
  have htotal : s.totalForPhys t req d ≤ INT64_MAX := satAdd_le_max (satAdd_le_max hnc)
  unfold dimensionCode
  rw [hd, hparent, hallowance]
  simp only [Bool.false_eq_true, if_false, Bool.not_true]
  rw [if_neg (not_lt.mpr htotal)]

/-- The cascade ends with `ALLOW_GUARANTEED` or `ALLOW` within the guarantee or the soft ceiling only. -/
theorem capacityCode_within_soft_iff (hanc : s.ancestorGroups t = []) :
    (s.capacityCode env t req d = .allow ∨ s.capacityCode env t req d = .allowGuaranteed) ↔
      s.newCommitted t req d ≤ guaranteeOf (s.effectiveLattice t) d ∨
        s.newCommitted t req d ≤ softOf (s.effectiveLattice t) d := by
  have hpool : ∀ part, s.poolOk env t d part = true := by
    intro part
    unfold poolOk
    rw [hanc]
    rfl
  unfold capacityCode
  simp only [hpool, and_true]
  by_cases hg : s.newCommitted t req d ≤ guaranteeOf (s.effectiveLattice t) d
  · simp only [hg, if_true, true_or, or_true]
  by_cases hs : s.newCommitted t req d ≤ softOf (s.effectiveLattice t) d
  · simp only [hg, hs, if_false, if_true, true_or, or_true]
  simp only [hg, hs, if_false, or_self, iff_false]
  -- the three other regimes have codes of their own
  split
  · split <;> decide
  · split <;> decide

/-- **A decision within the soft ceiling**, for a tenant with a coherent lattice of its own. -/
theorem dimensionCode_within_soft_iff (hquotas : QuotasValid s)
    (hcoh : latticeCoherent (s.effectiveLattice t) = true) (hanc : s.ancestorGroups t = [])
    (hphys : (s.effectiveLattice t).physicalCapacity.present d = false) (hd : isConsumable d = false)
    (hnc : s.newCommitted t req d ≤ INT64_MAX) :
    (s.dimensionCode env t req d = .allow ∨ s.dimensionCode env t req d = .allowGuaranteed) ↔
      s.newCommitted t req d ≤ softOf (s.effectiveLattice t) d := by
  have hsoft : (s.effectiveLattice t).softLimit.NonNeg := (effectiveLattice_valid hquotas t).2.1.nonNeg
  rw [dimensionCode_alone hanc hphys hd hnc, capacityCode_within_soft_iff hanc]
  constructor
  · rintro (hg | hs)
    · exact hg.trans (guaranteeOf_le_softOf hcoh hsoft)
    · exact hs
  · exact Or.inr

theorem envelope_availableSoft (s : Engine) (t : TenantId) (hd : isConsumable d = false) :
    (s.envelope t).availableSoft d = envelopeSoftOf (s.effectiveLattice t) d - (s.committed t).get d := by
  have hscalar : s.complianceScalar t (s.committed t) d = (s.committed t).get d := by
    unfold complianceScalar
    rw [hd]
    rfl
  show _ - s.complianceScalar t (s.committed t) d = _
  rw [hscalar]
  rfl

/-- **The envelope and the decision agree on soft headroom** exactly where the dimension has a soft
    limit or a guarantee, or nothing would be committed. -/
theorem soft_headroom_agrees_iff {amount : Int} (hquotas : QuotasValid s)
    (hent : hasEntitlement (s.effectiveLattice t) = true)
    (hcoh : latticeCoherent (s.effectiveLattice t) = true) (hanc : s.ancestorGroups t = [])
    (hphys : (s.effectiveLattice t).physicalCapacity.present d = false) (hd : isConsumable d = false)
    (hamount : 0 ≤ amount) (hfit : (s.committed t).get d + amount ≤ INT64_MAX) :
    (((s.evaluateReservation env t (.fromScalar d amount)).code = .allow ∨
        (s.evaluateReservation env t (.fromScalar d amount)).code = .allowGuaranteed) ↔
      amount ≤ (s.envelope t).availableSoft d) ↔
    ((s.effectiveLattice t).softLimit.present d = true ∨
      (s.effectiveLattice t).guaranteed.present d = true ∨ (s.committed t).get d + amount ≤ 0) := by
  have hnc : s.newCommitted t (.fromScalar d amount) d = (s.committed t).get d + amount := by
    unfold newCommitted currentCommittedScalar
    rw [hd, ResourceVector.get_fromScalar_self hamount]
    exact satAdd_of_le hfit
  have hcode : (s.evaluateReservation env t (.fromScalar d amount)).code =
      s.dimensionCode env t (.fromScalar d amount) d := classify_fromScalar_code hent d hamount
  rw [hcode, dimensionCode_within_soft_iff hquotas hcoh hanc hphys hd (hnc.trans_le hfit), hnc,
    envelope_availableSoft s t hd]
  by_cases hset : (s.effectiveLattice t).softLimit.present d = true ∨
      (s.effectiveLattice t).guaranteed.present d = true
  · rw [softOf_eq_envelopeSoftOf hset]
    refine iff_of_true ?_ (by tauto)
    constructor <;> intro h <;> omega
  · obtain ⟨hs, hg⟩ := not_or.mp hset
    obtain ⟨hsoft, henv⟩ := softOf_of_unset (by simpa using hs) (by simpa using hg)
    have hdeficit : amount ≤ 0 - (s.committed t).get d ↔ (s.committed t).get d + amount ≤ 0 := by omega
    rw [hsoft, henv, iff_true_left hfit, hdeficit]
    tauto

end Agreement

/-! ## Runs -/

/-- One tenant with the quota `q`. -/
def oneQuota (q : ResourceQuota) : List (Env × Call) :=
  [(.numbered 1, .createTenant cappedTenant (text "capped") none 100),
   (.numbered 2, .setTenantQuota cappedTenant q)]

theorem soft_headroom_agrees_seven :
    (((((oneQuota { softLimit := .fromScalar .acceleratorVRAM 5 }).foldl Engine.after {}).evaluateReservation
          {} cappedTenant (.fromScalar .acceleratorVRAM 7)).code = .allow ∨
        (((oneQuota { softLimit := .fromScalar .acceleratorVRAM 5 }).foldl Engine.after {}).evaluateReservation
          {} cappedTenant (.fromScalar .acceleratorVRAM 7)).code = .allowGuaranteed) ↔
      7 ≤ (((oneQuota { softLimit := .fromScalar .acceleratorVRAM 5 }).foldl Engine.after {}).envelope
        cappedTenant).availableSoft .acceleratorVRAM) :=
  (soft_headroom_agrees_iff (by decide +kernel) (by decide +kernel) (by decide +kernel) (by decide +kernel)
    (by decide +kernel) (by decide) (by decide) (by decide +kernel)).mpr (.inl (by decide +kernel))

/-- **A tenant with nothing but a hard limit of 10 is allowed 3 units**, and its envelope shows no soft
    headroom at all. -/
theorem soft_headroom_hidden :
    ∃ s, Run Engine.after (fun s c => FreshIds c.1 s) {}
        (oneQuota { hardLimit := .fromScalar .acceleratorVRAM 10 }) s ∧
      hasEntitlement (s.effectiveLattice cappedTenant) = true ∧
      latticeCoherent (s.effectiveLattice cappedTenant) = true ∧ s.ancestorGroups cappedTenant = [] ∧
      (s.effectiveLattice cappedTenant).physicalCapacity.isEmpty = true ∧
      ¬ (((s.evaluateReservation {} cappedTenant (.fromScalar .acceleratorVRAM 3)).code = .allow ∨
          (s.evaluateReservation {} cappedTenant (.fromScalar .acceleratorVRAM 3)).code =
            .allowGuaranteed) ↔
        3 ≤ (s.envelope cappedTenant).availableSoft .acceleratorVRAM) := by
  refine ⟨_, Run.of_check (oneQuota { hardLimit := .fromScalar .acceleratorVRAM 10 }) _
    (by decide +kernel), ?_, ?_, ?_, ?_, ?_⟩
  all_goals decide +kernel

end Engine

end QuotaFabric
