import QuotaFabric.Engine.Reads
import QuotaFabric.Limits.Guarantees

/-!
# Engines that allow no more

Two engines with the same hierarchy and quotas, whose decisions start from the same amounts, compared:
the second counts at least as much wherever a check adds something up, and opens burst and borrowing only
where the first does.

* `Tighter` — this relation;
* `Tighter.allowed` — whatever the second engine allows, the first does.
-/

set_option autoImplicit false

namespace QuotaFabric

namespace Engine

/-- `s'`, read with `env'`, has the quotas of `s`, the same amounts to start from, at least the sums, and no
    more burst or borrowing.  Without an entry of its own a tenant has no entitlement, and nothing is asked
    of it. -/
structure Tighter (env env' : Env) (s s' : Engine) : Prop where
  entries : SameEntries s s'
  casts : env'.castUndef = env.castUndef
  strangers : ∀ t, s.tenantExists t = false → hasEntitlement (s.effectiveLattice t) = false
  use : ∀ t d, s.tenantExists t = true →
    s'.currentCommittedScalar t d (s'.committed t) = s.currentCommittedScalar t d (s.committed t)
  fits : ∀ t d, isConsumable d = false → s.currentCommittedScalar t d (s.committed t) ≤ INT64_MAX
  subtree : ∀ t, ∀ g ∈ s.ancestorGroups t, ∀ d, isConsumable d = false →
    (s.subtreeCommitted env g).get d ≤ (s'.subtreeCommitted env' g).get d
  pool : ∀ t, ∀ g ∈ s.ancestorGroups t, ∀ d, isConsumable d = false →
    (s.poolUsed env g).get d ≤ (s'.poolUsed env' g).get d
  borrowed : ∀ t d, s.tenantExists t = true →
    (s.usageOf t).borrowedConsumed.get d ≤ (s'.usageOf t).borrowedConsumed.get d
  burst : ∀ t d, s.tenantExists t = true → (s.usageOf t).burst.get d ≤ (s'.usageOf t).burst.get d
  burstOk : ∀ t d, s.tenantExists t = true → s'.burstOk env' d t (s.effectiveLattice t) = true →
    s.burstOk env d t (s.effectiveLattice t) = true
  borrowAvailable : ∀ d, isConsumable d = false → s'.borrowAvailable env' d = true →
    s.borrowAvailable env d = true

section Allowed

variable {env env' : Env} {s s' : Engine} {t : TenantId} {req : ResourceVector} {d : ResourceDimension}

theorem physicalAllowance_congr (h : env'.castUndef = env.castUndef) (d : ResourceDimension)
    (eff : ResourceQuota) : physicalAllowance env' d eff = physicalAllowance env d eff := by
  unfold physicalAllowance
  rw [h]

theorem Tighter.newCommitted (h : Tighter env env' s s') (ht : s.tenantExists t = true) :
    s'.newCommitted t req d = s.newCommitted t req d := by
  unfold Engine.newCommitted
  rw [h.use t d ht]

theorem Tighter.parentHardOk (h : Tighter env env' s s') (hd : isConsumable d = false) {amt : Int}
    (hok : s'.parentHardOk env' t d amt = true) : s.parentHardOk env t d amt = true := by
  unfold Engine.parentHardOk at *
  rw [h.entries.ancestorGroups] at hok
  refine List.all_eq_true.mpr fun g hg => ?_
  have hroom := (List.all_eq_true.mp hok) g hg
  rw [h.entries.groupQuota] at hroom
  cases hq : s.groupQuota.lookup g with
  | none => rfl
  | some q =>
    rw [hq] at hroom
    have hmono := satAdd_mono_left amt (h.subtree t g hg d hd)
    simp only [Bool.not_eq_true', Bool.and_eq_false_iff, decide_eq_false_iff_not, not_lt] at hroom ⊢
    exact hroom.imp_right fun hle => hmono.trans hle

theorem Tighter.poolOk (h : Tighter env env' s s') (hd : isConsumable d = false) {part : Int}
    (hok : s'.poolOk env' t d part = true) : s.poolOk env t d part = true := by
  unfold Engine.poolOk at *
  rw [h.entries.ancestorGroups] at hok
  refine List.all_eq_true.mpr fun g hg => ?_
  have hroom := (List.all_eq_true.mp hok) g hg
  rw [h.entries.groupQuota] at hroom
  cases hq : s.groupQuota.lookup g with
  | none => rfl
  | some q =>
    rw [hq] at hroom
    have hmono := satAdd_mono_left part (h.pool t g hg d hd)
    simp only [Bool.not_eq_true', Bool.and_eq_false_iff, decide_eq_false_iff_not, not_lt] at hroom ⊢
    exact hroom.imp_right fun hle => hmono.trans hle

theorem Tighter.totalForPhys_le (h : Tighter env env' s s') (hd : isConsumable d = false)
    (ht : s.tenantExists t = true) : s.totalForPhys t req d ≤ s'.totalForPhys t req d := by
  have hnew : s.newCommitted t req d ≤ INT64_MAX := satAdd_le_max (h.fits t d hd)
  unfold totalForPhys
  rw [h.newCommitted ht]
  calc satAdd (satAdd (s.newCommitted t req d) ((s.usageOf t).borrowedConsumed.get d)) ((s.usageOf t).burst.get d)
      ≤ satAdd (satAdd (s.newCommitted t req d) ((s'.usageOf t).borrowedConsumed.get d))
          ((s.usageOf t).burst.get d) := satAdd_mono_left _ (satAdd_mono_right hnew (h.borrowed t d ht))
    _ ≤ satAdd (satAdd (s.newCommitted t req d) ((s'.usageOf t).borrowedConsumed.get d))
          ((s'.usageOf t).burst.get d) := satAdd_mono_right (satAdd_le_max hnew) (h.burst t d ht)

/-- The cascade takes the same branch or an earlier one. -/
theorem Tighter.capacityCode (h : Tighter env env' s s') (hd : isConsumable d = false)
    (ht : s.tenantExists t = true) (hok : (s'.capacityCode env' t req d).allowed = true) :
    (s.capacityCode env t req d).allowed = true := by
  unfold Engine.capacityCode at *
  simp only [h.newCommitted ht, h.entries.effectiveLattice] at *
  by_cases hg : s.newCommitted t req d ≤ guaranteeOf (s.effectiveLattice t) d ∧
      s.poolOk env t d (min (s.newCommitted t req d) (guaranteeOf (s.effectiveLattice t) d)) = true
  · rw [if_pos hg]; rfl
  have hg' : ¬ (s.newCommitted t req d ≤ guaranteeOf (s.effectiveLattice t) d ∧
      s'.poolOk env' t d (min (s.newCommitted t req d) (guaranteeOf (s.effectiveLattice t) d)) = true) :=
    fun ⟨hle, hpool⟩ => hg ⟨hle, h.poolOk hd hpool⟩
  rw [if_neg hg]
  rw [if_neg hg'] at hok
  by_cases hsoft : s.newCommitted t req d ≤ softOf (s.effectiveLattice t) d
  · rw [if_pos hsoft]; rfl
  rw [if_neg hsoft] at hok ⊢
  by_cases hhard : s.newCommitted t req d ≤ hardOf (s.effectiveLattice t) d
  · rw [if_pos hhard] at hok ⊢
    cases hb : s'.burstOk env' d t (s.effectiveLattice t) with
    | true => rw [h.burstOk t d ht hb]; rfl
    | false =>
      rw [hb] at hok
      cases hok
  rw [if_neg hhard] at hok ⊢
  cases hb : s'.borrowAvailable env' d with
  | true => rw [h.borrowAvailable d hd hb]; rfl
  | false =>
    rw [hb] at hok
    cases hok

theorem Tighter.dimensionCode (h : Tighter env env' s s') (ht : s.tenantExists t = true)
    (hok : (s'.dimensionCode env' t req d).allowed = true) : (s.dimensionCode env t req d).allowed = true := by
  cases hd : isConsumable d with
  | true =>
    unfold Engine.dimensionCode at *
    rw [if_pos hd, consumableCode_allowed_iff] at *
    simp only [h.newCommitted ht, h.entries.effectiveLattice] at hok
    exact hok
  | false =>
    obtain ⟨hparent, hphys, hcode⟩ := dimensionCode_capacity hd hok
    rw [hcode] at hok
    rw [physicalAllowance_congr h.casts, h.entries.effectiveLattice] at hphys
    have hphys' := (h.totalForPhys_le hd ht).trans hphys
    unfold Engine.dimensionCode
    rw [hd, h.parentHardOk hd hparent]
    simp only [Bool.false_eq_true, Bool.not_true, if_false]
    rw [if_neg (not_lt.mpr hphys')]
    exact h.capacityCode hd ht hok

/-- **Whatever the tighter engine allows, the other does.** -/
theorem Tighter.allowed (h : Tighter env env' s s')
    (hok : (s'.evaluateReservation env' t req).allowed = true) :
    (s.evaluateReservation env t req).allowed = true := by
  unfold evaluateReservation at *
  rw [classify_allowed_iff] at *
  rw [h.entries.effectiveLattice] at hok
  refine hok.imp_right fun ⟨hent, hall⟩ => ⟨hent, fun d hd => ?_⟩
  cases ht : s.tenantExists t with
  | true => exact h.dimensionCode ht (hall d hd)
  | false =>
    rw [h.strangers t ht] at hent
    cases hent

end Allowed

end Engine

end QuotaFabric
