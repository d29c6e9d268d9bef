import QuotaFabric.Engine.Steps
import QuotaFabric.Engine.Lattice
import QuotaFabric.Loans.LentCounter

/-!
# Compliance

`compute_compliance` walks the dimensions, remembers what was exceeded, and returns from the middle when
a lender's loans no longer fit in its guarantee.

* `verdict` — what one dimension says; `le_compliance_iff` — the tenant's compliance is the worst verdict;
* `recall_decision_exact` — the actions of `recall_decision`;
* `Tightened`, `Lowers` — a quota replaced by a lower one;
* `lowering_never_improves` — lowering quotas takes nothing away and improves nobody's compliance.
-/

set_option autoImplicit false

namespace QuotaFabric

open AList

/-- How bad a state of compliance is. -/
def ComplianceState.gravity : ComplianceState → Nat
  | .compliant => 0
  | .overSoft => 1
  | .overHard => 2
  | .recallRequired => 3
  | .reclaimRequired => 4

namespace Engine

/-! ## The worst verdict -/

/-- What one dimension says. -/
def verdict (s : Engine) (t : TenantId) (eff : ResourceQuota) (committed : ResourceVector)
    (d : ResourceDimension) : ComplianceState :=
  if s.recallNeeded t eff committed d then .recallRequired
  else if s.complianceScalar t committed d > hardOf eff d then .overHard
  else if s.complianceScalar t committed d > softOf eff d then .overSoft
  else .compliant

/-- What the loop returns at its end. -/
def flagged (overSoft overHard : Bool) : ComplianceState :=
  if overHard then .overHard else if overSoft then .overSoft else .compliant

section Loop

variable {s : Engine} {t : TenantId} {eff : ResourceQuota} {committed : ResourceVector}

theorem verdict_of_recall {d : ResourceDimension} (h : s.recallNeeded t eff committed d = true) :
    s.verdict t eff committed d = .recallRequired := by
  unfold verdict
  rw [if_pos h]

theorem verdict_gravity_le (d : ResourceDimension) : (s.verdict t eff committed d).gravity ≤ 3 := by
  unfold verdict
  split
  · exact le_refl 3
  split
  · decide
  split <;> decide

theorem flagged_gravity_le (overSoft overHard : Bool) : (flagged overSoft overHard).gravity ≤ 3 := by
  cases overSoft <;> cases overHard <;> decide

/-- One more dimension raises the flags to its verdict. -/
theorem flagged_step {d : ResourceDimension} (h : s.recallNeeded t eff committed d = false)
    (overSoft overHard : Bool) (k : Nat) :
    k ≤ (flagged
        (overSoft || (!decide (s.complianceScalar t committed d > hardOf eff d) &&
          decide (s.complianceScalar t committed d > softOf eff d)))
        (overHard || decide (s.complianceScalar t committed d > hardOf eff d))).gravity ↔
      k ≤ (flagged overSoft overHard).gravity ∨ k ≤ (s.verdict t eff committed d).gravity := by
  unfold verdict
  rw [h]
  by_cases hhard : s.complianceScalar t committed d > hardOf eff d
  · cases overSoft <;> cases overHard <;> simp [flagged, hhard, ComplianceState.gravity] <;> omega
  · by_cases hsoft : s.complianceScalar t committed d > softOf eff d
    · cases overSoft <;> cases overHard <;> simp [flagged, hhard, hsoft, ComplianceState.gravity] <;> omega
    · cases overSoft <;> cases overHard <;> simp [flagged, hhard, hsoft, ComplianceState.gravity] <;> omega

theorem le_complianceLoop_iff (k : Nat) : ∀ (ds : List ResourceDimension) (overSoft overHard : Bool),
    k ≤ (s.complianceLoop t eff committed ds overSoft overHard).gravity ↔
      k ≤ (flagged overSoft overHard).gravity ∨ ∃ d ∈ ds, k ≤ (s.verdict t eff committed d).gravity := by
  intro ds
  induction ds with
  | nil =>
    intro overSoft overHard
    simp [complianceLoop, flagged]
  | cons d ds ih =>
    intro overSoft overHard
    unfold complianceLoop
    cases hr : s.recallNeeded t eff committed d with
    | true =>
      have hd := verdict_of_recall hr
      have hle := flagged_gravity_le overSoft overHard
      simp only [if_true, List.exists_mem_cons_iff, hd]
      constructor
      · exact fun h => .inr (.inl h)
      · rintro (h | h | ⟨d', -, h⟩)
        · exact h.trans hle
        · exact h
        · exact h.trans (verdict_gravity_le d')
    | false =>
      simp only [Bool.false_eq_true, if_false, List.exists_mem_cons_iff]
      rw [ih, flagged_step hr, or_assoc]

/-- **The compliance of a tenant is the worst verdict of its dimensions.** -/
theorem le_compliance_iff (k : Nat) :
    k ≤ (s.computeCompliance t eff committed).gravity ↔
      k = 0 ∨ ∃ d, k ≤ (s.verdict t eff committed d).gravity := by
  unfold computeCompliance
  rw [le_complianceLoop_iff]
  simp [flagged, ComplianceState.gravity, mem_allResourceDimensions]

end Loop

/-- What compliance is decided on. -/
def usedOn (s : Engine) (t : TenantId) (d : ResourceDimension) : Int := s.complianceScalar t (s.committed t) d

/-- The loans of a lender no longer fit in its guarantee on `d`. -/
def RecallAt (s : Engine) (t : TenantId) (d : ResourceDimension) : Prop :=
  (s.effectiveLattice t).guaranteed.present d = true ∧ 0 < (s.usageOf t).lent.get d ∧
    (s.effectiveLattice t).guaranteed.get d < satAdd (s.usedOn t d) ((s.usageOf t).lent.get d)

section Exact

variable {s : Engine} {t : TenantId}

theorem recallNeeded_iff {d : ResourceDimension} :
    s.recallNeeded t (s.effectiveLattice t) (s.committed t) d = true ↔ s.RecallAt t d := by
  unfold recallNeeded RecallAt usedOn
  simp [and_assoc]

/-- The first test that holds decides. -/
theorem gravity_verdict (d : ResourceDimension) :
    (s.verdict t (s.effectiveLattice t) (s.committed t) d).gravity =
      if s.recallNeeded t (s.effectiveLattice t) (s.committed t) d then 3
      else if hardOf (s.effectiveLattice t) d < s.usedOn t d then 2
      else if softOf (s.effectiveLattice t) d < s.usedOn t d then 1 else 0 := by
  unfold verdict usedOn
  split_ifs <;> rfl

theorem recall_le_verdict_iff {d : ResourceDimension} :
    3 ≤ (s.verdict t (s.effectiveLattice t) (s.committed t) d).gravity ↔ s.RecallAt t d := by
  rw [gravity_verdict, ← recallNeeded_iff]
  split_ifs <;> simp [*]

theorem hard_le_verdict_iff {d : ResourceDimension} :
    2 ≤ (s.verdict t (s.effectiveLattice t) (s.committed t) d).gravity ↔
      s.RecallAt t d ∨ hardOf (s.effectiveLattice t) d < s.usedOn t d := by
  rw [gravity_verdict, ← recallNeeded_iff]
  split_ifs <;> simp [*]

theorem soft_le_verdict_iff {d : ResourceDimension} :
    1 ≤ (s.verdict t (s.effectiveLattice t) (s.committed t) d).gravity ↔
      s.RecallAt t d ∨ hardOf (s.effectiveLattice t) d < s.usedOn t d ∨
        softOf (s.effectiveLattice t) d < s.usedOn t d := by
  rw [gravity_verdict, ← recallNeeded_iff]
  split_ifs <;> simp [*]

/-- The compliance that a tenant's envelope reports, by its gravity. -/
theorem le_envelope_compliance_iff (k : Nat) :
    k ≤ (s.envelope t).compliance.gravity ↔
      k = 0 ∨ ∃ d, k ≤ (s.verdict t (s.effectiveLattice t) (s.committed t) d).gravity :=
  le_compliance_iff k

theorem envelope_recall_iff : (s.envelope t).compliance = .recallRequired ↔ ∃ d, s.RecallAt t d := by
  have h3 := le_envelope_compliance_iff (s := s) (t := t) 3
  have h4 := le_envelope_compliance_iff (s := s) (t := t) 4
  simp only [recall_le_verdict_iff, OfNat.ofNat_ne_zero, false_or] at h3
  have hno : ¬ 4 ≤ (s.envelope t).compliance.gravity := by
    rw [h4]
    rintro (h | ⟨d, h⟩)
    · exact absurd h (by decide)
    · exact absurd (h.trans (verdict_gravity_le d)) (by decide)
  rw [← h3]
  cases hc : (s.envelope t).compliance with
  | reclaimRequired => exact absurd (by rw [hc]; decide) hno
  | _ => simp [ComplianceState.gravity]

/-- **What `recall_decision` advises.**  The borrowed capacity is recalled and new borrowing stopped when
    on some dimension a lender's use and its loans exceed its guarantee, and a reclaim is requested when
    it has a loan that is not returned. -/
theorem mem_recallDecision {a : RecallAction} :
    a ∈ s.recallDecision t ↔ s.tenantExists t = true ∧
      ((a = .recallBorrowedCapacity ∨ a = .stopNewBorrowing) ∧ (∃ d, s.RecallAt t d) ∨
        a = .noAction ∧ (∀ d, ¬ s.RecallAt t d) ∨
        a = .requestReclaim ∧ ∃ bid b, s.borrows.lookup bid = some b ∧ b.lender = t ∧ b.recalled = false) := by
  have hopen : (s.borrows.entries.any fun e => e.2.lender == t && !e.2.recalled) = true ↔
      ∃ bid b, s.borrows.lookup bid = some b ∧ b.lender = t ∧ b.recalled = false := by
    simp only [List.any_eq_true, Bool.and_eq_true, beq_iff_eq, Bool.not_eq_true']
    constructor
    · rintro ⟨e, he, hl, hr⟩
      exact ⟨e.1, e.2, lookup_of_mem_entries he, hl, hr⟩
    · rintro ⟨bid, b, hb, hl, hr⟩
      exact ⟨⟨bid, b⟩, lookup_eq_some_iff.mp hb, hl, hr⟩
  have hcom : s.computeCompliance t (s.effectiveLattice t) (s.committed t) = .recallRequired ↔
      ∃ d, s.RecallAt t d := envelope_recall_iff
  unfold recallDecision
  cases hex : s.tenantExists t with
  | false => simp
  | true =>
    simp only [Bool.not_true, Bool.false_eq_true, if_false, true_and, List.mem_append]
    rw [← hopen]
    by_cases hr : ∃ d, s.RecallAt t d
    · rw [if_pos (hcom.mpr hr)]
      have hall : ¬ ∀ d, ¬ s.RecallAt t d := by simpa using hr
      cases s.borrows.entries.any fun e => e.2.lender == t && !e.2.recalled <;> simp [hr, hall]
    · rw [if_neg fun h => hr (hcom.mp h)]
      have hall : ∀ d, ¬ s.RecallAt t d := by simpa using hr
      cases s.borrows.entries.any fun e => e.2.lender == t && !e.2.recalled <;> simp [hall]

end Exact

/-! ## Lower quotas -/

/-- The guarantee and the hard limit of `q'` are at most those of `q`, none is taken away, and the soft
    limits are lower, on the same dimensions: where there was no soft limit the guarantee stood in for
    it, so that one set above would be room gained. -/
structure Tightened (q q' : ResourceQuota) : Prop where
  guaranteed : ∀ d, q.guaranteed.present d = true →
    q'.guaranteed.present d = true ∧ q'.guaranteed.get d ≤ q.guaranteed.get d
  hardLimit : ∀ d, q.hardLimit.present d = true →
    q'.hardLimit.present d = true ∧ q'.hardLimit.get d ≤ q.hardLimit.get d
  softLimit : ∀ d, q.softLimit.present d = true →
    q'.softLimit.present d = true ∧ q'.softLimit.get d ≤ q.softLimit.get d
  softSet : ∀ d, q'.softLimit.present d = true → q.softLimit.present d = true

instance (q q' : ResourceQuota) : Decidable (Tightened q q') :=
  decidable_of_iff
    ((∀ d, q.guaranteed.present d = true →
        q'.guaranteed.present d = true ∧ q'.guaranteed.get d ≤ q.guaranteed.get d) ∧
      (∀ d, q.hardLimit.present d = true →
        q'.hardLimit.present d = true ∧ q'.hardLimit.get d ≤ q.hardLimit.get d) ∧
      (∀ d, q.softLimit.present d = true →
        q'.softLimit.present d = true ∧ q'.softLimit.get d ≤ q.softLimit.get d) ∧
      ∀ d, q'.softLimit.present d = true → q.softLimit.present d = true)
    ⟨fun ⟨h1, h2, h3, h4⟩ => ⟨h1, h2, h3, h4⟩, fun h => ⟨h.1, h.2, h.3, h.4⟩⟩

theorem Tightened.refl (q : ResourceQuota) : Tightened q q :=
  ⟨fun _ h => ⟨h, le_refl _⟩, fun _ h => ⟨h, le_refl _⟩, fun _ h => ⟨h, le_refl _⟩, fun _ h => h⟩

/-- `q` is at most the quota it replaces; a first quota sets no soft limit. -/
def Lowers : Option ResourceQuota → ResourceQuota → Prop
  | none, q => ∀ d, q.softLimit.present d = false
  | some old, q => Tightened old q

instance : ∀ (old : Option ResourceQuota) (q : ResourceQuota), Decidable (Lowers old q)
  | none, q => inferInstanceAs (Decidable (∀ d, q.softLimit.present d = false))
  | some old, q => inferInstanceAs (Decidable (Tightened old q))

/-- One entry of a quota map is kept or lowered. -/
def KeptOrLowered (old new : Option ResourceQuota) : Prop := new = old ∨ ∃ q, new = some q ∧ Lowers old q

theorem KeptOrLowered.of_old {old new : Option ResourceQuota} (h : KeptOrLowered old new) {q : ResourceQuota}
    (hq : old = some q) : ∃ q', new = some q' ∧ Tightened q q' := by
  subst hq
  rcases h with rfl | ⟨q', rfl, h⟩
  · exact ⟨q, rfl, .refl q⟩
  · exact ⟨q', rfl, h⟩

theorem KeptOrLowered.softSet {old new : Option ResourceQuota} (h : KeptOrLowered old new) {q' : ResourceQuota}
    (hq' : new = some q') {d : ResourceDimension} (hd : q'.softLimit.present d = true) :
    ∃ q, old = some q ∧ q.softLimit.present d = true := by
  subst hq'
  rcases h with h | ⟨_, hq, h⟩
  · exact ⟨q', h.symm, hd⟩
  · cases hq
    cases old with
    | none => exact absurd ((h d).symm.trans hd) (by decide)
    | some q => exact ⟨q, rfl, h.softSet d hd⟩

/-- `s'` has the hierarchy and the counters of `s`, and no higher quota. -/
structure NoHigher (s s' : Engine) : Prop where
  groups : s'.groups = s.groups
  tenants : s'.tenants = s.tenants
  usage : s'.usage = s.usage
  localQuota : ∀ t, KeptOrLowered (s.localQuota.lookup t) (s'.localQuota.lookup t)
  groupQuota : ∀ g, KeptOrLowered (s.groupQuota.lookup g) (s'.groupQuota.lookup g)

namespace NoHigher

variable {s s' : Engine}

theorem ancestorGroups (h : NoHigher s s') (t : TenantId) : s'.ancestorGroups t = s.ancestorGroups t := by
  have hchain : ∀ (n : Nat) (cur : Option TenantGroupId), s'.parentChain n cur = s.parentChain n cur := by
    intro n
    induction n with
    | zero => exact fun _ => rfl
    | succ n ih =>
      intro cur
      cases cur with
      | none => rfl
      | some g =>
        unfold parentChain
        rw [h.groups]
        simp only [ih]
  unfold Engine.ancestorGroups walkFuel
  rw [h.tenants, h.groups]
  simp only [hchain]

theorem mem_quotaChain_iff {t : TenantId} {q : ResourceQuota} :
    q ∈ s.quotaChain t ↔
      (∃ g ∈ s.ancestorGroups t, s.groupQuota.lookup g = some q) ∨ s.localQuota.lookup t = some q := by
  unfold quotaChain
  simp [List.mem_filterMap]

theorem chain_of_old (h : NoHigher s s') (t : TenantId) {q : ResourceQuota} (hq : q ∈ s.quotaChain t) :
    ∃ q' ∈ s'.quotaChain t, Tightened q q' := by
  rcases mem_quotaChain_iff.mp hq with ⟨g, hg, hq⟩ | hq
  · obtain ⟨q', hq', hle⟩ := (h.groupQuota g).of_old hq
    exact ⟨q', mem_quotaChain_iff.mpr (.inl ⟨g, by rw [h.ancestorGroups]; exact hg, hq'⟩), hle⟩
  · obtain ⟨q', hq', hle⟩ := (h.localQuota t).of_old hq
    exact ⟨q', mem_quotaChain_iff.mpr (.inr hq'), hle⟩

theorem chain_softSet (h : NoHigher s s') (t : TenantId) {q' : ResourceQuota} (hq' : q' ∈ s'.quotaChain t)
    {d : ResourceDimension} (hd : q'.softLimit.present d = true) :
    ∃ q ∈ s.quotaChain t, q.softLimit.present d = true := by
  rcases mem_quotaChain_iff.mp hq' with ⟨g, hg, hq'⟩ | hq'
  · obtain ⟨q, hq, hd⟩ := (h.groupQuota g).softSet hq' hd
    exact ⟨q, mem_quotaChain_iff.mpr (.inl ⟨g, by rw [← h.ancestorGroups]; exact hg, hq⟩), hd⟩
  · obtain ⟨q, hq, hd⟩ := (h.localQuota t).softSet hq' hd
    exact ⟨q, mem_quotaChain_iff.mpr (.inr hq), hd⟩

/-- A merged limit is set in the lower quotas, and not above. -/
theorem mergeMin_field (h : NoHigher s s') (hq : QuotasValid s') (t : TenantId) {d : ResourceDimension}
    {f : ResourceQuota → ResourceVector} (hf : ∀ q, q.Valid → (f q).Valid)
    (hle : ∀ q q', Tightened q q' → (f q).present d = true →
      (f q').present d = true ∧ (f q').get d ≤ (f q).get d)
    (hp : (mergeMin ((s.quotaChain t).map f)).present d = true) :
    (mergeMin ((s'.quotaChain t).map f)).present d = true ∧
      (mergeMin ((s'.quotaChain t).map f)).get d ≤ (mergeMin ((s.quotaChain t).map f)).get d := by
  obtain ⟨-, v, hv, hcell⟩ := mergeMin_cell (SparseVec.cell_of_present hp)
  obtain ⟨q, hqm, rfl⟩ := List.mem_map.mp hv
  obtain ⟨q', hqm', htight⟩ := h.chain_of_old t hqm
  have hset : (f q).present d = true := by unfold SparseVec.present; rw [hcell]; rfl
  have hval : (f q).get d = (mergeMin ((s.quotaChain t).map f)).get d :=
    Option.some.inj ((SparseVec.cell_of_present hset).symm.trans hcell)
  obtain ⟨hp', hle'⟩ := hle q q' htight hset
  have hnn : ∀ v ∈ (s'.quotaChain t).map f, v.NonNeg := by
    intro v hv d
    obtain ⟨q, hqm, rfl⟩ := List.mem_map.mp hv
    exact (hf q (quotaChain_valid hq t q hqm) d).1
  obtain ⟨hset', hmin⟩ := mergeMin_le hnn (List.mem_map_of_mem (f := f) hqm') hp'
  exact ⟨hset', by omega⟩

variable (h : NoHigher s s') (hq : QuotasValid s') (t : TenantId)

include h hq

theorem guaranteed {d : ResourceDimension} (hp : (s.effectiveLattice t).guaranteed.present d = true) :
    (s'.effectiveLattice t).guaranteed.present d = true ∧
      (s'.effectiveLattice t).guaranteed.get d ≤ (s.effectiveLattice t).guaranteed.get d := by
  rw [effectiveLattice_guaranteed, effectiveLattice_guaranteed] at *
  exact h.mergeMin_field hq t (fun _ h => h.guaranteed) (fun _ _ h => h.guaranteed d) hp

theorem hardOf_le (d : ResourceDimension) :
    hardOf (s'.effectiveLattice t) d ≤ hardOf (s.effectiveLattice t) d := by
  have hmax := ((effectiveLattice_valid hq t).2.2.1 d).2
  unfold hardOf
  cases hp : (s.effectiveLattice t).hardLimit.present d with
  | true =>
    rw [effectiveLattice_hardLimit] at hp
    have hmin := h.mergeMin_field hq t (fun _ h => h.hardLimit) (fun _ _ h => h.hardLimit d) hp
    rw [← effectiveLattice_hardLimit, ← effectiveLattice_hardLimit] at hmin
    rw [if_pos hmin.1]
    exact hmin.2
  | false =>
    simp only [Bool.false_eq_true, if_false]
    split
    · exact hmax
    · exact le_refl _

theorem softOf_le (hq0 : QuotasValid s) (d : ResourceDimension) :
    softOf (s'.effectiveLattice t) d ≤ softOf (s.effectiveLattice t) d := by
  have hvalid := effectiveLattice_valid hq t
  have hgmax := (hvalid.1 d).2
  unfold softOf
  cases hp : (s.effectiveLattice t).softLimit.present d with
  | true =>
    rw [effectiveLattice_softLimit] at hp
    have hmin := h.mergeMin_field hq t (fun _ h => h.softLimit) (fun _ _ h => h.softLimit d) hp
    rw [← effectiveLattice_softLimit, ← effectiveLattice_softLimit] at hmin
    rw [if_pos hmin.1]
    exact hmin.2
  | false =>
    -- no quota of the chain sets a soft limit, so none of the lower ones does
    have hp' : (s'.effectiveLattice t).softLimit.present d = false := by
      rw [Bool.eq_false_iff]
      intro hset
      rw [effectiveLattice_softLimit] at hset hp
      obtain ⟨-, v, hv, hcell⟩ := mergeMin_cell (SparseVec.cell_of_present hset)
      obtain ⟨q', hqm', rfl⟩ := List.mem_map.mp hv
      obtain ⟨q, hqm, hd⟩ := h.chain_softSet t hqm' (d := d) (by unfold SparseVec.present; rw [hcell]; rfl)
      have hnn : ∀ v ∈ (s.quotaChain t).map (·.softLimit), v.NonNeg := by
        intro v hv d
        obtain ⟨q, hqm, rfl⟩ := List.mem_map.mp hv
        exact ((quotaChain_valid hq0 t q hqm).softLimit d).1
      have hmerged := (mergeMin_le hnn (List.mem_map_of_mem (f := (·.softLimit)) hqm) hd).1
      exact absurd (hp.symm.trans hmerged) (by decide)
    rw [hp']
    simp only [Bool.false_eq_true, if_false]
    cases hg : (s.effectiveLattice t).guaranteed.present d with
    | true =>
      obtain ⟨hg', hle⟩ := h.guaranteed hq t hg
      rw [if_pos hg']
      exact hle
    | false =>
      simp only [Bool.false_eq_true, if_false]
      split
      · exact hgmax
      · exact le_refl _

/-- A lower quota gives each dimension a verdict that is no better. -/
theorem verdict_gravity (hq0 : QuotasValid s) (d : ResourceDimension) :
    (s.verdict t (s.effectiveLattice t) (s.committed t) d).gravity ≤
      (s'.verdict t (s'.effectiveLattice t) (s'.committed t) d).gravity := by
  have husage : s'.usageOf t = s.usageOf t := by unfold usageOf; rw [h.usage]
  have hused : s'.usedOn t d = s.usedOn t d := by
    unfold usedOn complianceScalar Engine.committed
    rw [husage]
  have hrecall : s.RecallAt t d → s'.RecallAt t d := by
    rintro ⟨hset, hlent, hover⟩
    obtain ⟨hset', hle⟩ := h.guaranteed hq t hset
    refine ⟨hset', by rw [husage]; exact hlent, ?_⟩
    rw [hused, husage]
    omega
  have hhard := h.hardOf_le hq t d
  have hsoft := h.softOf_le hq t hq0 d
  have hle : (s.verdict t (s.effectiveLattice t) (s.committed t) d).gravity ≤ 3 := verdict_gravity_le d
  -- each level of the first verdict is a level of the second
  have hlevel : ∀ k, 1 ≤ k → k ≤ 3 → k ≤ (s.verdict t (s.effectiveLattice t) (s.committed t) d).gravity →
      k ≤ (s'.verdict t (s'.effectiveLattice t) (s'.committed t) d).gravity := by
    intro k h1 h3
    obtain rfl | rfl | rfl : k = 1 ∨ k = 2 ∨ k = 3 := by omega
    · rw [soft_le_verdict_iff, soft_le_verdict_iff, hused]
      rintro (hr | hr | hr)
      · exact .inl (hrecall hr)
      · exact .inr (.inl (by omega))
      · exact .inr (.inr (by omega))
    · rw [hard_le_verdict_iff, hard_le_verdict_iff, hused]
      rintro (hr | hr)
      · exact .inl (hrecall hr)
      · exact .inr (by omega)
    · rw [recall_le_verdict_iff, recall_le_verdict_iff]
      exact hrecall
  by_cases h0 : (s.verdict t (s.effectiveLattice t) (s.committed t) d).gravity = 0
  · omega
  · exact hlevel _ (by omega) hle (le_refl _)

theorem compliance_gravity (hq0 : QuotasValid s) :
    (s.envelope t).compliance.gravity ≤ (s'.envelope t).compliance.gravity := by
  rw [le_envelope_compliance_iff]
  rcases (le_envelope_compliance_iff _).mp (le_refl (s.envelope t).compliance.gravity) with h0 | ⟨d, hd⟩
  · exact .inl h0
  · exact .inr ⟨d, hd.trans (h.verdict_gravity hq t hq0 d)⟩

end NoHigher

/-! ## Runs that lower quotas -/

/-- Calls that lower a quota, and calls that neither set one nor use any. -/
def Lowering (s : Engine) (c : Env × Call) : Prop :=
  match c.2 with
  | .setTenantQuota t q => q.Valid ∧ Lowers (s.localQuota.lookup t) q
  | .setGroupQuota g q => q.Valid ∧ Lowers (s.groupQuota.lookup g) q
  | .setPolicy _ | .advanceEpoch | .snapshot | .saveTo _ | .query => True
  | _ => False

instance (s : Engine) (c : Env × Call) : Decidable (s.Lowering c) := by
  unfold Lowering
  split <;> infer_instance

section Steps

variable {s : Engine}

theorem NoHigher.of_quotas {s' : Engine} (hg : s'.groups = s.groups) (ht : s'.tenants = s.tenants)
    (hu : s'.usage = s.usage) (hl : s'.localQuota = s.localQuota) (hgq : s'.groupQuota = s.groupQuota) :
    NoHigher s s' :=
  ⟨hg, ht, hu, fun t => .inl (by rw [hl]), fun g => .inl (by rw [hgq])⟩

theorem SameRecords.trans {s' s'' : Engine} (h : SameRecords s s') (h' : SameRecords s' s'') : SameRecords s s'' :=
  ⟨h'.ledger.trans h.ledger, h'.borrows.trans h.borrows, h'.lends.trans h.lends, h'.usage.trans h.usage⟩

/-- What one lowering call keeps. -/
structure Lowered (s s' : Engine) : Prop where
  noHigher : NoHigher s s'
  valid : QuotasValid s'
  records : SameRecords s s'

section Maps

variable {κ : Type} [DecidableEq κ] {m : UMap κ ResourceQuota} {k : κ} {q q' : ResourceQuota}

/-- Storing a lower quota under `k`. -/
theorem keptOrLowered_insert (h : Lowers (m.lookup k) q) (hg : q'.guaranteed = q.guaranteed)
    (hs : q'.softLimit = q.softLimit) (hh : q'.hardLimit = q.hardLimit) (x : κ) :
    KeptOrLowered (m.lookup x) ((m.insert k q').lookup x) := by
  by_cases hx : x = k
  · subst hx
    refine .inr ⟨q', lookup_insert m, ?_⟩
    cases ho : m.lookup x with
    | none =>
      rw [ho] at h
      intro d
      rw [hs]
      exact h d
    | some old =>
      rw [ho] at h
      exact ⟨by rw [hg]; exact h.guaranteed, by rw [hh]; exact h.hardLimit, by rw [hs]; exact h.softLimit,
        by rw [hs]; exact h.softSet⟩
  · exact .inl (lookup_insert_ne hx)

theorem valid_insert (h : ∀ x v, m.lookup x = some v → v.Valid) (hq' : q'.Valid) :
    ∀ x v, (m.insert k q').lookup x = some v → v.Valid := by
  intro x v hv
  by_cases hx : x = k
  · subst hx
    rw [lookup_insert] at hv
    cases hv
    exact hq'
  · exact h x v ((lookup_insert_ne hx).symm.trans hv)

end Maps

theorem Lowered.of_refused (hq : QuotasValid s) : Lowered s s :=
  ⟨.of_quotas rfl rfl rfl rfl rfl, hq, .refl s⟩

theorem after_lowered (hq : QuotasValid s) {c : Env × Call} (hc : s.Lowering c) : Lowered s (s.after c) := by
  obtain ⟨env, c⟩ := c
  cases c with
  | setTenantQuota t q =>
    obtain ⟨hvalid, hlower⟩ := hc
    show Lowered s (s.setTenantQuota env t q).2
    unfold setTenantQuota
    split
    · exact .of_refused hq
    split
    · exact .of_refused hq
    · exact ⟨⟨rfl, rfl, rfl, keptOrLowered_insert hlower rfl rfl rfl, fun g => .inl rfl⟩,
        ⟨valid_insert hq.localQuota ⟨hvalid.1, hvalid.2, hvalid.3, hvalid.4, hvalid.5, hvalid.6⟩,
          hq.groupQuota⟩, ⟨rfl, rfl, rfl, rfl⟩⟩
  | setGroupQuota g q =>
    obtain ⟨hvalid, hlower⟩ := hc
    show Lowered s (s.setGroupQuota env g q).2
    unfold setGroupQuota
    split
    · exact .of_refused hq
    · exact ⟨⟨rfl, rfl, rfl, fun t => .inl rfl, keptOrLowered_insert hlower rfl rfl rfl⟩,
        ⟨hq.localQuota,
          valid_insert hq.groupQuota ⟨hvalid.1, hvalid.2, hvalid.3, hvalid.4, hvalid.5, hvalid.6⟩⟩,
        ⟨rfl, rfl, rfl, rfl⟩⟩
  | setPolicy policy =>
    show Lowered s (s.setPolicy env policy).2
    unfold setPolicy
    split
    · exact .of_refused hq
    · exact ⟨.of_quotas rfl rfl rfl rfl rfl, ⟨hq.1, hq.2⟩, ⟨rfl, rfl, rfl, rfl⟩⟩
  | advanceEpoch => exact ⟨.of_quotas rfl rfl rfl rfl rfl, ⟨hq.1, hq.2⟩, ⟨rfl, rfl, rfl, rfl⟩⟩
  | snapshot => exact ⟨.of_quotas rfl rfl rfl rfl rfl, ⟨hq.1, hq.2⟩, ⟨rfl, rfl, rfl, rfl⟩⟩
  | saveTo path =>
    show Lowered s (s.saveTo env path).2
    unfold saveTo
    split
    · exact ⟨.of_quotas rfl rfl rfl rfl rfl, ⟨hq.1, hq.2⟩, ⟨rfl, rfl, rfl, rfl⟩⟩
    · exact .of_refused hq
  | query => exact .of_refused hq
  | _ => exact absurd hc (by simp [Lowering])

/-- The lending tenant has lent 10 of its guarantee of 100, which is then lowered to 50 and to 5. -/
def lentOut : Engine :=
  borrowerAndLender.after
    (.numbered 1, .borrow cappedTenant (.fromScalar .acceleratorVRAM 10) firstAuthority)

def twoLowerings : List (Env × Call) :=
  [(.numbered 2, .setTenantQuota lendingTenant { guaranteed := .fromScalar .acceleratorVRAM 50 }),
   (.numbered 3, .setTenantQuota lendingTenant { guaranteed := .fromScalar .acceleratorVRAM 5 })]

end Steps

/-! ## Recall demands over runs -/

/-- **A recall is not demanded in vain.**  In every run of reservations and loans that strands no loan, a
    lender told to recall borrowed capacity exists, is over its guarantee by its loans on some dimension,
    and is in the same answer told of a loan to reclaim. -/
theorem recall_not_in_vain {s₀ s : Engine} {l : List (Env × Call)} (hstart : NoLoans s₀)
    (hrun : Run after (fun s c => coreCall s c ∧ ¬ StrandsLoan s c) s₀ l s) {t : TenantId}
    (hask : RecallAction.recallBorrowedCapacity ∈ s.recallDecision t) :
    s.tenantExists t = true ∧ (∃ d, s.RecallAt t d) ∧ RecallAction.requestReclaim ∈ s.recallDecision t := by
  obtain ⟨hex, hwhy⟩ := mem_recallDecision.mp hask
  have hrecall : ∃ d, s.RecallAt t d := by simpa using hwhy
  have hinv := hrun.invariant hstart.lentInv fun _ _ h hc => after_lentInv hstart.quotas hc h
  refine ⟨hex, hrecall, mem_recallDecision.mpr ⟨hex, .inr (.inr ⟨rfl, ?_⟩)⟩⟩
  by_contra hnone
  have hreturned : ∀ bid b, s.borrows.lookup bid = some b → b.lender = t → b.recalled = true := by
    intro bid b hb hl
    cases hr : b.recalled with
    | true => rfl
    | false => exact absurd ⟨bid, b, hb, hl, hr⟩ hnone
  exact (hinv.sound t).2 hreturned (envelope_recall_iff.mpr hrecall)

/-- The lender's guarantee is full of its own reservation and of what it lends. -/
def lentAndUsed : List (Env × Call) :=
  [(.numbered 1, .borrow cappedTenant (.fromScalar .acceleratorVRAM 10) firstAuthority),
   (.numbered 2, .reserve lendingTenant (.fromScalar .acceleratorVRAM 95) firstAuthority)]

theorem recall_not_in_vain_lentAndUsed :
    RecallAction.recallBorrowedCapacity ∈
      (lentAndUsed.foldl after borrowerAndLender).recallDecision lendingTenant ∧
    RecallAction.requestReclaim ∈ (lentAndUsed.foldl after borrowerAndLender).recallDecision lendingTenant := by
  -- the lender has no hard limit, so its reservation borrows nothing
  have hneed : ∀ d, ¬ 0 < borrowNeed (lentOut.effectiveLattice lendingTenant) (lentOut.committed lendingTenant)
      (.fromScalar .acceleratorVRAM 95) d := by decide +kernel
  have hask : RecallAction.recallBorrowedCapacity ∈
      (lentAndUsed.foldl after borrowerAndLender).recallDecision lendingTenant := by decide +kernel
  have hrun : Run after (fun s c => coreCall s c ∧ ¬ StrandsLoan s c) borrowerAndLender lentAndUsed
      (lentAndUsed.foldl after borrowerAndLender) :=
    Run.cons ⟨by decide +kernel, id⟩ (Run.cons ⟨by decide +kernel,
      fun ⟨_, _, ⟨_, d, _, _, _, hd, _⟩, _⟩ => hneed d hd⟩ (.nil _))
  exact ⟨hask, (recall_not_in_vain (borrowerAndLender_configured.noLoans borrowerAndLender_quotasValid) hrun
    hask).2.2⟩

end Engine

end QuotaFabric
