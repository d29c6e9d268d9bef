import QuotaFabric.Decisions.Admission
import QuotaFabric.Limits.ParentCeiling

/-!
# Guarantees over whole runs

A request within the guarantee of its tenant can still be refused at an ancestor: `classify` checks
the ancestor's hard limit before it looks at the guarantee, and admits other tenants into headroom
that backs unused guarantees.

* `GuaranteesKept` — every ancestor still has room for what the tenants below have not used of
  their guarantees;
* `evaluateReservation_within_guarantee` — then every request within a guarantee is allowed;
* `guarantees_protected` — guarantees hold along every run whose new reservations leave that room;
* `guarantee_denied_at_parent` — a run in which one does not.

Nothing here needs the amounts to fit into 64 bits: whatever overflows, the counters never exceed
the sums of the records.
-/

set_option autoImplicit false

namespace QuotaFabric

open AList

namespace Engine

/-- The effective guarantee of `t` on `d`, `0` where none is set. -/
def guarantee (s : Engine) (t : TenantId) (d : ResourceDimension) : Int :=
  (s.effectiveLattice t).guaranteed.get d

theorem SameConfig.guarantee {s s' : Engine} (h : SameConfig s s') (t : TenantId)
    (d : ResourceDimension) : s'.guarantee t d = s.guarantee t d := by
  unfold Engine.guarantee
  rw [h.effectiveLattice]

theorem guaranteeOf_effective (s : Engine) (t : TenantId) (d : ResourceDimension) :
    guaranteeOf (s.effectiveLattice t) d = s.guarantee t d := by
  unfold guaranteeOf guarantee
  split
  · rfl
  · rename_i hp
    rw [SparseVec.get_of_not_present (by simpa using hp)]

theorem guarantee_nonneg (s : Engine) (t : TenantId) (d : ResourceDimension) : 0 ≤ s.guarantee t d := by
  unfold guarantee
  rw [effectiveLattice_guaranteed]
  exact mergeMin_nonNeg _ d

/-- The soft limit of `t` on `d` is below its guarantee.  Such a tenant depends on the guarantee
    pools of its ancestors. -/
def SoftBelowGuarantee (s : Engine) (t : TenantId) (d : ResourceDimension) : Prop :=
  (s.effectiveLattice t).softLimit.present d = true ∧
    (s.effectiveLattice t).softLimit.get d < s.guarantee t d

instance (s : Engine) (t : TenantId) (d : ResourceDimension) : Decidable (s.SoftBelowGuarantee t d) :=
  inferInstanceAs (Decidable (_ ∧ _))

/-- With `held` reserved by each tenant on `d`, every hard limit of a group leaves room for the
    guarantees below it that are not used up; so does every guarantee pool a tenant depends on. -/
structure GuaranteesKept (s : Engine) (d : ResourceDimension) (held : TenantId → Int) : Prop where
  hard : ∀ g q, s.groupQuota.lookup g = some q → q.hardLimit.present d = true →
    (s.totalBelow g fun x => max (held x) (s.guarantee x d)) ≤ q.hardLimit.get d
  pool : ∀ g q, s.groupQuota.lookup g = some q → g ∈ s.groups → q.guaranteed.present d = true →
    ∀ t tn, s.tenants.lookup t = some tn → s.hasAncestor tn g = true → s.SoftBelowGuarantee t d →
      (s.totalBelow g fun x => min (held x) (s.guarantee x d)) + s.guarantee t d ≤ q.guaranteed.get d

instance (s : Engine) (d : ResourceDimension) (held : TenantId → Int) :
    Decidable (s.GuaranteesKept d held) :=
  decidable_of_iff
    ((∀ g q, s.groupQuota.lookup g = some q → q.hardLimit.present d = true →
      (s.totalBelow g fun x => max (held x) (s.guarantee x d)) ≤ q.hardLimit.get d) ∧
    ∀ g q, s.groupQuota.lookup g = some q → g ∈ s.groups → q.guaranteed.present d = true →
    ∀ t tn, s.tenants.lookup t = some tn → s.hasAncestor tn g = true → s.SoftBelowGuarantee t d →
      (s.totalBelow g fun x => min (held x) (s.guarantee x d)) + s.guarantee t d ≤ q.guaranteed.get d)
    ⟨fun ⟨h1, h2⟩ => ⟨h1, h2⟩, fun h => ⟨h.hard, h.pool⟩⟩

/-- Less reserved leaves more room. -/
theorem GuaranteesKept.mono {s s' : Engine} {d : ResourceDimension} {held held' : TenantId → Int}
    (h : s.GuaranteesKept d held) (hconf : SameConfig s s') (hle : ∀ x, held' x ≤ held x) :
    s'.GuaranteesKept d held' where
  hard g q hq hp := by
    rw [hconf.groupQuota] at hq
    rw [hconf.totalBelow]
    simp only [hconf.guarantee]
    exact (totalBelow_mono g fun x => max_le_max_right _ (hle x)).trans (h.hard g q hq hp)
  pool g q hq hg hp t tn ht hanc hsoft := by
    rw [hconf.groupQuota] at hq
    rw [hconf.groups] at hg
    rw [hconf.tenants] at ht
    rw [hconf.hasAncestor] at hanc
    unfold SoftBelowGuarantee at hsoft
    rw [hconf.effectiveLattice, hconf.guarantee] at hsoft
    rw [hconf.totalBelow, hconf.guarantee]
    simp only [hconf.guarantee]
    have hmono : (s.totalBelow g fun x => min (held' x) (s.guarantee x d)) ≤
        s.totalBelow g fun x => min (held x) (s.guarantee x d) :=
      totalBelow_mono g fun x => min_le_min_right _ (hle x)
    have hold := h.pool g q hq hg hp t tn ht hanc hsoft
    omega

/-! ## Counters never exceed the records -/

/-- The counters show nothing consumed, and no more reserved than the records say. -/
structure CountedInv (s₀ s : Engine) : Prop where
  config : SameConfig s₀ s
  nonNeg : ∀ rid r, s.reservations.lookup rid = some r → r.resources.NonNeg
  noAllocation : NoAllocation s
  consumption : ∀ x d, (s.usageOf x).consumption.get d = 0
  reserved : ∀ x, (s.usageOf x).reserved.NonNeg
  reserved_le : ∀ x d, (s.usageOf x).reserved.get d ≤ s.reservedSum x d
  reserved_fits : ∀ x d, (s.usageOf x).reserved.get d ≤ INT64_MAX

section Counted

variable {env : Env} {s₀ s s' : Engine}

theorem Idle.countedInv (h : Idle s) : CountedInv s s where
  config := .refl s
  nonNeg rid r hr := by rw [h.reservations] at hr; cases hr
  noAllocation := h.noAllocation
  consumption x d := (h.counters x d).1
  reserved x d := (h.counters x d).2.ge
  reserved_le x d := by rw [(h.counters x d).2, h.reservedSum]
  reserved_fits x d := by rw [(h.counters x d).2]; decide

theorem CapacityStep.countedInv {amount : ResourceVector} (hstep : CapacityStep env amount s s')
    (h : CountedInv s₀ s) : CountedInv s₀ s' := by
  have hnn := hstep.nonNeg h.nonNeg
  have hna := hstep.noAllocation h.noAllocation
  have hcase : ∀ x,
      ((s'.usageOf x).consumption = .empty ∧
        (s'.usageOf x).reserved = s'.recomputedReserved env x) ∨ SameCapacity s s' x := by
    intro x
    refine (hstep.counters x).imp (fun hsync => ⟨?_, hsync.reserved⟩) id
    rw [hsync.consumption, computedConsumed_of_noAllocation hna]
  refine ⟨h.config.trans hstep.config, hnn, hna, fun x d => ?_, fun x => ?_, fun x d => ?_, fun x d => ?_⟩
  · rcases hcase x with ⟨hc, -⟩ | ⟨hc, -, -, -⟩
    · rw [hc]; rfl
    · rw [hc]; exact h.consumption x d
  · rcases hcase x with ⟨-, hr⟩ | ⟨-, hr, -, -⟩
    · rw [hr]
      unfold recomputedReserved
      simp only [remaining_of_noAllocation hna]
      exact sumOf_run_nonNeg env.reservationOrder (p := fun _ r => r.tenant == x && activeRes r)
        (f := fun _ r => r.resources) fun rid r hr _ => hnn rid r hr
    · rw [hr]; exact h.reserved x
  · rcases hcase x with ⟨-, hr⟩ | ⟨-, hr, -, hex⟩
    · rw [hr]; exact recomputedReserved_le hna hnn x d
    · rw [hr, ← get_exactReserved, hex, get_exactReserved]; exact h.reserved_le x d
  · rcases hcase x with ⟨-, hr⟩ | ⟨-, hr, -, -⟩
    · rw [hr]; exact ResourceVector.sumOf_le_max _ d
    · rw [hr]; exact h.reserved_fits x d

theorem CountedInv.get_committed (h : CountedInv s₀ s) (x : TenantId) (d : ResourceDimension) :
    (s.committed x).get d = (s.usageOf x).reserved.get d := by
  unfold committed
  rw [ResourceVector.accum_of_fits, SparseVec.get_add, h.consumption, zero_add]
  intro e
  rw [h.consumption, zero_add]
  exact h.reserved_fits x e

/-- The aggregate of the parent check never exceeds the counters below the group. -/
theorem CountedInv.subtreeCommitted_le (h : CountedInv s₀ s) (g : TenantGroupId)
    (d : ResourceDimension) :
    (s.subtreeCommitted env g).get d ≤ s.totalBelow g fun x => (s.usageOf x).reserved.get d := by
  refine (subtreeCommitted_le_total (fun x => ⟨fun d => (h.consumption x d).ge, h.reserved x⟩) g d).trans
    (le_of_eq ?_)
  simp only [h.consumption, zero_add]

/-- One dimension of the guaranteed parts a tenant adds to a pool. -/
theorem sum_guaranteedParts {m : ResourceDimension → Int} {p : ResourceDimension → Bool}
    (hm : ∀ e, p e = false → m e ≤ 0) (d : ResourceDimension) : ∀ ds : List ResourceDimension, ds.Nodup →
      (((ds.filter fun e => p e && decide (m e > 0)).map fun e =>
        ResourceVector.fromScalar e (m e)).map (·.get d)).sum = if d ∈ ds then max 0 (m d) else 0
  | [], _ => by simp
  | e :: ds, hnd => by
    obtain ⟨hne, hnd'⟩ := List.nodup_cons.mp hnd
    have ih := sum_guaranteedParts hm d ds hnd'
    by_cases hpos : 0 < m e
    · have hp : p e = true := by
        by_contra hno
        have hle := hm e (by simpa using hno)
        omega
      have hin : (p e && decide (m e > 0)) = true := by simp [hp, hpos]
      rw [List.filter_cons_of_pos (by exact hin), List.map_cons, List.map_cons, List.sum_cons, ih]
      by_cases hde : d = e
      · subst hde
        rw [if_neg hne, ResourceVector.get_fromScalar_self hpos.le, if_pos List.mem_cons_self,
          max_eq_right hpos.le, add_zero]
      · have hmem : d ∈ e :: ds ↔ d ∈ ds := by simp [hde]
        rw [ResourceVector.get_fromScalar_ne hde, zero_add]
        simp only [hmem]
    · have hout : ¬ (p e && decide (m e > 0)) = true := by simp [hpos]
      rw [List.filter_cons_of_neg (by exact hout), ih]
      by_cases hde : d = e
      · subst hde
        rw [if_neg hne, if_pos List.mem_cons_self, max_eq_left (not_lt.mp hpos)]
      · have hmem : d ∈ e :: ds ↔ d ∈ ds := by simp [hde]
        simp only [hmem]

/-- What `x` uses of its guarantee. -/
def guaranteedPart (s : Engine) (x : TenantId) (d : ResourceDimension) : Int :=
  max 0 (min ((s.committed x).get d) (s.guarantee x d))

/-- The summands of `pool_used`. -/
def poolParts (env : Env) (s : Engine) (g : TenantGroupId) : List ResourceVector :=
  ((env.tenantOrder s.tenants.entries).filter fun e => s.hasAncestor e.2 g).flatMap fun e =>
    (allResourceDimensions.filter fun d => (s.effectiveLattice e.1).guaranteed.present d &&
        decide (min ((s.committed e.1).get d) (s.guarantee e.1 d) > 0)).map fun d =>
      ResourceVector.fromScalar d (min ((s.committed e.1).get d) (s.guarantee e.1 d))

theorem poolUsed_eq (env : Env) (s : Engine) (g : TenantGroupId) :
    s.poolUsed env g = ResourceVector.sumOf (s.poolParts env g) := rfl

theorem poolParts_nonNeg (g : TenantGroupId) : ∀ v ∈ s.poolParts env g, v.NonNeg := by
  intro v hv
  obtain ⟨e, -, hv⟩ := List.mem_flatMap.mp hv
  obtain ⟨k, hk, rfl⟩ := List.mem_map.mp hv
  have hpos := (List.mem_filter.mp hk).2
  simp only [Bool.and_eq_true, decide_eq_true_eq] at hpos
  rw [ResourceVector.fromScalar_of_nonneg hpos.2.le]
  intro e'
  by_cases he : e' = k
  · subst he; rw [SparseVec.get_put_self]; exact hpos.2.le
  · rw [SparseVec.get_put_ne _ _ he]; exact le_refl 0

theorem sum_poolParts (g : TenantGroupId) (d : ResourceDimension) :
    ((s.poolParts env g).map (·.get d)).sum = s.totalBelow g fun x => s.guaranteedPart x d := by
  have hone : ∀ x, ((((allResourceDimensions.filter fun d => (s.effectiveLattice x).guaranteed.present d &&
      decide (min ((s.committed x).get d) (s.guarantee x d) > 0)).map fun d =>
        ResourceVector.fromScalar d (min ((s.committed x).get d) (s.guarantee x d))).map (·.get d)).sum) =
      s.guaranteedPart x d := by
    intro x
    have habsent : ∀ e, (s.effectiveLattice x).guaranteed.present e = false →
        min ((s.committed x).get e) (s.guarantee x e) ≤ 0 := by
      intro e he
      have hzero : s.guarantee x e = 0 := SparseVec.get_of_not_present he
      rw [hzero]
      exact min_le_right _ _
    rw [sum_guaranteedParts habsent d allResourceDimensions allResourceDimensions_nodup,
      if_pos (mem_allResourceDimensions d)]
    rfl
  unfold poolParts
  rw [List.map_flatMap, List.flatMap_def, List.sum_flatten, List.map_map]
  simp only [Function.comp_def, hone]
  exact sum_filter_run env.tenantOrder s.tenants (fun _ tn => s.hasAncestor tn g)
    fun x _ => s.guaranteedPart x d

/-- The use of a pool never exceeds the guaranteed parts below the group. -/
theorem poolUsed_le_total (g : TenantGroupId) (d : ResourceDimension) :
    (s.poolUsed env g).get d ≤ s.totalBelow g fun x => s.guaranteedPart x d := by
  rw [poolUsed_eq, ← @sum_poolParts env s]
  exact ResourceVector.sumOf_le (poolParts_nonNeg g) d

theorem CountedInv.poolUsed_le (h : CountedInv s₀ s) (g : TenantGroupId) (d : ResourceDimension) :
    (s.poolUsed env g).get d ≤ s.totalBelow g fun x => min (s.reservedSum x d) (s.guarantee x d) := by
  refine (poolUsed_le_total g d).trans (totalBelow_mono g fun x => ?_)
  have hc := h.get_committed x d
  have hr := h.reserved_le x d
  have hsum := reservedSum_nonneg h.nonNeg x d
  have hg := s.guarantee_nonneg x d
  unfold guaranteedPart
  omega

end Counted

/-! ## Requests within a guarantee -/

/-- No quota sets a physical capacity on `d`. -/
def NoPhysical (s : Engine) (d : ResourceDimension) : Prop :=
  (∀ t q, s.localQuota.lookup t = some q → q.physicalCapacity.present d = false) ∧
    ∀ g q, s.groupQuota.lookup g = some q → q.physicalCapacity.present d = false

instance (s : Engine) (d : ResourceDimension) : Decidable (s.NoPhysical d) :=
  inferInstanceAs (Decidable (_ ∧ _))

section Decisions

variable {env : Env} {s₀ s : Engine} {t : TenantId} {d : ResourceDimension} {req : ResourceVector}

theorem physicalAllowance_of_noPhysical (h : s.NoPhysical d) (t : TenantId) :
    physicalAllowance env d (s.effectiveLattice t) = INT64_MAX := by
  have habs : (s.effectiveLattice t).physicalCapacity.present d = false := by
    rw [effectiveLattice_physicalCapacity, ← Bool.not_eq_true]
    intro hp
    obtain ⟨-, v, hv, hcell⟩ := mergeMin_cell (SparseVec.cell_of_present hp)
    obtain ⟨q, hq, rfl⟩ := List.mem_map.mp hv
    have hno : q.physicalCapacity.present d = false := by
      rcases List.mem_append.mp hq with hq | hq
      · obtain ⟨g, -, hg⟩ := List.mem_filterMap.mp hq
        exact h.2 g q hg
      · exact h.1 t q (Option.mem_toList.mp hq)
    unfold SparseVec.present at hno
    rw [hcell] at hno
    cases hno
  unfold physicalAllowance
  rw [habs]; rfl

/-- What an ancestor is asked for fits into the room left for the guarantee. -/
theorem parentHardOk_within_guarantee (hinv : CountedInv s₀ s)
    (hkept : s.GuaranteesKept d fun x => s.reservedSum x d)
    (hwithin : (s.committed t).get d + req.get d ≤ s.guarantee t d) :
    s.parentHardOk env t d (req.get d) = true := by
  unfold parentHardOk
  rw [List.all_eq_true]
  intro g hg
  cases hq : s.groupQuota.lookup g with
  | none => rfl
  | some q =>
    cases hp : q.hardLimit.present d with
    | false => simp [hp]
    | true =>
      cases ht : s.tenants.lookup t with
      | none =>
        unfold ancestorGroups at hg
        rw [ht] at hg
        exact absurd hg List.not_mem_nil
      | some tn =>
        have hanc := ((mem_ancestorGroups_iff ht).mp hg).1
        have hsub : (s.subtreeCommitted env g).get d ≤ _ := hinv.subtreeCommitted_le g d
        have hsat := satAdd_le_add (a := (s.subtreeCommitted env g).get d) (b := req.get d)
        have hadd := totalBelow_add ht g (req.get d) fun x => (s.usageOf x).reserved.get d
        rw [if_pos hanc] at hadd
        have hroom : (s.totalBelow g fun x => (if x = t then req.get d else 0) +
            (s.usageOf x).reserved.get d) ≤
            s.totalBelow g fun x => max (s.reservedSum x d) (s.guarantee x d) := by
          apply totalBelow_mono
          intro x
          have hle := hinv.reserved_le x d
          have hc := hinv.get_committed x d
          by_cases hx : x = t
          · subst hx
            rw [if_pos rfl]
            omega
          · rw [if_neg hx]
            omega
        have hlimit := hkept.hard g q hq hp
        simp only [hp, Bool.true_and, Bool.not_eq_true', decide_eq_false_iff_not, not_lt]
        omega

/-- A tenant whose soft limit is below its guarantee still finds room in every pool. -/
theorem poolOk_within_guarantee (hinv : CountedInv s₀ s)
    (hkept : s.GuaranteesKept d fun x => s.reservedSum x d) (hsoft : s.SoftBelowGuarantee t d)
    {part : Int} (hpart : part ≤ s.guarantee t d) : s.poolOk env t d part = true := by
  unfold poolOk
  rw [List.all_eq_true]
  intro g hg
  cases hq : s.groupQuota.lookup g with
  | none => rfl
  | some q =>
    cases hp : q.guaranteed.present d with
    | false => simp [hp]
    | true =>
      cases ht : s.tenants.lookup t with
      | none =>
        unfold ancestorGroups at hg
        rw [ht] at hg
        exact absurd hg List.not_mem_nil
      | some tn =>
        obtain ⟨hanc, hmem⟩ := (mem_ancestorGroups_iff ht).mp hg
        have hused : (s.poolUsed env g).get d ≤ _ := hinv.poolUsed_le g d
        have hsat := satAdd_le_add (a := (s.poolUsed env g).get d) (b := part)
        have hlimit := hkept.pool g q hq hmem hp t tn ht hanc hsoft
        simp only [hp, Bool.true_and, Bool.not_eq_true', decide_eq_false_iff_not, not_lt]
        omega

/-- **While the room is kept, a request within the guarantee of its tenant is allowed.** -/
theorem evaluateReservation_within_guarantee (hinv : CountedInv s₀ s)
    (hkept : s.GuaranteesKept d fun x => s.reservedSum x d) (hphys : s.NoPhysical d)
    (hd : isConsumable d = false) (hreq : ∀ e, req.present e = true → e = d)
    (hent : hasEntitlement (s.effectiveLattice t) = true)
    (hwithin : (s.committed t).get d + req.get d ≤ s.guarantee t d) :
    (s.evaluateReservation env t req).allowed = true := by
  unfold evaluateReservation
  rw [classify_allowed_iff]
  refine Or.inr ⟨hent, fun e he => ?_⟩
  have hed := hreq e he
  subst hed
  have hcom : (s.committed t).get e ≤ INT64_MAX := by
    rw [hinv.get_committed]; exact hinv.reserved_fits t e
  have hnc : s.newCommitted t req e ≤ INT64_MAX ∧ s.newCommitted t req e ≤ s.guarantee t e := by
    unfold newCommitted currentCommittedScalar
    rw [hd]
    simp only [Bool.false_eq_true, if_false]
    exact ⟨satAdd_le_max hcom, satAdd_le_add.trans hwithin⟩
  have hphysOk : ¬ s.totalForPhys t req e > physicalAllowance env e (s.effectiveLattice t) := by
    rw [physicalAllowance_of_noPhysical hphys]
    unfold totalForPhys
    exact not_lt.mpr (satAdd_le_max (satAdd_le_max hnc.1))
  unfold dimensionCode
  rw [hd, parentHardOk_within_guarantee hinv hkept hwithin]
  simp only [Bool.false_eq_true, if_false, Bool.not_true]
  rw [if_neg hphysOk]
  unfold capacityCode
  simp only [guaranteeOf_effective]
  split
  · rfl
  · rename_i hpool
    -- the pool has no room, so the soft limit must cover the guarantee
    have hsoft : ¬ s.SoftBelowGuarantee t e := fun hsoft =>
      hpool ⟨hnc.2, poolOk_within_guarantee hinv hkept hsoft (min_le_right _ _)⟩
    have hle : s.newCommitted t req e ≤ softOf (s.effectiveLattice t) e := by
      unfold softOf
      split
      · rename_i hp
        unfold SoftBelowGuarantee at hsoft
        push Not at hsoft
        exact hnc.2.trans (hsoft hp)
      · split
        · exact hnc.2
        · exact hnc.1
    rw [if_pos hle]
    rfl

end Decisions

/-! ## Whole runs -/

/-- A reservation that is going to be made leaves the room that backs the guarantees. -/
def leavesGuarantees (d : ResourceDimension) (s : Engine) (c : Env × Call) : Prop :=
  match c.2 with
  | .reserve t req auth => Accepted c.1 s t req auth → s.LoansOffered t req →
      s.GuaranteesKept d fun x => (if x = t then req.get d else 0) + s.reservedSum x d
  | _ => True

instance (d : ResourceDimension) (s : Engine) (c : Env × Call) : Decidable (leavesGuarantees d s c) := by
  apply Call.casesOn (motive := fun call => Decidable (leavesGuarantees d s (c.1, call))) c.2 <;> intros <;>
    unfold leavesGuarantees <;> infer_instance

def guaranteeCall (d : ResourceDimension) (s : Engine) (c : Env × Call) : Prop :=
  coreCall s c ∧ leavesGuarantees d s c

instance (d : ResourceDimension) (s : Engine) (c : Env × Call) : Decidable (guaranteeCall d s c) :=
  inferInstanceAs (Decidable (_ ∧ _))

/-- What is asked of the quotas: 64-bit amounts, no physical capacity on `d`, and no group whose
    hard limit on `d` is below the effective guarantees of its tenants. -/
structure GuaranteeSetup (s : Engine) (d : ResourceDimension) : Prop where
  quotas : QuotasValid s
  noPhysical : s.NoPhysical d
  covered : ∀ g q, s.groupQuota.lookup g = some q → q.hardLimit.present d = true →
    (s.totalBelow g fun x => s.guarantee x d) ≤ q.hardLimit.get d

section Runs

variable {s₀ s : Engine} {d : ResourceDimension}

/-- With nothing reserved, every guarantee has its room. -/
theorem GuaranteeSetup.kept (h : GuaranteeSetup s₀ d) (hstart : Idle s₀) :
    s₀.GuaranteesKept d fun x => s₀.reservedSum x d where
  hard g q hq hp := by
    simp only [hstart.reservedSum, max_eq_right (s₀.guarantee_nonneg _ d)]
    exact h.covered g q hq hp
  pool g q hq hg hp t tn ht hanc _ := by
    have hzero : (s₀.totalBelow g fun x => min (s₀.reservedSum x d) (s₀.guarantee x d)) = 0 := by
      unfold totalBelow
      apply total_eq_zero
      intro x xn _
      simp only [hstart.reservedSum, min_eq_left (s₀.guarantee_nonneg _ d), ite_self]
    rw [hzero, zero_add]
    unfold guarantee
    rw [effectiveLattice_guaranteed]
    refine (mergeMin_le ?_ ?_ hp).2
    · intro v hv
      obtain ⟨q', hq', rfl⟩ := List.mem_map.mp hv
      exact (quotaChain_valid h.quotas t q' hq').guaranteed.nonNeg
    · exact List.mem_map.mpr
        ⟨q, mem_quotaChain ((mem_ancestorGroups_iff ht).mpr ⟨hanc, hg⟩) hq, rfl⟩

theorem exec_guaranteesKept {env : Env} {c : Call} (hc : guaranteeCall d s (env, c))
    (hinv : CountedInv s₀ s) (hkept : s.GuaranteesKept d fun x => s.reservedSum x d) :
    (s.exec env c).2.GuaranteesKept d fun x => (s.exec env c).2.reservedSum x d := by
  obtain ⟨⟨hcore, hfresh, hamount⟩, hleaves⟩ := hc
  have hconf := (exec_capacityStep hfresh hamount hcore).config
  rcases exec_reservedSum hfresh hamount hcore hinv.nonNeg with ⟨t, req, auth, st, rfl, hadm⟩ | hle
  · refine (hleaves hadm.accepted hadm.offered).mono hconf fun x => ?_
    rw [hadm.reservedSum hfresh.reservationId]
  · exact hkept.mono hconf fun x => hle x d

/-- **Guarantees are protected along every run whose new reservations leave their room**: a request
    on one capacity dimension that stays within the effective guarantee of a tenant with an
    entitlement is allowed, whatever the other tenants have reserved. -/
theorem guarantees_protected {l : List (Env × Call)} (hstart : Idle s₀) (hsetup : GuaranteeSetup s₀ d)
    (hd : isConsumable d = false) (hrun : Run Engine.after (guaranteeCall d) s₀ l s) (env : Env)
    {t : TenantId} {req : ResourceVector} (hreq : ∀ e, req.present e = true → e = d)
    (hent : hasEntitlement (s.effectiveLattice t) = true)
    (hwithin : (s.committed t).get d + req.get d ≤ (s.effectiveLattice t).guaranteed.get d) :
    (s.evaluateReservation env t req).allowed = true := by
  have hinv : CountedInv s₀ s ∧ s.GuaranteesKept d fun x => s.reservedSum x d := by
    refine hrun.invariant (I := fun s => CountedInv s₀ s ∧ s.GuaranteesKept d fun x => s.reservedSum x d)
      ⟨hstart.countedInv, hsetup.kept hstart⟩ ?_
    intro s c ⟨hinv, hkept⟩ hc
    exact ⟨(exec_capacityStep hc.1.2.1 hc.1.2.2 hc.1.1).countedInv hinv,
      exec_guaranteesKept hc hinv hkept⟩
  have hphys : s.NoPhysical d := by
    unfold NoPhysical
    rw [hinv.1.config.localQuota, hinv.1.config.groupQuota]
    exact hsetup.noPhysical
  exact evaluateReservation_within_guarantee hinv.1 hinv.2 hphys hd hreq hent hwithin

end Runs

/-- A group capped at 100.  One tenant below it is guaranteed 50; the other is guaranteed 10 and may
    go up to 100. -/
def sharedHeadroom : Engine :=
  { groups := (∅ : UMap TenantGroupId TenantGroup).insert orgGroup { id := orgGroup }
    tenants := ((∅ : UMap TenantId Tenant).insert teamTenant
        { id := teamTenant, group := some orgGroup }).insert orgTenant
          { id := orgTenant, group := some orgGroup }
    groupQuota := (∅ : UMap TenantGroupId ResourceQuota).insert orgGroup
      { hardLimit := .fromScalar .acceleratorVRAM 100 }
    localQuota := ((∅ : UMap TenantId ResourceQuota).insert teamTenant
        { guaranteed := .fromScalar .acceleratorVRAM 50 }).insert orgTenant
          { guaranteed := .fromScalar .acceleratorVRAM 10
            softLimit := .fromScalar .acceleratorVRAM 100
            hardLimit := .fromScalar .acceleratorVRAM 100 } }

theorem sharedHeadroom_configured : Configured sharedHeadroom := ⟨rfl, rfl, rfl, rfl, rfl, rfl⟩

theorem sharedHeadroom_setup : GuaranteeSetup sharedHeadroom .acceleratorVRAM :=
  ⟨by decide +kernel, by decide +kernel, by decide +kernel⟩

/-- The second tenant reserves `x`. -/
def siblingReserves (x : Int) : List (Env × Call) :=
  [(.numbered 1, .reserve orgTenant (.fromScalar .acceleratorVRAM x) firstAuthority)]

theorem guarantees_protected_siblingReserves :
    (((siblingReserves 50).foldl Engine.after sharedHeadroom).evaluateReservation {} teamTenant
      (.fromScalar .acceleratorVRAM 50)).allowed = true :=
  guarantees_protected (d := .acceleratorVRAM) sharedHeadroom_configured.idle
    sharedHeadroom_setup rfl (Run.of_check (siblingReserves 50) sharedHeadroom (by decide +kernel)) {}
    (by decide +kernel) (by decide +kernel) (by decide +kernel)

/-- The second tenant is admitted into headroom that backs the guarantee of the first, and a request
    for that guarantee is then denied at the group.  Every quota is coherent and the group covers
    both guarantees. -/
theorem guarantee_denied_at_parent :
    GuaranteeSetup sharedHeadroom .acceleratorVRAM ∧
    (∀ t q, sharedHeadroom.localQuota.lookup t = some q → latticeCoherent q = true) ∧
    (∀ g q, sharedHeadroom.groupQuota.lookup g = some q → latticeCoherent q = true) ∧
    Run Engine.after coreCall sharedHeadroom (siblingReserves 100)
      ((siblingReserves 100).foldl Engine.after sharedHeadroom) ∧
    (((siblingReserves 100).foldl Engine.after sharedHeadroom).committed teamTenant).get
        .acceleratorVRAM + 50 ≤
      (((siblingReserves 100).foldl Engine.after sharedHeadroom).effectiveLattice
        teamTenant).guaranteed.get .acceleratorVRAM ∧
    (((siblingReserves 100).foldl Engine.after sharedHeadroom).evaluateReservation {} teamTenant
      (.fromScalar .acceleratorVRAM 50)).code = .denyParent :=
  ⟨sharedHeadroom_setup, by decide +kernel, by decide +kernel,
    Run.of_check (siblingReserves 100) sharedHeadroom (by decide +kernel), by decide +kernel,
    by decide +kernel⟩

end Engine

end QuotaFabric
