import QuotaFabric.Accounting.Aggregation
import QuotaFabric.Decisions.Regimes
import QuotaFabric.Decisions.Decomposition
import QuotaFabric.Lifecycle.Resize
import QuotaFabric.Limits.Guarantees

/-!
# The requester's share of a guarantee pool

`classify` compares what `pool_used` finds in the pool of an ancestor, plus the requester's new committed
amount, with the guarantee of the ancestor.  What the requester had committed before is in both.

* `poolDemand` — the use of a pool with the request in it;
* `PoolsHold` — some use of the pools above a tenant is within their guarantees;
* `get_poolUsed` — `pool_used` is exact on every dimension whose parts fit into 64 bits;
* `poolOk_iff`, `capacityCode_guaranteed_iff` — what the code compares;
* `RequesterCountedOnce`, `guarantee_pool_iff` — where this agrees with the pools with the request in them;
* `guarantee_pool_counts_twice` — a run after which it does not.
-/

set_option autoImplicit false

namespace QuotaFabric

namespace ResourceVector

/-- Where the vectors that set `d` set nothing else, the dimensions before `d` cannot stop its sum. -/
theorem foldl_accum_get_alone {d : ResourceDimension} : ∀ (l : List ResourceVector) (acc : ResourceVector),
    (∀ v ∈ l, NonNeg v) → (∀ v ∈ l, v.present d = true → ∀ e, v.present e = true → e = d) →
    (∀ e, acc.get e ≤ INT64_MAX) → acc.get d + (l.map (·.get d)).sum ≤ INT64_MAX →
    (l.foldl accum acc).get d = acc.get d + (l.map (·.get d)).sum
  | [], acc, _, _, _, _ => by simp
  | v :: l, acc, hl, halone, hacc, hfit => by
    have hrest : 0 ≤ (l.map (·.get d)).sum := by
      apply List.sum_nonneg
      intro y hy
      obtain ⟨w, hw, rfl⟩ := List.mem_map.mp hy
      exact hl w (List.mem_cons_of_mem v hw) d
    rw [List.map_cons, List.sum_cons] at hfit
    have hstep : (accum acc v).get d = acc.get d + v.get d := by
      cases hp : v.present d with
      | false =>
        have hsame : (accum acc v).cell d = acc.cell d := by
          rcases accum_cell acc v d with h | ⟨hpres, -, -⟩
          · exact h
          · rw [hp] at hpres
            cases hpres
        rw [SparseVec.get_of_not_present hp, add_zero]
        unfold SparseVec.get
        rw [hsame]
      | true =>
        apply accum_get_upTo
        intro e _
        show acc.get e + v.get e ≤ INT64_MAX
        by_cases he : e = d
        · subst he
          omega
        · have hzero : v.get e = 0 := by
            apply SparseVec.get_of_not_present
            by_contra hset
            exact he (halone v List.mem_cons_self hp e (by simpa using hset))
          rw [hzero, add_zero]
          exact hacc e
    have hacc' : ∀ e, (accum acc v).get e ≤ INT64_MAX := fun e => foldl_accum_le_max [v] acc (hacc e)
    rw [List.foldl_cons, foldl_accum_get_alone l (accum acc v) (fun w hw => hl w (List.mem_cons_of_mem v hw))
      (fun w hw => halone w (List.mem_cons_of_mem v hw)) hacc' (by omega), hstep, List.map_cons,
      List.sum_cons, add_assoc]

end ResourceVector

namespace Engine

/-- The committed amount of `x` with a request of `t` for `amount` granted. -/
def committedWith (s : Engine) (t : TenantId) (d : ResourceDimension) (amount : Int) (x : TenantId) : Int :=
  if x = t then (s.committed x).get d + amount else (s.committed x).get d

/-- The guaranteed parts of the tenants below `g`, with the request granted. -/
def poolDemand (s : Engine) (t : TenantId) (d : ResourceDimension) (amount : Int) (g : TenantGroupId) : Int :=
  s.totalBelow g fun x => min (s.committedWith t d amount x) (s.guarantee x d)

/-- Every ancestor of `t` with a guarantee on `d` can take `use` of it. -/
def PoolsHold (s : Engine) (t : TenantId) (d : ResourceDimension) (use : TenantGroupId → Int) : Prop :=
  ∀ g ∈ s.ancestorGroups t, ∀ q, s.groupQuota.lookup g = some q → q.guaranteed.present d = true →
    use g ≤ q.guaranteed.get d

instance (s : Engine) (t : TenantId) (d : ResourceDimension) (use : TenantGroupId → Int) :
    Decidable (s.PoolsHold t d use) :=
  inferInstanceAs (Decidable (∀ g ∈ s.ancestorGroups t, ∀ q, s.groupQuota.lookup g = some q → _ → _))

/-- The same of a 64-bit sum. -/
def PoolsTake (s : Engine) (t : TenantId) (d : ResourceDimension) (use : TenantGroupId → Int) : Prop :=
  s.PoolsHold t d fun g => min INT64_MAX (use g)

instance (s : Engine) (t : TenantId) (d : ResourceDimension) (use : TenantGroupId → Int) :
    Decidable (s.PoolsTake t d use) :=
  inferInstanceAs (Decidable (PoolsHold s t d _))

/-- The pools above `t`, with the request granted, add up to 64-bit amounts. -/
def PoolsFit (s : Engine) (t : TenantId) (d : ResourceDimension) (amount : Int) : Prop :=
  ∀ g ∈ s.ancestorGroups t, ∀ q, s.groupQuota.lookup g = some q → q.guaranteed.present d = true →
    s.poolDemand t d amount g ≤ INT64_MAX

instance (s : Engine) (t : TenantId) (d : ResourceDimension) (amount : Int) :
    Decidable (s.PoolsFit t d amount) :=
  inferInstanceAs (Decidable (∀ g ∈ s.ancestorGroups t, ∀ q, s.groupQuota.lookup g = some q → _ → _))

/-- `t` has an entitlement, and counting its committed amount a second time makes no difference: either
    the pools add up, and where all of them can take the request they can take it and that amount; or
    they do not, and one of them is refused with what `pool_used` could add up.  What it could depends on
    the order the tenants are visited in, and on nothing less. -/
def RequesterCountedOnce (env : Env) (s : Engine) (t : TenantId) (d : ResourceDimension) (amount : Int) :
    Prop :=
  hasEntitlement (s.effectiveLattice t) = true ∧
    ((s.PoolsFit t d amount ∧ (s.PoolsHold t d (s.poolDemand t d amount) →
        s.PoolsTake t d fun g => s.poolDemand t d amount g + (s.committed t).get d)) ∨
      (¬ s.PoolsFit t d amount ∧
        ¬ s.PoolsTake t d fun g => (s.poolUsed env g).get d + ((s.committed t).get d + amount)))

instance (env : Env) (s : Engine) (t : TenantId) (d : ResourceDimension) (amount : Int) :
    Decidable (RequesterCountedOnce env s t d amount) :=
  inferInstanceAs (Decidable (_ ∧ (_ ∨ _)))

section Pools

variable {env : Env} {s : Engine} {t : TenantId} {d : ResourceDimension} {amount : Int}

/-- **The use of a pool is exact on every dimension on which its parts fit into 64 bits.** -/
theorem get_poolUsed (g : TenantGroupId) (hfit : (s.totalBelow g fun x => s.guaranteedPart x d) ≤ INT64_MAX) :
    (s.poolUsed env g).get d = s.totalBelow g fun x => s.guaranteedPart x d := by
  have hsum := ResourceVector.foldl_accum_get_alone (d := d) (s.poolParts env g) .empty (poolParts_nonNeg g) ?_ ?_ ?_
  · rw [SparseVec.get_empty, zero_add, sum_poolParts] at hsum
    rw [poolUsed_eq]
    exact hsum
  · intro v hv hd e he
    obtain ⟨x, -, hv⟩ := List.mem_flatMap.mp hv
    obtain ⟨k, hk, rfl⟩ := List.mem_map.mp hv
    have hpos := (List.mem_filter.mp hk).2
    simp only [Bool.and_eq_true, decide_eq_true_eq] at hpos
    rw [ResourceVector.present_fromScalar hpos.2.le, decide_eq_true_eq] at hd he
    rw [he, hd]
  · intro e
    rw [SparseVec.get_empty]
    decide
  · rw [SparseVec.get_empty, zero_add, sum_poolParts]
    exact hfit

/-- The request adds its amount to every pool above its tenant. -/
theorem poolDemand_eq (hcounters : ∀ x, (s.usageOf x).consumption.NonNeg ∧ (s.usageOf x).reserved.NonNeg)
    (hamount : 0 ≤ amount) (hwithin : (s.committed t).get d + amount ≤ s.guarantee t d) {g : TenantGroupId}
    (hg : g ∈ s.ancestorGroups t) :
    s.poolDemand t d amount g = amount + s.totalBelow g fun x => s.guaranteedPart x d := by
  have hcommitted : ∀ x, 0 ≤ (s.committed x).get d := fun x =>
    ResourceVector.accum_nonNeg (hcounters x).1 (hcounters x).2 d
  cases ht : s.tenants.lookup t with
  | none =>
    unfold ancestorGroups at hg
    rw [ht] at hg
    exact absurd hg List.not_mem_nil
  | some tn =>
    have hadd := totalBelow_add ht g amount fun x => s.guaranteedPart x d
    rw [if_pos ((mem_ancestorGroups_iff ht).mp hg).1] at hadd
    rw [← hadd]
    unfold poolDemand
    congr 1
    funext x
    have hx := hcommitted x
    have hguar := s.guarantee_nonneg x d
    unfold committedWith guaranteedPart
    by_cases hxt : x = t
    · subst hxt
      rw [if_pos rfl, if_pos rfl]
      omega
    · rw [if_neg hxt, if_neg hxt]
      omega

theorem PoolsHold.mono {use use' : TenantGroupId → Int} (h : s.PoolsHold t d use)
    (hle : ∀ g ∈ s.ancestorGroups t, ∀ q, s.groupQuota.lookup g = some q → q.guaranteed.present d = true →
      use g ≤ q.guaranteed.get d → use' g ≤ q.guaranteed.get d) : s.PoolsHold t d use' :=
  fun g hg q hq hp => hle g hg q hq hp (h g hg q hq hp)

theorem PoolsTake.congr {use use' : TenantGroupId → Int}
    (h : ∀ g ∈ s.ancestorGroups t, ∀ q, s.groupQuota.lookup g = some q → q.guaranteed.present d = true →
      use g = use' g) : s.PoolsTake t d use ↔ s.PoolsTake t d use' := by
  unfold PoolsTake PoolsHold
  refine forall₂_congr fun g hg => forall₂_congr fun q hq => ?_
  refine imp_congr_right fun hp => ?_
  simp only [h g hg q hq hp]

/-- **The comparison of `classify`** at every ancestor. -/
theorem poolOk_iff {part : Int} (hpart : 0 ≤ part) :
    s.poolOk env t d part = true ↔ s.PoolsTake t d fun g => (s.poolUsed env g).get d + part := by
  unfold poolOk PoolsTake PoolsHold
  rw [List.all_eq_true]
  refine forall₂_congr fun g _ => ?_
  have hmax : (s.poolUsed env g).get d ≤ INT64_MAX := poolUsed_le_max g
  cases hq : s.groupQuota.lookup g with
  | none => simp
  | some q =>
    rw [satAdd_eq_min hmax hpart, min_comm]
    cases hp : q.guaranteed.present d <;> simp [hp]

/-- Within the guarantee of the tenant the pools alone decide on `ALLOW_GUARANTEED`. -/
theorem capacityCode_guaranteed_iff {req : ResourceVector}
    (hwithin : s.newCommitted t req d ≤ s.guarantee t d) (hnn : 0 ≤ s.newCommitted t req d) :
    s.capacityCode env t req d = .allowGuaranteed ↔
      s.PoolsTake t d fun g => (s.poolUsed env g).get d + s.newCommitted t req d := by
  unfold capacityCode
  simp only [guaranteeOf_effective]
  rw [min_eq_left hwithin, ← poolOk_iff hnn]
  by_cases hpool : s.poolOk env t d (s.newCommitted t req d) = true
  · rw [if_pos ⟨hwithin, hpool⟩]
    exact iff_of_true rfl hpool
  · rw [if_neg fun h => hpool h.2]
    refine iff_of_false ?_ hpool
    repeat' split
    all_goals decide

/-- What the parent and the physical check let through is left to the cascade. -/
theorem dimensionCode_not_denied {req : ResourceVector} (hd : isConsumable d = false)
    (hparent : s.dimensionCode env t req d ≠ .denyParent)
    (hphysical : s.dimensionCode env t req d ≠ .denyPhysical) :
    s.dimensionCode env t req d = s.capacityCode env t req d := by
  unfold dimensionCode at *
  rw [hd] at hparent hphysical ⊢
  simp only [Bool.false_eq_true, if_false] at hparent hphysical ⊢
  by_cases hpar : (!s.parentHardOk env t d (req.get d)) = true
  · rw [if_pos hpar] at hparent
    exact absurd rfl hparent
  rw [if_neg hpar] at hphysical ⊢
  by_cases hphys : s.totalForPhys t req d > physicalAllowance env d (s.effectiveLattice t)
  · rw [if_pos hphys] at hphysical
    exact absurd rfl hphysical
  rw [if_neg hphys]

/-- An ancestor with a guarantee entitles. -/
theorem hasEntitlement_of_pool (hquotas : QuotasValid s) {g : TenantGroupId} {q : ResourceQuota}
    (hg : g ∈ s.ancestorGroups t) (hq : s.groupQuota.lookup g = some q)
    (hp : q.guaranteed.present d = true) : hasEntitlement (s.effectiveLattice t) = true := by
  have hpres : (s.effectiveLattice t).guaranteed.present d = true := by
    rw [effectiveLattice_guaranteed]
    refine (mergeMin_le (fun v hv => ?_) (List.mem_map_of_mem (mem_quotaChain hg hq)) hp).1
    obtain ⟨q', hq', rfl⟩ := List.mem_map.mp hv
    exact (quotaChain_valid hquotas t q' hq').guaranteed.nonNeg
  have hcount : (s.effectiveLattice t).guaranteed.presentCount ≠ 0 := by
    rw [Ne, ResourceVector.presentCount_eq_zero_iff, ResourceVector.isEmpty_iff]
    intro hempty
    rw [hempty d] at hpres
    cases hpres
  unfold hasEntitlement
  simp [hcount]

/-! ## Main result -/

/-- **A guarantee pool counts the requester once** exactly where its committed amount makes no
    difference. -/
theorem guarantee_pool_iff (hquotas : QuotasValid s)
    (hcounters : ∀ x, (s.usageOf x).consumption.NonNeg ∧ (s.usageOf x).reserved.NonNeg)
    (hd : isConsumable d = false) (hamount : 0 ≤ amount)
    (hwithin : (s.committed t).get d + amount ≤ s.guarantee t d)
    (hparent : (s.evaluateReservation env t (.fromScalar d amount)).code ≠ .denyParent)
    (hphysical : (s.evaluateReservation env t (.fromScalar d amount)).code ≠ .denyPhysical) :
    ((s.evaluateReservation env t (.fromScalar d amount)).code = .allowGuaranteed ↔
      s.PoolsHold t d (s.poolDemand t d amount)) ↔ RequesterCountedOnce env s t d amount := by
  have hc : 0 ≤ (s.committed t).get d := ResourceVector.accum_nonNeg (hcounters t).1 (hcounters t).2 d
  have hlimit : ∀ g q, s.groupQuota.lookup g = some q → q.guaranteed.get d ≤ INT64_MAX := fun g q hq =>
    ((hquotas.groupQuota g q hq).guaranteed d).2
  unfold evaluateReservation at *
  unfold RequesterCountedOnce
  cases hent : hasEntitlement (s.effectiveLattice t) with
  | false =>
    -- then no ancestor has a guarantee, and the request is denied all the same
    have hcode : (s.classify env t (.fromScalar d amount)).code = .denyHard := by
      rw [← ResourceVector.only_fromScalar hamount]
      exact classify_of_no_entitlement (ResourceVector.isEmpty_only _ d) hent
    have hholds : s.PoolsHold t d (s.poolDemand t d amount) := by
      intro g hg q hq hp
      rw [hasEntitlement_of_pool hquotas hg hq hp] at hent
      cases hent
    rw [hcode]
    simp only [hholds, iff_true, Bool.false_eq_true, false_and, iff_false]
    decide
  | true =>
    have hguar : s.guarantee t d ≤ INT64_MAX := ((effectiveLattice_valid hquotas t).1 d).2
    have hnc : s.newCommitted t (.fromScalar d amount) d = (s.committed t).get d + amount := by
      unfold newCommitted currentCommittedScalar
      rw [hd, ResourceVector.get_fromScalar_self hamount]
      exact satAdd_of_le (hwithin.trans hguar)
    have hdim : (s.classify env t (.fromScalar d amount)).code =
        s.dimensionCode env t (.fromScalar d amount) d := classify_fromScalar_code hent d hamount
    have hcode : (s.classify env t (.fromScalar d amount)).code = .allowGuaranteed ↔
        s.PoolsTake t d fun g => (s.poolUsed env g).get d + ((s.committed t).get d + amount) := by
      rw [hdim] at hparent hphysical ⊢
      rw [dimensionCode_not_denied hd hparent hphysical,
        capacityCode_guaranteed_iff (by omega) (by omega), hnc]
    rw [hcode]
    simp only [true_and]
    by_cases hfit : s.PoolsFit t d amount
    · -- the parts add up, so the code adds the committed amount to the demand
      have hsame : (s.PoolsTake t d fun g => (s.poolUsed env g).get d + ((s.committed t).get d + amount)) ↔
          s.PoolsTake t d fun g => s.poolDemand t d amount g + (s.committed t).get d := by
        have huse : ∀ g ∈ s.ancestorGroups t, ∀ q, s.groupQuota.lookup g = some q →
            q.guaranteed.present d = true → (s.poolUsed env g).get d + ((s.committed t).get d + amount) =
              s.poolDemand t d amount g + (s.committed t).get d := by
          intro g hg q hq hp
          have hdemand := poolDemand_eq hcounters hamount hwithin hg
          have hle := hfit g hg q hq hp
          rw [get_poolUsed g (by omega)]
          omega
        exact PoolsTake.congr huse
      have hhold : (s.PoolsTake t d fun g => s.poolDemand t d amount g + (s.committed t).get d) →
          s.PoolsHold t d (s.poolDemand t d amount) := by
        refine fun h => h.mono fun g hg q hq hp hle => ?_
        have hfits := hfit g hg q hq hp
        simp only at hle
        omega
      rw [hsame]
      simp only [hfit, true_and, not_true_eq_false, false_and, or_false]
      exact ⟨fun h => h.mpr, fun h => ⟨hhold, h⟩⟩
    · -- the demand is above every limit of 64 bits
      have hnone : ¬ s.PoolsHold t d (s.poolDemand t d amount) := fun h =>
        hfit fun g hg q hq hp => (h g hg q hq hp).trans (hlimit g q hq)
      simp only [hfit, hnone, false_and, not_false_eq_true, true_and, false_or, iff_false]

end Pools

/-! ## Runs -/

/-- A tenant below a group, both with a guarantee of 10, reserves `held` of it. -/
def pooledTenant (held : Int) : List (Env × Call) :=
  [(.numbered 1, .createGroup [] .team none),
   (.numbered 2, .setGroupQuota ⟨0, 1⟩ { guaranteed := .fromScalar .acceleratorVRAM 10 }),
   (.numbered 3, .createTenant cappedTenant [] (some ⟨0, 1⟩) 100),
   (.numbered 4, .setTenantQuota cappedTenant { guaranteed := .fromScalar .acceleratorVRAM 10 }),
   (.numbered 5, .reserve cappedTenant (.fromScalar .acceleratorVRAM held) thirdGeneration)]

/-- The engine after these calls. -/
def pooledEngine (held : Int) : Engine := (pooledTenant held).foldl Engine.after {}

theorem guarantee_pool_two :
    ((pooledEngine 2).evaluateReservation {} cappedTenant (.fromScalar .acceleratorVRAM 3)).code =
        .allowGuaranteed ↔
      (pooledEngine 2).PoolsHold cappedTenant .acceleratorVRAM
        ((pooledEngine 2).poolDemand cappedTenant .acceleratorVRAM 3) :=
  (guarantee_pool_iff (by decide +kernel) (counters_nonNeg_of_stored (by decide +kernel)) (by decide) (by decide) (by decide +kernel)
    (by decide +kernel) (by decide +kernel)).mpr (by decide +kernel)

/-- **With 5 of 10 guaranteed units committed, 3 more are refused the guarantee**, though the pool would
    stand at 8. -/
theorem guarantee_pool_counts_twice :
    Run Engine.after (fun s c => FreshIds c.1 s) {} (pooledTenant 5) (pooledEngine 5) ∧
      ((pooledEngine 5).committed cappedTenant).get .acceleratorVRAM + 3 ≤
        (pooledEngine 5).guarantee cappedTenant .acceleratorVRAM ∧
      ((pooledEngine 5).evaluateReservation {} cappedTenant (.fromScalar .acceleratorVRAM 3)).code = .allow ∧
      (pooledEngine 5).PoolsHold cappedTenant .acceleratorVRAM
        ((pooledEngine 5).poolDemand cappedTenant .acceleratorVRAM 3) := by
  have hrun : Run Engine.after (fun s c => FreshIds c.1 s) {} (pooledTenant 5)
      ((pooledTenant 5).foldl Engine.after {}) := Run.of_check _ _ (by decide +kernel)
  exact ⟨hrun, by decide +kernel, by decide +kernel, by decide +kernel⟩

end Engine

end QuotaFabric
