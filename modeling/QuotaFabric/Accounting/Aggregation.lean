import QuotaFabric.Limits.ParentCeiling

/-!
# Dimensions that interfere in sums

Every sum over records is a loop of `add`s whose status nobody looks at.  On overflow `add` returns
in the middle of its own loop over the dimensions: the amount on the overflowing dimension and on
all dimensions after it is dropped.

* `notAfter` — the order in which `add` visits the dimensions;
* `addLoop_get`, `sumOf_get` — a dimension is added exactly as long as neither it nor a dimension
  before it overflows;
* `aggregation_exact` — in every state reached by `reserve` and `release`, the reserved counter and
  the subtree aggregate are exact on every dimension up to the first overflow;
* `unlimited_dimension_hides_limited` — an overflow on one dimension hides seven reserved units on
  another.
-/

set_option autoImplicit false

namespace QuotaFabric

open AList

/-- `add` visits `e` no later than `d`. -/
def notAfter (e d : ResourceDimension) : Prop :=
  allResourceDimensions.idxOf e ≤ allResourceDimensions.idxOf d

instance (e d : ResourceDimension) : Decidable (notAfter e d) :=
  inferInstanceAs (Decidable (_ ≤ _))

/-- The amounts on `d` and on all dimensions before it fit into 64 bits. -/
def FitsUpTo (f : ResourceDimension → Int) (d : ResourceDimension) : Prop :=
  ∀ e, notAfter e d → f e ≤ INT64_MAX

instance (f : ResourceDimension → Int) (d : ResourceDimension) : Decidable (FitsUpTo f d) :=
  inferInstanceAs (Decidable (∀ e, _ → f e ≤ INT64_MAX))

/-! ## Sums up to the first overflow -/

namespace ResourceVector

theorem addLoop_get (o : ResourceVector) : ∀ (ds : List ResourceDimension) (v : ResourceVector)
    (d : ResourceDimension), ds.Nodup → d ∈ ds →
    (∀ e ∈ ds, ds.idxOf e ≤ ds.idxOf d → v.get e + o.get e ≤ INT64_MAX) →
    (addLoop o false ds v).2.get d = v.get d + o.get d
  | [], _, _, _, hd, _ => absurd hd List.not_mem_nil
  | e :: ds, v, d, hnd, hd, hfit => by
    obtain ⟨hne, hnd'⟩ := List.nodup_cons.mp hnd
    have hfirst := hfit e List.mem_cons_self (by simp)
    -- what is left of the loop reaches `d`, or has nothing to do with it
    have hrest : ∀ w : ResourceVector, (∀ x ∈ ds, w.get x = v.get x) →
        w.get e = v.get e + o.get e →
        (addLoop o false ds w).2.get d = v.get d + o.get d := by
      intro w hw hwe
      by_cases hde : d = e
      · subst hde
        have hstay : (addLoop o false ds w).2.get d = w.get d := by
          unfold SparseVec.get
          rw [addLoop_notMem o ds w hne]
        rw [hstay, hwe]
      · have hd' : d ∈ ds := List.mem_of_ne_of_mem hde hd
        rw [addLoop_get o ds w d hnd' hd', hw d hd']
        intro x hx hle
        have hxe : x ≠ e := by rintro rfl; exact hne hx
        rw [hw x hx]
        apply hfit x (List.mem_cons_of_mem e hx)
        rw [List.idxOf_cons_ne _ (Ne.symm hxe), List.idxOf_cons_ne _ (Ne.symm hde)]
        omega
    unfold addLoop
    split
    · rename_i hb
      have hz : o.get e = 0 := by unfold SparseVec.get; rw [hb]; rfl
      exact hrest v (fun _ _ => rfl) (by rw [hz, add_zero])
    · rename_i b hb
      have hget : o.get e = b := by unfold SparseVec.get; rw [hb]; rfl
      rw [if_neg (by omega)]
      refine hrest _ (fun x hx => ?_) ?_
      · exact SparseVec.get_put_ne v _ (by rintro rfl; exact hne hx)
      · rw [SparseVec.get_put_self, hget]

theorem accum_get_upTo {v o : ResourceVector} {d : ResourceDimension}
    (hfit : FitsUpTo (fun e => v.get e + o.get e) d) : (accum v o).get d = v.get d + o.get d :=
  addLoop_get o allResourceDimensions v d allResourceDimensions_nodup (mem_allResourceDimensions d)
    fun e _ hle => hfit e hle

theorem foldl_accum_get {d : ResourceDimension} : ∀ (l : List ResourceVector) (acc : ResourceVector),
    (∀ v ∈ l, NonNeg v) → FitsUpTo (fun e => acc.get e + (l.map (·.get e)).sum) d →
    ∀ e, notAfter e d → (l.foldl accum acc).get e = acc.get e + (l.map (·.get e)).sum
  | [], acc, _, _, e, _ => by simp
  | v :: l, acc, hl, hfit, e, he => by
    have hrest : ∀ x, 0 ≤ (l.map (·.get x)).sum := fun x => by
      apply List.sum_nonneg
      intro y hy
      obtain ⟨w, hw, rfl⟩ := List.mem_map.mp hy
      exact hl w (List.mem_cons_of_mem v hw) x
    have hstep : ∀ x, notAfter x d → (accum acc v).get x = acc.get x + v.get x := by
      intro x hx
      apply accum_get_upTo
      intro y hy
      have h1 := hfit y (hy.trans hx)
      have h2 := hrest y
      simp only [List.map_cons, List.sum_cons] at h1
      show acc.get y + v.get y ≤ INT64_MAX
      omega
    rw [List.foldl_cons, foldl_accum_get l (accum acc v) (fun w hw => hl w (List.mem_cons_of_mem v hw))
      ?_ e he, hstep e he, List.map_cons, List.sum_cons, add_assoc]
    intro x hx
    have h1 := hfit x hx
    simp only [List.map_cons, List.sum_cons] at h1
    show (accum acc v).get x + (l.map (·.get x)).sum ≤ INT64_MAX
    rw [hstep x hx]
    omega

/-- **A loop of unchecked `add`s is exact on every dimension before the first overflow.** -/
theorem sumOf_get {l : List ResourceVector} (hl : ∀ v ∈ l, NonNeg v) {d : ResourceDimension}
    (hfit : FitsUpTo (fun e => (l.map (·.get e)).sum) d) : (sumOf l).get d = (l.map (·.get d)).sum := by
  have h := foldl_accum_get l .empty hl (d := d) (fun e he => by simpa using hfit e he) d (le_refl _)
  rw [SparseVec.get_empty, zero_add] at h
  exact h

end ResourceVector

/-! ## Runs -/

/-- `reserve` and `release`. -/
def Call.reservesOrReleases : Call → Bool
  | .reserve .. => true
  | .release .. => true
  | _ => false

theorem Call.isCore_of_reservesOrReleases {c : Call} (h : c.reservesOrReleases = true) :
    c.isCore = true := by
  cases c
  all_goals first | rfl | cases h

namespace Engine

/-- A `reserve` or `release` with new ids and a non-negative request. -/
def reserveOrRelease (s : Engine) (c : Env × Call) : Prop :=
  c.2.reservesOrReleases = true ∧ FreshIds c.1 s ∧ c.2.amount.NonNeg

instance (s : Engine) (c : Env × Call) : Decidable (reserveOrRelease s c) :=
  inferInstanceAs (Decidable (_ ∧ _ ∧ _))

/-- Consumption and reservations of the tenants below `g`, as their counters have them. -/
def subtreeSum (s : Engine) (g : TenantGroupId) (d : ResourceDimension) : Int :=
  s.totalBelow g fun x => (s.usageOf x).consumption.get d + (s.usageOf x).reserved.get d

/-- A tenant without counters has used nothing. -/
theorem counters_nonNeg_of_stored {s : Engine}
    (h : ∀ x u, s.usage.lookup x = some u → u.consumption.NonNeg ∧ u.reserved.NonNeg) :
    ∀ x, (s.usageOf x).consumption.NonNeg ∧ (s.usageOf x).reserved.NonNeg := by
  intro x
  unfold usageOf
  cases hu : s.usage.lookup x with
  | none => exact ⟨fun _ => le_refl 0, fun _ => le_refl 0⟩
  | some u => exact h x u hu

/-- No allocation is active and no amount is negative, in the records and in the counters. -/
structure AmountsNonNeg (s : Engine) : Prop where
  reservations : ∀ rid r, s.reservations.lookup rid = some r → r.resources.NonNeg
  noAllocation : NoAllocation s
  counters : ∀ x, (s.usageOf x).consumption.NonNeg ∧ (s.usageOf x).reserved.NonNeg

section Runs

variable {env : Env} {s₀ s : Engine}

theorem Configured.amountsNonNeg (h : Configured s) : AmountsNonNeg s where
  reservations rid r hr := by rw [h.reservations] at hr; cases hr
  noAllocation aid a ha := by rw [h.allocations] at ha; cases ha
  counters x := by
    rw [h.usageOf]
    exact ⟨fun _ => le_refl 0, fun _ => le_refl 0⟩

theorem exec_amountsNonNeg {c : Call} (hfresh : FreshIds env s) (hamount : c.amount.NonNeg)
    (hc : c.isCore = true) (h : AmountsNonNeg s) : AmountsNonNeg (s.exec env c).2 := by
  have hstep := exec_capacityStep hfresh hamount hc
  have hnn := hstep.nonNeg h.reservations
  have hna := hstep.noAllocation h.noAllocation
  refine ⟨hnn, hna, fun x => ?_⟩
  rcases hstep.counters x with hsync | ⟨hcons, hres, -, -⟩
  · rw [hsync.consumption, hsync.reserved, computedConsumed_of_noAllocation hna]
    refine ⟨fun _ => le_refl 0, ?_⟩
    exact sumOf_run_nonNeg env.reservationOrder (p := fun _ r => r.tenant == x && activeRes r)
      (f := fun _ r => Engine.remaining env _ x r) fun rid r hr _ => remaining_nonNeg x (hnn rid r hr)
  · rw [hcons, hres]
    exact h.counters x

theorem get_recomputedReserved (h : AmountsNonNeg s) {t : TenantId} {d : ResourceDimension}
    (hfit : FitsUpTo (s.reservedSum t) d) : (s.recomputedReserved env t).get d = s.reservedSum t d := by
  have hsum : ∀ e, ((((env.reservationOrder s.reservations.entries).filter fun x =>
      x.2.tenant == t && activeRes x.2).map fun x => x.2.resources).map (·.get e)).sum =
      s.reservedSum t e := by
    intro e
    rw [List.map_map]
    exact sum_filter_run env.reservationOrder s.reservations
      (fun _ r => r.tenant == t && activeRes r) fun _ r => r.resources.get e
  unfold recomputedReserved
  simp only [remaining_of_noAllocation h.noAllocation]
  rw [ResourceVector.sumOf_get, hsum]
  · intro v hv
    obtain ⟨x, hx, rfl⟩ := List.mem_map.mp hv
    obtain ⟨hmem, -⟩ := List.mem_filter.mp hx
    exact h.reservations x.1 x.2 (lookup_of_mem_entries (env.reservationOrder.mem_run.mp hmem))
  · intro e he
    exact (hsum e).trans_le (hfit e he)

theorem get_subtreeCommitted_upTo (h : AmountsNonNeg s) {g : TenantGroupId} {d : ResourceDimension}
    (hfit : FitsUpTo (s.subtreeSum g) d) : (s.subtreeCommitted env g).get d = s.subtreeSum g d := by
  unfold subtreeCommitted
  rw [ResourceVector.sumOf_get, sum_subtree]
  · rfl
  · intro v hv
    obtain ⟨e, -, hv⟩ := List.mem_flatMap.mp hv
    obtain ⟨h1, h2⟩ := h.counters e.1
    rcases List.mem_cons.mp hv with rfl | hv
    · exact h1
    · rw [List.mem_singleton.mp hv]; exact h2
  · intro e he
    exact (sum_subtree env s g e).trans_le (hfit e he)

/-- **Sums are exact up to the first dimension that overflows**, for the reserved counter after
    `sync_usage` and for the subtree aggregate, in whatever order the maps are visited. -/
theorem aggregation_exact {l : List (Env × Call)} (hconf : Configured s₀)
    (hrun : Run Engine.after reserveOrRelease s₀ l s) :
    (∀ t d, FitsUpTo (s.reservedSum t) d → ∀ env k,
      ((s.syncUsage env k t).usageOf t).reserved.get d = min INT64_MAX (s.reservedSum t d)) ∧
    (∀ g d, FitsUpTo (s.subtreeSum g) d → ∀ env,
      (s.subtreeCommitted env g).get d = min INT64_MAX (s.subtreeSum g d)) := by
  have hinv : AmountsNonNeg s := by
    refine hrun.invariant hconf.amountsNonNeg ?_
    rintro s ⟨env, c⟩ h ⟨hc, hfresh, hamount⟩
    exact exec_amountsNonNeg hfresh hamount (Call.isCore_of_reservesOrReleases hc) h
  constructor
  · intro t d hfit env k
    have hsync := usageOf_syncUsage_self env k s t
    have hrec : (s.syncUsage env k t).recomputedReserved env t = s.recomputedReserved env t := rfl
    rw [hsync.reserved, hrec, get_recomputedReserved hinv hfit]
    exact (min_eq_right (hfit d (le_refl _))).symm
  · intro g d hfit env
    rw [get_subtreeCommitted_upTo hinv hfit]
    exact (min_eq_right (hfit d (le_refl _))).symm

end Runs

/-! ## An overflow that hides a limited dimension -/

/-- One tenant with a limit of 10 on host memory, and none on accelerator memory. -/
def hostLimited : Engine :=
  { tenants := (∅ : UMap TenantId Tenant).insert cappedTenant { id := cappedTenant }
    localQuota := (∅ : UMap TenantId ResourceQuota).insert cappedTenant
      { hardLimit := .fromScalar .pageableHostRAM 10 } }

theorem hostLimited_configured : Configured hostLimited := ⟨rfl, rfl, rfl, rfl, rfl, rfl⟩

/-- A reservation of accelerator memory and host memory. -/
def reserveBoth (n : UInt64) (vram host : Int) : Env × Call :=
  (.numbered n,
    .reserve cappedTenant ((SparseVec.empty.put .acceleratorVRAM vram).put .pageableHostRAM host)
      firstAuthority)

/-- **With 3 and 7 units of host memory reserved, the counter shows 3.** -/
theorem unlimited_dimension_hides_limited :
    ∃ s, Run Engine.after reserveOrRelease hostLimited
        [reserveBoth 1 5 7, reserveBoth 2 INT64_MAX 3] s ∧
      s.reservedSum cappedTenant .pageableHostRAM = 10 ∧
      ((s.syncUsage {} 0 cappedTenant).usageOf cappedTenant).reserved.get .pageableHostRAM ≠
        min INT64_MAX (s.reservedSum cappedTenant .pageableHostRAM) := by
  refine ⟨_, Run.of_check [reserveBoth 1 5 7, reserveBoth 2 INT64_MAX 3] hostLimited
    (by decide +kernel), ?_, ?_⟩
  · decide +kernel
  · decide +kernel

theorem aggregation_exact_two :
    (((([reserveBoth 1 5 7, reserveBoth 2 8 3].foldl Engine.after hostLimited).syncUsage {} 0
      cappedTenant).usageOf cappedTenant).reserved.get .pageableHostRAM) =
      min INT64_MAX (([reserveBoth 1 5 7, reserveBoth 2 8 3].foldl Engine.after
        hostLimited).reservedSum cappedTenant .pageableHostRAM) := by
  have hrun : Run Engine.after reserveOrRelease hostLimited [reserveBoth 1 5 7, reserveBoth 2 8 3]
      ([reserveBoth 1 5 7, reserveBoth 2 8 3].foldl Engine.after hostLimited) :=
    Run.of_check _ _ (by decide +kernel)
  exact (aggregation_exact hostLimited_configured hrun).1 cappedTenant .pageableHostRAM
    (by decide +kernel) {} 0

end Engine

end QuotaFabric
