import QuotaFabric.Limits.Committed
import QuotaFabric.Engine.Lattice

/-!
# The parent ceiling over whole runs

The parent check of `classify` walks the ancestors of one tenant (`ancestor_groups`) and compares an
aggregate over all tenants below each of them (`has_ancestor`).

* `belowSum` — what the tenants below a group have reserved;
* `get_subtreeCommitted` — the aggregate the check reads is exactly that;
* `Admitted.room` — an admitted request fits under every ancestor's hard limit;
* `parent_ceiling` — in every state of every run, the sum below a group is within its hard limit.
-/

set_option autoImplicit false

namespace QuotaFabric

open AList

namespace Engine

/-- Nothing is reserved or allocated, and the capacity counters say so. -/
structure Idle (s : Engine) : Prop extends NothingReserved s where
  counters : ∀ x d, (s.usageOf x).consumption.get d = 0 ∧ (s.usageOf x).reserved.get d = 0

theorem Configured.idle {s : Engine} (h : Configured s) : Idle s where
  reservations := h.reservations
  noAllocation aid a ha := by rw [h.allocations] at ha; cases ha
  counters x d := by rw [h.usageOf]; exact ⟨rfl, rfl⟩

/-- Sum of `f` over the tenants below `g`. -/
def totalBelow (s : Engine) (g : TenantGroupId) (f : TenantId → Int) : Int :=
  total s.tenants fun t tn => if s.hasAncestor tn g then f t else 0

/-- Sum of `resources(d)` over the active reservations of the tenants below `g`. -/
def belowSum (s : Engine) (g : TenantGroupId) (d : ResourceDimension) : Int :=
  s.totalBelow g fun t => s.reservedSum t d

section Below

variable {s s' : Engine}

theorem SameConfig.totalBelow (h : SameConfig s s') (g : TenantGroupId) (f : TenantId → Int) :
    s'.totalBelow g f = s.totalBelow g f := by
  unfold Engine.totalBelow
  simp only [h.tenants, h.hasAncestor]

theorem totalBelow_mono (g : TenantGroupId) {f f' : TenantId → Int} (h : ∀ x, f x ≤ f' x) :
    s.totalBelow g f ≤ s.totalBelow g f' := by
  unfold totalBelow
  apply total_le_total
  intro x xn _
  split
  · exact h x
  · exact le_refl 0

/-- More for one tenant is more below its ancestors. -/
theorem totalBelow_add {t : TenantId} {tn : Tenant} (ht : s.tenants.lookup t = some tn)
    (g : TenantGroupId) (a : Int) (f : TenantId → Int) :
    (s.totalBelow g fun x => (if x = t then a else 0) + f x) =
      (if s.hasAncestor tn g then a else 0) + s.totalBelow g f := by
  have hsplit : ∀ x xn, s.tenants.lookup x = some xn →
      (if s.hasAncestor xn g = true then (if x = t then a else 0) + f x else 0) =
      (if x = t then if s.hasAncestor xn g = true then a else 0 else 0) +
        if s.hasAncestor xn g = true then f x else 0 := by
    intro x xn _
    by_cases hx : x = t <;> by_cases ha : s.hasAncestor xn g = true <;> simp [hx, ha]
  unfold totalBelow
  rw [total_congr hsplit, total_add,
    total_key s.tenants t fun xn => if s.hasAncestor xn g = true then a else 0, ht]
  rfl

end Below

section Aggregate

variable {env : Env} {s₀ s : Engine} {bound : ResourceDimension → Int}

/-- Read through `get`, the counters of every tenant are nothing and its active reservations. -/
theorem CommitInv.get_counters (h : CommitInv s₀ bound s) (hstart : Idle s₀) (x : TenantId)
    (d : ResourceDimension) :
    (s.usageOf x).consumption.get d = 0 ∧ (s.usageOf x).reserved.get d = s.reservedSum x d := by
  rw [← get_exactReserved]
  rcases h.counters x with ⟨hc, hr⟩ | ⟨hz, hc, hr⟩
  · rw [hc, hr]; exact ⟨rfl, rfl⟩
  · rw [hc, hr, hz]
    exact hstart.counters x d

theorem CommitInv.counters_nonNeg (h : CommitInv s₀ bound s) (hstart : Idle s₀) (x : TenantId) :
    (s.usageOf x).consumption.NonNeg ∧ (s.usageOf x).reserved.NonNeg :=
  ⟨fun d => (h.get_counters hstart x d).1.ge,
    fun d => (h.get_counters hstart x d).2 ▸ reservedSum_nonneg h.nonNeg x d⟩

/-- Every reservation belongs to at most one tenant. -/
theorem belowSum_le_recorded (hnn : ∀ rid r, s.reservations.lookup rid = some r → r.resources.NonNeg)
    (g : TenantGroupId) (d : ResourceDimension) : s.belowSum g d ≤ s.recordedSum d := by
  have hown : ∀ t : TenantId, ∀ r : Reservation, r.resources.NonNeg →
      (if (r.tenant == t && activeRes r) = true then r.resources.get d else 0) ≤
        if t = r.tenant then r.resources.get d else 0 := by
    intro t r hr
    have hd := hr d
    by_cases ht : t = r.tenant
    · subst ht
      simp only [beq_self_eq_true, Bool.true_and, if_true]
      split <;> omega
    · have hne : (r.tenant == t) = false := by simpa using fun h : r.tenant = t => ht h.symm
      simp [hne, ht]
  have hone : ∀ r : Reservation, r.resources.NonNeg →
      (total s.tenants fun t _ => if t = r.tenant then r.resources.get d else 0) ≤
        r.resources.get d := by
    intro r hr
    rw [total_key s.tenants r.tenant fun _ => r.resources.get d]
    cases s.tenants.lookup r.tenant with
    | none => exact hr d
    | some tn => exact le_refl _
  calc s.belowSum g d
      ≤ total s.tenants fun t _ => total s.reservations fun _ r =>
          if t = r.tenant then r.resources.get d else 0 := by
        unfold belowSum totalBelow
        apply total_le_total
        intro t tn _
        have hle : s.reservedSum t d ≤ total s.reservations fun _ r =>
            if t = r.tenant then r.resources.get d else 0 := by
          unfold reservedSum
          exact total_le_total fun rid r hr => hown t r (hnn rid r hr)
        split
        · exact hle
        · exact (reservedSum_nonneg hnn t d).trans hle
    _ = total s.reservations fun _ r => total s.tenants fun t _ =>
          if t = r.tenant then r.resources.get d else 0 := total_comm ..
    _ ≤ s.recordedSum d := by
        unfold recordedSum
        exact total_le_total fun rid r hr => hone r (hnn rid r hr)

/-- The counters that `subtree_committed` adds up. -/
theorem sum_subtree (env : Env) (s : Engine) (g : TenantGroupId) (d : ResourceDimension) :
    ((((env.tenantOrder s.tenants.entries).filter fun e => s.hasAncestor e.2 g).flatMap fun e =>
      [(s.usageOf e.1).consumption, (s.usageOf e.1).reserved]).map (·.get d)).sum =
    s.totalBelow g fun x => (s.usageOf x).consumption.get d + (s.usageOf x).reserved.get d := by
  rw [List.map_flatMap, List.flatMap_def, List.sum_flatten, List.map_map]
  simp only [Function.comp_def, List.map_cons, List.map_nil, List.sum_cons, List.sum_nil, add_zero]
  exact sum_filter_run env.tenantOrder s.tenants (fun _ tn => s.hasAncestor tn g)
    fun x _ => (s.usageOf x).consumption.get d + (s.usageOf x).reserved.get d

/-- The summands of `subtree_committed` are not negative. -/
theorem subtree_nonNeg (hnn : ∀ x, (s.usageOf x).consumption.NonNeg ∧ (s.usageOf x).reserved.NonNeg)
    (g : TenantGroupId) :
    ∀ v ∈ (((env.tenantOrder s.tenants.entries).filter fun e => s.hasAncestor e.2 g).flatMap fun e =>
      [(s.usageOf e.1).consumption, (s.usageOf e.1).reserved]), v.NonNeg := by
  intro v hv
  obtain ⟨e, -, hv⟩ := List.mem_flatMap.mp hv
  obtain ⟨h1, h2⟩ := hnn e.1
  rcases List.mem_cons.mp hv with rfl | hv
  · exact h1
  · rw [List.mem_singleton.mp hv]
    exact h2

/-- The aggregate never exceeds the counters below the group. -/
theorem subtreeCommitted_le_total
    (hnn : ∀ x, (s.usageOf x).consumption.NonNeg ∧ (s.usageOf x).reserved.NonNeg)
    (g : TenantGroupId) (d : ResourceDimension) :
    (s.subtreeCommitted env g).get d ≤
      s.totalBelow g fun x => (s.usageOf x).consumption.get d + (s.usageOf x).reserved.get d := by
  unfold subtreeCommitted
  rw [← sum_subtree env]
  exact ResourceVector.sumOf_le (subtree_nonNeg hnn g) d

/-- It is what they add up to, where that fits. -/
theorem get_subtreeCommitted_of_fits
    (hnn : ∀ x, (s.usageOf x).consumption.NonNeg ∧ (s.usageOf x).reserved.NonNeg) (g : TenantGroupId)
    (hfit : ∀ d, (s.totalBelow g fun x => (s.usageOf x).consumption.get d + (s.usageOf x).reserved.get d) ≤
      INT64_MAX)
    (d : ResourceDimension) :
    (s.subtreeCommitted env g).get d =
      s.totalBelow g fun x => (s.usageOf x).consumption.get d + (s.usageOf x).reserved.get d := by
  unfold subtreeCommitted
  rw [ResourceVector.sumOf_eq_sum (subtree_nonNeg hnn g), SparseVec.get_sum, sum_subtree]
  intro d'
  rw [sum_subtree]
  exact hfit d'

/-- **The aggregate of the parent check is what the tenants below the group have reserved.** -/
theorem get_subtreeCommitted (h : CommitInv s₀ bound s) (hstart : Idle s₀)
    (hfit : ∀ d, bound d ≤ INT64_MAX) (g : TenantGroupId) (d : ResourceDimension) :
    (s.subtreeCommitted env g).get d = s.belowSum g d := by
  have hsum : ∀ d, (s.totalBelow g fun x =>
      (s.usageOf x).consumption.get d + (s.usageOf x).reserved.get d) = s.belowSum g d := by
    intro d
    unfold belowSum
    congr 1
    funext x
    obtain ⟨h1, h2⟩ := h.get_counters hstart x d
    rw [h1, h2, zero_add]
  rw [get_subtreeCommitted_of_fits (fun x => h.counters_nonNeg hstart x) g, hsum]
  intro d'
  rw [hsum]
  exact (belowSum_le_recorded h.nonNeg g d').trans ((h.recorded d').trans (hfit d'))

end Aggregate

/-! ## One call -/

section Steps

variable {env : Env} {s₀ s s' : Engine} {bound : ResourceDimension → Int} {t : TenantId}
  {req : ResourceVector} {auth : Authority} {st : Draw}

/-- An accepted request passed the parent check on every capacity dimension it asks for. -/
theorem Accepted.parentHardOk (h : Accepted env s t req auth) {d : ResourceDimension}
    (hd : isConsumable d = false) (hp : req.present d = true) :
    s.parentHardOk env t d (req.get d) = true := by
  rcases (classify_allowed_iff env s t req).mp h.allowed with hE | ⟨-, hall⟩
  · rw [ResourceVector.isEmpty_iff.mp hE d] at hp; cases hp
  · exact (dimensionCode_capacity hd (hall d hp)).1

/-- **An admitted request fits under the hard limit of every ancestor.** -/
theorem Admitted.room (h : Admitted env s t req auth st s') (hinv : CommitInv s₀ bound s)
    (hstart : Idle s₀) (hreq : req.NonNeg) (hfit : ∀ d, bound d + req.get d ≤ INT64_MAX)
    {g : TenantGroupId} {q : ResourceQuota} {d : ResourceDimension} (hg : g ∈ s.ancestorGroups t)
    (hq : s.groupQuota.lookup g = some q) (hd : isConsumable d = false) (hp : req.present d = true)
    (hhard : q.hardLimit.present d = true) : s.belowSum g d + req.get d ≤ q.hardLimit.get d := by
  have hbound : ∀ d, bound d ≤ INT64_MAX := fun d => by
    have h1 := hfit d
    have h2 := hreq d
    omega
  have hok := h.accepted.parentHardOk hd hp
  unfold Engine.parentHardOk at hok
  have hat := List.all_eq_true.mp hok g hg
  rw [hq] at hat
  simp only [hhard, Bool.true_and, Bool.not_eq_true', decide_eq_false_iff_not, not_lt] at hat
  rw [get_subtreeCommitted hinv hstart hbound, satAdd_of_le] at hat
  · exact hat
  · have h1 := belowSum_le_recorded hinv.nonNeg g d
    have h2 := hinv.recorded d
    have h3 := hfit d
    omega

/-- What an admitted request adds below a group. -/
theorem Admitted.belowSum (h : Admitted env s t req auth st s')
    (hrid : env.reservationId ∉ s.reservations) (hconf : SameConfig s s') {tn : Tenant}
    (ht : s.tenants.lookup t = some tn) (g : TenantGroupId) (d : ResourceDimension) :
    s'.belowSum g d = (if s.hasAncestor tn g then req.get d else 0) + s.belowSum g d := by
  unfold Engine.belowSum
  rw [hconf.totalBelow, ← totalBelow_add ht]
  congr 1
  funext x
  exact h.reservedSum hrid x d

/-- Where no sum rises, none rises below a group. -/
theorem belowSum_mono (hconf : SameConfig s s') {d : ResourceDimension}
    (h : ∀ x, s'.reservedSum x d ≤ s.reservedSum x d) (g : TenantGroupId) :
    s'.belowSum g d ≤ s.belowSum g d := by
  unfold belowSum
  rw [hconf.totalBelow]
  exact totalBelow_mono g h

/-- The sum below every group is within the hard limit of the group. -/
def UnderParents (s : Engine) : Prop :=
  ∀ g q d, g ∈ s.groups → s.groupQuota.lookup g = some q → isConsumable d = false →
    q.hardLimit.present d = true → s.belowSum g d ≤ q.hardLimit.get d

theorem Admitted.underParents (h : Admitted env s t req auth st s') (hinv : CommitInv s₀ bound s)
    (hstart : Idle s₀) (hrid : env.reservationId ∉ s.reservations) (hreq : req.NonNeg)
    (hfit : ∀ d, bound d + req.get d ≤ INT64_MAX) (hconf : SameConfig s s') (hunder : UnderParents s) :
    UnderParents s' := by
  intro g q d hmem hq hd hhard
  rw [hconf.groups] at hmem
  rw [hconf.groupQuota] at hq
  have hold := hunder g q d hmem hq hd hhard
  obtain ⟨tn, ht⟩ := Option.isSome_iff_exists.mp h.accepted.tenant
  rw [h.belowSum hrid hconf ht]
  split
  · rename_i hanc
    cases hp : req.present d with
    | true =>
      have hg := (mem_ancestorGroups_iff ht).mpr ⟨hanc, hmem⟩
      have hroom := h.room hinv hstart hreq hfit hg hq hd hp hhard
      omega
    | false =>
      rw [SparseVec.get_of_not_present hp, zero_add]
      exact hold
  · rw [zero_add]
    exact hold

end Steps

/-! ## Whole runs -/

/-- **The parent ceiling holds in every state of every run of the core calls**: what the tenants
    below a group have reserved on a capacity dimension is at most the group's hard limit, however
    the reservations were admitted. -/
theorem parent_ceiling {s₀ s : Engine} {l : List (Env × Call)} (hstart : Idle s₀)
    (hquotas : QuotasValid s₀) (hrun : Run Engine.after coreCall s₀ l s)
    (hfit : ∀ d, totalRequested l d ≤ INT64_MAX) {g : TenantGroupId} {q : ResourceQuota}
    {d : ResourceDimension} (hmem : g ∈ s.groups) (hq : s.groupQuota.lookup g = some q)
    (hd : isConsumable d = false) (hhard : q.hardLimit.present d = true) :
    s.belowSum g d ≤ q.hardLimit.get d := by
  refine (commit_run_rule (I := UnderParents) (fun _ _ h => h) hrun hfit (fun _ => le_refl _)
    hstart.toNothingReserved ?_ ?_).2 g q d hmem hq hd hhard
  · intro g q d _ hq _ _
    have hzero : s₀.belowSum g d = 0 := by
      unfold belowSum totalBelow
      apply total_eq_zero
      intro x xn _
      simp only [hstart.reservedSum, ite_self]
    rw [hzero]
    exact ((hquotas.groupQuota g q hq).hardLimit d).1
  · intro s c bound ⟨hcore, hfresh, hamount⟩ hfit hinv hunder
    have hconf : SameConfig s (s.after c) :=
      (exec_capacityStep hfresh hamount hcore).config
    rcases exec_reservedSum hfresh hamount hcore hinv.nonNeg with
      ⟨t, req, auth, st, hc, hadm⟩ | hle
    · have hamt : c.2.amount = req := by rw [hc]; rfl
      rw [hamt] at hamount hfit
      exact hadm.underParents hinv hstart hfresh.reservationId hamount hfit hconf hunder
    · intro g q d hmem hq hd hhard
      rw [hconf.groups] at hmem
      rw [hconf.groupQuota] at hq
      exact (belowSum_mono hconf (fun x => hle x d) g).trans (hunder g q d hmem hq hd hhard)

def orgGroup : TenantGroupId := ⟨1, 1⟩

def teamGroup : TenantGroupId := ⟨1, 2⟩

def teamTenant : TenantId := ⟨0, 1⟩

def orgTenant : TenantId := ⟨0, 2⟩

/-- An organisation capped at 100 with a team capped at 60, and a tenant in each. -/
def orgAndTeam : Engine :=
  { groups := ((∅ : UMap TenantGroupId TenantGroup).insert orgGroup { id := orgGroup }).insert
      teamGroup { id := teamGroup, parent := some orgGroup }
    tenants := ((∅ : UMap TenantId Tenant).insert teamTenant
        { id := teamTenant, group := some teamGroup }).insert orgTenant
          { id := orgTenant, group := some orgGroup }
    groupQuota := ((∅ : UMap TenantGroupId ResourceQuota).insert orgGroup
        { hardLimit := .fromScalar .acceleratorVRAM 100 }).insert teamGroup
          { hardLimit := .fromScalar .acceleratorVRAM 60 } }

/-- The third request would take the team to 70 and is refused. -/
def threeRequests : List (Env × Call) :=
  [(.numbered 1, .reserve teamTenant (.fromScalar .acceleratorVRAM 40) firstAuthority),
    (.numbered 2, .reserve orgTenant (.fromScalar .acceleratorVRAM 50) firstAuthority),
    (.numbered 3, .reserve teamTenant (.fromScalar .acceleratorVRAM 30) firstAuthority)]

theorem parent_ceiling_threeRequests :
    (threeRequests.foldl Engine.after orgAndTeam).belowSum orgGroup .acceleratorVRAM = 90 ∧
    (threeRequests.foldl Engine.after orgAndTeam).belowSum orgGroup .acceleratorVRAM ≤ 100 :=
  ⟨by decide +kernel,
    parent_ceiling (q := { hardLimit := .fromScalar .acceleratorVRAM 100 })
      (Configured.idle ⟨rfl, rfl, rfl, rfl, rfl, rfl⟩) (by decide +kernel)
      (Run.of_check threeRequests orgAndTeam (by decide +kernel)) (by decide +kernel)
      (by decide +kernel) rfl rfl rfl⟩

end Engine

end QuotaFabric
