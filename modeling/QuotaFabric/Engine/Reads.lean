import QuotaFabric.Engine.Decision

/-!
# What decisions read

* `SameEntries` — the same hierarchy and quotas, in whatever order, and what they determine
  (`ancestorGroups`, `hasAncestor`, `effectiveLattice`);
* `SameConfig` — equality of everything the hierarchy, the limits and the authority checks are read
  from;
* `classify_congr` — a decision depends on the configuration, the counters and the lending records,
  and on nothing else.
-/

set_option autoImplicit false

namespace QuotaFabric

namespace Engine

/-! ## Configuration -/

/-- The hierarchy and the quotas have the same entries, in whatever order, and the generations are the
    same. -/
structure SameEntries (s s' : Engine) : Prop where
  policyGeneration : s'.policy.generation = s.policy.generation
  quotaGeneration : s'.quotaGeneration = s.quotaGeneration
  groups : ∀ g, s'.groups.lookup g = s.groups.lookup g
  tenants : ∀ t, s'.tenants.lookup t = s.tenants.lookup t
  localQuota : ∀ t, s'.localQuota.lookup t = s.localQuota.lookup t
  groupQuota : ∀ g, s'.groupQuota.lookup g = s.groupQuota.lookup g

namespace SameEntries

variable {s s' : Engine}

theorem parentChain (h : SameEntries s s') :
    ∀ (n : Nat) (cur : Option TenantGroupId), s'.parentChain n cur = s.parentChain n cur
  | 0, _ => rfl
  | _ + 1, none => rfl
  | n + 1, some g => by
    unfold Engine.parentChain
    rw [h.groups]
    cases s.groups.lookup g with
    | none => rfl
    | some gr => simp only [parentChain h n gr.parent]

theorem reachesGroup (h : SameEntries s s') (g : TenantGroupId) :
    ∀ (n : Nat) (cur : Option TenantGroupId), s'.reachesGroup g n cur = s.reachesGroup g n cur
  | 0, _ => rfl
  | _ + 1, none => rfl
  | n + 1, some c => by
    unfold Engine.reachesGroup
    rw [h.groups]
    cases s.groups.lookup c with
    | none => rfl
    | some gr => simp only [reachesGroup h g n gr.parent]

theorem walkFuel (h : SameEntries s s') : s'.walkFuel = s.walkFuel := by
  unfold Engine.walkFuel
  rw [(AList.entries_perm h.groups).length_eq]

theorem ancestorGroups (h : SameEntries s s') (t : TenantId) :
    s'.ancestorGroups t = s.ancestorGroups t := by
  unfold Engine.ancestorGroups
  rw [h.tenants, h.walkFuel]
  cases s.tenants.lookup t with
  | none => rfl
  | some tn => simp only [h.parentChain]

theorem hasAncestor (h : SameEntries s s') (tn : Tenant) (g : TenantGroupId) :
    s'.hasAncestor tn g = s.hasAncestor tn g := by
  unfold Engine.hasAncestor
  rw [h.walkFuel, h.reachesGroup]

theorem effectiveLattice (h : SameEntries s s') (t : TenantId) :
    s'.effectiveLattice t = s.effectiveLattice t := by
  unfold Engine.effectiveLattice quotaChain
  simp only [h.ancestorGroups, h.groupQuota, h.localQuota, h.policyGeneration, h.quotaGeneration]

end SameEntries

/-- Everything the hierarchy, the limits and the authority checks are read from is the same. -/
structure SameConfig (s s' : Engine) : Prop where
  policy : s'.policy = s.policy
  epoch : s'.epoch = s.epoch
  quotaGeneration : s'.quotaGeneration = s.quotaGeneration
  groups : s'.groups = s.groups
  tenants : s'.tenants = s.tenants
  localQuota : s'.localQuota = s.localQuota
  groupQuota : s'.groupQuota = s.groupQuota

namespace SameConfig

theorem refl (s : Engine) : SameConfig s s := ⟨rfl, rfl, rfl, rfl, rfl, rfl, rfl⟩

theorem trans {s s' s'' : Engine} (h : SameConfig s s') (h' : SameConfig s' s'') : SameConfig s s'' :=
  ⟨h'.policy.trans h.policy, h'.epoch.trans h.epoch, h'.quotaGeneration.trans h.quotaGeneration,
    h'.groups.trans h.groups, h'.tenants.trans h.tenants, h'.localQuota.trans h.localQuota,
    h'.groupQuota.trans h.groupQuota⟩

variable {s s' : Engine}

theorem symm (h : SameConfig s s') : SameConfig s' s :=
  ⟨h.policy.symm, h.epoch.symm, h.quotaGeneration.symm, h.groups.symm, h.tenants.symm,
    h.localQuota.symm, h.groupQuota.symm⟩

theorem sameEntries (h : SameConfig s s') : SameEntries s s' :=
  ⟨by rw [h.policy], h.quotaGeneration, fun g => by rw [h.groups], fun t => by rw [h.tenants],
    fun t => by rw [h.localQuota], fun g => by rw [h.groupQuota]⟩

theorem ancestorGroups (h : SameConfig s s') (t : TenantId) :
    s'.ancestorGroups t = s.ancestorGroups t := h.sameEntries.ancestorGroups t

theorem hasAncestor (h : SameConfig s s') (tn : Tenant) (g : TenantGroupId) :
    s'.hasAncestor tn g = s.hasAncestor tn g := h.sameEntries.hasAncestor tn g

theorem effectiveLattice (h : SameConfig s s') (t : TenantId) :
    s'.effectiveLattice t = s.effectiveLattice t := h.sameEntries.effectiveLattice t

end SameConfig

/-! ## Decisions -/

section Decisions

variable {env : Env} {s s' : Engine} (hconf : SameConfig s s')
  (husage : ∀ x, s'.usageOf x = s.usageOf x) (hlends : s'.lends = s.lends)

include husage in
theorem committed_congr (x : TenantId) : s'.committed x = s.committed x := by
  unfold committed
  rw [husage]

include hconf husage

theorem subtreeCommitted_congr (g : TenantGroupId) :
    s'.subtreeCommitted env g = s.subtreeCommitted env g := by
  unfold subtreeCommitted
  simp only [hconf.tenants, hconf.hasAncestor, husage]

theorem poolUsed_congr (g : TenantGroupId) : s'.poolUsed env g = s.poolUsed env g := by
  unfold poolUsed
  simp only [hconf.tenants, hconf.hasAncestor, hconf.effectiveLattice, committed_congr husage]

theorem parentHardOk_congr (t : TenantId) (d : ResourceDimension) (amt : Int) :
    s'.parentHardOk env t d amt = s.parentHardOk env t d amt := by
  unfold parentHardOk
  simp only [hconf.ancestorGroups, hconf.groupQuota, subtreeCommitted_congr hconf husage]

theorem poolOk_congr (t : TenantId) (d : ResourceDimension) (part : Int) :
    s'.poolOk env t d part = s.poolOk env t d part := by
  unfold poolOk
  simp only [hconf.ancestorGroups, hconf.groupQuota, poolUsed_congr hconf husage]

theorem availableToLend_congr (x : TenantId) (d : ResourceDimension) :
    s'.availableToLend x d = s.availableToLend x d := by
  unfold availableToLend
  simp only [hconf.effectiveLattice, committed_congr husage, husage]

include hlends

theorem dimensionCode_congr (t : TenantId) (req : ResourceVector) (d : ResourceDimension) :
    s'.dimensionCode env t req d = s.dimensionCode env t req d := by
  have hborrow : s'.borrowAvailable env d = s.borrowAvailable env d := by
    unfold borrowAvailable
    simp only [hlends, availableToLend_congr hconf husage]
  have hburst : s'.burstOk env d t = s.burstOk env d t := by
    funext eff
    unfold burstOk
    rw [husage]
  have hnew : s'.newCommitted t req d = s.newCommitted t req d := by
    unfold newCommitted currentCommittedScalar
    rw [husage, committed_congr husage]
  unfold dimensionCode consumableCode capacityCode totalForPhys
  simp only [hnew, hconf.effectiveLattice, parentHardOk_congr hconf husage, poolOk_congr hconf husage,
    hborrow, hburst, husage]

/-- **A decision reads the configuration, the counters and the lending records.** -/
theorem classify_congr (t : TenantId) (req : ResourceVector) :
    s'.classify env t req = s.classify env t req := by
  have hnew : ∀ d, s'.newCommitted t req d = s.newCommitted t req d := by
    intro d
    unfold newCommitted currentCommittedScalar
    rw [husage, committed_congr husage]
  have hscan : s'.scan env t req = s.scan env t req := by
    have hstep : s'.scanDimension env t req = s.scanDimension env t req := by
      funext sc d
      unfold scanDimension overSoftNote
      simp only [dimensionCode_congr hconf husage hlends, hnew, hconf.effectiveLattice]
    unfold scan
    rw [hstep]
  have hparent : s'.parentAvailable env t = s.parentAvailable env t := by
    unfold parentAvailable
    simp only [hconf.ancestorGroups, hconf.groupQuota, subtreeCommitted_congr hconf husage]
  unfold classify
  simp only [hconf.effectiveLattice, husage, hscan, hparent, hconf.policy, hconf.quotaGeneration,
    hconf.epoch]

end Decisions

end Engine

end QuotaFabric
