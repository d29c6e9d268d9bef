import QuotaFabric.Accounting.Books
import QuotaFabric.Hierarchy.CycleCheck

/-!
# Ancestor walks end

`ancestor_groups` and `has_ancestor` follow parent links with no bound and no set of ids seen.  They
end because a group is created after its parent: its id is new, and no group can have named it before.

* `ChainLoop`, `ReachLoop` — runs of the two loops that end, without fuel;
* `Ranked` — a rank that decreases along parent links; `ParentsOlder.ranked` finds one;
* `hierarchy` — groups and tenants; only the calls that create one change it;
* `IsHierarchyChain` — distinct existing groups, outermost first, each the parent of the next.

Principal result: `hierarchy_walks_end` — in every state reached by public calls that give new groups
new ids, whatever parents they name.
-/

set_option autoImplicit false

namespace QuotaFabric

open AList

/-- The calls that make a group. -/
def Call.makesGroup : Call → Bool
  | .createGroup .. => true
  | .createGroupAutoid .. => true
  | _ => false

namespace Engine

/-! ## The loops -/

/-- The loop of `ancestor_groups` from `cur`, with the groups it pushes, innermost first. -/
inductive ChainLoop (s : Engine) : Option TenantGroupId → List TenantGroupId → Prop
  | ended : ChainLoop s none []
  | missing {c : TenantGroupId} (hc : s.groups.lookup c = none) : ChainLoop s (some c) []
  | up {c : TenantGroupId} {gr : TenantGroup} {rest : List TenantGroupId} (hc : s.groups.lookup c = some gr)
      (hrest : ChainLoop s gr.parent rest) : ChainLoop s (some c) (c :: rest)

/-- The loop of `has_ancestor` from `cur`, with what it returns. -/
inductive ReachLoop (s : Engine) (g : TenantGroupId) : Option TenantGroupId → Bool → Prop
  | ended : ReachLoop s g none false
  | found : ReachLoop s g (some g) true
  | missing {c : TenantGroupId} (hne : c ≠ g) (hc : s.groups.lookup c = none) : ReachLoop s g (some c) false
  | up {c : TenantGroupId} {gr : TenantGroup} {reached : Bool} (hne : c ≠ g)
      (hc : s.groups.lookup c = some gr) (hrest : ReachLoop s g gr.parent reached) :
      ReachLoop s g (some c) reached

/-- Distinct existing groups, outermost first, each the parent of the next. -/
structure IsHierarchyChain (s : Engine) (chain : List TenantGroupId) : Prop where
  nodup : chain.Nodup
  exist : ∀ g ∈ chain, g ∈ s.groups
  linked : chain.IsChain fun outer inner => s.parentLink inner = some outer
  outermost : ∀ g ∈ chain.head?, ∀ p, s.parentLink g = some p → p ∉ s.groups

/-! ## Ranks -/

/-- An existing parent has the smaller rank. -/
def Ranked (s : Engine) (rank : TenantGroupId → Nat) : Prop :=
  ∀ g p, s.parentLink g = some p → p ∈ s.groups → rank p < rank g

section Loops

variable {s : Engine} {g c : TenantGroupId} {gr : TenantGroup}

theorem parentLink_eq (hc : s.groups.lookup c = some gr) : s.parentLink c = gr.parent := by
  unfold parentLink
  rw [hc]
  rfl

/-- How many groups are at least as old as `g`: new groups stand first in the map. -/
def age (s : Engine) (g : TenantGroupId) : Nat := (s.groups.entries.dropWhile fun e => e.1 ≠ g).length

theorem age_of_split {pre post : List (Σ _ : TenantGroupId, TenantGroup)}
    (hsplit : s.groups.entries = pre ++ ⟨g, gr⟩ :: post) : s.age g = post.length + 1 := by
  have hnodup : (s.groups.entries.map Sigma.fst).Nodup := s.groups.nodupKeys
  have hpre : ∀ e ∈ pre, e.1 ≠ g := by
    rintro e he rfl
    rw [hsplit, List.map_append, List.map_cons, List.nodup_append] at hnodup
    exact hnodup.2.2 e.1 (List.mem_map_of_mem he) e.1 List.mem_cons_self rfl
  unfold age
  rw [hsplit, List.dropWhile_append_of_pos (by simpa using hpre), List.dropWhile_cons_of_neg (by simp)]
  rfl

/-- **Where every parent is older, age is a rank.** -/
theorem ParentsOlder.ranked (h : ParentsOlder s) : Ranked s s.age := by
  intro g p hlink hp
  obtain ⟨gr, hg, hparent⟩ := Option.bind_eq_some_iff.mp hlink
  obtain ⟨grp, hgrp⟩ := exists_lookup_of_mem hp
  have hmemg := lookup_eq_some_iff.mp hg
  have hmemp := lookup_eq_some_iff.mp hgrp
  obtain ⟨pre, post, hsplit⟩ := List.append_of_mem hmemg
  rw [age_of_split hsplit]
  -- the parent is not the group itself and not a newer one, so it stands further back
  have hpost : (⟨p, grp⟩ : Σ _ : TenantGroupId, TenantGroup) ∈ post := by
    have hpair := h.1
    rw [hsplit, List.pairwise_append] at hpair
    rw [hsplit] at hmemp
    rcases List.mem_append.mp hmemp with hpre | hrest
    · exact absurd hparent (hpair.2.2 ⟨p, grp⟩ hpre ⟨g, gr⟩ List.mem_cons_self)
    · rcases List.mem_cons.mp hrest with heq | hpost
      · have hself := h.2 _ hmemg
        rw [show p = g from congrArg Sigma.fst heq] at hparent
        exact absurd hparent hself
      · exact hpost
  obtain ⟨mid, post', hpost'⟩ := List.append_of_mem hpost
  have hsplit' : s.groups.entries = (pre ++ ⟨g, gr⟩ :: mid) ++ ⟨p, grp⟩ :: post' := by
    rw [hsplit, hpost']
    simp
  rw [age_of_split hsplit', hpost']
  simp only [List.length_append, List.length_cons]
  omega

/-- **The loop of `ancestor_groups` ends**, by induction on the rank it starts from. -/
theorem exists_chainLoop {rank : TenantGroupId → Nat} (h : Ranked s rank) : ∀ (n : Nat)
    (cur : Option TenantGroupId), (∀ c ∈ cur, c ∈ s.groups → rank c < n) → ∃ l, ChainLoop s cur l
  | _, none, _ => ⟨[], .ended⟩
  | n, some c, hn => by
    cases hc : s.groups.lookup c with
    | none => exact ⟨[], .missing hc⟩
    | some gr =>
      have hless := hn c rfl (mem_of_lookup hc)
      cases n with
      | zero => omega
      | succ n =>
        obtain ⟨l, hl⟩ := exists_chainLoop h n gr.parent fun p hp hmem => by
          have := h c p ((parentLink_eq hc).trans hp) hmem
          omega
        exact ⟨c :: l, .up hc hl⟩

variable {cur : Option TenantGroupId} {l : List TenantGroupId}

theorem ChainLoop.exist (h : ChainLoop s cur l) : ∀ g ∈ l, g ∈ s.groups := by
  induction h with
  | ended | missing => simp
  | up hc _ ih =>
    intro g hg
    rcases List.mem_cons.mp hg with rfl | hg
    · exact mem_of_lookup hc
    · exact ih g hg

/-- The first group pushed is the one the loop starts from. -/
theorem ChainLoop.head (h : ChainLoop s cur l) : l.head? = cur.filter fun c => c ∈ s.groups := by
  cases h with
  | ended => rfl
  | missing hc =>
    rename_i c
    have hno : c ∉ s.groups := fun hm => by
      rw [← lookup_isSome, hc] at hm
      cases hm
    rw [Option.filter_some, if_neg (by simpa using hno)]
    rfl
  | up hc _ =>
    rw [Option.filter_some, if_pos (by simpa using mem_of_lookup hc)]
    rfl

theorem ChainLoop.linked (h : ChainLoop s cur l) :
    l.IsChain fun inner outer => s.parentLink inner = some outer := by
  induction h with
  | ended | missing => exact .nil
  | up hc hrest ih =>
    refine ih.cons fun y hy => ?_
    rw [hrest.head] at hy
    rw [parentLink_eq hc]
    exact (Option.filter_eq_some_iff.mp hy).1

/-- The last group pushed has no existing parent. -/
theorem ChainLoop.outermost (h : ChainLoop s cur l) :
    ∀ g ∈ l.getLast?, ∀ p, s.parentLink g = some p → p ∉ s.groups := by
  induction h with
  | ended | missing => simp
  | @up c gr rest hc hrest ih =>
    intro g hg p hp hmem
    cases rest with
    | nil =>
      obtain rfl : c = g := by simpa using hg
      have hhead := hrest.head
      rw [← parentLink_eq hc, hp, Option.filter_some, if_pos (by simpa using hmem)] at hhead
      cases hhead
    | cons x xs =>
      rw [List.getLast?_cons_cons] at hg
      exact ih g hg p hp hmem

theorem ChainLoop.nodup {rank : TenantGroupId → Nat} (hr : Ranked s rank) (h : ChainLoop s cur l) : l.Nodup := by
  have hdown : l.IsChain fun a b => rank b < rank a := by
    refine h.linked.imp_of_mem_imp fun a b _ hb hlink => ?_
    exact hr a b hlink (h.exist b hb)
  have hpair : l.Pairwise fun a b => rank b < rank a := by
    have : Trans (fun a b : TenantGroupId => rank b < rank a) (fun a b => rank b < rank a)
        (fun a b => rank b < rank a) := ⟨fun hab hbc => lt_trans hbc hab⟩
    exact List.isChain_iff_pairwise.mp hdown
  exact hpair.imp fun hlt heq => by
    rw [heq] at hlt
    exact lt_irrefl _ hlt

/-- The fuel of the model is enough. -/
theorem ChainLoop.length_lt (h : ChainLoop s cur l) (hnodup : l.Nodup) : l.length < s.walkFuel := by
  have hle := (List.subperm_of_subset hnodup fun g hg => AList.mem_keys.mp (h.exist g hg)).length_le
  have hkeys : s.groups.keys.length = s.groups.entries.length := List.length_map _
  unfold walkFuel
  omega

theorem ChainLoop.parentChain (h : ChainLoop s cur l) : ∀ n, l.length < n → s.parentChain n cur = l := by
  induction h with
  | ended =>
    intro n hn
    cases n with
    | zero => omega
    | succ n => rfl
  | missing hc =>
    intro n hn
    cases n with
    | zero => omega
    | succ n => rw [Engine.parentChain, hc]
  | up hc _ ih =>
    intro n hn
    rw [List.length_cons] at hn
    cases n with
    | zero => omega
    | succ n => simp only [Engine.parentChain, hc, ih n (by omega)]

/-- Where the chain ends, the search along it does. -/
theorem ChainLoop.reach (h : ChainLoop s cur l) (g : TenantGroupId) :
    ∀ n, l.length < n → ReachLoop s g cur (s.reachesGroup g n cur) := by
  induction h with
  | ended =>
    intro n hn
    cases n with
    | zero => omega
    | succ n => exact .ended
  | @missing c hc =>
    intro n hn
    cases n with
    | zero => omega
    | succ n =>
      rw [reachesGroup, hc]
      split
      · rename_i heq
        rw [heq]
        exact .found
      · rename_i hne
        exact .missing hne hc
  | @up c gr rest hc _ ih =>
    intro n hn
    rw [List.length_cons] at hn
    cases n with
    | zero => omega
    | succ n =>
      rw [reachesGroup, hc]
      split
      · rename_i heq
        rw [heq]
        exact .found
      · rename_i hne
        exact .up hne hc (ih n (by omega))

end Loops

/-! ## The calls -/

/-- What the walks read. -/
def hierarchy (s : Engine) : UMap TenantGroupId TenantGroup × UMap TenantId Tenant := (s.groups, s.tenants)

section Calls

variable {env : Env} {s s' : Engine}

theorem SameConfig.hierarchy (h : SameConfig s s') : s'.hierarchy = s.hierarchy := by
  unfold Engine.hierarchy
  rw [h.groups, h.tenants]

theorem hierarchy_borrowImpl (env : Env) (s : Engine) (k : ResourceDimension) (borrower : TenantId) (amount : ResourceVector) :
    (s.borrowImpl env k borrower amount none).2.hierarchy = s.hierarchy := by
  unfold borrowImpl
  split
  · rfl
  · exact (openLoan_frame ..).config.hierarchy

/-- The engine a funding loop leaves, whether it is funded or gives up. -/
def fundedEngine : Except (QuotaStatus × Engine) Draw → Engine
  | .error e => e.2
  | .ok st => st.engine

theorem hierarchy_fundLoop (env : Env) (eff : ResourceQuota) (cb : ResourceVector) (t : TenantId)
    (req : ResourceVector) : ∀ (ds : List ResourceDimension) (st : Draw),
      (fundedEngine (fundLoop env eff cb t req ds st)).hierarchy = st.engine.hierarchy
  | [], _ => rfl
  | d :: ds, st => by
    have hone : (fundedEngine (fundDimension env eff cb t req st d)).hierarchy = st.engine.hierarchy := by
      unfold fundDimension
      split
      · rfl
      · simp only
        split
        · have hloan := hierarchy_borrowImpl env st.engine d t
            (.fromScalar d (borrowPart eff d (cb.get d) (satAdd (cb.get d) (req.get d))))
          split
          · rename_i heq
            rw [heq] at hloan
            exact (returnAll_frame ..).config.hierarchy.trans hloan
          · rename_i heq
            rw [heq] at hloan
            exact hloan
        · rfl
    unfold fundLoop
    split
    · rename_i heq
      rw [heq] at hone
      exact hone
    · rename_i heq
      rw [heq] at hone
      exact (hierarchy_fundLoop env eff cb t req ds _).trans hone

theorem hierarchy_reserve (t : TenantId) (req : ResourceVector) (auth : Authority) :
    (s.reserve env t req auth).2.hierarchy = s.hierarchy := by
  unfold reserve
  split
  · rfl
  split
  · rfl
  split
  · rfl
  split
  · rfl
  simp only
  split
  · rfl
  have hloop := hierarchy_fundLoop env (s.effectiveLattice t) ((s.modifyUsage t id).committed t) t req
    allResourceDimensions { engine := s.modifyUsage t id }
  split
  · rename_i heq
    rw [heq] at hloop
    exact hloop
  · rename_i st heq
    rw [heq] at hloop
    have hstart : (startBurst env (s.effectiveLattice t) st.engine t st.burst).hierarchy =
        st.engine.hierarchy := by
      unfold startBurst
      split <;> rfl
    exact hstart.trans hloop

theorem hierarchy_borrow (b : TenantId) (amount : ResourceVector) (auth : Authority) :
    (s.borrow env b amount auth).2.hierarchy = s.hierarchy := by
  have hloan := hierarchy_borrowImpl env s default b amount
  unfold borrow
  split
  · rfl
  split
  · rfl
  split
  · rename_i heq
    rw [heq] at hloan
    exact hloan
  · rename_i heq
    rw [heq] at hloan
    exact hloan

theorem hierarchy_lend (l b : TenantId) (amount : ResourceVector) (auth : Authority) :
    (s.lend env l b amount auth).2.hierarchy = s.hierarchy := by
  have hloan := hierarchy_borrowImpl env s default b amount
  unfold lend
  split
  · rfl
  split
  · rfl
  split
  · rfl
  split
  · rename_i heq
    rw [heq] at hloan
    exact hloan
  · rename_i heq
    rw [heq] at hloan
    simp only
    split <;> exact hloan

theorem hierarchy_release (rid : ReservationId) (auth : Authority) :
    (s.release env rid auth).2.hierarchy = s.hierarchy := by
  unfold release
  split
  · rfl
  split
  · rfl
  split
  · rfl
  · exact (returnAll_frame env (s.setStatus rid .released)
      ((s.setStatus rid .released).listedBorrows rid)).config.hierarchy

theorem hierarchy_createGroup (env : Env) (s : Engine) (name : Str) (kind : TenantGroupKind) (parent : Option TenantGroupId) :
    (s.createGroup env name kind parent).2.hierarchy = s.hierarchy ∨
    (s.createGroup env name kind parent).2.hierarchy =
      (s.groups.emplace env.groupId (s.newGroup env name kind parent), s.tenants) := by
  unfold createGroup
  split
  · exact .inl rfl
  · exact .inr rfl

/-- A tenant is created in an existing group or in none. -/
theorem hierarchy_createTenant (env : Env) (s : Engine) (id : TenantId) (name : Str) (group : Option TenantGroupId) (priority : UInt32) :
    (s.createTenant env id name group priority).2.hierarchy = s.hierarchy ∨
    ∃ tn : Tenant, (∀ g ∈ tn.group, g ∈ s.groups) ∧
      (s.createTenant env id name group priority).2.hierarchy = (s.groups, s.tenants.emplace id tn) := by
  unfold createTenant
  split
  · exact .inl rfl
  split
  · exact .inl rfl
  split
  · exact .inl rfl
  · rename_i hgroup
    refine .inr ⟨{ id := id, name := name, group := group, priority := priority }, fun g hg => ?_, rfl⟩
    have heq : group = some g := hg
    rw [heq] at hgroup
    simpa [groupExists, AList.lookup_eq_none] using hgroup

/-- **What a call can do to the hierarchy**: nothing, one new group, or one new tenant. -/
theorem exec_hierarchy (env : Env) (s : Engine) (c : Call) :
    (s.exec env c).2.hierarchy = s.hierarchy ∨
    (c.makesGroup = true ∧ ∃ gr : TenantGroup, gr.parent = c.parent ∧
      (s.exec env c).2.hierarchy = (s.groups.emplace env.groupId gr, s.tenants)) ∨
    ∃ id, ∃ tn : Tenant, (∀ g ∈ tn.group, g ∈ s.groups) ∧
      (s.exec env c).2.hierarchy = (s.groups, s.tenants.emplace id tn) := by
  cases c with
  | createGroup name kind parent =>
    rcases hierarchy_createGroup env s name kind parent with h | h
    · exact .inl h
    · exact .inr (.inl ⟨rfl, s.newGroup env name kind parent, rfl, h⟩)
  | createGroupAutoid name kind parent => exact .inr (.inl ⟨rfl, s.newGroup env name kind parent, rfl, rfl⟩)
  | createTenant id name group priority =>
    rcases hierarchy_createTenant env s id name group priority with h | ⟨tn, h⟩
    · exact .inl h
    · exact .inr (.inr ⟨id, tn, h⟩)
  | createTenantAutoid name group priority =>
    rcases hierarchy_createTenant env s env.tenantId name group priority with h | ⟨tn, h⟩
    · exact .inl h
    · exact .inr (.inr ⟨env.tenantId, tn, h⟩)
  | setPolicy policy =>
    left
    show (s.setPolicy env policy).2.hierarchy = _
    unfold setPolicy
    split <;> rfl
  | setTenantQuota t q =>
    left
    show (s.setTenantQuota env t q).2.hierarchy = _
    unfold setTenantQuota
    repeat' split
    all_goals rfl
  | setGroupQuota g q =>
    left
    show (s.setGroupQuota env g q).2.hierarchy = _
    unfold setGroupQuota
    split <;> rfl
  | reserve t req auth => exact .inl (hierarchy_reserve t req auth)
  | commitReservation rid auth =>
    left
    rcases commitReservation_cases env s rid auth with h | ⟨r, -, -, h⟩
    · exact congrArg hierarchy h
    · exact h.config.hierarchy
  | startAllocation rid req auth =>
    left
    rcases startAllocation_cases env s rid req auth with h | ⟨r, -, -, h⟩
    · exact congrArg hierarchy h
    · exact h.config.hierarchy
  | resizeAllocation aid delta auth =>
    left
    rcases resizeAllocation_cases env s aid delta auth with h | ⟨a, -, -, ts, -, h⟩
    · exact congrArg hierarchy h
    · exact h.config.hierarchy
  | release rid auth => exact .inl (hierarchy_release rid auth)
  | releaseAllocation aid auth =>
    left
    rcases releaseAllocation_cases env s aid auth with h | ⟨a, -, -, h⟩
    · exact congrArg hierarchy h
    · exact h.config.hierarchy
  | borrow b amount auth => exact .inl (hierarchy_borrow b amount auth)
  | lend l b amount auth => exact .inl (hierarchy_lend l b amount auth)
  | recallBorrow bid auth =>
    left
    rcases recallBorrow_cases env s bid auth with h | ⟨b, -, -, -, h⟩
    · exact congrArg hierarchy h
    · exact h.config.hierarchy.trans (closeLoan_frame ..).config.hierarchy
  | applyObservation obs =>
    left
    have hstep : CallStep env s (.applyObservation obs) (s.exec env (.applyObservation obs)).2 :=
      applyObservation_callStep env s obs
    show (s.applyObservation env obs).2.hierarchy = _
    unfold applyObservation
    split
    · rfl
    · cases obs.kind <;> simp only <;> repeat' split
      all_goals rfl
  | saveTo path =>
    left
    show (s.saveTo env path).2.hierarchy = _
    unfold saveTo
    split <;> rfl
  | advanceEpoch | snapshot | query => exact .inl rfl

end Calls

/-! ## Runs -/

/-- A call whose new group gets an id that neither the groups nor the call have named. -/
def NewGroupId (s : Engine) (c : Env × Call) : Prop :=
  c.2.makesGroup = true → c.1.groupId ∉ s.groups ∧
    (∀ g gr, s.groups.lookup g = some gr → gr.parent ≠ some c.1.groupId) ∧ c.2.parent ≠ some c.1.groupId

instance (s : Engine) (c : Env × Call) : Decidable (s.NewGroupId c) := inferInstanceAs (Decidable (_ → _))

/-- Parents are older than their groups, and tenants stand in existing groups. -/
structure WellGrouped (s : Engine) : Prop where
  parents : ParentsOlder s
  grouped : ∀ t tn, s.tenants.lookup t = some tn → ∀ g ∈ tn.group, g ∈ s.groups

/-- **Each call keeps parents older and tenants in existing groups.** -/
theorem after_wellGrouped {s : Engine} {c : Env × Call} (hc : s.NewGroupId c) (h : WellGrouped s) :
    WellGrouped (s.after c) := by
  obtain ⟨env, c⟩ := c
  rcases exec_hierarchy env s c with hsame | ⟨hmakes, gr, hparent, hnew⟩ | ⟨id, tn, htn, hnew⟩
  · have hg : (s.after (env, c)).groups = s.groups := congrArg Prod.fst hsame
    have ht : (s.after (env, c)).tenants = s.tenants := congrArg Prod.snd hsame
    exact ⟨h.parents.same hg, by rw [ht, hg]; exact h.grouped⟩
  · have hg : (s.after (env, c)).groups = s.groups.emplace env.groupId gr := congrArg Prod.fst hnew
    have ht : (s.after (env, c)).tenants = s.tenants := congrArg Prod.snd hnew
    obtain ⟨hfresh, hunparented, hself⟩ := hc hmakes
    refine ⟨h.parents.emplace gr hfresh hunparented (hparent ▸ hself) hg, fun t tn hlook g hmem => ?_⟩
    rw [ht] at hlook
    rw [hg, emplace_of_notMem hfresh, mem_insert]
    exact .inr (h.grouped t tn hlook g hmem)
  · have hg : (s.after (env, c)).groups = s.groups := congrArg Prod.fst hnew
    have ht : (s.after (env, c)).tenants = s.tenants.emplace id tn := congrArg Prod.snd hnew
    refine ⟨h.parents.same hg, ?_⟩
    rw [ht, hg]
    exact forall_lookup_emplace h.grouped htn

theorem wellGrouped_start (settings : EngineSettings) : WellGrouped { settings := settings } where
  parents := ⟨List.Pairwise.nil, fun e he => absurd he List.not_mem_nil⟩
  grouped := fun t tn h => by cases h

/-- **Hierarchy walks end**: in every state reached by public calls that give new groups new ids, both
    loops end for every tenant; `ancestor_groups` lists distinct existing groups from the outermost to
    the tenant's own, each the parent of the next; and it lists exactly the existing groups that
    `has_ancestor` finds. -/
theorem hierarchy_walks_end (settings : EngineSettings) {l : List (Env × Call)} {s : Engine}
    (hrun : Run Engine.after NewGroupId { settings := settings } l s) {t : TenantId} {tn : Tenant}
    (ht : s.tenants.lookup t = some tn) :
    ChainLoop s tn.group (s.ancestorGroups t).reverse ∧
    (∀ g, ReachLoop s g tn.group (s.hasAncestor tn g)) ∧
    IsHierarchyChain s (s.ancestorGroups t) ∧ (s.ancestorGroups t).getLast? = tn.group ∧
    ∀ g, g ∈ s.groups → (g ∈ s.ancestorGroups t ↔ s.hasAncestor tn g = true) := by
  have hinv : WellGrouped s := hrun.invariant (wellGrouped_start settings) fun _ _ hs hc => after_wellGrouped hc hs
  have hrank := hinv.parents.ranked
  obtain ⟨chain, hchain⟩ := exists_chainLoop hrank ((tn.group.map s.age).getD 0 + 1) tn.group fun c hc _ => by
    rw [Option.mem_def.mp hc]
    exact Nat.lt_succ_self _
  have hnodup := hchain.nodup hrank
  have hfuel := hchain.length_lt hnodup
  have hlist : s.ancestorGroups t = chain.reverse := by
    unfold ancestorGroups
    rw [ht]
    simp only [hchain.parentChain s.walkFuel hfuel]
  refine ⟨?_, fun g => hchain.reach g s.walkFuel hfuel, ?_, ?_, fun g hg => ?_⟩
  · rw [hlist, List.reverse_reverse]
    exact hchain
  · rw [hlist]
    exact ⟨List.nodup_reverse.mpr hnodup, fun g hg => hchain.exist g (List.mem_reverse.mp hg),
      List.isChain_reverse.mpr hchain.linked, by rw [List.head?_reverse]; exact hchain.outermost⟩
  · rw [hlist, List.getLast?_reverse, hchain.head]
    cases hgroup : tn.group with
    | none => rfl
    | some g =>
      rw [Option.filter_some, if_pos (by simpa using hinv.grouped t tn ht g hgroup)]
  · rw [mem_ancestorGroups_iff ht]
    exact and_iff_left hg

/-- A group below a missing parent, a group below that one, and a tenant in it. -/
def danglingHierarchy : List (Env × Call) :=
  [(.numbered 1, .createGroupAutoid (text "division") .team (some ⟨0, 9⟩)),
   (.numbered 2, .createGroup (text "team") .team (some ⟨0, 1⟩)),
   (.numbered 3, .createTenant ⟨0, 1⟩ (text "a") (some ⟨0, 2⟩) 100)]

theorem hierarchy_walks_end_dangling :
    IsHierarchyChain (danglingHierarchy.foldl Engine.after {})
      ((danglingHierarchy.foldl Engine.after {}).ancestorGroups ⟨0, 1⟩) ∧
    (danglingHierarchy.foldl Engine.after {}).ancestorGroups ⟨0, 1⟩ = [⟨0, 1⟩, ⟨0, 2⟩] := by
  have hrun : Run Engine.after NewGroupId {} danglingHierarchy (danglingHierarchy.foldl Engine.after {}) :=
    Run.of_check _ _ (by decide +kernel)
  obtain ⟨tn, ht⟩ : ∃ tn, (danglingHierarchy.foldl Engine.after {}).tenants.lookup ⟨0, 1⟩ = some tn :=
    ⟨_, rfl⟩
  exact ⟨(hierarchy_walks_end {} hrun ht).2.2.1, by decide +kernel⟩

end Engine

end QuotaFabric
