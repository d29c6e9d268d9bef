import QuotaFabric.Engine.State

/-!
# Merged limits and ancestor walks

* `mergeMin_cell` — a merged limit is one of the limits of the chain, and is never negative;
* `mergeMin_le` — it is at most each of them;
* `effectiveLattice_valid` — merged limits are 64-bit amounts when the stored ones are;
* `mem_ancestorGroups_iff` — the walk that lists a tenant's ancestors and the walk that tests for
  one agree.
-/

set_option autoImplicit false

namespace QuotaFabric

open AList

/-! ## Merging by minimum -/

/-- The cell a chain leaves is one of its values, or what was there before. -/
theorem foldl_mergeStep_cell (d : ResourceDimension) : ∀ (chain : List ResourceVector)
    (st : Bool × Option Int) {x : Int}, (chain.foldl (mergeStep d) st).2 = some x →
      st.2 = some x ∨ (0 ≤ x ∧ ∃ v ∈ chain, v.cell d = some x)
  | [], _, _, h => Or.inl h
  | v :: chain, st, x, h => by
    rw [List.foldl_cons] at h
    rcases foldl_mergeStep_cell d chain _ h with h | ⟨h0, w, hw, hx⟩
    · unfold mergeStep at h
      split at h
      · exact Or.inl h
      · rename_i y hy
        split at h
        · simp only at h
          split at h
          · exact Or.inl h
          · cases h
            exact Or.inr ⟨by omega, v, List.mem_cons_self, hy⟩
        · exact Or.inl h
    · exact Or.inr ⟨h0, w, List.mem_cons_of_mem v hw, hx⟩

theorem mergeMin_cell {chain : List ResourceVector} {d : ResourceDimension} {x : Int}
    (h : (mergeMin chain).cell d = some x) : 0 ≤ x ∧ ∃ v ∈ chain, v.cell d = some x := by
  rcases foldl_mergeStep_cell d chain (false, none) h with h | h
  · cases h
  · exact h

theorem mergeMin_nonNeg (chain : List ResourceVector) : (mergeMin chain).NonNeg := by
  intro d
  unfold SparseVec.get
  cases h : (mergeMin chain).cell d with
  | none => exact le_refl 0
  | some x => exact (mergeMin_cell h).1

theorem mergeMin_valid {chain : List ResourceVector} (h : ∀ v ∈ chain, v.Valid) :
    (mergeMin chain).Valid := by
  intro d
  refine ⟨mergeMin_nonNeg chain d, ?_⟩
  unfold SparseVec.get
  cases hc : (mergeMin chain).cell d with
  | none => decide
  | some x =>
    obtain ⟨-, v, hv, hx⟩ := mergeMin_cell hc
    have hle := (h v hv d).2
    unfold SparseVec.get at hle
    rw [hx] at hle
    exact hle

/-- Once a value is stored, the loop only lowers it; each value it passes bounds it. -/
theorem foldl_mergeStep_le (d : ResourceDimension) : ∀ (chain : List ResourceVector) (b : Int),
    (∀ v ∈ chain, v.NonNeg) →
      ∃ x, chain.foldl (mergeStep d) (true, some b) = (true, some x) ∧ x ≤ b ∧
        ∀ v ∈ chain, ∀ y, v.cell d = some y → x ≤ y
  | [], b, _ => ⟨b, rfl, le_refl b, fun _ hv => absurd hv List.not_mem_nil⟩
  | v :: chain, b, hnn => by
    have hnn' := fun w hw => hnn w (List.mem_cons_of_mem v hw)
    have hv := hnn v List.mem_cons_self d
    unfold SparseVec.get at hv
    rw [List.foldl_cons]
    cases hc : v.cell d with
    | none =>
      have hstep : mergeStep d (true, some b) v = (true, some b) := by unfold mergeStep; rw [hc]
      obtain ⟨x, hx, hle, hall⟩ := foldl_mergeStep_le d chain b hnn'
      refine ⟨x, by rw [hstep]; exact hx, hle, fun w hw y hy => ?_⟩
      rcases List.mem_cons.mp hw with rfl | hw
      · rw [hc] at hy; cases hy
      · exact hall w hw y hy
    | some y =>
      rw [hc] at hv
      have hstep : mergeStep d (true, some b) v = (true, some (Min.min y b)) := by
        unfold mergeStep
        rw [hc]
        simp only [Bool.not_true, Bool.false_or, decide_eq_true_eq, Option.getD_some]
        have hy0 : ¬ y < 0 := not_lt.mpr hv
        by_cases hlt : y < b
        · rw [if_pos hlt, if_neg hy0, min_eq_left hlt.le]
        · rw [if_neg hlt, min_eq_right (not_lt.mp hlt)]
      obtain ⟨x, hx, hle, hall⟩ := foldl_mergeStep_le d chain (Min.min y b) hnn'
      refine ⟨x, by rw [hstep]; exact hx, hle.trans (min_le_right y b), fun w hw z hz => ?_⟩
      rcases List.mem_cons.mp hw with rfl | hw
      · rw [hc] at hz
        cases hz
        exact hle.trans (min_le_left y b)
      · exact hall w hw z hz

/-- **A merged limit is set wherever one of the chain is, and bounded by it.** -/
theorem mergeMin_le {d : ResourceDimension} : ∀ {chain : List ResourceVector},
    (∀ v ∈ chain, v.NonNeg) → ∀ {v : ResourceVector}, v ∈ chain → v.present d = true →
      (mergeMin chain).present d = true ∧ (mergeMin chain).get d ≤ v.get d
  | [], _, _, hv, _ => absurd hv List.not_mem_nil
  | w :: chain, hnn, v, hv, hp => by
    have hnn' := fun u hu => hnn u (List.mem_cons_of_mem w hu)
    have hw := hnn w List.mem_cons_self d
    unfold SparseVec.get at hw
    cases hc : w.cell d with
    | none =>
      have heq : (mergeMin (w :: chain)).cell d = (mergeMin chain).cell d := by
        change ((w :: chain).foldl (mergeStep d) (false, none)).2 = _
        rw [List.foldl_cons]
        have hstep : mergeStep d (false, none) w = (false, none) := by unfold mergeStep; rw [hc]
        rw [hstep]; rfl
      have hv' : v ∈ chain := by
        rcases List.mem_cons.mp hv with rfl | hv
        · unfold SparseVec.present at hp; rw [hc] at hp; cases hp
        · exact hv
      have ih := mergeMin_le hnn' hv' hp
      unfold SparseVec.present SparseVec.get at ih ⊢
      rw [heq]
      exact ih
    | some y =>
      rw [hc] at hw
      have hstep : mergeStep d (false, none) w = (true, some y) := by
        unfold mergeStep
        rw [hc]
        have hy0 : ¬ y < 0 := not_lt.mpr hw
        simp only [Bool.not_false, Bool.true_or, if_true]
        rw [if_neg hy0]
      obtain ⟨x, hx, hle, hall⟩ := foldl_mergeStep_le d chain y hnn'
      have heq : (mergeMin (w :: chain)).cell d = some x := by
        change ((w :: chain).foldl (mergeStep d) (false, none)).2 = _
        rw [List.foldl_cons, hstep, hx]
      have hval := SparseVec.cell_of_present hp
      have hbound : x ≤ v.get d := by
        rcases List.mem_cons.mp hv with rfl | hv
        · rw [hc] at hval
          have hyv : y = v.get d := Option.some.inj hval
          omega
        · exact hall v hv _ hval
      refine ⟨?_, ?_⟩
      · unfold SparseVec.present; rw [heq]; rfl
      · change ((mergeMin (w :: chain)).cell d).getD 0 ≤ v.get d
        rw [heq]; exact hbound

/-! ## The effective lattice -/

namespace Engine

/-- Every stored quota holds 64-bit amounts. -/
structure QuotasValid (s : Engine) : Prop where
  localQuota : ∀ t q, s.localQuota.lookup t = some q → q.Valid
  groupQuota : ∀ g q, s.groupQuota.lookup g = some q → q.Valid

instance (s : Engine) : Decidable (QuotasValid s) :=
  decidable_of_iff
    ((∀ t q, s.localQuota.lookup t = some q → q.Valid) ∧ ∀ g q, s.groupQuota.lookup g = some q → q.Valid)
    ⟨fun ⟨h1, h2⟩ => ⟨h1, h2⟩, fun h => ⟨h.localQuota, h.groupQuota⟩⟩

theorem quotaChain_valid {s : Engine} (h : QuotasValid s) (t : TenantId) :
    ∀ q ∈ s.quotaChain t, q.Valid := by
  intro q hq
  unfold quotaChain at hq
  rcases List.mem_append.mp hq with hq | hq
  · obtain ⟨g, -, hg⟩ := List.mem_filterMap.mp hq
    exact h.groupQuota g q hg
  · exact h.localQuota t q (Option.mem_toList.mp hq)

section Fields

variable (s : Engine) (t : TenantId)

theorem effectiveLattice_guaranteed :
    (s.effectiveLattice t).guaranteed = mergeMin ((s.quotaChain t).map (·.guaranteed)) := by
  unfold effectiveLattice
  simp only
  split <;> rfl

theorem effectiveLattice_softLimit :
    (s.effectiveLattice t).softLimit = mergeMin ((s.quotaChain t).map (·.softLimit)) := by
  unfold effectiveLattice
  simp only
  split <;> rfl

theorem effectiveLattice_hardLimit :
    (s.effectiveLattice t).hardLimit = mergeMin ((s.quotaChain t).map (·.hardLimit)) := by
  unfold effectiveLattice
  simp only
  split <;> rfl

theorem effectiveLattice_borrowable :
    (s.effectiveLattice t).borrowable = mergeMin ((s.quotaChain t).map (·.borrowable)) := by
  unfold effectiveLattice
  simp only
  split <;> rfl

theorem effectiveLattice_physicalCapacity :
    (s.effectiveLattice t).physicalCapacity = mergeMin ((s.quotaChain t).map (·.physicalCapacity)) := by
  unfold effectiveLattice
  simp only
  split <;> rfl

end Fields

/-- **Effective limits are 64-bit amounts.** -/
theorem effectiveLattice_valid {s : Engine} (h : QuotasValid s) (t : TenantId) :
    (s.effectiveLattice t).guaranteed.Valid ∧ (s.effectiveLattice t).softLimit.Valid ∧
      (s.effectiveLattice t).hardLimit.Valid ∧ (s.effectiveLattice t).borrowable.Valid := by
  have hq := quotaChain_valid h t
  have hmap : ∀ f : ResourceQuota → ResourceVector, (∀ q, q.Valid → (f q).Valid) →
      (mergeMin ((s.quotaChain t).map f)).Valid := by
    intro f hf
    apply mergeMin_valid
    intro v hv
    obtain ⟨q, hqm, rfl⟩ := List.mem_map.mp hv
    exact hf q (hq q hqm)
  rw [effectiveLattice_guaranteed, effectiveLattice_softLimit, effectiveLattice_hardLimit,
    effectiveLattice_borrowable]
  exact ⟨hmap _ fun _ h => h.guaranteed, hmap _ fun _ h => h.softLimit, hmap _ fun _ h => h.hardLimit,
    hmap _ fun _ h => h.borrowable⟩

/-- A group quota governs every tenant below the group. -/
theorem mem_quotaChain {s : Engine} {t : TenantId} {g : TenantGroupId} {q : ResourceQuota}
    (hg : g ∈ s.ancestorGroups t) (hq : s.groupQuota.lookup g = some q) : q ∈ s.quotaChain t := by
  unfold quotaChain
  exact List.mem_append_left _ (List.mem_filterMap.mpr ⟨g, hg, hq⟩)

/-! ## Ancestor walks -/

theorem mem_parentChain_iff (s : Engine) {g : TenantGroupId} :
    ∀ (n : Nat) (cur : Option TenantGroupId),
      g ∈ s.parentChain n cur ↔ s.reachesGroup g n cur = true ∧ g ∈ s.groups
  | 0, _ => by simp [parentChain, reachesGroup]
  | _ + 1, none => by simp [parentChain, reachesGroup]
  | n + 1, some c => by
    unfold parentChain reachesGroup
    cases hc : s.groups.lookup c with
    | none =>
      by_cases hcg : c = g
      · subst hcg
        have hno : c ∉ s.groups := fun hm => by
          rw [← lookup_isSome, hc] at hm; cases hm
        simp [hno]
      · simp [hcg]
    | some gr =>
      have ih := mem_parentChain_iff s (g := g) n gr.parent
      by_cases hcg : c = g
      · subst hcg
        simp [mem_of_lookup hc]
      · have hgc : ¬ g = c := fun h => hcg h.symm
        simp only [List.mem_cons, hgc, false_or, hcg, if_false]
        exact ih

/-- **The listed ancestors of a tenant are the existing groups it has as ancestors.** -/
theorem mem_ancestorGroups_iff {s : Engine} {t : TenantId} {tn : Tenant} {g : TenantGroupId}
    (ht : s.tenants.lookup t = some tn) :
    g ∈ s.ancestorGroups t ↔ s.hasAncestor tn g = true ∧ g ∈ s.groups := by
  unfold ancestorGroups hasAncestor
  rw [ht]
  simp only [List.mem_reverse]
  exact mem_parentChain_iff s s.walkFuel tn.group

end Engine

end QuotaFabric
