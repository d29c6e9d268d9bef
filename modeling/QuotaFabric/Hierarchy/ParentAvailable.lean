import QuotaFabric.Accounting.Aggregation
import QuotaFabric.Decisions.Decomposition
import QuotaFabric.Limits.Coherence
import QuotaFabric.Limits.GuaranteePool

/-!
# What the parents have left

`classify` reports in `parent_available` the smallest soft limit along the chain of ancestors, less the
sum of what is committed below each of them.  The subtrees of a chain contain one another, so the sum
counts the innermost once for each ancestor.

* `min_room_iff` — when the smallest limit less the sum of all uses is the smallest room, over any list;
* `mergeSoft_cell` — the loop over the soft limits is `merge_min`;
* `parentRooms` — the room below each ancestor with a soft limit;
* `ParentCountedOnce`, `parent_available_iff` — where `parent_available` is the smallest of them;
* `parent_available_counts_twice` — a run after which it is not.
-/

set_option autoImplicit false

namespace QuotaFabric

/-! ## The smallest room -/

section Rooms

variable {α : Type} {limited : List α} {limit use : α → Int} {least used : Int}

/-- What the smallest limit leaves of a use as large as any is at most every room. -/
theorem least_room_le (hleast : ∀ x ∈ limited, least ≤ limit x) (hused : ∀ x ∈ limited, use x ≤ used) :
    ∀ x ∈ limited, max 0 (least - used) ≤ max 0 (limit x - use x) := by
  intro x hx
  have hl := hleast x hx
  have hu := hused x hx
  omega

/-- **The smallest limit less a use as large as any is the smallest room** exactly where some limit is
    used up, or the smallest limit is one whose use is the whole. -/
theorem min_room_iff (hleast : ∀ x ∈ limited, least ≤ limit x) (hattained : ∃ x ∈ limited, limit x = least)
    (hused : ∀ x ∈ limited, use x ≤ used) :
    (limited.map fun x => max 0 (limit x - use x)).min? = some (max 0 (least - used)) ↔
      (∃ x ∈ limited, limit x ≤ use x) ∨
        ∃ x ∈ limited, (∀ y ∈ limited, limit x ≤ limit y) ∧ used = use x := by
  have hbound := least_room_le hleast hused
  rw [List.min?_eq_some_iff]
  simp only [List.mem_map, forall_exists_index, and_imp, forall_apply_eq_imp_iff₂]
  constructor
  · rintro ⟨⟨x, hx, heq⟩, -⟩
    have hl := hleast x hx
    have hu := hused x hx
    by_cases hfull : limit x ≤ use x
    · exact .inl ⟨x, hx, hfull⟩
    · refine .inr ⟨x, hx, fun y hy => ?_, by omega⟩
      have hy := hleast y hy
      omega
  · rintro (⟨x, hx, hfull⟩ | ⟨x, hx, hmin, hall⟩)
    · have hx' := hbound x hx
      exact ⟨⟨x, hx, by omega⟩, hbound⟩
    · obtain ⟨z, hz, hzl⟩ := hattained
      have hxz := hmin z hz
      have hl := hleast x hx
      exact ⟨⟨x, hx, by omega⟩, hbound⟩

end Rooms

/-! ## The loop over the soft limits -/

namespace ResourceVector

/-- One step of the loop over the soft limits. -/
def mergeSoft (soft v : ResourceVector) : ResourceVector := min (if soft.isEmpty then v else soft) v

/-- One step is one step of `merge_min`. -/
theorem mergeStep_mergeSoft {soft v : ResourceVector} (hsoft : soft.NonNeg) (hv : v.NonNeg)
    (d : ResourceDimension) :
    mergeStep d (soft.present d, soft.cell d) v = ((mergeSoft soft v).present d, (mergeSoft soft v).cell d) := by
  have hcell : (mergeSoft soft v).cell d =
      match soft.cell d, v.cell d with
      | x, none => x
      | none, some y => some y
      | some x, some y => some (Min.min x y) := by
    have hx := hsoft d
    have hy := hv d
    unfold mergeSoft
    unfold SparseVec.get at hx hy
    by_cases hempty : soft.isEmpty = true
    · have hnone : soft.cell d = none := by
        rw [isEmpty_iff_eq_empty.mp hempty]
        rfl
      rw [if_pos hempty, min_self hv, hnone]
      cases v.cell d <;> rfl
    · rw [if_neg hempty]
      unfold min
      simp only
      cases hs : soft.cell d with
      | none =>
        cases hc : v.cell d with
        | none => rfl
        | some y =>
          rw [hc, Option.getD_some] at hy
          simp only [stored]
          rw [if_neg (not_lt.mpr hy)]
      | some x =>
        rw [hs, Option.getD_some] at hx
        cases hc : v.cell d with
        | none =>
          simp only [stored]
          rw [if_neg (not_lt.mpr hx)]
        | some y =>
          rw [hc, Option.getD_some] at hy
          simp only [stored]
          rw [if_neg (by omega)]
  unfold SparseVec.present mergeStep
  rw [hcell]
  cases hs : soft.cell d with
  | none =>
    cases hc : v.cell d with
    | none => rfl
    | some y =>
      have hy := hv d
      unfold SparseVec.get at hy
      rw [hc, Option.getD_some] at hy
      simp only [Option.isSome_none, Bool.not_false, Bool.true_or, if_true, Option.isSome_some]
      rw [if_neg (not_lt.mpr hy)]
  | some x =>
    cases hc : v.cell d with
    | none => rfl
    | some y =>
      have hy := hv d
      unfold SparseVec.get at hy
      rw [hc, Option.getD_some] at hy
      simp only [Option.isSome_some, Bool.not_true, Bool.false_or, decide_eq_true_eq, Option.getD_some]
      by_cases hlt : y < x
      · rw [if_pos hlt, if_neg (not_lt.mpr hy), min_eq_right hlt.le]
      · rw [if_neg hlt, min_eq_left (not_lt.mp hlt)]

theorem foldl_mergeSoft_cell (d : ResourceDimension) : ∀ (l : List ResourceVector) (soft : ResourceVector),
    soft.NonNeg → (∀ v ∈ l, v.NonNeg) →
    (l.foldl mergeSoft soft).cell d = (l.foldl (mergeStep d) (soft.present d, soft.cell d)).2
  | [], _, _, _ => rfl
  | v :: l, soft, hsoft, hl => by
    rw [List.foldl_cons, List.foldl_cons, mergeStep_mergeSoft hsoft (hl v List.mem_cons_self) d,
      foldl_mergeSoft_cell d l (mergeSoft soft v) (min_nonNeg _ _) fun w hw => hl w (List.mem_cons_of_mem v hw)]

/-- **The loop over the soft limits is `merge_min`.** -/
theorem foldl_mergeSoft_eq {l : List ResourceVector} (hl : ∀ v ∈ l, v.NonNeg) :
    l.foldl mergeSoft .empty = mergeMin l := by
  ext1
  funext d
  exact foldl_mergeSoft_cell d l .empty (fun _ => le_refl 0) hl

theorem get_diffClamp (a b : ResourceVector) (d : ResourceDimension) :
    (diffClamp a b).get d = max 0 (a.get d - b.get d) := by
  show (if (!a.present d && !b.present d) = true then none else some _).getD 0 = _
  split
  · rename_i habsent
    obtain ⟨ha, hb⟩ := (Bool.and_eq_true _ _).mp habsent
    rw [SparseVec.get_of_not_present (by simpa using ha), SparseVec.get_of_not_present (by simpa using hb)]
    rfl
  · rw [Option.getD_some]
    split <;> omega

end ResourceVector

/-! ## Ancestors with a soft limit -/

namespace Engine

/-- The ancestors of `t` that have a quota, from the outermost in. -/
def quotedAncestors (s : Engine) (t : TenantId) : List (TenantGroupId × ResourceQuota) :=
  (s.ancestorGroups t).filterMap fun g => (s.groupQuota.lookup g).map fun q => (g, q)

/-- Those whose quota has a soft limit on `d`. -/
def softAncestors (s : Engine) (t : TenantId) (d : ResourceDimension) : List (TenantGroupId × ResourceQuota) :=
  (s.quotedAncestors t).filter fun gq => gq.2.softLimit.present d

/-- `subtree_committed` below an ancestor. -/
def committedUnder (env : Env) (s : Engine) (d : ResourceDimension) (gq : TenantGroupId × ResourceQuota) : Int :=
  (s.subtreeCommitted env gq.1).get d

/-- What each soft limit on `d` above `t` leaves of what is committed below its group. -/
def parentRooms (env : Env) (s : Engine) (t : TenantId) (d : ResourceDimension) : List Int :=
  (s.softAncestors t d).map fun gq => max 0 (gq.2.softLimit.get d - s.committedUnder env d gq)

/-- The commitments below the ancestors of `t`, added up. -/
def chainCommitted (env : Env) (s : Engine) (t : TenantId) (d : ResourceDimension) : Int :=
  ((s.quotedAncestors t).map (s.committedUnder env d)).sum

/-- What the loop of `add`s keeps of that sum. -/
def chainKept (env : Env) (s : Engine) (t : TenantId) (d : ResourceDimension) : Int :=
  (ResourceVector.sumOf ((s.quotedAncestors t).map fun gq => s.subtreeCommitted env gq.1)).get d

/-- No sum of commitments along the chain overflows on `d` or on a dimension before it. -/
def ChainFits (env : Env) (s : Engine) (t : TenantId) (d : ResourceDimension) : Prop :=
  FitsUpTo (s.chainCommitted env t) d

/-- Counting what is committed below each ancestor makes no difference on `d`.  Where the sum fits, some
    soft limit is used up, or one of the smallest limits is that of the only ancestor with anything
    committed below.  Where it does not, what is kept of the sum happens to be what the smallest limit
    exceeds the smallest room by; an `add` that overflows keeps the dimensions before, so this turns on the
    other dimensions as well. -/
def ParentCountedOnce (env : Env) (s : Engine) (t : TenantId) (d : ResourceDimension) : Prop :=
  (ChainFits env s t d ∧
    ((∃ gq ∈ s.softAncestors t d, gq.2.softLimit.get d ≤ s.committedUnder env d gq) ∨
      ∃ gq ∈ s.softAncestors t d,
        (∀ gq' ∈ s.softAncestors t d, gq.2.softLimit.get d ≤ gq'.2.softLimit.get d) ∧
          s.chainCommitted env t d = s.committedUnder env d gq)) ∨
  (¬ ChainFits env s t d ∧
    ∃ room ∈ s.parentRooms env t d, (∀ room' ∈ s.parentRooms env t d, room ≤ room') ∧
      ∃ gq ∈ s.softAncestors t d,
        (∀ gq' ∈ s.softAncestors t d, gq.2.softLimit.get d ≤ gq'.2.softLimit.get d) ∧
          max 0 (gq.2.softLimit.get d - s.chainKept env t d) = room)

instance (env : Env) (s : Engine) (t : TenantId) (d : ResourceDimension) : Decidable (ChainFits env s t d) :=
  inferInstanceAs (Decidable (FitsUpTo _ d))

instance (env : Env) (s : Engine) (t : TenantId) (d : ResourceDimension) :
    Decidable (ParentCountedOnce env s t d) :=
  inferInstanceAs (Decidable ((_ ∧ (_ ∨ _)) ∨ (_ ∧ _)))

section Main

variable {env : Env} {s : Engine} {t : TenantId} {d : ResourceDimension}

theorem committedUnder_nonneg
    (hcounters : ∀ x, (s.usageOf x).consumption.NonNeg ∧ (s.usageOf x).reserved.NonNeg)
    (gq : TenantGroupId × ResourceQuota) : 0 ≤ s.committedUnder env d gq :=
  ResourceVector.sumOf_nonNeg (subtree_nonNeg hcounters gq.1) d

theorem mem_quotedAncestors {gq : TenantGroupId × ResourceQuota} (h : gq ∈ s.quotedAncestors t) :
    s.groupQuota.lookup gq.1 = some gq.2 := by
  obtain ⟨g, -, hg⟩ := List.mem_filterMap.mp h
  obtain ⟨q, hq, rfl⟩ := Option.map_eq_some_iff.mp hg
  exact hq

theorem softLimits_nonNeg (hquotas : QuotasValid s) :
    ∀ v ∈ (s.quotedAncestors t).map fun gq => gq.2.softLimit, v.NonNeg := by
  intro v hv
  obtain ⟨gq, hgq, rfl⟩ := List.mem_map.mp hv
  exact (hquotas.groupQuota gq.1 gq.2 (mem_quotedAncestors hgq)).softLimit.nonNeg

/-- The vector of smallest soft limits along the chain. -/
def chainSoft (s : Engine) (t : TenantId) : ResourceVector :=
  mergeMin ((s.quotedAncestors t).map fun gq => gq.2.softLimit)

theorem parentAvailable_eq (hquotas : QuotasValid s) :
    s.parentAvailable env t = ResourceVector.diffClamp (s.chainSoft t)
      (ResourceVector.sumOf ((s.quotedAncestors t).map fun gq => s.subtreeCommitted env gq.1)) := by
  have hsoft := ResourceVector.foldl_mergeSoft_eq (@softLimits_nonNeg s t hquotas)
  rw [List.foldl_map] at hsoft
  unfold chainSoft
  rw [← hsoft]
  rfl

/-- **The snapshot is the smallest soft limit less the kept sum.** -/
theorem get_parentAvailable (hquotas : QuotasValid s) (d : ResourceDimension) :
    (s.parentAvailable env t).get d = max 0 ((s.chainSoft t).get d - s.chainKept env t d) := by
  rw [parentAvailable_eq hquotas, ResourceVector.get_diffClamp]
  rfl

/-- The smallest soft limit is one of those along the chain, and at most each. -/
theorem chainSoft_least (hquotas : QuotasValid s) (hlimited : s.softAncestors t d ≠ []) :
    (∀ gq ∈ s.softAncestors t d, (s.chainSoft t).get d ≤ gq.2.softLimit.get d) ∧
      ∃ gq ∈ s.softAncestors t d, gq.2.softLimit.get d = (s.chainSoft t).get d := by
  have hle : ∀ gq ∈ s.softAncestors t d,
      (s.chainSoft t).present d = true ∧ (s.chainSoft t).get d ≤ gq.2.softLimit.get d := by
    intro gq hgq
    obtain ⟨hmem, hpres⟩ := List.mem_filter.mp hgq
    exact mergeMin_le (softLimits_nonNeg hquotas) (List.mem_map_of_mem hmem) hpres
  refine ⟨fun gq hgq => (hle gq hgq).2, ?_⟩
  obtain ⟨gq, hgq⟩ := List.exists_mem_of_ne_nil _ hlimited
  obtain ⟨v, hv, hpres, heq⟩ := mergeMin_attained (hle gq hgq).1
  obtain ⟨gq', hgq', rfl⟩ := List.mem_map.mp hv
  exact ⟨gq', List.mem_filter.mpr ⟨hgq', hpres⟩, heq⟩

/-- **The parents' availability is the smallest room among them** exactly where nothing is counted for
    two of them to any effect. -/
theorem parent_available_iff {req : ResourceVector} (hquotas : QuotasValid s)
    (hcounters : ∀ x, (s.usageOf x).consumption.NonNeg ∧ (s.usageOf x).reserved.NonNeg)
    (hent : hasEntitlement (s.effectiveLattice t) = true) (hreq : req.isEmpty = false)
    (hlimited : s.softAncestors t d ≠ []) :
    (s.parentRooms env t d).min? = some ((s.evaluateReservation env t req).parentAvailable.get d) ↔
      ParentCountedOnce env s t d := by
  have havail : (s.evaluateReservation env t req).parentAvailable = s.parentAvailable env t := by
    unfold evaluateReservation classify
    simp only [hreq, hent, Bool.false_eq_true, if_false, Bool.not_true]
  obtain ⟨hleast, hattained⟩ := chainSoft_least hquotas hlimited
  rw [havail, get_parentAvailable hquotas]
  unfold ParentCountedOnce
  by_cases hfit : ChainFits env s t d
  · have hkept : s.chainKept env t d = s.chainCommitted env t d := by
      have hsum : ∀ e, (((s.quotedAncestors t).map fun gq => s.subtreeCommitted env gq.1).map (·.get e)).sum =
          s.chainCommitted env t e := by
        intro e
        rw [List.map_map]
        rfl
      unfold chainKept
      rw [ResourceVector.sumOf_get, hsum]
      · intro v hv
        obtain ⟨gq, -, rfl⟩ := List.mem_map.mp hv
        exact ResourceVector.sumOf_nonNeg (subtree_nonNeg hcounters gq.1)
      · intro e he
        exact (hsum e).trans_le (hfit e he)
    have hpart : ∀ gq ∈ s.softAncestors t d, s.committedUnder env d gq ≤ s.chainCommitted env t d := by
      intro gq hgq
      refine List.single_le_sum (fun x hx => ?_) _ (List.mem_map_of_mem (List.mem_filter.mp hgq).1)
      obtain ⟨gq', -, rfl⟩ := List.mem_map.mp hx
      exact committedUnder_nonneg hcounters gq'
    rw [hkept]
    simp only [hfit, true_and, not_true_eq_false, false_and, or_false]
    exact min_room_iff hleast hattained hpart
  · simp only [hfit, false_and, not_false_eq_true, true_and, false_or]
    rw [List.min?_eq_some_iff]
    constructor
    · rintro ⟨hmem, hmin⟩
      obtain ⟨gq, hgq, heq⟩ := hattained
      exact ⟨_, hmem, hmin, gq, hgq, fun gq' hgq' => heq.trans_le (hleast gq' hgq'), by rw [heq]⟩
    · rintro ⟨room, hmem, hmin, gq, hgq, hsmallest, heq⟩
      obtain ⟨gq', hgq', heq'⟩ := hattained
      have hsame : gq.2.softLimit.get d = (s.chainSoft t).get d :=
        le_antisymm ((hsmallest gq' hgq').trans_eq heq') (hleast gq hgq)
      rw [← hsame, heq]
      exact ⟨hmem, hmin⟩

end Main

/-! ## Runs -/

/-- An organisation and a team below it, each with a soft limit of 10; a tenant below `g` reserves 3. -/
def nestedGroups (g : TenantGroupId) : List (Env × Call) :=
  [(.numbered 1, .createGroup [] .organization none),
   (.numbered 2, .createGroup [] .team (some ⟨0, 1⟩)),
   (.numbered 3, .setGroupQuota ⟨0, 1⟩ { softLimit := .fromScalar .acceleratorVRAM 10 }),
   (.numbered 4, .setGroupQuota ⟨0, 2⟩ { softLimit := .fromScalar .acceleratorVRAM 10 }),
   (.numbered 5, .createTenant cappedTenant [] (some g) 100),
   (.numbered 6, .reserve cappedTenant (.fromScalar .acceleratorVRAM 3) thirdGeneration)]

/-- The engine after these calls. -/
def nestedEngine (g : TenantGroupId) : Engine := (nestedGroups g).foldl Engine.after {}

theorem parent_available_one_level :
    ((nestedEngine ⟨0, 1⟩).parentRooms {} cappedTenant .acceleratorVRAM).min? =
      some (((nestedEngine ⟨0, 1⟩).evaluateReservation {} cappedTenant
        (.fromScalar .acceleratorVRAM 2)).parentAvailable.get .acceleratorVRAM) :=
  (parent_available_iff (by decide +kernel) (counters_nonNeg_of_stored (by decide +kernel)) (by decide +kernel)
    (by decide) (by decide +kernel)).mpr (by decide +kernel)

/-- **With 3 units committed below two groups with a limit of 10 each, 4 are reported available**: the
    units count for both groups. -/
theorem parent_available_counts_twice :
    Run Engine.after (fun s c => FreshIds c.1 s) {} (nestedGroups ⟨0, 2⟩) (nestedEngine ⟨0, 2⟩) ∧
      hasEntitlement ((nestedEngine ⟨0, 2⟩).effectiveLattice cappedTenant) = true ∧
      ((nestedEngine ⟨0, 2⟩).parentRooms {} cappedTenant .acceleratorVRAM).min? = some 7 ∧
      ((nestedEngine ⟨0, 2⟩).evaluateReservation {} cappedTenant
        (.fromScalar .acceleratorVRAM 2)).parentAvailable.get .acceleratorVRAM = 4 := by
  have hrun : Run Engine.after (fun s c => FreshIds c.1 s) {} (nestedGroups ⟨0, 2⟩)
      ((nestedGroups ⟨0, 2⟩).foldl Engine.after {}) := Run.of_check _ _ (by decide +kernel)
  exact ⟨hrun, by decide +kernel, by decide +kernel, by decide +kernel⟩

end Engine

end QuotaFabric
