import QuotaFabric.Accounting.Checker
import QuotaFabric.Lib.Walks

/-!
# The cycle check

The first loop of `invariants_ok` walks the parent links of every group, with a set of the ids it has
seen.  The model gives the walk fuel; here the loop is run as the source runs it, without.

* `CycleLoop` — a run of the loop that ends, with what it reports;
* `unseen` — the groups not yet seen: each round takes one of them away, so the loop ends;
* `hierarchyError` — the check over all groups, the first of `invariants_ok`.

Principal result: `cycle_check_exact` — for every map of groups the loop ends, and the checker reports
a cycle exactly when following the parent links from some group meets an id twice.
-/

set_option autoImplicit false

namespace QuotaFabric

open AList

namespace Engine

/-- The parent link of a group; a missing group has none. -/
def parentLink (s : Engine) (g : TenantGroupId) : Option TenantGroupId := (s.groups.lookup g).bind (·.parent)

/-- `CycleLoop s seen cur found`: from `seen` and `cur` the loop ends, and `found` tells whether it met
    an id twice. -/
inductive CycleLoop (s : Engine) : List TenantGroupId → Option TenantGroupId → Bool → Prop
  | ended (seen : List TenantGroupId) : CycleLoop s seen none false
  | again {seen : List TenantGroupId} {c : TenantGroupId} (h : c ∈ seen) : CycleLoop s seen (some c) true
  | missing {seen : List TenantGroupId} {c : TenantGroupId} (h : c ∉ seen)
      (hc : s.groups.lookup c = none) : CycleLoop s seen (some c) false
  | up {seen : List TenantGroupId} {c : TenantGroupId} {gr : TenantGroup} {found : Bool} (h : c ∉ seen)
      (hc : s.groups.lookup c = some gr) (hrest : CycleLoop s (c :: seen) gr.parent found) :
      CycleLoop s seen (some c) found

/-- The check over all groups. -/
def hierarchyError (env : Env) (s : Engine) : Option Str :=
  (env.groupOrder s.groups.entries).findSome? fun e => s.cycleError e.1 e.2

/-! ## The loop ends -/

/-- The groups the walk has not seen. -/
def unseen (s : Engine) (seen : List TenantGroupId) : List TenantGroupId :=
  s.groups.keys.filter fun g => !seen.contains g

/-- A group met for the first time leaves the unseen ones. -/
theorem length_unseen_lt {s : Engine} {seen : List TenantGroupId} {c : TenantGroupId} {gr : TenantGroup}
    (h : c ∉ seen) (hc : s.groups.lookup c = some gr) : (s.unseen (c :: seen)).length < (s.unseen seen).length := by
  have hsplit : s.unseen (c :: seen) = (s.unseen seen).filter fun g => g ≠ c := by
    unfold unseen
    rw [List.filter_filter]
    refine List.filter_congr fun g _ => ?_
    simp
  have hmem : c ∈ s.unseen seen :=
    List.mem_filter.mpr ⟨AList.mem_keys.mp (mem_of_lookup hc), by simpa using h⟩
  rw [hsplit]
  exact List.length_filter_lt_length_iff_exists.mpr ⟨c, hmem, by simp⟩

/-- **With fuel for the unseen groups, the walk is a run of the loop.** -/
theorem cycleLoop_cycleWalk {s : Engine} : ∀ (n : Nat) (seen : List TenantGroupId) (cur : Option TenantGroupId),
    (s.unseen seen).length < n → CycleLoop s seen cur (s.cycleWalk n seen cur)
  | _ + 1, seen, none, _ => .ended seen
  | n + 1, seen, some c, hn => by
    rw [cycleWalk]
    split
    · rename_i h
      exact .again h
    · rename_i h
      cases hc : s.groups.lookup c with
      | none => exact .missing h hc
      | some gr =>
        have hless := length_unseen_lt h hc
        exact .up h hc (cycleLoop_cycleWalk n _ gr.parent (by omega))

/-- The fuel of the model is enough, for every group. -/
theorem cycleLoop_walkFuel (s : Engine) (gid : TenantGroupId) (cur : Option TenantGroupId) :
    CycleLoop s [gid] cur (s.cycleWalk s.walkFuel [gid] cur) := by
  apply cycleLoop_cycleWalk
  have hle : (s.unseen [gid]).length ≤ s.groups.keys.length := List.length_filter_le _ _
  have hkeys : s.groups.keys.length = s.groups.entries.length := List.length_map _
  unfold walkFuel
  omega

/-! ## What it reports -/

/-- The ids seen are the first `n + 1` of the walk from `gid`, and `cur` is the next one. -/
theorem CycleLoop.exact {s : Engine} {gid : TenantGroupId} {seen : List TenantGroupId}
    {cur : Option TenantGroupId} {found : Bool} (h : CycleLoop s seen cur found) :
    ∀ n : Nat, (∀ x ∈ seen, ∃ i ≤ n, walk s.parentLink i gid = some x) →
      walk s.parentLink (n + 1) gid = cur → (found = true ↔ Revisits s.parentLink gid) := by
  induction h with
  | ended seen =>
    intro n _ hcur
    simpa using not_revisits_of_ends hcur
  | @again seen c h =>
    intro n hseen hcur
    obtain ⟨i, hi, hwalk⟩ := hseen c h
    simpa using ⟨i, n + 1, c, by omega, hwalk, hcur⟩
  | @missing seen c _ hc =>
    intro n _ hcur
    have hend : walk s.parentLink (n + 1 + 1) gid = none := by
      rw [walk_add, hcur, Option.bind_some, walk]
      unfold parentLink
      rw [hc]
      rfl
    simpa using not_revisits_of_ends hend
  | @up seen c gr found _ hc _ ih =>
    intro n hseen hcur
    refine ih (n + 1) (fun x hx => ?_) ?_
    · rcases List.mem_cons.mp hx with rfl | hx
      · exact ⟨n + 1, le_refl _, hcur⟩
      · obtain ⟨i, hi, hwalk⟩ := hseen x hx
        exact ⟨i, by omega, hwalk⟩
    · rw [walk_add, hcur, Option.bind_some, walk]
      have hlink : s.parentLink c = gr.parent := by
        unfold parentLink
        rw [hc]
        rfl
      rw [hlink]
      cases gr.parent <;> rfl

theorem cycleError_isSome_iff {s : Engine} {gid : TenantGroupId} {gr : TenantGroup}
    (hg : s.groups.lookup gid = some gr) :
    s.cycleError gid gr = some (text "hierarchy cycle detected") ↔ Revisits s.parentLink gid := by
  have hfirst : walk s.parentLink 1 gid = gr.parent := by
    rw [walk, parentLink, hg, Option.bind_some]
    cases gr.parent <;> rfl
  have hexact : s.cycleWalk s.walkFuel [gid] gr.parent = true ↔ Revisits s.parentLink gid :=
    (cycleLoop_walkFuel s gid gr.parent).exact 0
      (fun x hx => ⟨0, le_refl 0, by rw [List.mem_singleton.mp hx]; rfl⟩) hfirst
  rw [← hexact]
  unfold cycleError
  split <;> simp_all

/-! ## The checker -/

/-- A text that is not the one of the cycle check, by its first letter. -/
def OtherError (m : Str) : Prop := m.head? ≠ some 'h'.toUInt8

instance (m : Str) : Decidable (OtherError m) := inferInstanceAs (Decidable (_ ≠ _))

theorem otherError_append {m rest : Str} (h : OtherError m) (hne : m ≠ []) : OtherError (m ++ rest) := by
  unfold OtherError at *
  rwa [List.head?_append_of_ne_nil m hne]

theorem quotaError_other {q : ResourceQuota} {m : Str} (h : quotaError q = some m) : OtherError m := by
  unfold quotaError at h
  split at h
  · cases h
    decide +kernel
  · cases h

theorem counterError_other {env : Env} {s : Engine} {t : TenantId} {u : Usage} {m : Str}
    (h : s.counterError env t u = some m) : OtherError m := by
  unfold counterError at h
  split at h
  · cases h
    exact otherError_append (by decide +kernel) (by decide +kernel)
  split at h
  · cases h
    exact otherError_append (by decide +kernel) (by decide +kernel)
  split at h
  · cases h
    exact otherError_append (by decide +kernel) (by decide +kernel)
  split at h
  · cases h
    exact otherError_append (by decide +kernel) (by decide +kernel)
  · cases h

theorem offerError_other {s : Engine} {b : BorrowRecord} {m : Str} (h : s.offerError b = some m) :
    OtherError m := by
  unfold offerError at h
  split at h
  · cases h
  split at h
  · cases h
    decide +kernel
  · cases h

theorem burstError_other {u : Usage} {m : Str} (h : burstError u = some m) : OtherError m := by
  unfold burstError at h
  split at h
  · cases h
    decide +kernel
  · cases h

/-- What the checker stores is the fault of the hierarchy, or another text. -/
theorem invariantsError_cases {env : Env} {s : Engine} {m : Str} (h : s.invariantsError env = some m) :
    s.hierarchyError env = some m ∨ OtherError m := by
  have hor : ∀ {a b : Option Str}, (a <|> b) = some m → a = some m ∨ b = some m := by
    intro a b hab
    cases a with
    | none => exact .inr hab
    | some x => exact .inl hab
  have hif : ∀ {p : Prop} [Decidable p] {x : Str}, (if p then some x else none) = some m → x = m := by
    intro p _ x hp
    split at hp
    · exact Option.some.inj hp
    · cases hp
  unfold invariantsError at h
  rcases hor h with h | h
  · exact .inl h
  right
  rcases hor h with h | h
  · obtain ⟨e, -, he⟩ := List.exists_of_findSome?_eq_some h
    exact quotaError_other he
  rcases hor h with h | h
  · obtain ⟨e, -, he⟩ := List.exists_of_findSome?_eq_some h
    exact counterError_other he
  rcases hor h with h | h
  · obtain ⟨e, -, he⟩ := List.exists_of_findSome?_eq_some h
    exact offerError_other he
  rcases hor h with h | h
  · obtain ⟨e, -, he⟩ := List.exists_of_findSome?_eq_some h
    rw [← hif he]
    decide +kernel
  rcases hor h with h | h
  · obtain ⟨e, -, he⟩ := List.exists_of_findSome?_eq_some h
    rw [← hif he]
    decide +kernel
  rcases hor h with h | h
  · obtain ⟨e, -, he⟩ := List.exists_of_findSome?_eq_some h
    rw [← hif he]
    decide +kernel
  · obtain ⟨e, -, he⟩ := List.exists_of_findSome?_eq_some h
    exact burstError_other he

theorem hierarchyError_iff (env : Env) (s : Engine) :
    s.hierarchyError env = some (text "hierarchy cycle detected") ↔
      ∃ gid, gid ∈ s.groups ∧ Revisits s.parentLink gid := by
  constructor
  · intro h
    obtain ⟨e, he, herr⟩ := List.exists_of_findSome?_eq_some h
    have hg := lookup_of_mem_entries (env.groupOrder.mem_run.mp he)
    exact ⟨e.1, mem_of_lookup hg, (cycleError_isSome_iff hg).mp herr⟩
  · rintro ⟨gid, hmem, hrev⟩
    obtain ⟨gr, hg⟩ := exists_lookup_of_mem hmem
    have herr := (cycleError_isSome_iff hg).mpr hrev
    -- the loop finds some fault, and every fault it can find has this text
    cases hfirst : s.hierarchyError env with
    | none =>
      have hnone := (findSome?_run_eq_none env.groupOrder s.groups fun g gr => s.cycleError g gr).mp hfirst gid gr hg
      rw [herr] at hnone
      cases hnone
    | some m =>
      obtain ⟨e, -, he⟩ := List.exists_of_findSome?_eq_some hfirst
      unfold cycleError at he
      split at he
      · exact he.symm
      · cases he

/-- **Cycle detection ends and is exact**: for every map of groups, whatever its links are, the loop
    comes to an end from every group and parent, and the checker reports a cycle exactly when following
    the parent links from some group of the map meets an id twice. -/
theorem cycle_check_exact (env : Env) (s : Engine) :
    (∀ gid cur, CycleLoop s [gid] cur (s.cycleWalk s.walkFuel [gid] cur)) ∧
    (s.invariantsError env = some (text "hierarchy cycle detected") ↔
      ∃ gid, gid ∈ s.groups ∧ Revisits s.parentLink gid) := by
  refine ⟨cycleLoop_walkFuel s, ?_⟩
  rw [← hierarchyError_iff env s]
  constructor
  · intro h
    refine (invariantsError_cases h).resolve_right fun hother => ?_
    revert hother
    decide +kernel
  · intro h
    unfold invariantsError
    rw [show ((env.groupOrder s.groups.entries).findSome? fun e => s.cycleError e.1 e.2) = _ from h]
    rfl

/-- A self-parent, a group that hangs below it, and a chain that ends in a missing group. -/
def tangledGroups : Engine :=
  { groups := (((∅ : UMap TenantGroupId TenantGroup).insert ⟨0, 1⟩ { parent := some ⟨0, 1⟩ }).insert
      ⟨0, 2⟩ { parent := some ⟨0, 1⟩ }).insert ⟨0, 3⟩ { parent := some ⟨0, 9⟩ } }

example : tangledGroups.cycleError ⟨0, 2⟩ { parent := some ⟨0, 1⟩ } = some (text "hierarchy cycle detected") ∧
    tangledGroups.cycleError ⟨0, 3⟩ { parent := some ⟨0, 9⟩ } = none := by decide +kernel

end Engine

end QuotaFabric
