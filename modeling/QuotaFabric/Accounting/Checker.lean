import QuotaFabric.Engine.Recompute

/-!
# The engine's own invariant checker

Model of `invariants_ok`: seven loops, each of which stops at the first entry it finds fault with.
The result is the text the source stores in `*err`, or nothing.

* `invariantsOk_iff` — the checker passes exactly when no loop finds fault with any entry, in
  whatever order they run;
* `cycleWalk_eq_false` — where every group's parent is an older group, or is missing, the walk along
  the parent links ends without meeting a group twice.
-/

set_option autoImplicit false

namespace QuotaFabric

open AList

/-- `neg`: only three dimensions are looked at. -/
def negAmount (v : ResourceVector) : Bool :=
  decide (v.get .acceleratorVRAM < 0) || decide (v.get .transferBytes < 0) ||
    decide (v.get .concurrentRequests < 0)

def quotaError (q : ResourceQuota) : Option Str :=
  if negAmount q.guaranteed || negAmount q.softLimit || negAmount q.hardLimit ||
      negAmount q.burstLimit || negAmount q.borrowable then
    some (text "negative quota value")
  else none

/-- The accounting closure: no burst is left once everything else is gone. -/
def burstError (u : Usage) : Option Str :=
  if u.consumption.isEmpty && u.reserved.isEmpty && u.borrowedConsumed.isEmpty && u.lent.isEmpty &&
      u.debt.isEmpty && !u.burst.isEmpty then
    some (text "burst leak after zero state")
  else none

namespace Engine

/-- The loop along the parent links: is an id met twice?  Each round puts a new id into `seen`, so
    the loop cannot outlast the fuel it is given; if it did, the check would fail. -/
def cycleWalk (s : Engine) : Nat → List TenantGroupId → Option TenantGroupId → Bool
  | 0, _, _ => true
  | _ + 1, _, none => false
  | n + 1, seen, some c =>
    if c ∈ seen then true
    else
      match s.groups.lookup c with
      | none => false
      | some gr => s.cycleWalk n (c :: seen) gr.parent

def cycleError (s : Engine) (gid : TenantGroupId) (g : TenantGroup) : Option Str :=
  if s.cycleWalk s.walkFuel [gid] g.parent then some (text "hierarchy cycle detected") else none

/-- The checker adds up every lending record, used up or not. -/
def recomputedLent (env : Env) (s : Engine) (t : TenantId) : ResourceVector :=
  ResourceVector.sumOf
    (((env.lendOrder s.lends.entries).filter fun e => e.2.lender == t).map fun e => e.2.outstanding)

/-- Counters against records, in the order of the source. -/
def counterError (env : Env) (s : Engine) (tid : TenantId) (u : Usage) : Option Str :=
  if s.recomputedReserved env tid ≠ u.reserved then
    some (text "reserved counter mismatch for tenant " ++ tid.toHex)
  else if s.computedConsumed env tid ≠ u.consumption then
    some (text "consumption counter mismatch for tenant " ++ tid.toHex)
  else if s.computedBorrowed env tid ≠ u.borrowedConsumed then
    some (text "borrowed counter mismatch for tenant " ++ tid.toHex)
  else if s.recomputedLent env tid ≠ u.lent then
    some (text "lent counter mismatch for tenant " ++ tid.toHex)
  else none

def offerError (s : Engine) (b : BorrowRecord) : Option Str :=
  match s.lends.lookup b.lending with
  | none => none
  | some l => if !l.amount.covers b.amount then some (text "borrow exceeds lending offer") else none

/-- `invariants_ok`, as the text it stores in `*err`. -/
def invariantsError (env : Env) (s : Engine) : Option Str :=
  ((env.groupOrder s.groups.entries).findSome? fun e => s.cycleError e.1 e.2) <|>
  ((env.quotaOrder s.localQuota.entries).findSome? fun e => quotaError e.2) <|>
  ((env.usageOrder s.usage.entries).findSome? fun e => s.counterError env e.1 e.2) <|>
  ((env.borrowOrder s.borrows.entries).findSome? fun e => s.offerError e.2) <|>
  ((env.borrowOrder s.borrows.entries).findSome? fun e =>
    if negAmount e.2.consumed then some (text "negative borrow consumed") else none) <|>
  ((env.reservationOrder s.reservations.entries).findSome? fun e =>
    if negAmount e.2.resources then some (text "negative reservation") else none) <|>
  ((env.allocationOrder s.allocations.entries).findSome? fun e =>
    if ResourceVector.min e.2.used e.2.resources ≠ e.2.used then
      some (text "allocation exceeds reservation")
    else none) <|>
  ((env.usageOrder s.usage.entries).findSome? fun e => burstError e.2)

def invariantsOk (env : Env) (s : Engine) : Bool := (s.invariantsError env).isNone

/-! ## What the checker checks -/

/-- A loop that stops at the first fault finds none exactly when no entry has one. -/
theorem findSome?_run_eq_none {K V : Type} [DecidableEq K] (ord : IterOrder (Σ _ : K, V))
    (m : UMap K V) (f : K → V → Option Str) :
    ((ord m.entries).findSome? fun e => f e.1 e.2) = none ↔
      ∀ a b, m.lookup a = some b → f a b = none := by
  rw [List.findSome?_eq_none_iff, forall_lookup_iff]
  constructor
  · exact fun h e he => h e (ord.mem_run.mpr he)
  · exact fun h e he => h e (ord.mem_run.mp he)

/-- **The checker passes exactly when no loop finds fault with any entry.** -/
theorem invariantsOk_iff (env : Env) (s : Engine) :
    s.invariantsOk env = true ↔
      (∀ g gr, s.groups.lookup g = some gr → s.cycleError g gr = none) ∧
      (∀ t q, s.localQuota.lookup t = some q → quotaError q = none) ∧
      (∀ t u, s.usage.lookup t = some u → s.counterError env t u = none) ∧
      (∀ bid b, s.borrows.lookup bid = some b → s.offerError b = none) ∧
      (∀ bid b, s.borrows.lookup bid = some b → negAmount b.consumed = false) ∧
      (∀ rid r, s.reservations.lookup rid = some r → negAmount r.resources = false) ∧
      (∀ aid a, s.allocations.lookup aid = some a →
        ResourceVector.min a.used a.resources = a.used) ∧
      (∀ t u, s.usage.lookup t = some u → burstError u = none) := by
  have hif : ∀ (p : Prop) [Decidable p] (m : Str), (if p then some m else none) = none ↔ ¬ p := by
    intro p _ m
    by_cases hp : p <;> simp [hp]
  have hor : ∀ a b : Option Str, (a <|> b) = none ↔ a = none ∧ b = none := by
    intro a b
    cases a <;> simp
  unfold invariantsOk invariantsError
  rw [Option.isNone_iff_eq_none]
  simp only [hor]
  rw [findSome?_run_eq_none env.groupOrder s.groups fun g gr => s.cycleError g gr,
    findSome?_run_eq_none env.quotaOrder s.localQuota fun _ q => quotaError q,
    findSome?_run_eq_none env.usageOrder s.usage fun t u => s.counterError env t u,
    findSome?_run_eq_none env.borrowOrder s.borrows fun _ b => s.offerError b,
    findSome?_run_eq_none env.borrowOrder s.borrows fun _ b =>
      if negAmount b.consumed then some (text "negative borrow consumed") else none,
    findSome?_run_eq_none env.reservationOrder s.reservations fun _ r =>
      if negAmount r.resources then some (text "negative reservation") else none,
    findSome?_run_eq_none env.allocationOrder s.allocations fun _ a =>
      if ResourceVector.min a.used a.resources ≠ a.used then
        some (text "allocation exceeds reservation")
      else none,
    findSome?_run_eq_none env.usageOrder s.usage fun _ u => burstError u]
  simp only [hif, Bool.not_eq_true, not_not]

theorem negAmount_of_nonNeg {v : ResourceVector} (h : v.NonNeg) : negAmount v = false := by
  have h1 := h .acceleratorVRAM
  have h2 := h .transferBytes
  have h3 := h .concurrentRequests
  simp [negAmount, not_lt.mpr h1, not_lt.mpr h2, not_lt.mpr h3]

theorem quotaError_of_valid {q : ResourceQuota} (h : q.Valid) : quotaError q = none := by
  simp [quotaError, negAmount_of_nonNeg h.guaranteed.nonNeg, negAmount_of_nonNeg h.softLimit.nonNeg,
    negAmount_of_nonNeg h.hardLimit.nonNeg, negAmount_of_nonNeg h.burstLimit.nonNeg,
    negAmount_of_nonNeg h.borrowable.nonNeg]

theorem covers_self (v : ResourceVector) : v.covers v = true := by
  unfold ResourceVector.covers
  rw [List.all_eq_true]
  intro d _
  cases v.present d <;> simp

/-! ## Acyclic hierarchies -/

/-- No group names itself or a newer group as its parent.  New groups stand first in the map. -/
def ParentsOlder (s : Engine) : Prop :=
  s.groups.entries.Pairwise (fun newer older => older.2.parent ≠ some newer.1) ∧
    ∀ e ∈ s.groups.entries, e.2.parent ≠ some e.1

/-- The walk goes from newer groups to older ones: all ids seen are in `pre`, and the groups still to
    come are in `post`. -/
theorem cycleWalk_eq_false {s : Engine} (h : ParentsOlder s) :
    ∀ (n : Nat) (pre post : List (Σ _ : TenantGroupId, TenantGroup)) (seen : List TenantGroupId)
      (cur : Option TenantGroupId), s.groups.entries = pre ++ post → post.length < n →
      (∀ g ∈ seen, ∃ e ∈ pre, e.1 = g) → (∀ e ∈ pre, cur ≠ some e.1) →
      s.cycleWalk n seen cur = false := by
  intro n
  induction n with
  | zero => intro pre post seen cur _ hlen; omega
  | succ n ih =>
    intro pre post seen cur hsplit hlen hseen hcur
    cases cur with
    | none => rfl
    | some c =>
      have hnew : c ∉ seen := fun hc => by
        obtain ⟨e, he, rfl⟩ := hseen c hc
        exact hcur e he rfl
      unfold cycleWalk
      rw [if_neg hnew]
      cases hg : s.groups.lookup c with
      | none => rfl
      | some gr =>
        have hmem : (⟨c, gr⟩ : Σ _ : TenantGroupId, TenantGroup) ∈ pre ++ post :=
          hsplit ▸ lookup_eq_some_iff.mp hg
        rcases List.mem_append.mp hmem with hpre | hpost
        · exact absurd rfl (hcur _ hpre)
        · obtain ⟨p₁, p₂, rfl⟩ := List.append_of_mem hpost
          have hsplit' : s.groups.entries = (pre ++ p₁ ++ [⟨c, gr⟩]) ++ p₂ := by
            rw [hsplit]; simp
          refine ih (pre ++ p₁ ++ [⟨c, gr⟩]) p₂ (c :: seen) gr.parent hsplit' ?_ ?_ ?_
          · simp only [List.length_append, List.length_cons] at hlen
            omega
          · intro g hg
            rcases List.mem_cons.mp hg with rfl | hg
            · exact ⟨⟨g, gr⟩, by simp, rfl⟩
            · obtain ⟨e, he, rfl⟩ := hseen g hg
              exact ⟨e, by simp [he], rfl⟩
          · intro e he
            rcases List.mem_append.mp he with he | he
            · have hpair := h.1
              rw [hsplit', List.append_assoc, List.pairwise_append] at hpair
              exact hpair.2.2 e he ⟨c, gr⟩ (by simp)
            · rw [List.mem_singleton.mp he]
              exact h.2 _ (lookup_eq_some_iff.mp hg)

/-- **A hierarchy in which every parent is older has no cycle.** -/
theorem cycleError_eq_none {s : Engine} (h : ParentsOlder s) {gid : TenantGroupId} {g : TenantGroup}
    (hg : s.groups.lookup gid = some g) : s.cycleError gid g = none := by
  have hmem := lookup_eq_some_iff.mp hg
  obtain ⟨p₁, p₂, hsplit⟩ := List.append_of_mem hmem
  have hsplit' : s.groups.entries = (p₁ ++ [⟨gid, g⟩]) ++ p₂ := by rw [hsplit]; simp
  have hwalk : s.cycleWalk s.walkFuel [gid] g.parent = false := by
    refine cycleWalk_eq_false h s.walkFuel (p₁ ++ [⟨gid, g⟩]) p₂ [gid] g.parent hsplit' ?_ ?_ ?_
    · unfold walkFuel
      rw [hsplit]
      simp only [List.length_append, List.length_cons]
      omega
    · intro x hx
      rw [List.mem_singleton.mp hx]
      exact ⟨⟨gid, g⟩, by simp, rfl⟩
    · intro e he
      rcases List.mem_append.mp he with he | he
      · have hpair := h.1
        rw [hsplit, List.pairwise_append] at hpair
        exact hpair.2.2 e he ⟨gid, g⟩ (by simp)
      · rw [List.mem_singleton.mp he]
        exact h.2 _ hmem
  unfold cycleError
  rw [hwalk]; rfl

end Engine

end QuotaFabric
