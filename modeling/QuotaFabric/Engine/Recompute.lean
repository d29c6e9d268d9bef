import QuotaFabric.Engine.State

/-!
# Recomputed counters as exact sums

`sync_usage` adds records up with unchecked `add`s, in hash order.  While the sums fit into 64 bits
the result does not depend on the order and is the exact sum over the records.

* `reservedSum`, `lentSum`, `borrowedSum` — what the records say, one dimension at a time;
* `recomputedReserved_eq`, `computedLent_eq`, `computedBorrowed_eq`, `computedDebt_eq` — the loops
  compute the exact vectors `exactReserved`, `exactLent`, `exactBorrowed`, `exactDebt`, stored zeros
  included;
* `computedConsumed_eq`, `recomputedReserved_eq_remaining` — the same with running allocations;
* `recomputedReserved_nonNeg`, `computedConsumed_nonNeg` — whatever overflows, no counter becomes
  negative.
-/

set_option autoImplicit false

namespace QuotaFabric

open AList

/-! ## Sums over a map -/

section Sums

variable {K V : Type}

theorem get_total (m : UMap K V) (f : K → V → ResourceVector) (d : ResourceDimension) :
    (total m f).get d = total m fun k v => (f k v).get d :=
  total_map_hom (SparseVec.getHom d) m f

/-- A total has an entry wherever one of its summands has one. -/
theorem present_total [DecidableEq K] {m : UMap K V} {f : K → V → ResourceVector} {a : K} {b : V}
    (h : m.lookup a = some b) {d : ResourceDimension} (hp : (f a b).present d = true) :
    (total m f).present d = true := by
  rw [total_erase f h, SparseVec.present_add, hp, Bool.true_or]

theorem get_guarded (p : Bool) (v : ResourceVector) (d : ResourceDimension) :
    (if p then v else 0).get d = if p then v.get d else 0 := by
  split <;> rfl

variable [DecidableEq K]

/-- A loop of guarded `add`s over a map, in any order, is the exact sum while that fits. -/
theorem sumOf_run_eq (ord : IterOrder (Σ _ : K, V)) {m : UMap K V} {p : K → V → Bool}
    {f : K → V → ResourceVector} (hnn : ∀ a b, m.lookup a = some b → p a b = true → (f a b).NonNeg)
    (hfit : ∀ d, (total m fun k v => if p k v then (f k v).get d else 0) ≤ INT64_MAX) :
    ResourceVector.sumOf (((ord m.entries).filter fun e => p e.1 e.2).map fun e => f e.1 e.2) =
      total m fun k v => if p k v then f k v else 0 := by
  rw [ResourceVector.sumOf_eq_sum]
  · exact sum_filter_run ord m p f
  · intro v hv
    obtain ⟨e, he, rfl⟩ := List.mem_map.mp hv
    obtain ⟨hmem, hp⟩ := List.mem_filter.mp he
    exact hnn e.1 e.2 (lookup_of_mem_entries (ord.mem_run.mp hmem)) hp
  · intro d
    rw [List.map_map]
    have hsum := sum_filter_run ord m p fun k v => (f k v).get d
    have hgoal : (List.map ((fun x => x.get d) ∘ fun e => f e.1 e.2)
        ((ord m.entries).filter fun e => p e.1 e.2)).sum =
        total m fun k v => if p k v then (f k v).get d else 0 := hsum
    rw [hgoal]
    exact hfit d

theorem sumOf_run_nonNeg (ord : IterOrder (Σ _ : K, V)) {m : UMap K V} {p : K → V → Bool}
    {f : K → V → ResourceVector} (hnn : ∀ a b, m.lookup a = some b → p a b = true → (f a b).NonNeg) :
    (ResourceVector.sumOf
      (((ord m.entries).filter fun e => p e.1 e.2).map fun e => f e.1 e.2)).NonNeg := by
  apply ResourceVector.sumOf_nonNeg
  intro v hv
  obtain ⟨e, he, rfl⟩ := List.mem_map.mp hv
  obtain ⟨hmem, hp⟩ := List.mem_filter.mp he
  exact hnn e.1 e.2 (lookup_of_mem_entries (ord.mem_run.mp hmem)) hp

/-- Such a loop never exceeds the exact sum. -/
theorem sumOf_run_le (ord : IterOrder (Σ _ : K, V)) {m : UMap K V} {p : K → V → Bool}
    {f : K → V → ResourceVector} (hnn : ∀ a b, m.lookup a = some b → p a b = true → (f a b).NonNeg)
    (d : ResourceDimension) :
    (ResourceVector.sumOf
      (((ord m.entries).filter fun e => p e.1 e.2).map fun e => f e.1 e.2)).get d ≤
      total m fun k v => if p k v then (f k v).get d else 0 := by
  refine (ResourceVector.sumOf_le ?_ d).trans (le_of_eq ?_)
  · intro v hv
    obtain ⟨e, he, rfl⟩ := List.mem_map.mp hv
    obtain ⟨hmem, hp⟩ := List.mem_filter.mp he
    exact hnn e.1 e.2 (lookup_of_mem_entries (ord.mem_run.mp hmem)) hp
  · rw [List.map_map]
    exact sum_filter_run ord m p fun k v => (f k v).get d

end Sums

namespace Engine

/-! ## What the records say -/

def exactReserved (s : Engine) (t : TenantId) : ResourceVector :=
  total s.reservations fun _ r => if r.tenant == t && activeRes r then r.resources else 0

def exactLent (s : Engine) (t : TenantId) : ResourceVector :=
  total s.lends fun _ l => if l.lender == t then l.outstanding else 0

def exactBorrowed (s : Engine) (t : TenantId) : ResourceVector :=
  total s.borrows fun _ b => if b.borrower == t && !b.recalled then b.consumed else 0

def exactDebt (s : Engine) (t : TenantId) : ResourceVector :=
  total s.borrows fun _ b => if b.borrower == t && !b.recalled then b.debt else 0

/-- Sum of `resources(d)` over the active reservations of `t`. -/
def reservedSum (s : Engine) (t : TenantId) (d : ResourceDimension) : Int :=
  total s.reservations fun _ r => if r.tenant == t && activeRes r then r.resources.get d else 0

/-- Sum of `outstanding(d)` over the lending records of `t`. -/
def lentSum (s : Engine) (t : TenantId) (d : ResourceDimension) : Int :=
  total s.lends fun _ l => if l.lender == t then l.outstanding.get d else 0

/-- Sum of `consumed(d)` over the unreturned borrows of `t`. -/
def borrowedSum (s : Engine) (t : TenantId) (d : ResourceDimension) : Int :=
  total s.borrows fun _ b => if b.borrower == t && !b.recalled then b.consumed.get d else 0

/-- Sum of `debt(d)` over the unreturned borrows of `t`. -/
def debtSum (s : Engine) (t : TenantId) (d : ResourceDimension) : Int :=
  total s.borrows fun _ b => if b.borrower == t && !b.recalled then b.debt.get d else 0

theorem get_exactReserved (s : Engine) (t : TenantId) (d : ResourceDimension) :
    (s.exactReserved t).get d = s.reservedSum t d := by
  unfold exactReserved reservedSum
  rw [get_total]
  simp only [get_guarded]

theorem get_exactLent (s : Engine) (t : TenantId) (d : ResourceDimension) :
    (s.exactLent t).get d = s.lentSum t d := by
  unfold exactLent lentSum
  rw [get_total]
  simp only [get_guarded]

theorem get_exactBorrowed (s : Engine) (t : TenantId) (d : ResourceDimension) :
    (s.exactBorrowed t).get d = s.borrowedSum t d := by
  unfold exactBorrowed borrowedSum
  rw [get_total]
  simp only [get_guarded]

theorem get_exactDebt (s : Engine) (t : TenantId) (d : ResourceDimension) :
    (s.exactDebt t).get d = s.debtSum t d := by
  unfold exactDebt debtSum
  rw [get_total]
  simp only [get_guarded]

/-- No record holds a negative amount. -/
structure RecordsNonNeg (s : Engine) : Prop where
  reservations : ∀ rid r, s.reservations.lookup rid = some r → r.resources.NonNeg
  allocations : ∀ aid a, s.allocations.lookup aid = some a → a.used.NonNeg

/-- No allocation is active. -/
def NoAllocation (s : Engine) : Prop :=
  ∀ aid a, s.allocations.lookup aid = some a → a.active = false

/-! ## The loops -/

section Loops

variable {env : Env} {s : Engine}

theorem computedLent_eq {t : TenantId}
    (hnn : ∀ lid l, s.lends.lookup lid = some l → l.outstanding.NonNeg)
    (hfit : ∀ d, s.lentSum t d ≤ INT64_MAX) : s.computedLent env t = s.exactLent t := by
  -- a record without entries adds nothing
  have hguard : ∀ l : LendingRecord,
      (if (l.lender == t && l.outstanding.presentCount != 0) = true then l.outstanding else 0) =
      if (l.lender == t) = true then l.outstanding else 0 := by
    intro l
    by_cases hz : l.outstanding.presentCount = 0
    · have he : l.outstanding = 0 :=
        ResourceVector.isEmpty_iff_eq_empty.mp (ResourceVector.presentCount_eq_zero_iff.mp hz)
      rw [he]; simp
    · simp [hz]
  unfold computedLent exactLent
  rw [sumOf_run_eq env.lendOrder (p := fun _ l => l.lender == t && l.outstanding.presentCount != 0)
    (f := fun _ l => l.outstanding)]
  · simp only [hguard]
  · exact fun lid l hl _ => hnn lid l hl
  · intro d
    have hd : (total s.lends fun _ l =>
        if (l.lender == t && l.outstanding.presentCount != 0) = true then l.outstanding.get d else 0) =
        s.lentSum t d := by
      unfold lentSum
      apply total_congr
      intro _ l _
      have h := congrArg (fun v : ResourceVector => v.get d) (hguard l)
      simpa only [get_guarded] using h
    rw [hd]
    exact hfit d

theorem computedBorrowed_eq {t : TenantId}
    (hnn : ∀ bid b, s.borrows.lookup bid = some b → b.consumed.NonNeg)
    (hfit : ∀ d, s.borrowedSum t d ≤ INT64_MAX) : s.computedBorrowed env t = s.exactBorrowed t := by
  unfold computedBorrowed exactBorrowed
  exact sumOf_run_eq env.borrowOrder (p := fun _ b => b.borrower == t && !b.recalled)
    (f := fun _ b => b.consumed) (fun bid b hb _ => hnn bid b hb) hfit

theorem computedDebt_eq {t : TenantId}
    (hnn : ∀ bid b, s.borrows.lookup bid = some b → (b.borrower == t && !b.recalled) = true →
      b.debt.NonNeg)
    (hfit : ∀ d, s.debtSum t d ≤ INT64_MAX) : s.computedDebt env t = s.exactDebt t := by
  unfold computedDebt exactDebt
  exact sumOf_run_eq env.borrowOrder (p := fun _ b => b.borrower == t && !b.recalled)
    (f := fun _ b => b.debt) hnn hfit

theorem computedConsumed_of_noAllocation (h : NoAllocation s) (t : TenantId) :
    s.computedConsumed env t = .empty := by
  unfold computedConsumed
  have hnil : ((env.allocationOrder s.allocations.entries).filter fun e =>
      e.2.tenant == t && e.2.active) = [] := by
    rw [List.filter_eq_nil_iff]
    intro e he
    rw [h e.1 e.2 (lookup_of_mem_entries (env.allocationOrder.mem_run.mp he))]
    simp
  rw [hnil]; rfl

theorem allocUsed_of_noAllocation (h : NoAllocation s) (t : TenantId) (rid : ReservationId) :
    s.allocUsed env t rid = none := by
  unfold allocUsed
  have hnil : ((env.allocationOrder s.allocations.entries).filter fun e =>
      e.2.active && e.2.tenant == t && e.2.reservation == rid) = [] := by
    rw [List.filter_eq_nil_iff]
    intro e he
    rw [h e.1 e.2 (lookup_of_mem_entries (env.allocationOrder.mem_run.mp he))]
    simp
  simp only [hnil]
  rfl

/-- Without active allocations every reservation counts in full. -/
theorem remaining_of_noAllocation (h : NoAllocation s) (t : TenantId) (r : Reservation) :
    s.remaining env t r = r.resources := by
  unfold remaining
  rw [allocUsed_of_noAllocation h]

theorem recomputedReserved_eq {t : TenantId} (halloc : NoAllocation s)
    (hnn : ∀ rid r, s.reservations.lookup rid = some r → r.resources.NonNeg)
    (hfit : ∀ d, s.reservedSum t d ≤ INT64_MAX) : s.recomputedReserved env t = s.exactReserved t := by
  unfold recomputedReserved exactReserved
  simp only [remaining_of_noAllocation halloc]
  exact sumOf_run_eq env.reservationOrder (p := fun _ r => r.tenant == t && activeRes r)
    (f := fun _ r => r.resources) (fun rid r hr _ => hnn rid r hr) hfit

/-- The counter never exceeds what the active reservations add up to. -/
theorem recomputedReserved_le (halloc : NoAllocation s)
    (hnn : ∀ rid r, s.reservations.lookup rid = some r → r.resources.NonNeg) (t : TenantId)
    (d : ResourceDimension) : (s.recomputedReserved env t).get d ≤ s.reservedSum t d := by
  unfold recomputedReserved reservedSum
  simp only [remaining_of_noAllocation halloc]
  exact sumOf_run_le env.reservationOrder (p := fun _ r => r.tenant == t && activeRes r)
    (f := fun _ r => r.resources) (fun rid r hr _ => hnn rid r hr) d

theorem remaining_nonNeg (t : TenantId) {r : Reservation} (h : r.resources.NonNeg) :
    (s.remaining env t r).NonNeg := by
  unfold remaining
  split
  · exact h
  · exact ResourceVector.subSat_nonNeg _ h

theorem recomputedReserved_nonNeg (h : RecordsNonNeg s) (t : TenantId) :
    (s.recomputedReserved env t).NonNeg :=
  sumOf_run_nonNeg env.reservationOrder (p := fun _ r => r.tenant == t && activeRes r)
    (f := fun _ r => s.remaining env t r) fun rid r hr _ => remaining_nonNeg t (h.reservations rid r hr)

theorem computedConsumed_nonNeg (h : RecordsNonNeg s) (t : TenantId) :
    (s.computedConsumed env t).NonNeg :=
  sumOf_run_nonNeg env.allocationOrder (p := fun _ a => a.tenant == t && a.active)
    (f := fun _ a => a.used) fun aid a ha _ => h.allocations aid a ha

/-! ## Running allocations -/

/-- What the running allocations of `t` use. -/
def exactUsed (s : Engine) (t : TenantId) : ResourceVector :=
  total s.allocations fun _ a => if a.tenant == t && a.active then a.used else 0

/-- Sum of `used(d)` over the running allocations of `t`. -/
def usedSum (s : Engine) (t : TenantId) (d : ResourceDimension) : Int :=
  total s.allocations fun _ a => if a.tenant == t && a.active then a.used.get d else 0

theorem computedConsumed_eq {t : TenantId}
    (hnn : ∀ aid a, s.allocations.lookup aid = some a → a.used.NonNeg)
    (hfit : ∀ d, s.usedSum t d ≤ INT64_MAX) : s.computedConsumed env t = s.exactUsed t := by
  unfold computedConsumed exactUsed
  exact sumOf_run_eq env.allocationOrder (p := fun _ a => a.tenant == t && a.active)
    (f := fun _ a => a.used) (fun aid a ha _ => hnn aid a ha) hfit

/-- A running allocation of `t` under `rid`. -/
def runsUnder (t : TenantId) (rid : ReservationId) (a : Allocation) : Bool :=
  a.active && a.tenant == t && a.reservation == rid

/-- `alloc_used` as an exact sum. -/
def exactAllocUsed (s : Engine) (t : TenantId) (rid : ReservationId) : Option ResourceVector :=
  if s.allocations.entries.any fun e => runsUnder t rid e.2 then
    some (total s.allocations fun _ a => if runsUnder t rid a then a.used else 0)
  else none

def exactRemaining (s : Engine) (t : TenantId) (r : Reservation) : ResourceVector :=
  match s.exactAllocUsed t r.id with
  | none => r.resources
  | some used => r.resources.subSat (ResourceVector.min used r.resources)

/-- What is left of the reservations of `t`. -/
def exactRemainder (s : Engine) (t : TenantId) : ResourceVector :=
  total s.reservations fun _ r => if r.tenant == t && activeRes r then s.exactRemaining t r else 0

theorem allocUsed_eq {t : TenantId} (rid : ReservationId)
    (hnn : ∀ aid a, s.allocations.lookup aid = some a → a.used.NonNeg)
    (hfit : ∀ d, s.usedSum t d ≤ INT64_MAX) : s.allocUsed env t rid = s.exactAllocUsed t rid := by
  have hempty : ((env.allocationOrder s.allocations.entries).filter fun e => runsUnder t rid e.2).isEmpty =
      !s.allocations.entries.any fun e => runsUnder t rid e.2 := by
    rw [Bool.eq_iff_iff, List.isEmpty_iff, List.filter_eq_nil_iff, Bool.not_eq_true',
      List.any_eq_false]
    exact ⟨fun h e he => h e (env.allocationOrder.mem_run.mpr he),
      fun h e he => h e (env.allocationOrder.mem_run.mp he)⟩
  have hsum : ResourceVector.sumOf
      (((env.allocationOrder s.allocations.entries).filter fun e => runsUnder t rid e.2).map fun e => e.2.used) =
      total s.allocations fun _ a => if runsUnder t rid a then a.used else 0 := by
    refine sumOf_run_eq env.allocationOrder (p := fun _ a => runsUnder t rid a) (f := fun _ a => a.used)
      (fun aid a ha _ => hnn aid a ha) fun d => (total_le_total fun aid a ha => ?_).trans (hfit d)
    have h0 := hnn aid a ha d
    unfold runsUnder
    cases a.active <;> cases a.tenant == t <;> cases a.reservation == rid <;> simp [h0]
  show (if ((env.allocationOrder s.allocations.entries).filter fun e => runsUnder t rid e.2).isEmpty = true
    then none else some _) = _
  unfold exactAllocUsed
  rw [hempty]
  cases s.allocations.entries.any fun e => runsUnder t rid e.2 with
  | false => rfl
  | true => exact congrArg some hsum

theorem remaining_eq {t : TenantId} (r : Reservation)
    (hnn : ∀ aid a, s.allocations.lookup aid = some a → a.used.NonNeg)
    (hfit : ∀ d, s.usedSum t d ≤ INT64_MAX) : s.remaining env t r = s.exactRemaining t r := by
  unfold remaining exactRemaining
  cases h : s.exactAllocUsed t r.id with
  | none => simp only [allocUsed_eq r.id hnn hfit, h]
  | some used => simp only [allocUsed_eq r.id hnn hfit, h]

theorem recomputedReserved_eq_remaining {t : TenantId} (h : RecordsNonNeg s)
    (hused : ∀ d, s.usedSum t d ≤ INT64_MAX) (hfit : ∀ d, s.reservedSum t d ≤ INT64_MAX) :
    s.recomputedReserved env t = s.exactRemainder t := by
  unfold recomputedReserved exactRemainder
  simp only [remaining_eq _ h.allocations hused]
  have hle : ∀ rid r, s.reservations.lookup rid = some r →
      (s.exactRemaining t r).NonNeg ∧ ∀ d, (s.exactRemaining t r).get d ≤ r.resources.get d := by
    intro rid r hr
    have hres := h.reservations rid r hr
    unfold exactRemaining
    split
    · exact ⟨hres, fun _ => le_refl _⟩
    · exact ⟨ResourceVector.subSat_nonNeg _ hres,
        fun d => ResourceVector.get_subSat_le hres (ResourceVector.min_nonNeg _ _) d⟩
  refine sumOf_run_eq env.reservationOrder (p := fun _ r => r.tenant == t && activeRes r)
    (f := fun _ r => s.exactRemaining t r) (fun rid r hr _ => (hle rid r hr).1)
    fun d => (total_le_total fun rid r hr => ?_).trans (hfit d)
  split
  · exact (hle rid r hr).2 d
  · exact le_refl 0

end Loops

end Engine

end QuotaFabric
