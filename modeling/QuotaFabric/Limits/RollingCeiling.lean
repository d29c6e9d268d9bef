import QuotaFabric.Limits.PhysicalCapacity

/-!
# Rolling budgets under a parent

On a consumable dimension `classify` compares the tenant's own rolling window with its effective
limits and stops there: the parent check, which adds up everything below a group, belongs to the
branch of the capacity dimensions.  So a group is overdrawn as soon as the tenant's own limits leave it
more than the siblings' windows have left of the group's budget.

* `FitsBelowParents` — what a parent ceiling on a rolling budget asks for;
* `ownRoom` — the largest amount that the tenant's own limits let through, `rolling_allowed_iff`;
* `NotOverbooked` — every group above the tenant has that much left;
* `rolling_ceiling_iff` — the parent ceilings bind every amount exactly where no group is overbooked,
  and elsewhere they miss the amounts between what a group has left and the tenant's own room.
-/

set_option autoImplicit false

namespace QuotaFabric

open ResourceVector

namespace Engine

/-- What the tenants below `g` used in their rolling windows. -/
def windowBelow (s : Engine) (g : TenantGroupId) (d : ResourceDimension) : Int :=
  s.totalBelow g fun x => ((s.usageOf x).windows d).usage

/-- `amount` more stays within the hard limit of every group above `t`. -/
def FitsBelowParents (s : Engine) (t : TenantId) (d : ResourceDimension) (amount : Int) : Prop :=
  ∀ g ∈ s.ancestorGroups t, ∀ q ∈ s.groupQuota.lookup g, q.hardLimit.present d = true →
    s.windowBelow g d + amount ≤ q.hardLimit.get d

instance (s : Engine) (t : TenantId) (d : ResourceDimension) (amount : Int) :
    Decidable (s.FitsBelowParents t d amount) :=
  inferInstanceAs (Decidable (∀ g ∈ s.ancestorGroups t, ∀ q ∈ s.groupQuota.lookup g, _ → _))

/-- How far the tenant's own limits let its window fill up: only above all three is a request refused. -/
def ownCeiling (s : Engine) (t : TenantId) (d : ResourceDimension) : Int :=
  let eff := s.effectiveLattice t
  max (guaranteeOf eff d) (max (softOf eff d) (hardOf eff d))

/-- The largest amount that the tenant's own limits let through.  A ceiling at the largest 64-bit value is
    never passed, since the sum saturates there; `-1` is no amount but that of an empty request. -/
def ownRoom (s : Engine) (t : TenantId) (d : ResourceDimension) : Int :=
  if hasEntitlement (s.effectiveLattice t) = false then -1
  else if INT64_MAX ≤ s.ownCeiling t d then INT64_MAX
  else max (-1) (min INT64_MAX (s.ownCeiling t d - ((s.usageOf t).windows d).usage))

/-- Every group above `t` has as much left of its hard limit as `t` may take by its own limits. -/
def NotOverbooked (s : Engine) (t : TenantId) (d : ResourceDimension) : Prop :=
  ∀ g ∈ s.ancestorGroups t, ∀ q ∈ s.groupQuota.lookup g, q.hardLimit.present d = true →
    s.ownRoom t d ≤ q.hardLimit.get d - s.windowBelow g d

instance (s : Engine) (t : TenantId) (d : ResourceDimension) : Decidable (s.NotOverbooked t d) :=
  inferInstanceAs (Decidable (∀ g ∈ s.ancestorGroups t, ∀ q ∈ s.groupQuota.lookup g, _ → _))

section Consumable

variable {env : Env} {s : Engine} {t : TenantId} {d : ResourceDimension} {amount : Int}

/-- A negative amount leaves the request empty. -/
theorem isEmpty_fromScalar_neg (h : amount < 0) : (fromScalar d amount).isEmpty = true := by
  unfold fromScalar ResourceVector.set
  rw [if_pos h]
  rfl

theorem present_fromScalar_iff (h : 0 ≤ amount) (e : ResourceDimension) :
    (fromScalar d amount).present e = true ↔ e = d := by
  rw [present_fromScalar h]
  exact decide_eq_true_iff

theorem newCommitted_fromScalar (hd : isConsumable d = true) (h : 0 ≤ amount) :
    s.newCommitted t (fromScalar d amount) d = satAdd ((s.usageOf t).windows d).usage amount := by
  unfold newCommitted currentCommittedScalar
  rw [if_pos hd, get_fromScalar_self h]

/-- The verdict on a proper amount, which is let through by any of the three limits. -/
theorem rolling_allowed_of_nonneg (hd : isConsumable d = true) (hpos : 0 ≤ amount) :
    (s.evaluateReservation env t (fromScalar d amount)).allowed = true ↔
      hasEntitlement (s.effectiveLattice t) = true ∧
        satAdd ((s.usageOf t).windows d).usage amount ≤ s.ownCeiling t d := by
  have hsome : ¬ (fromScalar d amount).isEmpty = true := by
    rw [ResourceVector.isEmpty_iff]
    intro h
    have hd := h d
    rw [(present_fromScalar_iff hpos d).mpr rfl] at hd
    cases hd
  have hcode : s.dimensionCode env t (fromScalar d amount) d = s.consumableCode t (fromScalar d amount) d := by
    unfold dimensionCode
    rw [if_pos hd]
  have hone : (∀ e, (fromScalar d amount).present e = true →
      (s.dimensionCode env t (fromScalar d amount) e).allowed = true) ↔
        (s.consumableCode t (fromScalar d amount) d).allowed = true := by
    rw [← hcode]
    refine ⟨fun h => h d ((present_fromScalar_iff hpos d).mpr rfl), fun h e he => ?_⟩
    rw [(present_fromScalar_iff hpos e).mp he]
    exact h
  unfold evaluateReservation
  rw [classify_allowed_iff, hone, consumableCode_allowed_iff, newCommitted_fromScalar hd hpos]
  unfold ownCeiling
  simp only [hsome, Bool.false_eq_true, false_or, le_max_iff]

/-- **A request on one rolling budget is decided on the tenant's own limits alone.** -/
theorem rolling_allowed_iff (hd : isConsumable d = true) (hown : ((s.usageOf t).windows d).usage ≤ INT64_MAX)
    (hamount : amount ≤ INT64_MAX) :
    (s.evaluateReservation env t (fromScalar d amount)).allowed = true ↔ amount ≤ s.ownRoom t d := by
  have hmax : (0 : Int) ≤ INT64_MAX := by decide
  rcases lt_or_ge amount 0 with hneg | hpos
  · have hallowed : (s.evaluateReservation env t (fromScalar d amount)).allowed = true := by
      unfold evaluateReservation
      exact (classify_allowed_iff env s t _).mpr (.inl (isEmpty_fromScalar_neg hneg))
    refine iff_of_true hallowed ?_
    unfold ownRoom
    split
    · omega
    split
    · exact hamount
    · exact le_max_of_le_left (by omega)
  · rw [rolling_allowed_of_nonneg hd hpos, satAdd_le_iff hown]
    unfold ownRoom
    cases hent : hasEntitlement (s.effectiveLattice t) with
    | false => simp only [Bool.false_eq_true, false_and, if_true, false_iff, not_le]; omega
    | true =>
      simp only [true_and, Bool.true_eq_false, if_false]
      split
      · rename_i hopen
        exact iff_of_true (.inl hopen) hamount
      · omega

theorem ownRoom_int64 (s : Engine) (t : TenantId) (d : ResourceDimension) : IsInt64 (s.ownRoom t d) := by
  unfold IsInt64 ownRoom INT64_MIN INT64_MAX
  split
  · omega
  split <;> omega

/-- **Where the parent ceilings bind a rolling budget**: every amount, in a state in which no group above the
    tenant is overbooked; in any other the amounts that are missed are those that a group has no longer left
    while the tenant's own limits still let them through. -/
theorem rolling_ceiling_iff (env : Env) (s : Engine) (t : TenantId) {d : ResourceDimension}
    (hd : isConsumable d = true) (hown : ((s.usageOf t).windows d).usage ≤ INT64_MAX) :
    ((∀ amount, IsInt64 amount → (s.evaluateReservation env t (fromScalar d amount)).allowed = true →
        s.FitsBelowParents t d amount) ↔ s.NotOverbooked t d) ∧
    ∀ amount, IsInt64 amount →
      (¬ ((s.evaluateReservation env t (fromScalar d amount)).allowed = true → s.FitsBelowParents t d amount) ↔
        ∃ g ∈ s.ancestorGroups t, ∃ q ∈ s.groupQuota.lookup g, q.hardLimit.present d = true ∧
          q.hardLimit.get d - s.windowBelow g d < amount ∧ amount ≤ s.ownRoom t d) := by
  have hall : ∀ amount, IsInt64 amount →
      ((s.evaluateReservation env t (fromScalar d amount)).allowed = true ↔ amount ≤ s.ownRoom t d) :=
    fun amount h => rolling_allowed_iff hd hown h.2
  constructor
  · constructor
    · -- the largest amount let through fits, so there is room for it
      intro h g hg q hq hp
      have hroom := ownRoom_int64 s t d
      have hfits := h _ hroom ((hall _ hroom).mpr (le_refl _)) g hg q hq hp
      omega
    · intro h amount hamount hallowed g hg q hq hp
      have hle := (hall amount hamount).mp hallowed
      have hroom := h g hg q hq hp
      omega
  · intro amount hamount
    rw [hall amount hamount]
    unfold FitsBelowParents
    push Not
    constructor
    · rintro ⟨hle, g, hg, q, hq, hp, hover⟩
      exact ⟨g, hg, q, hq, hp, by omega, hle⟩
    · rintro ⟨g, hg, q, hq, hp, hover, hle⟩
      exact ⟨hle, g, hg, q, hq, hp, by omega⟩

end Consumable

/-- A group that grants its tenants 10 transfer bytes together. -/
def sharedBudget : Engine :=
  { sharedHost with
    groupQuota := (∅ : UMap TenantGroupId ResourceQuota).insert orgGroup
      { hardLimit := .fromScalar .transferBytes 10 } }

/-- The organisation's own tenant transfers `amount` bytes. -/
def transferred (amount : Int) : List (Env × Call) :=
  [(.numbered 1, .applyObservation
      { tenant := orgTenant, dimension := .transferBytes, amount := amount, kind := .transferConsumed })]

/-- The same group, with a tenant whose own budget is 5. -/
def cappedBudget : Engine :=
  { sharedBudget with
    localQuota := (∅ : UMap TenantId ResourceQuota).insert teamTenant
      { softLimit := .fromScalar .transferBytes 5, hardLimit := .fromScalar .transferBytes 5 } }

/-- What the sibling leaves of the group's budget is what the capped tenant may take. -/
theorem rolling_ceiling_five :
    ((transferred 5).foldl Engine.after cappedBudget).ownRoom teamTenant .transferBytes = 5 ∧
    ((((transferred 5).foldl Engine.after cappedBudget).evaluateReservation (.numbered 2) teamTenant
        (.fromScalar .transferBytes 5)).allowed = true →
      ((transferred 5).foldl Engine.after cappedBudget).FitsBelowParents teamTenant .transferBytes 5) :=
  ⟨by decide +kernel,
    (rolling_ceiling_iff (.numbered 2) ((transferred 5).foldl Engine.after cappedBudget) teamTenant rfl
      (by decide +kernel)).1.mpr (by decide +kernel) 5 (by decide)⟩

/-- **A sibling's transfers do not count**: the budget of the group is used up and 5 more are allowed. -/
theorem rolling_ceiling_ignored :
    isConsumable .transferBytes = true ∧
    (((transferred 10).foldl Engine.after sharedBudget).evaluateReservation (.numbered 2) teamTenant
      (.fromScalar .transferBytes 5)).allowed = true ∧
    ¬ ((transferred 10).foldl Engine.after sharedBudget).FitsBelowParents teamTenant .transferBytes 5 :=
  ⟨rfl, by decide +kernel, by decide +kernel⟩

end Engine

end QuotaFabric
