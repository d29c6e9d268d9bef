import QuotaFabric.Limits.ParentCeiling
import QuotaFabric.Limits.BurstBound

/-!
# Physical capacity of a group

The physical check of `classify` compares what one tenant would hold with the smallest capacity along
its chain.  The capacity of a group is shared by all tenants below it, and nothing compares it with
what they hold together.

* `CountersBelow` — the counters never exceed what the live reservations add up to, whatever overflows;
* `PhysicalFits` — the check that is missing;
* `physical_capacity_respected` — the run statement; `physical_capacity_fabricated` — two tenants that
  each fit and together do not.
-/

set_option autoImplicit false

namespace QuotaFabric

open AList

namespace Engine

/-- Consumption plus reserved, summed over the tenants below `g`. -/
def committedBelow (s : Engine) (g : TenantGroupId) (d : ResourceDimension) : Int :=
  s.totalBelow g fun x => (s.usageOf x).consumption.get d + (s.usageOf x).reserved.get d

/-- What an accepted request asks for fits into the physical capacity of every group above its tenant,
    beside the live reservations of all tenants there. -/
def PhysicalFits (s : Engine) (c : Env × Call) : Prop :=
  match c.2 with
  | .reserve t req auth => Accepted c.1 s t req auth → ∀ tn ∈ s.tenants.lookup t,
      ∀ g q, s.groupQuota.lookup g = some q → s.hasAncestor tn g = true → ∀ d, isConsumable d = false →
        q.physicalCapacity.present d = true → s.belowSum g d + req.get d ≤ q.physicalCapacity.get d
  | _ => True

instance (s : Engine) (c : Env × Call) : Decidable (s.PhysicalFits c) := by
  apply Call.casesOn (motive := fun call => Decidable (s.PhysicalFits (c.1, call))) c.2 <;> intros <;> unfold PhysicalFits <;> infer_instance

/-- Nothing is consumed, and no counter exceeds the live reservations. -/
structure CountersBelow (s : Engine) : Prop where
  nonNeg : ∀ rid r, s.reservations.lookup rid = some r → r.resources.NonNeg
  noAllocation : NoAllocation s
  counters : ∀ x d, (s.usageOf x).consumption.get d = 0 ∧ (s.usageOf x).reserved.get d ≤ s.reservedSum x d

/-- The live reservations below every group are within its physical capacity. -/
def UnderPhysical (s : Engine) : Prop :=
  ∀ g q d, s.groupQuota.lookup g = some q → isConsumable d = false → q.physicalCapacity.present d = true →
    s.belowSum g d ≤ q.physicalCapacity.get d

section Step

variable {env : Env} {s s' : Engine}

theorem CapacityStep.countersBelow {amount : ResourceVector} (hstep : CapacityStep env amount s s')
    (h : CountersBelow s) : CountersBelow s' := by
  have hnn := hstep.nonNeg h.nonNeg
  have hna := hstep.noAllocation h.noAllocation
  refine ⟨hnn, hna, fun x d => ?_⟩
  rcases hstep.counters x with hsync | ⟨hcons, hres, -, hex⟩
  · rw [hsync.consumption, computedConsumed_of_noAllocation hna, hsync.reserved]
    exact ⟨rfl, recomputedReserved_le hna hnn x d⟩
  · rw [hcons, hres, ← get_exactReserved, hex, get_exactReserved]
    exact h.counters x d

theorem after_underPhysical {c : Env × Call} (hc : reservingCall s c ∧ s.PhysicalFits c)
    (h : CountersBelow s ∧ UnderPhysical s) : CountersBelow (s.after c) ∧ UnderPhysical (s.after c) := by
  obtain ⟨env, c⟩ := c
  obtain ⟨⟨hkind, hfresh, hamount⟩, hfits⟩ := hc
  have hcore := isCore_of_isReserving hkind
  have hstep : CapacityStep env c.amount s (s.after (env, c)) := exec_capacityStep hfresh hamount hcore
  have hconf := hstep.config
  refine ⟨hstep.countersBelow h.1, fun g q d hq hd hphys => ?_⟩
  rw [hconf.groupQuota] at hq
  have hold := h.2 g q d hq hd hphys
  rcases exec_reservedSum hfresh hamount hcore h.1.nonNeg with ⟨t, req, auth, st, rfl, hadm⟩ | hle
  · obtain ⟨tn, ht⟩ := Option.isSome_iff_exists.mp hadm.accepted.tenant
    have hsum := hadm.belowSum hfresh.reservationId hconf ht g d
    change (s.after (env, .reserve t req auth)).belowSum g d = _ at hsum
    rw [hsum]
    split
    · rename_i hanc
      have hroom := hfits hadm.accepted tn ht g q hq hanc d hd hphys
      omega
    · omega
  · exact (belowSum_mono hconf (fun x => hle x d) g).trans hold

theorem CountersBelow.committedBelow_le (h : CountersBelow s) (g : TenantGroupId) (d : ResourceDimension) :
    s.committedBelow g d ≤ s.belowSum g d := by
  unfold committedBelow belowSum
  refine totalBelow_mono g fun x => ?_
  obtain ⟨h1, h2⟩ := h.counters x d
  omega

end Step

/-- **Physical capacity is respected**, in runs in which every accepted request fits beside what the
    other tenants of the group hold. -/
theorem physical_capacity_respected {s₀ s : Engine} {l : List (Env × Call)} (hstart : Configured s₀)
    (hquotas : QuotasValid s₀) (hrun : Run Engine.after (fun s c => reservingCall s c ∧ s.PhysicalFits c) s₀ l s)
    {g : TenantGroupId} {q : ResourceQuota} {d : ResourceDimension} (hq : s.groupQuota.lookup g = some q)
    (hd : isConsumable d = false) (hphys : q.physicalCapacity.present d = true) :
    s.committedBelow g d ≤ q.physicalCapacity.get d := by
  have hinv : CountersBelow s ∧ UnderPhysical s := by
    refine hrun.invariant (I := fun s => CountersBelow s ∧ UnderPhysical s) ⟨⟨?_, ?_, fun x d => ?_⟩, ?_⟩
      fun _ _ h hc => after_underPhysical hc h
    · rw [hstart.reservations]
      exact fun rid r hr => by cases hr
    · exact hstart.idle.noAllocation
    · rw [hstart.usageOf, hstart.idle.reservedSum]
      exact ⟨rfl, le_refl 0⟩
    · intro g q d hq _ _
      have hzero : s₀.belowSum g d = 0 := by
        unfold belowSum totalBelow
        apply total_eq_zero
        intro x xn _
        simp only [hstart.idle.reservedSum, ite_self]
      rw [hzero]
      exact ((hquotas.groupQuota g q hq).physicalCapacity d).1
  exact (hinv.1.committedBelow_le g d).trans (hinv.2 g q d hq hd hphys)

/-- An organisation with 100 of physical capacity and two tenants. -/
def sharedHost : Engine :=
  { groups := (∅ : UMap TenantGroupId TenantGroup).insert orgGroup { id := orgGroup }
    tenants := ((∅ : UMap TenantId Tenant).insert teamTenant
        { id := teamTenant, group := some orgGroup }).insert orgTenant
          { id := orgTenant, group := some orgGroup }
    groupQuota := (∅ : UMap TenantGroupId ResourceQuota).insert orgGroup
      { hardLimit := .fromScalar .acceleratorVRAM 1000
        physicalCapacity := .fromScalar .acceleratorVRAM 100 } }

/-- One request of each tenant. -/
def twoRequests (amount : Int) : List (Env × Call) :=
  [(.numbered 1, .reserve teamTenant (.fromScalar .acceleratorVRAM amount) firstAuthority),
    (.numbered 2, .reserve orgTenant (.fromScalar .acceleratorVRAM amount) firstAuthority)]

theorem physical_capacity_respected_fifty :
    ((twoRequests 50).foldl Engine.after sharedHost).committedBelow orgGroup .acceleratorVRAM = 100 ∧
    ((twoRequests 50).foldl Engine.after sharedHost).committedBelow orgGroup .acceleratorVRAM ≤ 100 :=
  ⟨by decide +kernel,
    physical_capacity_respected ⟨rfl, rfl, rfl, rfl, rfl, rfl⟩ (by decide +kernel)
      (Run.of_check (twoRequests 50) sharedHost (by decide +kernel))
      (q := { hardLimit := .fromScalar .acceleratorVRAM 1000
              physicalCapacity := .fromScalar .acceleratorVRAM 100 }) rfl rfl rfl⟩

/-- **Two tenants fill the same capacity**: each holds 80 of the 100 that the organisation has. -/
theorem physical_capacity_fabricated :
    Configured sharedHost ∧
    (∀ g q, sharedHost.groupQuota.lookup g = some q →
      q.overcommit = .none ∧ ∀ d, q.physicalCapacity.get d < 2 ^ 53) ∧
    Run Engine.after reservingCall sharedHost (twoRequests 80)
      ((twoRequests 80).foldl Engine.after sharedHost) ∧
    ((twoRequests 80).foldl Engine.after sharedHost).groupQuota = sharedHost.groupQuota ∧
    ¬ ((twoRequests 80).foldl Engine.after sharedHost).committedBelow orgGroup .acceleratorVRAM ≤ 100 :=
  ⟨⟨rfl, rfl, rfl, rfl, rfl, rfl⟩, by decide +kernel, Run.of_check _ _ (by decide +kernel), rfl,
    by decide +kernel⟩

end Engine

end QuotaFabric
