import QuotaFabric.Accounting.HiddenCapacity
import QuotaFabric.Loans.Recall

/-!
# Model residency observations

The branch for added model residency writes a record and a counter: the use of the allocation that the
observation names, and the consumption of the tenant it is for.  Both get the tenant's consumption plus the
amount, and the allocation is looked up by its id alone.

* `applyObservation_residency` — what the branch writes;
* `residencySum_written` — what the allocations of the tenant add up to afterwards;
* `residency_in_step_iff` — record and counter grow together exactly when the tenant uses residency in the
  named allocation only, and the allocation of another tenant is kept exactly when it holds the amount already.
-/

set_option autoImplicit false

namespace QuotaFabric

open AList

theorem total_eq_zero_iff {K V : Type} [DecidableEq K] {m : UMap K V} {f : K → V → Int}
    (h : ∀ a b, m.lookup a = some b → 0 ≤ f a b) :
    total m f = 0 ↔ ∀ a b, m.lookup a = some b → f a b = 0 := by
  refine ⟨fun hzero a b hab => ?_, total_eq_zero⟩
  have hrest : 0 ≤ total (m.erase a) f := total_nonneg fun k v hk => h k v (by
    by_cases hka : k = a
    · subst hka
      rw [lookup_erase] at hk
      cases hk
    · rwa [lookup_erase_ne hka] at hk)
  rw [total_erase f hab] at hzero
  have hab0 := h a b hab
  omega

/-- A non-negative amount is stored. -/
theorem ResourceVector.set_of_nonneg {v : ResourceVector} {x : Int} (h : 0 ≤ x) (d : ResourceDimension) :
    (ResourceVector.set v d x).2 = v.put d x := by
  unfold ResourceVector.set
  rw [if_neg (not_lt.mpr h)]

theorem put_eq_self_iff {v : ResourceVector} {d : ResourceDimension} {x : Int} :
    v.put d x = v ↔ v.present d = true ∧ v.get d = x := by
  constructor
  · intro h
    rw [← h]
    exact ⟨SparseVec.present_put_self v d x, SparseVec.get_put_self v d x⟩
  · rintro ⟨hp, rfl⟩
    refine SparseVec.ext_get (fun e => ?_) fun e => ?_
    · by_cases he : e = d
      · subst he
        rw [SparseVec.present_put_self, hp]
      · exact SparseVec.present_put_ne v _ he
    · by_cases he : e = d
      · subst he
        exact SparseVec.get_put_self v e _
      · exact SparseVec.get_put_ne v _ he

namespace Engine

/-! ## What the branch writes -/

section Written

variable {env : Env} {s : Engine} {obs : Observation}

/-- What record and counter are set to. -/
def residencyTarget (s : Engine) (obs : Observation) : Int :=
  (s.usageOf obs.tenant).consumption.get .modelResidencyBytes + obs.amount

theorem applyObservation_residency (env : Env) (ht : s.tenantExists obs.tenant = true)
    (hkind : obs.kind = .modelResidencyAdded) (htarget : 0 ≤ s.residencyTarget obs) :
    (s.applyObservation env obs).2.allocations = s.allocations.modify obs.allocation (fun a =>
        { a with used := a.used.put .modelResidencyBytes (s.residencyTarget obs) }) ∧
    ((s.applyObservation env obs).2.usageOf obs.tenant).consumption =
      (s.usageOf obs.tenant).consumption.put .modelResidencyBytes (s.residencyTarget obs) := by
  have hshift : ∀ e : Engine, e.usageOf obs.tenant = s.usageOf obs.tenant →
      ((e.modifyUsage obs.tenant (shiftConsumption .modelResidencyBytes obs.amount)).usageOf
        obs.tenant).consumption = (s.usageOf obs.tenant).consumption.put .modelResidencyBytes
          (s.residencyTarget obs) := by
    intro e he
    rw [usageOf_modifyUsage_self, he]
    exact ResourceVector.set_of_nonneg htarget _
  unfold applyObservation
  rw [if_neg (by simp [ht])]
  simp only [hkind, usageOf_modifyUsage_id, usageOf_emitEvent]
  refine ⟨?_, hshift _ (usageOf_modifyUsage_id s obs.tenant obs.tenant)⟩
  show s.allocations.modify obs.allocation (fun a =>
    { a with used := (ResourceVector.set a.used .modelResidencyBytes (s.residencyTarget obs)).2 }) = _
  simp only [ResourceVector.set_of_nonneg htarget]

/-- The allocations of a tenant after one of them was written. -/
theorem usedSum_written {s' : Engine} {t : TenantId} {aid : AllocationId} {a : Allocation} {x : Int}
    (hwritten : s'.allocations = s.allocations.modify aid fun a =>
      { a with used := a.used.put .modelResidencyBytes x })
    (ha : s.allocations.lookup aid = some a) (ht : a.tenant = t) (hact : a.active = true)
    (d : ResourceDimension) :
    s'.usedSum t d + a.used.get d = (a.used.put .modelResidencyBytes x).get d + s.usedSum t d := by
  unfold usedSum
  rw [hwritten]
  have hm := total_modify (fun a : Allocation => { a with used := a.used.put .modelResidencyBytes x })
    (fun _ a => if a.tenant == t && a.active then a.used.get d else 0) ha
  simp only [ht, hact, beq_self_eq_true, Bool.and_true, if_true] at hm
  exact hm

end Written

/-! ## Main result -/

/-- The named allocation and its tenant's consumption grow together by the amount, and consumption is what
    the active allocations use; an allocation of another tenant is unchanged. -/
structure ResidencyInStep (s s' : Engine) (obs : Observation) : Prop where
  own : ∀ a, s.allocations.lookup obs.allocation = some a → a.tenant = obs.tenant → a.active = true →
    (∃ a', s'.allocations.lookup obs.allocation = some a' ∧
      a'.used.get .modelResidencyBytes = a.used.get .modelResidencyBytes + obs.amount) ∧
    (s'.usageOf obs.tenant).consumption.get .modelResidencyBytes =
      (s.usageOf obs.tenant).consumption.get .modelResidencyBytes + obs.amount ∧
    ∀ d, (s'.usageOf obs.tenant).consumption.get d = s'.usedSum obs.tenant d
  other : ∀ a, s.allocations.lookup obs.allocation = some a → a.tenant ≠ obs.tenant →
    s'.allocations.lookup obs.allocation = some a

/-- No other active allocation of the tenant uses residency; one of another tenant holds the amount already. -/
structure SoleResident (s : Engine) (obs : Observation) : Prop where
  own : ∀ a ∈ s.allocations.lookup obs.allocation, a.tenant = obs.tenant → a.active = true →
    ∀ aid a', s.allocations.lookup aid = some a' → aid ≠ obs.allocation → a'.tenant = obs.tenant →
      a'.active = true → a'.used.get .modelResidencyBytes = 0
  other : ∀ a ∈ s.allocations.lookup obs.allocation, a.tenant ≠ obs.tenant →
    a.used.present .modelResidencyBytes = true ∧ a.used.get .modelResidencyBytes = s.residencyTarget obs

section Main

variable {s : Engine} {obs : Observation}

/-- The named allocation holds all of the tenant's residency exactly when no other one holds any. -/
theorem residencySum_eq_iff (hnn : RecordsNonNeg s) {t : TenantId} {aid : AllocationId} {a : Allocation}
    (ha : s.allocations.lookup aid = some a) (ht : a.tenant = t) (hact : a.active = true) :
    s.usedSum t .modelResidencyBytes = a.used.get .modelResidencyBytes ↔
      ∀ aid' a', s.allocations.lookup aid' = some a' → aid' ≠ aid → a'.tenant = t → a'.active = true →
        a'.used.get .modelResidencyBytes = 0 := by
  have hlook : ∀ aid' a', (s.allocations.erase aid).lookup aid' = some a' →
      aid' ≠ aid ∧ s.allocations.lookup aid' = some a' := by
    intro aid' a' h
    by_cases heq : aid' = aid
    · subst heq
      rw [lookup_erase] at h
      cases h
    · rw [lookup_erase_ne heq] at h
      exact ⟨heq, h⟩
  have hsum : s.usedSum t .modelResidencyBytes = a.used.get .modelResidencyBytes +
      total (s.allocations.erase aid) fun _ a' =>
        if a'.tenant == t && a'.active then a'.used.get .modelResidencyBytes else 0 := by
    unfold usedSum
    rw [total_erase _ ha]
    simp only [ht, hact, beq_self_eq_true, Bool.and_true, if_true]
  rw [hsum, add_eq_left, total_eq_zero_iff]
  · constructor
    · intro h aid' a' ha' hne ht' hact'
      have hzero := h aid' a' (by rw [lookup_erase_ne hne]; exact ha')
      simpa [ht', hact'] using hzero
    · intro h aid' a' hmem
      obtain ⟨hne, ha'⟩ := hlook aid' a' hmem
      split
      · rename_i hp
        simp only [Bool.and_eq_true, beq_iff_eq] at hp
        exact h aid' a' ha' hne hp.1 hp.2
      · rfl
  · intro aid' a' hmem
    split
    · exact hnn.allocations aid' a' (hlook aid' a' hmem).2 _
    · exact le_refl 0

/-- **Model residency stays in step** exactly when the named allocation is the only one with which its tenant
    uses residency, or the allocation of another tenant that holds the resulting amount already; in every
    reachable state in which the tenant's counters are the recomputed ones and nothing overflows. -/
theorem residency_in_step_iff {settings : EngineSettings} {l : List (Env × Call)} {env₀ : Env}
    (hrun : Run Engine.after anyCall { settings := settings } l s) (ht : s.tenantExists obs.tenant = true)
    (hsync : SyncedAt env₀ s obs.tenant) (hkind : obs.kind = .modelResidencyAdded) (hamount : 0 ≤ obs.amount)
    (hfit : ∀ d, s.usedSum obs.tenant d + (if d = .modelResidencyBytes then obs.amount else 0) ≤ INT64_MAX)
    (env : Env) :
    ResidencyInStep s (s.applyObservation env obs).2 obs ↔ SoleResident s obs := by
  have hnn := run_recordsNonNeg hrun
  have hused : ∀ d, (s.usageOf obs.tenant).consumption.get d = s.usedSum obs.tenant d := by
    intro d
    rw [hsync.consumption, computedConsumed_eq hnn.allocations, get_exactUsed]
    intro e
    have he := hfit e
    split at he <;> omega
  have htarget : s.residencyTarget obs = s.usedSum obs.tenant .modelResidencyBytes + obs.amount := by
    unfold residencyTarget
    rw [hused]
  have hnonneg : 0 ≤ s.residencyTarget obs := by
    rw [htarget]
    exact add_nonneg (usedSum_nonneg hnn _ _) hamount
  obtain ⟨halloc, hcons⟩ := applyObservation_residency env ht hkind hnonneg
  obtain ⟨s', hs'⟩ : ∃ y, y = (s.applyObservation env obs).2 := ⟨_, rfl⟩
  rw [← hs'] at halloc hcons ⊢
  have hlook : ∀ a, s.allocations.lookup obs.allocation = some a →
      s'.allocations.lookup obs.allocation =
        some { a with used := a.used.put .modelResidencyBytes (s.residencyTarget obs) } := by
    intro a ha
    rw [halloc, lookup_modify_self, ha]
    rfl
  constructor
  · intro hstep
    refine ⟨fun a ha hmine hact => ?_, fun a ha hother => ?_⟩
    · obtain ⟨⟨a', ha', hgrown⟩, -, -⟩ := hstep.own a ha hmine hact
      rw [hlook a ha] at ha'
      cases ha'
      rw [SparseVec.get_put_self, htarget] at hgrown
      exact (residencySum_eq_iff hnn ha hmine hact).mp (by omega)
    · have hsame := hstep.other a ha hother
      rw [hlook a ha] at hsame
      have hput : a.used.put .modelResidencyBytes (s.residencyTarget obs) = a.used :=
        congrArg Allocation.used (Option.some.inj hsame)
      exact put_eq_self_iff.mp hput
  · intro hsole
    refine ⟨fun a ha hmine hact => ?_, fun a ha hother => ?_⟩
    · have hall := (residencySum_eq_iff hnn ha hmine hact).mpr (hsole.own a ha hmine hact)
      refine ⟨⟨_, hlook a ha, ?_⟩, ?_, fun d => ?_⟩
      · rw [SparseVec.get_put_self, htarget, hall]
      · rw [hcons, SparseVec.get_put_self]
        rfl
      · have hsum := usedSum_written halloc ha hmine hact d
        rw [hcons]
        by_cases hd : d = .modelResidencyBytes
        · subst hd
          rw [SparseVec.get_put_self] at hsum ⊢
          omega
        · rw [SparseVec.get_put_ne _ _ hd] at hsum ⊢
          rw [hused]
          omega
    · rw [hlook a ha, put_eq_self_iff.mpr (hsole.other a ha hother)]

end Main

/-- A tenant starts an allocation, reports 4 bytes for it, and starts another one. -/
def twoResidents : List (Env × Call) :=
  let auth : Authority := { epoch := .initial, quotaGeneration := ⟨2⟩ }
  [(.numbered 1, .createTenant ⟨0, 1⟩ [] none 100),
   (.numbered 2, .setTenantQuota ⟨0, 1⟩ { hardLimit := .fromScalar .modelResidencyBytes 100 }),
   (.numbered 3, .reserve ⟨0, 1⟩ (.fromScalar .modelResidencyBytes 10) auth),
   (.numbered 4, .startAllocation ⟨0, 3⟩ (.fromScalar .modelResidencyBytes 10) auth),
   (.numbered 5, .applyObservation
     { tenant := ⟨0, 1⟩, allocation := ⟨0, 4⟩, dimension := .modelResidencyBytes, amount := 4
       kind := .modelResidencyAdded }),
   (.numbered 6, .startAllocation ⟨0, 3⟩ (.fromScalar .modelResidencyBytes 10) auth)]

/-- Three more bytes for one of the two. -/
def threeMore (aid : AllocationId) : Observation :=
  { tenant := ⟨0, 1⟩, allocation := aid, dimension := .modelResidencyBytes, amount := 3
    kind := .modelResidencyAdded }

theorem twoResidents_synced : SyncedAt {} (twoResidents.foldl Engine.after {}) ⟨0, 1⟩ :=
  ⟨by decide +kernel, by decide +kernel, by decide +kernel, by decide +kernel, by decide +kernel⟩

theorem residency_in_step_first :
    ((twoResidents.foldl Engine.after {}).usageOf ⟨0, 1⟩).consumption.get .modelResidencyBytes = 4 ∧
    ResidencyInStep (twoResidents.foldl Engine.after {})
      ((twoResidents.foldl Engine.after {}).applyObservation {} (threeMore ⟨0, 4⟩)).2 (threeMore ⟨0, 4⟩) := by
  refine ⟨by decide +kernel, (residency_in_step_iff (Run.of_check twoResidents _ (by decide +kernel))
    (by decide +kernel) twoResidents_synced rfl (by decide) (by decide +kernel) {}).mpr ⟨?_, ?_⟩⟩
  · decide +kernel
  · decide +kernel

/-- **The second allocation is credited with the first one's use as well**: 7 bytes where 3 were added, and
    11 in all where the tenant consumes 7. -/
theorem residency_out_of_step :
    Run Engine.after anyCall {} twoResidents (twoResidents.foldl Engine.after {}) ∧
    SyncedAt {} (twoResidents.foldl Engine.after {}) ⟨0, 1⟩ ∧
    (((twoResidents.foldl Engine.after {}).allocations.lookup ⟨0, 6⟩).any fun a =>
      a.tenant == ⟨0, 1⟩ && a.active && decide (a.used.get .modelResidencyBytes = 0)) = true ∧
    ((((twoResidents.foldl Engine.after {}).applyObservation {} (threeMore ⟨0, 6⟩)).2.allocations.lookup
      ⟨0, 6⟩).map fun a => a.used.get .modelResidencyBytes) = some 7 ∧
    (((twoResidents.foldl Engine.after {}).applyObservation {} (threeMore ⟨0, 6⟩)).2.usageOf
      ⟨0, 1⟩).consumption.get .modelResidencyBytes = 7 ∧
    ((twoResidents.foldl Engine.after {}).applyObservation {} (threeMore ⟨0, 6⟩)).2.usedSum ⟨0, 1⟩
      .modelResidencyBytes = 11 :=
  ⟨Run.of_check _ _ (by decide +kernel), twoResidents_synced, by decide +kernel, by decide +kernel,
    by decide +kernel, by decide +kernel⟩

end Engine

end QuotaFabric
