import QuotaFabric.Lifecycle.Allocations
import QuotaFabric.Lifecycle.Undo

/-!
# What a resize stores

`resize_allocation` writes the new use before it asks for the quota decision, and takes the minimum
with a vector in which an absent dimension means "no bound" on either side.

* `capOf` — the bound that minimum puts on a use: no entry, no bound but that of the saturated sum;
* `resizedUse_cell` — what is stored on each dimension, entry by entry;
* `ResizesAsAsked` — a failed resize changes nothing, a successful one changes what was asked;
* `StoresAsked`, `KeepsUse` — when the stored amount is the one asked for, or the old one;
* `resize_as_asked_iff` — a resize does as asked exactly if each dimension satisfies the first where
  the decision lets it through, and the second where it does not;
* `refused_resize_is_kept` — a run to a state where a refused resize stays.
-/

set_option autoImplicit false

namespace QuotaFabric

open AList

namespace Engine

/-- What the use on `d` is cut down to. -/
def capOf (a : Allocation) (d : ResourceDimension) : Int :=
  if a.resources.present d then a.resources.get d else INT64_MAX

/-- The stored use is the one asked for: the sum cut down to the allocation's size where `delta` has
    an entry, the old use elsewhere. -/
def StoresAsked (a : Allocation) (delta : ResourceVector) (d : ResourceDimension) : Prop :=
  if delta.present d then a.resources.present d = true ∨ a.used.get d + delta.get d = 0
  else if a.used.present d then a.used.get d ≤ capOf a d
  else a.resources.get d = 0

instance (a : Allocation) (delta : ResourceVector) (d : ResourceDimension) :
    Decidable (StoresAsked a delta d) := by
  delta StoresAsked
  infer_instance

/-- The stored use is the old one, entries included. -/
def KeepsUse (a : Allocation) (delta : ResourceVector) (d : ResourceDimension) : Prop :=
  if a.used.present d then
    a.used.get d = capOf a d ∨ (delta.get d = 0 ∧ a.used.get d ≤ capOf a d)
  else delta.present d = false ∧ a.resources.present d = false

instance (a : Allocation) (delta : ResourceVector) (d : ResourceDimension) :
    Decidable (KeepsUse a delta d) := by
  delta KeepsUse
  infer_instance

/-- A failed resize leaves the allocations and the counters as they were; a successful one changes the
    use of its allocation on the dimensions of `delta` only, by that much, up to its size. -/
structure ResizesAsAsked (env : Env) (s : Engine) (aid : AllocationId) (delta : ResourceVector)
    (auth : Authority) : Prop where
  failed : (s.resizeAllocation env aid delta auth).1.ok = false →
    (s.resizeAllocation env aid delta auth).2.allocations = s.allocations ∧
    (s.resizeAllocation env aid delta auth).2.usage = s.usage
  done : (s.resizeAllocation env aid delta auth).1.ok = true →
    ∃ a a', s.allocations.lookup aid = some a ∧
      (s.resizeAllocation env aid delta auth).2.allocations.lookup aid = some a' ∧
      ∀ d, a'.used.get d =
        if delta.present d then Min.min (a.used.get d + delta.get d) (a.resources.get d)
        else a.used.get d

/-- Where the call gets as far as the quota decision: a resize that is let through stores what was
    asked, one that is not would store what is there. -/
def StoresFaithfully (env : Env) (s : Engine) (aid : AllocationId) (delta : ResourceVector)
    (auth : Authority) : Prop :=
  s.staleQuotaGen auth = false → ∀ a ∈ s.allocations.lookup aid, a.active = true →
    if resizeDenied (s.classify env a.tenant a.resources).code then ∀ d, KeepsUse a delta d
    else ∀ d, StoresAsked a delta d

instance (env : Env) (s : Engine) (aid : AllocationId) (delta : ResourceVector) (auth : Authority) :
    Decidable (StoresFaithfully env s aid delta auth) := by
  delta StoresFaithfully
  infer_instance

/-! ## The stored use -/

section Stored

variable {a : Allocation} {delta : ResourceVector} {d : ResourceDimension}

theorem stored_of_nonneg {x : Int} (h : 0 ≤ x) : ResourceVector.stored x = some x := by
  unfold ResourceVector.stored
  rw [if_neg (by omega)]

/-- The use before it is cut down. -/
theorem grownUse_cell (hused : a.used.Valid) (hdelta : delta.NonNeg) (d : ResourceDimension) :
    (a.used.add delta true).2.cell d =
      if a.used.present d = true ∨ delta.present d = true then
        some (Min.min (a.used.get d + delta.get d) INT64_MAX)
      else none := by
  have hu := hused d
  have hd := hdelta d
  rw [ResourceVector.add_saturated]
  cases hcd : delta.cell d with
  | none =>
    have hget : delta.get d = 0 := by unfold SparseVec.get; rw [hcd]; rfl
    have hpd : delta.present d = false := by unfold SparseVec.present; rw [hcd]; rfl
    rw [hget, hpd, add_zero, min_eq_left hu.2]
    cases hcu : a.used.cell d with
    | none => simp [SparseVec.present, hcu]
    | some x => simp [SparseVec.present, SparseVec.get, hcu]
  | some y =>
    have hget : delta.get d = y := by unfold SparseVec.get; rw [hcd]; rfl
    have hpd : delta.present d = true := by unfold SparseVec.present; rw [hcd]; rfl
    rw [hget] at hd
    rw [if_pos (Or.inr hpd), hget, ← satAdd_eq_min hu.2 hd]
    rfl

/-- **What a resize stores**: the sum up to the bound where the allocation uses or gains anything,
    and the allocation's whole size elsewhere. -/
theorem resizedUse_cell (hused : a.used.Valid) (hres : a.resources.Valid) (hdelta : delta.NonNeg)
    (d : ResourceDimension) :
    (resizedUse a delta).cell d =
      if a.used.present d = true ∨ delta.present d = true then
        some (Min.min (a.used.get d + delta.get d) (capOf a d))
      else a.resources.cell d := by
  have hu := (hused d).1
  have hd := hdelta d
  have hr := hres d
  have hgrown := grownUse_cell hused hdelta d
  unfold resizedUse ResourceVector.min
  simp only
  rw [hgrown]
  unfold capOf SparseVec.present SparseVec.get at *
  by_cases htouched : (a.used.cell d).isSome = true ∨ (delta.cell d).isSome = true
  · rw [if_pos htouched, if_pos htouched]
    cases hcr : a.resources.cell d with
    | none =>
      simp only [Option.isSome_none, Bool.false_eq_true, if_false]
      exact stored_of_nonneg (le_min (by omega) (by decide))
    | some y =>
      rw [hcr] at hr
      simp only [Option.isSome_some, if_true, Option.getD_some] at hr ⊢
      rw [min_assoc, min_eq_right hr.2]
      exact stored_of_nonneg (le_min (by omega) hr.1)
  · rw [if_neg htouched, if_neg htouched]
    cases hcr : a.resources.cell d with
    | none => rfl
    | some y =>
      rw [hcr] at hr
      exact stored_of_nonneg hr.1

theorem resizedUse_asked_iff (hused : a.used.Valid) (hres : a.resources.Valid) (hdelta : delta.NonNeg)
    (d : ResourceDimension) :
    ((resizedUse a delta).get d =
      if delta.present d then Min.min (a.used.get d + delta.get d) (a.resources.get d)
      else a.used.get d) ↔ StoresAsked a delta d := by
  have hu := (hused d).1
  have hd := hdelta d
  have hcell := resizedUse_cell hused hres hdelta d
  unfold StoresAsked
  cases hpd : delta.present d with
  | true =>
    simp only [hpd, or_true, if_true] at hcell ⊢
    have hget : (resizedUse a delta).get d = Min.min (a.used.get d + delta.get d) (capOf a d) := by
      unfold SparseVec.get at *
      rw [hcell]
      rfl
    rw [hget]
    unfold capOf
    cases hpr : a.resources.present d with
    | true => simp
    | false =>
      -- without an entry the sum is not cut down, while an absent size counts as 0
      have hzero : a.resources.get d = 0 := SparseVec.get_of_not_present hpr
      have hmax : (0 : Int) < INT64_MAX := by decide
      simp only [Bool.false_eq_true, if_false, false_or]
      omega
  | false =>
    have hzero : delta.get d = 0 := SparseVec.get_of_not_present hpd
    cases hpu : a.used.present d with
    | true =>
      have hget : (resizedUse a delta).get d = Min.min (a.used.get d) (capOf a d) := by
        rw [hpu, hzero, add_zero] at hcell
        simp only [true_or, if_true] at hcell
        show ((resizedUse a delta).cell d).getD 0 = _
        rw [hcell]
        rfl
      rw [hget]
      simp only [Bool.false_eq_true, if_false, if_true]
      omega
    | false =>
      have hnone : a.used.get d = 0 := SparseVec.get_of_not_present hpu
      have hget : (resizedUse a delta).get d = a.resources.get d := by
        rw [hpu, hpd] at hcell
        simp only [Bool.false_eq_true, or_self, if_false] at hcell
        show ((resizedUse a delta).cell d).getD 0 = _
        rw [hcell]
        rfl
      rw [hget, hnone]
      simp

theorem resizedUse_kept_iff (hused : a.used.Valid) (hres : a.resources.Valid) (hdelta : delta.NonNeg)
    (d : ResourceDimension) :
    (resizedUse a delta).cell d = a.used.cell d ↔ KeepsUse a delta d := by
  have hu := (hused d).1
  have hd := hdelta d
  rw [resizedUse_cell hused hres hdelta d]
  unfold KeepsUse
  cases hpu : a.used.present d with
  | true =>
    simp only [true_or, if_true]
    rw [SparseVec.cell_of_present hpu, Option.some.injEq]
    omega
  | false =>
    have hnone : a.used.cell d = none := by
      unfold SparseVec.present at hpu
      simpa using hpu
    simp only [Bool.false_eq_true, false_or, if_false]
    rw [hnone]
    cases hpd : delta.present d with
    | true => simp
    | false => simp [SparseVec.present]

end Stored

/-! ## One call -/

section Call

variable {env : Env} {s : Engine} {aid : AllocationId} {delta : ResourceVector} {auth : Authority}
  {a : Allocation}

/-- The decision does not read the allocations: it is the one on the state before the call. -/
theorem classify_withUse (m : UMap AllocationId Allocation) (t : TenantId) (req : ResourceVector) :
    ({ s with allocations := m } : Engine).classify env t req = s.classify env t req := by
  have hconf : SameConfig s { s with allocations := m } := ⟨rfl, rfl, rfl, rfl, rfl, rfl, rfl⟩
  exact classify_congr hconf (fun _ => rfl) rfl t req

/-- A resize that is refused before it writes changes nothing. -/
theorem resizeAllocation_of_refused (env : Env) (delta : ResourceVector)
    (h : ∀ a, s.staleQuotaGen auth = false → s.allocations.lookup aid = some a → a.active = false) :
    (s.resizeAllocation env aid delta auth).1.ok = false ∧ (s.resizeAllocation env aid delta auth).2 = s := by
  unfold resizeAllocation
  split
  · exact ⟨rfl, rfl⟩
  rename_i hgen
  split
  · exact ⟨rfl, rfl⟩
  rename_i a ha
  rw [h a (by simpa using hgen) ha]
  exact ⟨rfl, rfl⟩

/-- A resize that gets as far as the decision: the use is stored either way. -/
theorem resizeAllocation_of_active (env : Env) (delta : ResourceVector) (hgen : s.staleQuotaGen auth = false)
    (ha : s.allocations.lookup aid = some a) (hact : a.active = true) :
    (s.resizeAllocation env aid delta auth).1.ok =
        !resizeDenied (s.classify env a.tenant a.resources).code ∧
      (s.resizeAllocation env aid delta auth).2.allocations =
        s.allocations.modify aid (fun x => { x with used := resizedUse a delta }) ∧
      (resizeDenied (s.classify env a.tenant a.resources).code = true →
        (s.resizeAllocation env aid delta auth).2.usage = s.usage) := by
  unfold resizeAllocation
  rw [if_neg (by simp [hgen]), ha]
  simp only [hact, Bool.not_true, Bool.false_eq_true, if_false, classify_withUse]
  cases hden : resizeDenied (s.classify env a.tenant a.resources).code with
  | true => exact ⟨rfl, rfl, fun _ => rfl⟩
  | false => exact ⟨rfl, rfl, fun h => by cases h⟩

/-- The map is as it was exactly when the stored use is. -/
theorem modify_used_eq_iff (ha : s.allocations.lookup aid = some a) (v : ResourceVector) :
    s.allocations.modify aid (fun x => { x with used := v }) = s.allocations ↔ v = a.used := by
  constructor
  · intro heq
    have hlook := lookup_modify_self aid (fun x : Allocation => { x with used := v }) s.allocations
    rw [heq, ha, Option.map_some, Option.some.injEq] at hlook
    exact (congrArg Allocation.used hlook).symm
  · rintro rfl
    refine modify_eq_self fun b hb => ?_
    rw [ha] at hb
    cases hb
    rfl

theorem resizesAsAsked_iff (hrec : ∀ a, s.allocations.lookup aid = some a → a.used.Valid ∧ a.resources.Valid)
    (hdelta : delta.NonNeg) :
    ResizesAsAsked env s aid delta auth ↔ StoresFaithfully env s aid delta auth := by
  by_cases hlive : ∃ a, s.staleQuotaGen auth = false ∧ s.allocations.lookup aid = some a ∧ a.active = true
  · obtain ⟨a, hgen, ha, hact⟩ := hlive
    obtain ⟨hused, hres⟩ := hrec a ha
    obtain ⟨hok, halloc, husage⟩ :=
      resizeAllocation_of_active env delta hgen ha hact
    have hfaith : StoresFaithfully env s aid delta auth ↔
        if resizeDenied (s.classify env a.tenant a.resources).code then ∀ d, KeepsUse a delta d
        else ∀ d, StoresAsked a delta d := by
      unfold StoresFaithfully
      simp only [hgen, ha, Option.mem_def, Option.some.injEq, forall_eq', hact, forall_const]
    rw [hfaith]
    cases hden : resizeDenied (s.classify env a.tenant a.resources).code with
    | true =>
      rw [hden] at hok
      have hkept : ResizesAsAsked env s aid delta auth ↔ resizedUse a delta = a.used := by
        rw [← modify_used_eq_iff ha, ← halloc]
        constructor
        · exact fun h => (h.failed hok).1
        · intro h
          refine ⟨fun _ => ⟨h, husage hden⟩, fun hdone => ?_⟩
          rw [hok] at hdone
          cases hdone
      rw [hkept, if_pos rfl]
      constructor
      · exact fun h d => (resizedUse_kept_iff hused hres hdelta d).mp (by rw [h])
      · exact fun h => SparseVec.ext (funext fun d => (resizedUse_kept_iff hused hres hdelta d).mpr (h d))
    | false =>
      rw [hden] at hok
      have hlook : (s.resizeAllocation env aid delta auth).2.allocations.lookup aid =
          some { a with used := resizedUse a delta } := by
        rw [halloc, lookup_modify_self, ha]
        rfl
      simp only [Bool.false_eq_true, if_false]
      constructor
      · intro h d
        obtain ⟨a₀, a', ha₀, ha', hstored⟩ := h.done hok
        rw [ha] at ha₀
        rw [hlook] at ha'
        cases ha₀
        cases ha'
        exact (resizedUse_asked_iff hused hres hdelta d).mp (hstored d)
      · intro h
        refine ⟨fun hfail => ?_, fun _ => ⟨a, _, ha, hlook, fun d => ?_⟩⟩
        · rw [hok] at hfail
          cases hfail
        · exact (resizedUse_asked_iff hused hres hdelta d).mpr (h d)
  · have hrefused : ∀ a, s.staleQuotaGen auth = false → s.allocations.lookup aid = some a →
        a.active = false := by
      intro a hgen ha
      cases hact : a.active with
      | false => rfl
      | true => exact absurd ⟨a, hgen, ha, hact⟩ hlive
    obtain ⟨hok, hsame⟩ := resizeAllocation_of_refused env delta hrefused
    refine iff_of_true ⟨fun _ => ?_, fun hdone => ?_⟩ fun hgen a ha hact => ?_
    · rw [hsame]
      exact ⟨rfl, rfl⟩
    · rw [hok] at hdone
      cases hdone
    · rw [hrefused a hgen ha] at hact
      cases hact

end Call

/-! ## Main result -/

/-- **A resize does as asked exactly where it stores faithfully**, in every reachable state. -/
theorem resize_as_asked_iff (settings : EngineSettings) {l : List Action} {s : Engine}
    (hrun : Run act plainAction { settings := settings } l s) (env : Env) (aid : AllocationId)
    {delta : ResourceVector} (hdelta : delta.NonNeg) (auth : Authority) :
    ResizesAsAsked env s aid delta auth ↔ StoresFaithfully env s aid delta auth :=
  resizesAsAsked_iff (fun a ha =>
    have hstored := ((run_reloadInv hrun).sound.allocations aid a ha).2
    ⟨hstored.used, hstored.resources⟩) hdelta

/-! ## Runs -/

/-- An allocation of 4 units is started and grows by one. -/
theorem resize_as_asked_four :
    ResizesAsAsked {} (reservedFour.after (.numbered 4, .startAllocation ⟨0, 3⟩
        (.fromScalar .acceleratorVRAM 4) secondGeneration)) ⟨0, 4⟩ (.fromScalar .acceleratorVRAM 1)
      secondGeneration := by
  have hstart : plainAction reservedFour (.call (.numbered 4, .startAllocation ⟨0, 3⟩
      (.fromScalar .acceleratorVRAM 4) secondGeneration)) :=
    ⟨by decide +kernel, numbered_inRange 4, by show ResourceVector.Valid _; decide⟩
  refine (resize_as_asked_iff {} (reservedFour_reachable.snoc hstart) {} ⟨0, 4⟩ (by decide)
    secondGeneration).mpr ?_
  show StoresFaithfully {} _ _ _ _
  decide +kernel

/-- Of a quota of 10 units 8 are reserved; an allocation of 8 is started and grows by one. -/
def startedEight : List Action :=
  [.call (.numbered 1, .createTenant cappedTenant (text "capped") none 100),
    .call (.numbered 2, .setTenantQuota cappedTenant
      { softLimit := .fromScalar .acceleratorVRAM 10, hardLimit := .fromScalar .acceleratorVRAM 10 }),
    .call (.numbered 3, .reserve cappedTenant (.fromScalar .acceleratorVRAM 8) secondGeneration),
    .call (.numbered 4, .startAllocation ⟨0, 3⟩ (.fromScalar .acceleratorVRAM 8) secondGeneration),
    .call (.numbered 5, .resizeAllocation ⟨0, 4⟩ (.fromScalar .acceleratorVRAM 1) secondGeneration)]

/-- **A refused resize stays**: to grow by one more unit is refused, since the decision counts the
    allocation a second time, and the use has gone up all the same. -/
theorem refused_resize_is_kept :
    Run act plainAction {} startedEight (startedEight.foldl act {}) ∧
      ¬ ResizesAsAsked {} (startedEight.foldl act {}) ⟨0, 4⟩ (.fromScalar .acceleratorVRAM 1)
        secondGeneration := by
  constructor
  · exact .cons ⟨by decide +kernel, numbered_inRange 1, by show ResourceVector.Valid _; decide⟩
      (.cons ⟨by decide +kernel, numbered_inRange 2, by show ResourceQuota.Storable _; decide⟩
        (.cons ⟨by decide +kernel, numbered_inRange 3, by show ResourceVector.Valid _; decide⟩
          (.cons ⟨by decide +kernel, numbered_inRange 4, by show ResourceVector.Valid _; decide⟩
            (.cons ⟨by decide +kernel, numbered_inRange 5, by show ResourceVector.Valid _; decide⟩
              (.nil _)))))
  · intro h
    have hfail : ((startedEight.foldl act {}).resizeAllocation {} ⟨0, 4⟩ (.fromScalar .acceleratorVRAM 1)
        secondGeneration).1.ok = false := by decide +kernel
    have hbefore : ((startedEight.foldl act {}).allocations.lookup ⟨0, 4⟩).map
        (fun a => a.used.get .acceleratorVRAM) = some 1 := by decide +kernel
    have hafter : (((startedEight.foldl act {}).resizeAllocation {} ⟨0, 4⟩ (.fromScalar .acceleratorVRAM 1)
        secondGeneration).2.allocations.lookup ⟨0, 4⟩).map
        (fun a => a.used.get .acceleratorVRAM) = some 2 := by decide +kernel
    rw [(h.failed hfail).1, hbefore] at hafter
    exact absurd hafter (by decide)

end Engine

end QuotaFabric
