import QuotaFabric.Accounting.Observations
import QuotaFabric.Limits.RollingUsage
import QuotaFabric.Persistence.Reachable

/-!
# The arithmetic of observations

`apply_observation` adds and subtracts amounts that come from the network, in plain signed 64-bit
arithmetic.  A sum above the range is undefined, and a negative one is refused by `set`, which leaves the
counter as it was.

* `observationResults` — the exact results of the additions and subtractions that one observation makes;
* `addResults_iff` — when those of a rolling window are in range;
* `definedCall`, `run_windowsTyped` — runs without signed overflow, and the windows they reach;
* `observation_arithmetic_iff` — when an observation stays in range and clamps.
-/

set_option autoImplicit false

namespace QuotaFabric

open AList RollingTotal

/-! ## Windows -/

/-- The additions and subtractions of `sat_add`. -/
def satAddResults (a b : Int) : List Int :=
  (if b > 0 then [INT64_MAX - b] else []) ++ if b > 0 ∧ a > INT64_MAX - b then [] else [a + b]

namespace RollingWindow

/-- The subtractions of the expiry loop. -/
def expireResults (cutoff : Nanos) : List (Nanos × Int) → Int → List Int
  | [], _ => []
  | x :: xs, total => if x.1 ≤ cutoff then (total - x.2) :: expireResults cutoff xs (total - x.2) else []

/-- The additions and subtractions of `add`. -/
def addResults (w : RollingWindow) (at_ : Nanos) (amount : Int) : List Int :=
  if amount < 0 then []
  else
    satAddResults w.total amount ++
      (at_ - w.windowNs) :: expireResults (at_ - w.windowNs) (w.samples ++ [(at_, amount)]) (satAdd w.total amount)

/-- What the samples at the front add up to, as far as the cutoff reaches. -/
def expiredFront (cutoff : Nanos) (l : List (Nanos × Int)) : Int := sum (l.takeWhile fun x => decide (x.1 ≤ cutoff))

/-- A window as the engine keeps it: a 64-bit total of amounts that are not negative, over the default period. -/
structure Typed (w : RollingWindow) : Prop where
  total : IsInt64 w.total
  samples : ∀ x ∈ w.samples, 0 ≤ x.2
  period : w.windowNs = 0 ∨ w.windowNs = Engine.defaultWindowNs

theorem expiredFront_cons (cutoff : Nanos) (x : Nanos × Int) (l : List (Nanos × Int)) :
    expiredFront cutoff (x :: l) = if x.1 ≤ cutoff then x.2 + expiredFront cutoff l else 0 := by
  unfold expiredFront
  by_cases h : x.1 ≤ cutoff
  · rw [if_pos h, List.takeWhile_cons_of_pos (by simpa using h), sum_cons]
  · rw [if_neg h, List.takeWhile_cons_of_neg (by simpa using h), sum_nil]

/-- A new sample is after the cutoff. -/
theorem expiredFront_append {cutoff : Nanos} {x : Nanos × Int} (hx : cutoff < x.1) :
    ∀ l : List (Nanos × Int), expiredFront cutoff (l ++ [x]) = expiredFront cutoff l
  | [] => by
    rw [List.nil_append, expiredFront_cons, if_neg (not_le.mpr hx)]
    rfl
  | y :: l => by rw [List.cons_append, expiredFront_cons, expiredFront_cons, expiredFront_append hx l]

/-- The samples at the front and those that are left make up all of them. -/
theorem expiredFront_add (cutoff : Nanos) (l : List (Nanos × Int)) :
    expiredFront cutoff l + sum (dropExpired cutoff l) = sum l := by
  unfold expiredFront dropExpired
  rw [← sum_append, List.takeWhile_append_dropWhile]

theorem expiredFront_nonneg {cutoff : Nanos} {l : List (Nanos × Int)} (h : ∀ x ∈ l, 0 ≤ x.2) :
    0 ≤ expiredFront cutoff l :=
  sum_nonneg fun x hx => h x (List.takeWhile_subset _ hx)

/-- The totals of the loop go down, so the last one decides. -/
theorem expireResults_iff (cutoff : Nanos) : ∀ (l : List (Nanos × Int)) (total : Int), (∀ x ∈ l, 0 ≤ x.2) →
    IsInt64 total →
    ((∀ r ∈ expireResults cutoff l total, IsInt64 r) ↔ INT64_MIN ≤ total - expiredFront cutoff l)
  | [], total, _, htotal => by
    unfold expireResults expiredFront
    simp only [List.not_mem_nil, false_imp_iff, implies_true, List.takeWhile_nil, sum_nil, sub_zero, true_iff]
    exact htotal.1
  | x :: l, total, hnn, htotal => by
    obtain ⟨hx, hl⟩ := List.forall_mem_cons.mp hnn
    unfold expireResults
    rw [expiredFront_cons]
    split
    · rw [List.forall_mem_cons]
      have hfront : 0 ≤ expiredFront cutoff l := expiredFront_nonneg hl
      constructor
      · rintro ⟨hhead, htail⟩
        have hlast := (expireResults_iff cutoff l (total - x.2) hl hhead).mp htail
        omega
      · intro hlast
        have hhead : IsInt64 (total - x.2) := by
          unfold IsInt64 at *
          omega
        exact ⟨hhead, (expireResults_iff cutoff l (total - x.2) hl hhead).mpr (by omega)⟩
    · simp only [List.not_mem_nil, false_imp_iff, implies_true, sub_zero, true_iff]
      exact htotal.1

/-- The total the loop ends with is one of those it computed. -/
theorem expireLoop_total_mem (cutoff : Nanos) : ∀ (l : List (Nanos × Int)) (total : Int),
    (expireLoop cutoff l total).2 ∈ total :: expireResults cutoff l total
  | [], total => List.mem_singleton_self total
  | x :: l, total => by
    unfold expireLoop expireResults
    split
    · exact List.mem_cons_of_mem _ (expireLoop_total_mem cutoff l (total - x.2))
    · exact List.mem_singleton_self total

theorem satAddResults_inRange {a b : Int} (ha : IsInt64 a) (hb : 0 ≤ b) (hb' : b ≤ INT64_MAX) :
    IsInt64 (satAdd a b) ∧ ∀ r ∈ satAddResults a b, IsInt64 r := by
  unfold IsInt64 INT64_MIN INT64_MAX at *
  constructor
  · unfold satAdd INT64_MAX
    split <;> omega
  · unfold satAddResults INT64_MAX
    intro r hr
    rcases List.mem_append.mp hr with hr | hr
    · split at hr
      · rw [List.mem_singleton.mp hr]
        omega
      · exact absurd hr List.not_mem_nil
    · split at hr
      · exact absurd hr List.not_mem_nil
      · rw [List.mem_singleton.mp hr]
        omega

section Add

variable {w : RollingWindow} {at_ : Nanos} {amount : Int}

theorem Typed.ready (h : w.Typed) : w.ready.Typed ∧ w.ready.windowNs = Engine.defaultWindowNs := by
  unfold RollingWindow.ready
  split
  · exact ⟨⟨h.total, h.samples, .inr rfl⟩, rfl⟩
  · rename_i hset
    rcases h.period with hzero | hdefault
    · exact absurd hzero.le hset
    · exact ⟨h, hdefault⟩

/-- **A sample is counted in range** exactly when its cutoff is a 64-bit instant and what expires does not
    take the saturated total below the range. -/
theorem addResults_iff (h : w.Typed) (hat : IsInt64 at_) (hamount : IsInt64 amount) :
    (∀ r ∈ w.ready.addResults at_ amount, IsInt64 r) ↔
      (0 ≤ amount → INT64_MIN ≤ at_ - Engine.defaultWindowNs ∧
        INT64_MIN ≤ satAdd w.total amount - expiredFront (at_ - Engine.defaultWindowNs) w.samples) := by
  obtain ⟨hready, hperiod⟩ := h.ready
  have htotal : w.ready.total = w.total := by unfold RollingWindow.ready; split <;> rfl
  have hsamples : w.ready.samples = w.samples := by unfold RollingWindow.ready; split <;> rfl
  unfold addResults
  rw [hperiod, htotal, hsamples]
  by_cases hneg : amount < 0
  · rw [if_pos hneg]
    exact ⟨fun _ hpos => absurd hneg (not_lt.mpr hpos), fun _ r hr => absurd hr List.not_mem_nil⟩
  · rw [if_neg hneg]
    have hpos := not_lt.mp hneg
    obtain ⟨hsum, hresults⟩ := satAddResults_inRange h.total hpos hamount.2
    have hcutoff : at_ - Engine.defaultWindowNs < at_ := sub_lt_self at_ (by decide)
    have hexpire := expireResults_iff (at_ - Engine.defaultWindowNs) (w.samples ++ [(at_, amount)])
      (satAdd w.total amount) (fun x hx => by
        rcases List.mem_append.mp hx with hx | hx
        · exact h.samples x hx
        · rw [List.mem_singleton.mp hx]
          exact hpos) hsum
    rw [expiredFront_append hcutoff] at hexpire
    constructor
    · intro hall _
      exact ⟨(hall _ (List.mem_append_right _ List.mem_cons_self)).1,
        hexpire.mp fun r hr => hall r (List.mem_append_right _ (List.mem_cons_of_mem _ hr))⟩
    · intro hcond r hr
      obtain ⟨hmin, hlast⟩ := hcond hpos
      rcases List.mem_append.mp hr with hr | hr
      · exact hresults r hr
      rcases List.mem_cons.mp hr with rfl | hr
      · exact ⟨hmin, hcutoff.le.trans hat.2⟩
      · exact hexpire.mpr hlast r hr

/-- A sample counted in range leaves a window of the same kind. -/
theorem Typed.add (h : w.Typed) (hamount : IsInt64 amount)
    (hresults : ∀ r ∈ w.ready.addResults at_ amount, IsInt64 r) : (w.ready.add at_ amount).Typed := by
  obtain ⟨hready, -⟩ := h.ready
  unfold addResults at hresults
  unfold RollingWindow.add
  split
  · exact hready
  · rename_i hneg
    rw [if_neg hneg] at hresults
    have hpos := not_lt.mp hneg
    refine ⟨?_, fun x hx => ?_, hready.period⟩
    · have hmem := expireLoop_total_mem (at_ - w.ready.windowNs) (w.ready.samples ++ [(at_, amount)])
        (satAdd w.ready.total amount)
      rcases List.mem_cons.mp hmem with hsame | hmem
      · show IsInt64 (expireLoop (at_ - w.ready.windowNs) (w.ready.samples ++ [(at_, amount)])
          (satAdd w.ready.total amount)).2
        rw [hsame]
        exact (satAddResults_inRange hready.total hpos hamount.2).1
      · exact hresults _ (List.mem_append_right _ (List.mem_cons_of_mem _ hmem))
    · have hsub : x ∈ (expireLoop (at_ - w.ready.windowNs) (w.ready.samples ++ [(at_, amount)])
          (satAdd w.ready.total amount)).1 := hx
      rw [expireLoop_eq] at hsub
      rcases List.mem_append.mp (mem_of_mem_dropExpired hsub) with hx | hx
      · exact hready.samples x hx
      · rw [List.mem_singleton.mp hx]
        exact hpos

end Add

end RollingWindow

/-! ## Observations -/

namespace Engine

/-- The additions and subtractions of `apply_observation`, in the order of the code. -/
def observationResults (env : Env) (s : Engine) (obs : Observation) : List Int :=
  if !s.tenantExists obs.tenant then []
  else
    let u := s.usageOf obs.tenant
    match obs.kind with
    | .computeInterval =>
      if obs.dimension ≠ .acceleratorComputeTime then []
      else (u.windows obs.dimension).ready.addResults (sampleTime env obs) obs.amount
    | .transferConsumed =>
      if obs.dimension ≠ .transferBytes then []
      else (u.windows .transferBytes).ready.addResults (sampleTime env obs) obs.amount
    | .modelResidencyAdded =>
      -- once for the allocation, when it is found, and once for the counter
      (if (s.allocations.lookup obs.allocation).isSome then
        [u.consumption.get .modelResidencyBytes + obs.amount] else []) ++
      [u.consumption.get .modelResidencyBytes + obs.amount]
    | .modelResidencyRemoved => [u.consumption.get .modelResidencyBytes - obs.amount]
    | .kvUsageChange => [u.consumption.get obs.dimension + obs.amount]
    | .tensorUsageChange => [u.consumption.get obs.dimension + obs.amount]
    | .usageDelta => [u.consumption.get obs.dimension + obs.amount]
    | .allocationStart => []
    | .allocationResize => []
    | .allocationRelease => []
    | .reservationCommitted => []

/-- A call whose signed arithmetic is defined, with 64-bit fields in an observation. -/
def definedCall (s : Engine) (c : Env × Call) : Prop :=
  plainCall s c ∧ ∀ obs, c.2 = .applyObservation obs →
    IsInt64 obs.amount ∧ IsInt64 obs.at_ ∧ ∀ r ∈ observationResults c.1 s obs, IsInt64 r

/-- Nothing leaves the range, and a reported change moves the counter within `[0, INT64_MAX]`. -/
structure ArithmeticChecked (env : Env) (s : Engine) (obs : Observation) : Prop where
  inRange : ∀ r ∈ observationResults env s obs, IsInt64 r
  clamped : s.tenantExists obs.tenant = true → obs.kind.addsUsage = true →
    ((s.applyObservation env obs).2.usageOf obs.tenant).consumption.get obs.dimension =
      max 0 (min ((s.usageOf obs.tenant).consumption.get obs.dimension + obs.amount) INT64_MAX)

/-- A window takes a sample: its cutoff is a 64-bit instant, and what expires leaves the total in range. -/
def WindowFits (w : RollingWindow) (at_ : Nanos) (amount : Int) : Prop :=
  0 ≤ amount → INT64_MIN ≤ at_ - defaultWindowNs ∧
    INT64_MIN ≤ satAdd w.total amount - RollingWindow.expiredFront (at_ - defaultWindowNs) w.samples

/-- What an observation has to fit: the counter it adds to or takes from, or the window. -/
def ArithmeticFits (env : Env) (s : Engine) (obs : Observation) : Prop :=
  s.tenantExists obs.tenant = true →
    match obs.kind with
    | .computeInterval | .transferConsumed =>
      windowKind obs.dimension = some obs.kind →
        WindowFits ((s.usageOf obs.tenant).windows obs.dimension) (sampleTime env obs) obs.amount
    | .modelResidencyAdded => (s.usageOf obs.tenant).consumption.get .modelResidencyBytes + obs.amount ≤ INT64_MAX
    | .modelResidencyRemoved => (s.usageOf obs.tenant).consumption.get .modelResidencyBytes - obs.amount ≤ INT64_MAX
    | .kvUsageChange | .tensorUsageChange | .usageDelta =>
      (s.usageOf obs.tenant).consumption.get obs.dimension + obs.amount ≤ INT64_MAX ∧
        (0 ≤ (s.usageOf obs.tenant).consumption.get obs.dimension + obs.amount ∨
          (s.usageOf obs.tenant).consumption.get obs.dimension = 0)
    | _ => True

section Runs

variable {env : Env} {s : Engine} {obs : Observation} {settings : EngineSettings} {l : List (Env × Call)}

/-- All windows of all tenants are as the engine keeps them. -/
def WindowsTyped (s : Engine) : Prop := ∀ t d, ((s.usageOf t).windows d).Typed

theorem sampleTime_inRange (hnow : IsInt64 env.now) (hat : IsInt64 obs.at_) : IsInt64 (sampleTime env obs) := by
  unfold sampleTime
  split
  · exact hat
  · exact hnow

/-- The results of an observation that a window counts are those of the window. -/
theorem observationResults_window (ht : s.tenantExists obs.tenant = true)
    (hkind : windowKind obs.dimension = some obs.kind) :
    observationResults env s obs =
      ((s.usageOf obs.tenant).windows obs.dimension).ready.addResults (sampleTime env obs) obs.amount := by
  unfold observationResults
  rw [if_neg (by simp [ht])]
  rcases windowKind_eq_some_iff.mp hkind with ⟨hd, hk⟩ | ⟨hd, hk⟩
  · simp only [hk]
    rw [if_neg (not_not.mpr hd)]
  · simp only [hk]
    rw [if_neg (not_not.mpr hd), hd]

/-- The results of an observation with a moved counter are its new value. -/
theorem observationResults_addsUsage (ht : s.tenantExists obs.tenant = true) (hkind : obs.kind.addsUsage = true) :
    observationResults env s obs = [(s.usageOf obs.tenant).consumption.get obs.dimension + obs.amount] := by
  unfold observationResults
  rw [if_neg (by simp [ht])]
  cases hk : obs.kind
  all_goals rw [hk] at hkind
  all_goals first | rfl | cases hkind

/-- **A run without overflow keeps the windows.** -/
theorem run_windowsTyped (hrun : Run Engine.after definedCall { settings := settings } l s) : WindowsTyped s := by
  have hzero : IsInt64 0 := by decide
  refine hrun.invariant (fun _ _ => ⟨hzero, fun x hx => absurd hx List.not_mem_nil, .inl rfl⟩) ?_
  intro s c hw hc t d
  rw [windows_after]
  by_cases hobs : ∃ obs, c.2 = .applyObservation obs
  · obtain ⟨obs, hobs⟩ := hobs
    obtain ⟨hamount, -, hresults⟩ := hc.2 obs hobs
    unfold sampleOf
    simp only [hobs]
    split
    · rename_i hcount
      simp only [Bool.and_eq_true, beq_iff_eq] at hcount
      obtain ⟨⟨⟨ht, rfl⟩, rfl⟩, hkind⟩ := hcount
      rw [observationResults_window ht hkind] at hresults
      exact (hw obs.tenant obs.dimension).add hamount hresults
    · exact hw t d
  · have hnone : s.sampleOf t d c = [] := by
      unfold sampleOf
      split
      · rename_i obs heq
        exact absurd ⟨obs, heq⟩ hobs
      · rfl
    rw [hnone]
    exact hw t d

/-- A counter that is moved by `x` ends at the clamped sum when the sum fits, or when it was zero. -/
theorem get_shiftConsumption_clamped {d : ResourceDimension} {x : Int} {u : Usage}
    (hle : u.consumption.get d + x ≤ INT64_MAX) :
    (shiftConsumption d x u).consumption.get d = max 0 (min (u.consumption.get d + x) INT64_MAX) ↔
      0 ≤ u.consumption.get d + x ∨ u.consumption.get d = 0 := by
  rw [min_eq_left hle]
  by_cases hneg : u.consumption.get d + x < 0
  · have hkeep : (shiftConsumption d x u).consumption = u.consumption := by
      unfold shiftConsumption ResourceVector.set
      rw [if_pos hneg]
    rw [hkeep, max_eq_left hneg.le]
    omega
  · rw [get_shiftConsumption (not_lt.mp hneg), if_pos rfl, max_eq_right (not_lt.mp hneg)]
    simp [not_lt.mp hneg]

/-- **When an observation is checked arithmetic**: in every state a run without overflow reaches, what it
    adds and subtracts stays in range and what it moves is clamped exactly when the counter or the window
    it names has room for it. -/
theorem observation_arithmetic_iff (hrun : Run Engine.after definedCall { settings := settings } l s)
    (hnow : IsInt64 env.now) (hamount : IsInt64 obs.amount) (hat : IsInt64 obs.at_) :
    ArithmeticChecked env s obs ↔ ArithmeticFits env s obs := by
  have hcounters := (run_sound (hrun.mono fun _ _ h => h.1)).counters obs.tenant
  have hwindows := run_windowsTyped hrun obs.tenant
  by_cases ht : s.tenantExists obs.tenant = true
  swap
  · refine ⟨fun _ h => absurd h ht, fun _ => ⟨?_, fun h => absurd h ht⟩⟩
    unfold observationResults
    rw [if_pos (by simpa using ht)]
    exact fun r hr => absurd hr List.not_mem_nil
  have hsum : ∀ d, IsInt64 ((s.usageOf obs.tenant).consumption.get d + obs.amount) ↔
      (s.usageOf obs.tenant).consumption.get d + obs.amount ≤ INT64_MAX := by
    intro d
    have hc := hcounters.1 d
    unfold IsInt64 at *
    omega
  have hwindow : windowKind obs.dimension = some obs.kind → ((∀ r ∈ observationResults env s obs, IsInt64 r) ↔
      WindowFits ((s.usageOf obs.tenant).windows obs.dimension) (sampleTime env obs) obs.amount) := by
    intro hkind
    rw [observationResults_window ht hkind]
    exact RollingWindow.addResults_iff (hwindows obs.dimension) (sampleTime_inRange hnow hat) hamount
  by_cases hadds : obs.kind.addsUsage = true
  · -- the counter of the named dimension moves
    have hresults : (∀ r ∈ observationResults env s obs, IsInt64 r) ↔
        (s.usageOf obs.tenant).consumption.get obs.dimension + obs.amount ≤ INT64_MAX := by
      rw [observationResults_addsUsage ht hadds, List.forall_mem_singleton, hsum]
    have hafter : ((s.applyObservation env obs).2.usageOf obs.tenant).consumption =
        (shiftConsumption obs.dimension obs.amount (s.usageOf obs.tenant)).consumption := by
      rw [applyObservation_eq ht hadds, usageOf_emitEvent, usageOf_modifyUsage_self, usageOf_modifyUsage_id]
    have hfits : ArithmeticFits env s obs ↔
        (s.usageOf obs.tenant).consumption.get obs.dimension + obs.amount ≤ INT64_MAX ∧
          (0 ≤ (s.usageOf obs.tenant).consumption.get obs.dimension + obs.amount ∨
            (s.usageOf obs.tenant).consumption.get obs.dimension = 0) := by
      unfold ArithmeticFits
      rw [forall_prop_of_true ht]
      cases hk : obs.kind
      all_goals rw [hk] at hadds
      all_goals first | rfl | cases hadds
    rw [hfits]
    constructor
    · intro h
      have hle := hresults.mp h.inRange
      have hclamped := h.clamped ht hadds
      rw [hafter] at hclamped
      exact ⟨hle, (get_shiftConsumption_clamped hle).mp hclamped⟩
    · rintro ⟨hle, hlow⟩
      refine ⟨hresults.mpr hle, fun _ _ => ?_⟩
      rw [hafter]
      exact (get_shiftConsumption_clamped hle).mpr hlow
  · -- no counter is promised to move, and the results decide
    have hchecked : ArithmeticChecked env s obs ↔ ∀ r ∈ observationResults env s obs, IsInt64 r :=
      ⟨fun h => h.inRange, fun h => ⟨h, fun _ hkind => absurd hkind hadds⟩⟩
    rw [hchecked]
    by_cases hkind : windowKind obs.dimension = some obs.kind
    · rw [hwindow hkind]
      unfold ArithmeticFits
      rw [forall_prop_of_true ht]
      rcases windowKind_eq_some_iff.mp hkind with ⟨-, hk⟩ | ⟨-, hk⟩
      all_goals
        simp only [hk] at hkind ⊢
        exact (imp_iff_right hkind).symm
    · unfold ArithmeticFits observationResults
      rw [forall_prop_of_true ht, if_neg (by simp [ht])]
      cases hk : obs.kind with
      | computeInterval =>
        have hd : obs.dimension ≠ .acceleratorComputeTime := fun hd =>
          hkind (windowKind_eq_some_iff.mpr (.inl ⟨hd, hk⟩))
        simp only [hk] at hkind
        simp [hd, hkind]
      | transferConsumed =>
        have hd : obs.dimension ≠ .transferBytes := fun hd =>
          hkind (windowKind_eq_some_iff.mpr (.inr ⟨hd, hk⟩))
        simp only [hk] at hkind
        simp [hd, hkind]
      | modelResidencyAdded =>
        simp only
        rw [← hsum]
        split <;> simp
      | modelResidencyRemoved =>
        have hc := hcounters.1 .modelResidencyBytes
        simp only [List.forall_mem_singleton]
        unfold IsInt64 at *
        unfold INT64_MIN at *
        unfold INT64_MAX at *
        omega
      | kvUsageChange | tensorUsageChange | usageDelta =>
        rw [hk] at hadds
        exact absurd rfl hadds
      | allocationStart | allocationResize | allocationRelease | reservationCommitted => simp

end Runs

/-- Usage of one tenant, as it is reported from outside. -/
def vramDelta (amount : Int) : Observation :=
  { tenant := ⟨0, 1⟩, dimension := .acceleratorVRAM, amount := amount, kind := .usageDelta }

/-- A tenant that reported ten units. -/
def tenReported : List (Env × Call) :=
  [(.numbered 1, .createTenant ⟨0, 1⟩ [] none 100), (.numbered 2, .applyObservation (vramDelta 10))]

theorem tenReported_run : Run Engine.after definedCall {} tenReported (tenReported.foldl Engine.after {}) := by
  refine .cons ⟨⟨by decide +kernel, numbered_inRange 1, by show ResourceVector.Valid _; decide⟩,
      fun obs h => by cases h⟩
    (.cons ⟨⟨by decide +kernel, numbered_inRange 2, by show (_ : Int) ≤ INT64_MAX; decide +kernel⟩, ?_⟩ (.nil _))
  intro obs h
  obtain rfl := Call.applyObservation.inj h
  exact ⟨by decide, by decide, by decide +kernel⟩

theorem observation_arithmetic_ten :
    ArithmeticChecked {} (tenReported.foldl Engine.after {}) (vramDelta (-10)) :=
  (observation_arithmetic_iff tenReported_run (by decide) (by decide) (by decide)).mpr
    fun _ => ⟨by decide +kernel, .inl (by decide +kernel)⟩

/-- **Neither end of the range is kept**: a report of twenty units less leaves the ten as they were, and one
    of `INT64_MAX` more is a signed overflow. -/
theorem observation_arithmetic_unchecked :
    Run Engine.after definedCall {} tenReported (tenReported.foldl Engine.after {}) ∧
    ((tenReported.foldl Engine.after {}).usageOf ⟨0, 1⟩).consumption.get .acceleratorVRAM = 10 ∧
    (((tenReported.foldl Engine.after {}).applyObservation {} (vramDelta (-20))).2.usageOf
      ⟨0, 1⟩).consumption.get .acceleratorVRAM = 10 ∧
    IsInt64 (vramDelta INT64_MAX).amount ∧
    INT64_MAX + 10 ∈ observationResults {} (tenReported.foldl Engine.after {}) (vramDelta INT64_MAX) ∧
    ¬ ArithmeticChecked {} (tenReported.foldl Engine.after {}) (vramDelta (-20)) ∧
    ¬ ArithmeticChecked {} (tenReported.foldl Engine.after {}) (vramDelta INT64_MAX) := by
  refine ⟨tenReported_run, by decide +kernel, by decide +kernel, by decide, by decide +kernel, fun h => ?_, fun h => ?_⟩
  · exact absurd (h.clamped (by decide +kernel) rfl) (by decide +kernel)
  · exact absurd (h.inRange (INT64_MAX + 10) (by decide +kernel)) (by decide)

end Engine

end QuotaFabric
