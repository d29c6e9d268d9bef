import QuotaFabric.Lib.SparseVec
import QuotaFabric.Lib.Machine

/-!
# Resource dimensions and resource vectors

Model of `core/resource_dimension.hpp`, `core/resource_vector.hpp` and their sources.

* `ResourceDimension` and `allResourceDimensions`, in the order every loop visits them;
* `ResourceVector` — `v_[i]` is zero wherever `present_[i]` is false (every writer sets both), so
  a vector is one optional amount for each dimension;
* `add`, `sub` — the checked loops, with their early return: on overflow the dimensions before
  the offending one are already written and the ones after it are not;
* `min`, `diffClamp`, `covers`, `toString`.

Amounts are 64-bit signed in the source.  A vector that the setters built is `Valid`: every
amount is between `0` and `INT64_MAX`.

Principal results: `add_of_fits` — where no dimension overflows, the checked loop is exact
addition; `sumOf_eq_sum` — a loop of ignored-status `add`s is the exact sum as long as the sum
fits; `sumOf_nonneg` — whatever overflows, the result stays non-negative.
-/

set_option autoImplicit false

namespace QuotaFabric

/-- `std::string`: a sequence of bytes. -/
abbrev Str := List UInt8

/-- The bytes of a literal. -/
def text (s : String) : Str := s.toUTF8.toList

/-! ## Dimensions -/

inductive ResourceDimension where
  | acceleratorVRAM
  | pageableHostRAM
  | pinnedHostRAM
  | kvCacheBytes
  | tensorStateBytes
  | persistentCacheBytes
  | modelResidencyBytes
  | adapterResidencyBytes
  | acceleratorComputeTime
  | acceleratorExecutionSlots
  | concurrentSequences
  | concurrentRequests
  | transferBytes
  | transferBandwidth
  | storageBandwidth
  | persistentStorageBytes
  | compilationCacheBytes
  deriving DecidableEq, Repr, Inhabited

open ResourceDimension in
def allResourceDimensions : List ResourceDimension :=
  [acceleratorVRAM, pageableHostRAM, pinnedHostRAM, kvCacheBytes, tensorStateBytes,
   persistentCacheBytes, modelResidencyBytes, adapterResidencyBytes, acceleratorComputeTime,
   acceleratorExecutionSlots, concurrentSequences, concurrentRequests, transferBytes,
   transferBandwidth, storageBandwidth, persistentStorageBytes, compilationCacheBytes]

theorem mem_allResourceDimensions (d : ResourceDimension) : d ∈ allResourceDimensions := by
  cases d <;> decide

theorem allResourceDimensions_nodup : allResourceDimensions.Nodup := by decide

instance : Fintype ResourceDimension where
  elems := ⟨allResourceDimensions, allResourceDimensions_nodup⟩
  complete := mem_allResourceDimensions

def resourceDimensionName : ResourceDimension → Str
  | .acceleratorVRAM => text "accelerator_vram_bytes"
  | .pageableHostRAM => text "pageable_host_ram_bytes"
  | .pinnedHostRAM => text "pinned_host_ram_bytes"
  | .kvCacheBytes => text "kv_cache_bytes"
  | .tensorStateBytes => text "tensor_state_bytes"
  | .persistentCacheBytes => text "persistent_cache_bytes"
  | .modelResidencyBytes => text "model_residency_bytes"
  | .adapterResidencyBytes => text "adapter_residency_bytes"
  | .acceleratorComputeTime => text "accelerator_compute_ms"
  | .acceleratorExecutionSlots => text "accelerator_execution_slots"
  | .concurrentSequences => text "concurrent_sequences"
  | .concurrentRequests => text "concurrent_requests"
  | .transferBytes => text "transfer_bytes"
  | .transferBandwidth => text "transfer_bandwidth_bytes_per_sec"
  | .storageBandwidth => text "storage_bandwidth_bytes_per_sec"
  | .persistentStorageBytes => text "persistent_storage_bytes"
  | .compilationCacheBytes => text "compilation_cache_bytes"

/-! ## Vectors -/

abbrev ResourceVector := SparseVec ResourceDimension Int

inductive ArithmeticStatus where
  | ok
  | overflow
  | underflow
  | negative
  deriving DecidableEq, Repr

namespace ResourceVector

/-- `set`: a negative amount is refused and the vector kept. -/
def set (v : ResourceVector) (d : ResourceDimension) (amount : Int) : Bool × ResourceVector :=
  if amount < 0 then (false, v) else (true, v.put d amount)

def fromScalar (d : ResourceDimension) (amount : Int) : ResourceVector :=
  (set SparseVec.empty d amount).2

def isEmpty (v : ResourceVector) : Bool := allResourceDimensions.all fun d => !v.present d

def presentCount (v : ResourceVector) : Nat := (allResourceDimensions.filter fun d => v.present d).length

/-- The loop of `add` over the remaining dimensions. -/
def addLoop (o : ResourceVector) (saturate : Bool) :
    List ResourceDimension → ResourceVector → ArithmeticStatus × ResourceVector
  | [], v => (.ok, v)
  | d :: ds, v =>
    match o.cell d with
    | none => addLoop o saturate ds v
    | some b =>
      if b > 0 ∧ v.get d > INT64_MAX - b then
        if saturate then addLoop o saturate ds (v.put d INT64_MAX) else (.overflow, v)
      else addLoop o saturate ds (v.put d (v.get d + b))

def add (v o : ResourceVector) (saturate : Bool) : ArithmeticStatus × ResourceVector :=
  addLoop o saturate allResourceDimensions v

/-- `a.add(b)` with the status ignored, as every caller in the engine does. -/
def accum (v o : ResourceVector) : ResourceVector := (add v o false).2

/-- The loop of `sub` over the remaining dimensions. -/
def subLoop (o : ResourceVector) (saturate : Bool) :
    List ResourceDimension → ResourceVector → ArithmeticStatus × ResourceVector
  | [], v => (.ok, v)
  | d :: ds, v =>
    match v.cell d, o.cell d with
    | some a, some b =>
      if a < b then
        if saturate then subLoop o saturate ds (set v d 0).2 else (.underflow, v)
      else subLoop o saturate ds (v.put d (a - b))
    | _, _ => subLoop o saturate ds v

def sub (v o : ResourceVector) (saturate : Bool) : ArithmeticStatus × ResourceVector :=
  subLoop o saturate allResourceDimensions v

/-- `a.sub(b, true)` with the status ignored. -/
def subSat (v o : ResourceVector) : ResourceVector := (sub v o true).2

/-- Every dimension `o` constrains, `v` also constrains and is at least as large. -/
def covers (v o : ResourceVector) : Bool :=
  allResourceDimensions.all fun d => !(o.present d && (!v.present d || decide (v.get d < o.get d)))

/-- What `r.set(d, x)` leaves in a cell that was unset. -/
def stored (x : Int) : Option Int := if x < 0 then none else some x

/-- `ResourceVector::min`: an absent dimension counts as unbounded. -/
def min (a b : ResourceVector) : ResourceVector :=
  ⟨fun d =>
    match a.cell d, b.cell d with
    | none, none => none
    | none, some y => stored y
    | some x, none => stored x
    | some x, some y => stored (Min.min x y)⟩

/-- `ResourceVector::diff_clamp`: `a - b`, clamped at zero. -/
def diffClamp (a b : ResourceVector) : ResourceVector :=
  ⟨fun d =>
    if !a.present d && !b.present d then none
    else some (if a.get d - b.get d > 0 then a.get d - b.get d else 0)⟩

/-- `operator==`. -/
def same (a b : ResourceVector) : Bool := allResourceDimensions.all fun d => a.cell d == b.cell d

/-- Decimal rendering of an amount, as `operator<<` prints it. -/
def showAmount (x : Int) : Str := text (toString x)

def toStr (v : ResourceVector) : Str :=
  List.intercalate (text ",")
    ((allResourceDimensions.filter fun d => v.present d).map fun d =>
      resourceDimensionName d ++ text "=" ++ showAmount (v.get d))

/-- The amounts the setters can store. -/
def Valid (v : ResourceVector) : Prop := ∀ d, 0 ≤ v.get d ∧ v.get d ≤ INT64_MAX

/-- No amount is negative. -/
def NonNeg (v : ResourceVector) : Prop := ∀ d, 0 ≤ v.get d

instance (v : ResourceVector) : Decidable v.Valid :=
  inferInstanceAs (Decidable (∀ d, 0 ≤ v.get d ∧ v.get d ≤ INT64_MAX))

instance (v : ResourceVector) : Decidable v.NonNeg := inferInstanceAs (Decidable (∀ d, 0 ≤ v.get d))

/-- A loop `for (...) sum.add(v)` over `l`, in this order. -/
def sumOf (l : List ResourceVector) : ResourceVector := l.foldl accum SparseVec.empty

/-! ### Equality and emptiness -/

theorem same_iff {a b : ResourceVector} : same a b = true ↔ a = b := by
  unfold same
  rw [List.all_eq_true]
  constructor
  · intro h
    ext1
    funext d
    exact beq_iff_eq.mp (h d (mem_allResourceDimensions d))
  · rintro rfl d _
    exact beq_self_eq_true _

instance : DecidableEq ResourceVector := fun a b => decidable_of_iff (same a b = true) same_iff

theorem isEmpty_iff {v : ResourceVector} : isEmpty v = true ↔ ∀ d, v.present d = false := by
  unfold isEmpty
  rw [List.all_eq_true]
  constructor
  · intro h d
    simpa using h d (mem_allResourceDimensions d)
  · intro h d _
    simp [h d]

theorem isEmpty_iff_eq_empty {v : ResourceVector} : isEmpty v = true ↔ v = SparseVec.empty := by
  rw [isEmpty_iff]
  constructor
  · intro h
    exact SparseVec.ext_get h fun d => SparseVec.get_of_not_present (h d)
  · rintro rfl d
    rfl

theorem presentCount_eq_zero_iff {v : ResourceVector} : presentCount v = 0 ↔ isEmpty v = true := by
  unfold presentCount isEmpty
  rw [List.length_eq_zero_iff, List.filter_eq_nil_iff, List.all_eq_true]
  simp

theorem Valid.nonNeg {v : ResourceVector} (h : Valid v) : NonNeg v := fun d => (h d).1

theorem valid_empty : Valid SparseVec.empty := by
  intro d
  rw [SparseVec.get_empty]
  exact ⟨le_refl 0, by decide⟩

theorem set_nonNeg {v : ResourceVector} (h : NonNeg v) (d : ResourceDimension) (x : Int) :
    NonNeg (set v d x).2 := by
  intro e
  unfold set
  split
  · exact h e
  · by_cases hed : e = d
    · subst hed; rw [SparseVec.get_put_self]; omega
    · rw [SparseVec.get_put_ne v x hed]; exact h e

theorem fromScalar_of_nonneg {d : ResourceDimension} {x : Int} (h : 0 ≤ x) :
    fromScalar d x = SparseVec.empty.put d x := by
  unfold fromScalar set
  rw [if_neg (by omega)]

theorem get_fromScalar_self {d : ResourceDimension} {x : Int} (h : 0 ≤ x) :
    (fromScalar d x).get d = x := by
  rw [fromScalar_of_nonneg h, SparseVec.get_put_self]

theorem get_fromScalar_ne {d e : ResourceDimension} {x : Int} (h : e ≠ d) :
    (fromScalar d x).get e = 0 := by
  unfold fromScalar set
  split
  · rfl
  · rw [SparseVec.get_put_ne _ _ h]; rfl

theorem present_fromScalar {d e : ResourceDimension} {x : Int} (h : 0 ≤ x) :
    (fromScalar d x).present e = decide (e = d) := by
  rw [fromScalar_of_nonneg h]
  by_cases hed : e = d
  · subst hed; simp
  · rw [SparseVec.present_put_ne _ _ hed]; simp [hed]

/-! ### Checked addition -/

/-- The loop of `add` writes no dimension outside its list. -/
theorem addLoop_notMem (o : ResourceVector) : ∀ (ds : List ResourceDimension) (v : ResourceVector)
    {d : ResourceDimension}, d ∉ ds → (addLoop o false ds v).2.cell d = v.cell d
  | [], _, _, _ => rfl
  | e :: ds, v, d, hd => by
    obtain ⟨hne, hd'⟩ := List.ne_and_not_mem_of_not_mem_cons hd
    unfold addLoop
    split
    · exact addLoop_notMem o ds v hd'
    · split
      · rfl
      · rw [addLoop_notMem o ds _ hd']
        simp [SparseVec.put, hne]

/-- What the loop of `add` leaves in a cell: the old amount, or the exact sum. -/
theorem addLoop_cell (o : ResourceVector) :
    ∀ (ds : List ResourceDimension) (v : ResourceVector), ds.Nodup → ∀ d,
      (addLoop o false ds v).2.cell d = v.cell d ∨
      (o.present d = true ∧ (addLoop o false ds v).2.cell d = some (v.get d + o.get d) ∧
        (v.get d + o.get d ≤ INT64_MAX ∨ o.get d ≤ 0))
  | [], v, _, d => Or.inl rfl
  | e :: ds, v, hnd, d => by
    obtain ⟨hne, hnd'⟩ := List.nodup_cons.mp hnd
    unfold addLoop
    split
    · exact addLoop_cell o ds v hnd' d
    · rename_i b hb
      have hget : o.get e = b := by unfold SparseVec.get; rw [hb]; rfl
      have hpres : o.present e = true := by unfold SparseVec.present; rw [hb]; rfl
      split
      · exact Or.inl rfl
      · rename_i hno
        rcases addLoop_cell o ds (v.put e (v.get e + b)) hnd' d with h | ⟨hp, hc, hle⟩
        · by_cases hde : d = e
          · subst hde
            right
            refine ⟨hpres, ?_, by rw [hget]; omega⟩
            rw [h, hget]
            simp [SparseVec.put]
          · left
            rw [h]
            simp [SparseVec.put, hde]
        · by_cases hde : d = e
          · -- `e` does not occur again in the rest of the loop
            subst hde
            right
            have hstay := addLoop_notMem o ds (v.put d (v.get d + b)) hne
            refine ⟨hpres, ?_, by rw [hget]; omega⟩
            rw [hstay, hget]
            simp [SparseVec.put]
          · right
            rw [SparseVec.get_put_ne _ _ hde] at hc hle
            exact ⟨hp, hc, hle⟩

theorem accum_cell (v o : ResourceVector) (d : ResourceDimension) :
    (accum v o).cell d = v.cell d ∨
    (o.present d = true ∧ (accum v o).cell d = some (v.get d + o.get d) ∧
      (v.get d + o.get d ≤ INT64_MAX ∨ o.get d ≤ 0)) :=
  addLoop_cell o allResourceDimensions v allResourceDimensions_nodup d

theorem accum_get (v o : ResourceVector) (d : ResourceDimension) :
    (accum v o).get d = v.get d ∨
    ((accum v o).get d = v.get d + o.get d ∧ (v.get d + o.get d ≤ INT64_MAX ∨ o.get d ≤ 0)) := by
  rcases accum_cell v o d with h | ⟨_, h, hle⟩
  · left; unfold SparseVec.get; rw [h]
  · right
    refine ⟨?_, hle⟩
    change ((accum v o).cell d).getD 0 = _
    rw [h]; rfl

theorem accum_nonNeg {v o : ResourceVector} (hv : NonNeg v) (ho : NonNeg o) : NonNeg (accum v o) := by
  intro d
  have h1 := hv d
  have h2 := ho d
  rcases accum_get v o d with h | ⟨h, _⟩ <;> omega

theorem accum_valid {v o : ResourceVector} (hv : Valid v) (ho : Valid o) : Valid (accum v o) := by
  intro d
  have h1 := hv d
  have h2 := ho d
  rcases accum_get v o d with h | ⟨h, hle⟩ <;> omega

theorem le_accum {v o : ResourceVector} (ho : NonNeg o) (d : ResourceDimension) :
    v.get d ≤ (accum v o).get d := by
  have h2 := ho d
  rcases accum_get v o d with h | ⟨h, _⟩ <;> omega

theorem accum_le {v o : ResourceVector} (ho : NonNeg o) (d : ResourceDimension) :
    (accum v o).get d ≤ v.get d + o.get d := by
  have h2 := ho d
  rcases accum_get v o d with h | ⟨h, _⟩ <;> omega

/-- Without overflow the loop runs to its end and adds exactly. -/
theorem addLoop_of_fits (o : ResourceVector) (sat : Bool) :
    ∀ (ds : List ResourceDimension) (v : ResourceVector), ds.Nodup →
      (∀ d ∈ ds, v.get d + o.get d ≤ INT64_MAX) →
      (addLoop o sat ds v).1 = .ok ∧
      ∀ d, (addLoop o sat ds v).2.cell d = if d ∈ ds then (v + o).cell d else v.cell d
  | [], v, _, _ => ⟨rfl, fun d => by simp [addLoop]⟩
  | e :: ds, v, hnd, hfit => by
    obtain ⟨hne, hnd'⟩ := List.nodup_cons.mp hnd
    have hfit' := fun d hd => hfit d (List.mem_cons_of_mem e hd)
    unfold addLoop
    split
    · rename_i hb
      obtain ⟨h1, h2⟩ := addLoop_of_fits o sat ds v hnd' hfit'
      refine ⟨h1, fun d => ?_⟩
      rw [h2 d]
      by_cases hde : d = e
      · subst hde
        rw [if_neg hne, if_pos List.mem_cons_self, SparseVec.cell_add, hb]
        cases v.cell d <;> rfl
      · simp [List.mem_cons, hde]
    · rename_i b hb
      have hget : o.get e = b := by unfold SparseVec.get; rw [hb]; rfl
      have hfe := hfit e List.mem_cons_self
      rw [if_neg (by omega)]
      have hput : ∀ d ∈ ds, (v.put e (v.get e + b)).get d = v.get d := fun d hd =>
        SparseVec.get_put_ne v _ (by rintro rfl; exact hne hd)
      obtain ⟨h1, h2⟩ := addLoop_of_fits o sat ds (v.put e (v.get e + b)) hnd'
        (fun d hd => by rw [hput d hd]; exact hfit' d hd)
      refine ⟨h1, fun d => ?_⟩
      rw [h2 d]
      by_cases hde : d = e
      · subst hde
        rw [if_neg hne, if_pos List.mem_cons_self, SparseVec.cell_add, hb]
        cases hv : v.cell d <;> simp [SparseVec.put, SparseVec.get, hv]
      · by_cases hds : d ∈ ds
        · simp [List.mem_cons, hde, hds, SparseVec.cell_add, SparseVec.put]
        · simp [List.mem_cons, hde, hds, SparseVec.put]

/-- **Checked addition that does not overflow is exact addition.** -/
theorem add_of_fits {v o : ResourceVector} (sat : Bool) (h : ∀ d, v.get d + o.get d ≤ INT64_MAX) :
    add v o sat = (.ok, v + o) := by
  obtain ⟨h1, h2⟩ := addLoop_of_fits o sat allResourceDimensions v allResourceDimensions_nodup
    (fun d _ => h d)
  apply Prod.ext h1
  ext1
  funext d
  have := h2 d
  rw [if_pos (mem_allResourceDimensions d)] at this
  exact this

theorem accum_of_fits {v o : ResourceVector} (h : ∀ d, v.get d + o.get d ≤ INT64_MAX) :
    accum v o = v + o := by
  unfold accum
  rw [add_of_fits false h]

/-! ### Loops of additions -/

theorem foldl_accum_nonNeg : ∀ (l : List ResourceVector) (acc : ResourceVector), NonNeg acc →
    (∀ v ∈ l, NonNeg v) → NonNeg (l.foldl accum acc)
  | [], _, h, _ => h
  | v :: l, acc, h, hl =>
    foldl_accum_nonNeg l (accum acc v) (accum_nonNeg h (hl v List.mem_cons_self))
      (fun w hw => hl w (List.mem_cons_of_mem v hw))

theorem sumOf_nonNeg {l : List ResourceVector} (hl : ∀ v ∈ l, NonNeg v) : NonNeg (sumOf l) :=
  foldl_accum_nonNeg l _ (fun _ => le_refl _) hl

theorem foldl_accum_of_fits : ∀ (l : List ResourceVector) (acc : ResourceVector),
    (∀ v ∈ l, NonNeg v) → (∀ d, acc.get d + (l.map (·.get d)).sum ≤ INT64_MAX) →
    l.foldl accum acc = acc + l.sum
  | [], acc, _, _ => by simp
  | v :: l, acc, hl, hfit => by
    have hrest : ∀ d, 0 ≤ (l.map (·.get d)).sum := fun d => by
      apply List.sum_nonneg
      intro x hx
      obtain ⟨w, hw, rfl⟩ := List.mem_map.mp hx
      exact hl w (List.mem_cons_of_mem v hw) d
    have hstep : accum acc v = acc + v := accum_of_fits fun d => by
      have h1 := hfit d
      have h2 := hrest d
      rw [List.map_cons, List.sum_cons] at h1
      omega
    rw [List.foldl_cons, hstep, foldl_accum_of_fits l (acc + v)
      (fun w hw => hl w (List.mem_cons_of_mem v hw)), List.sum_cons, add_assoc]
    intro d
    have h1 := hfit d
    rw [List.map_cons, List.sum_cons] at h1
    rw [SparseVec.get_add]
    omega

/-- **A loop of unchecked `add`s is the exact sum while the sum fits.** -/
theorem sumOf_eq_sum {l : List ResourceVector} (hl : ∀ v ∈ l, NonNeg v)
    (hfit : ∀ d, (l.map (·.get d)).sum ≤ INT64_MAX) : sumOf l = l.sum := by
  unfold sumOf
  rw [foldl_accum_of_fits l _ hl (fun d => by simpa using hfit d), ← SparseVec.zero_eq_empty, zero_add]

theorem foldl_accum_le {d : ResourceDimension} : ∀ (l : List ResourceVector) (acc : ResourceVector),
    (∀ v ∈ l, NonNeg v) → (l.foldl accum acc).get d ≤ acc.get d + (l.map (·.get d)).sum
  | [], acc, _ => by simp
  | v :: l, acc, hl => by
    have hrest := foldl_accum_le (d := d) l (accum acc v) fun w hw => hl w (List.mem_cons_of_mem v hw)
    have hv := accum_le (v := acc) (hl v List.mem_cons_self) d
    rw [List.foldl_cons, List.map_cons, List.sum_cons]
    omega

/-- **Whatever overflows, a loop of unchecked `add`s never exceeds the sum.** -/
theorem sumOf_le {l : List ResourceVector} (hl : ∀ v ∈ l, NonNeg v) (d : ResourceDimension) :
    (sumOf l).get d ≤ (l.map (·.get d)).sum := by
  have h := foldl_accum_le (d := d) l .empty hl
  rw [SparseVec.get_empty, zero_add] at h
  exact h

theorem present_foldl_accum {d : ResourceDimension} : ∀ (l : List ResourceVector) (acc : ResourceVector),
    (l.foldl accum acc).present d = true → acc.present d = true ∨ ∃ v ∈ l, v.present d = true
  | [], _, h => Or.inl h
  | v :: l, acc, h => by
    rcases present_foldl_accum l (accum acc v) h with h | ⟨w, hw, hp⟩
    · rcases accum_cell acc v d with hc | ⟨hp, -, -⟩
      · left
        unfold SparseVec.present at *
        rwa [hc] at h
      · exact Or.inr ⟨v, List.mem_cons_self, hp⟩
    · exact Or.inr ⟨w, List.mem_cons_of_mem v hw, hp⟩

/-- A sum has an entry only where a summand has one. -/
theorem present_sumOf {l : List ResourceVector} {d : ResourceDimension}
    (h : (sumOf l).present d = true) : ∃ v ∈ l, v.present d = true := by
  rcases present_foldl_accum l .empty h with h | h
  · cases h
  · exact h

theorem foldl_accum_le_max {d : ResourceDimension} : ∀ (l : List ResourceVector) (acc : ResourceVector),
    acc.get d ≤ INT64_MAX → (l.foldl accum acc).get d ≤ INT64_MAX
  | [], _, h => h
  | v :: l, acc, h => by
    refine foldl_accum_le_max l (accum acc v) ?_
    rcases accum_get acc v d with heq | ⟨heq, hle⟩ <;> omega

theorem sumOf_le_max (l : List ResourceVector) (d : ResourceDimension) : (sumOf l).get d ≤ INT64_MAX :=
  foldl_accum_le_max l .empty (by rw [SparseVec.get_empty]; decide)

/-! ### Saturating subtraction and minimum -/

theorem subLoop_cell (o : ResourceVector) :
    ∀ (ds : List ResourceDimension) (v : ResourceVector), ds.Nodup → ∀ d,
      (subLoop o true ds v).2.cell d =
        if d ∈ ds then
          match v.cell d, o.cell d with
          | some a, some b => some (if a < b then 0 else a - b)
          | x, _ => x
        else v.cell d
  | [], v, _, d => by simp [subLoop]
  | e :: ds, v, hnd, d => by
    obtain ⟨hne, hnd'⟩ := List.nodup_cons.mp hnd
    unfold subLoop
    split
    · rename_i a b ha hb
      -- both branches store the clamped difference and go on
      have hstep : (if a < b then
            if (true : Bool) = true then subLoop o true ds (set v e 0).2 else (.underflow, v)
          else subLoop o true ds (v.put e (a - b))) =
          subLoop o true ds (v.put e (if a < b then 0 else a - b)) := by
        split
        · simp [set]
        · rfl
      rw [hstep, subLoop_cell o ds _ hnd' d]
      by_cases hde : d = e
      · subst hde
        rw [if_neg hne, if_pos List.mem_cons_self, ha, hb]
        simp [SparseVec.put]
      · simp [List.mem_cons, hde, SparseVec.put]
    · rename_i hno
      rw [subLoop_cell o ds v hnd' d]
      by_cases hde : d = e
      · subst hde
        rw [if_neg hne, if_pos List.mem_cons_self]
        split
        · rename_i a b ha hb
          exact absurd hb (hno a b ha)
        · rfl
      · simp [List.mem_cons, hde]

theorem subSat_cell (v o : ResourceVector) (d : ResourceDimension) :
    (subSat v o).cell d =
      match v.cell d, o.cell d with
      | some a, some b => some (if a < b then 0 else a - b)
      | x, _ => x := by
  unfold subSat sub
  rw [subLoop_cell o _ v allResourceDimensions_nodup d, if_pos (mem_allResourceDimensions d)]

theorem present_subSat (v o : ResourceVector) (d : ResourceDimension) :
    (subSat v o).present d = v.present d := by
  unfold SparseVec.present
  rw [subSat_cell]
  cases v.cell d <;> cases o.cell d <;> rfl

theorem subSat_nonNeg {v : ResourceVector} (o : ResourceVector) (hv : NonNeg v) : NonNeg (subSat v o) := by
  intro d
  have h := hv d
  unfold SparseVec.get at *
  rw [subSat_cell]
  cases hvc : v.cell d with
  | none => simp
  | some a =>
    rw [hvc] at h
    cases o.cell d with
    | none => exact h
    | some b => simp only [Option.getD_some]; split <;> omega

/-- A saturating subtraction of a non-negative vector takes something away. -/
theorem get_subSat_le {v o : ResourceVector} (hv : NonNeg v) (ho : NonNeg o) (d : ResourceDimension) :
    (subSat v o).get d ≤ v.get d := by
  have h1 := hv d
  have h2 := ho d
  unfold SparseVec.get at *
  rw [subSat_cell]
  cases hvc : v.cell d with
  | none => simp
  | some a =>
    rw [hvc] at h1
    cases hoc : o.cell d with
    | none => simp
    | some b =>
      rw [hoc] at h2
      simp only [Option.getD_some] at *
      split <;> omega

theorem get_subSat_zero {v o : ResourceVector} (hv : NonNeg v) {d : ResourceDimension}
    (ho : o.get d = 0) : (subSat v o).get d = v.get d := by
  have h1 := hv d
  unfold SparseVec.get at *
  rw [subSat_cell]
  cases hvc : v.cell d with
  | none => simp
  | some a =>
    rw [hvc] at h1
    cases hoc : o.cell d with
    | none => simp
    | some b =>
      rw [hoc] at ho
      simp only [Option.getD_some] at *
      split <;> omega

theorem get_subSat_self {v : ResourceVector} (d : ResourceDimension) : (subSat v v).get d = 0 := by
  unfold SparseVec.get
  rw [subSat_cell]
  cases v.cell d <;> simp

theorem min_nonNeg (a b : ResourceVector) : NonNeg (min a b) := by
  have hst : ∀ x : Int, 0 ≤ (stored x).getD 0 := by
    intro x
    unfold stored
    split
    · exact le_refl 0
    · simp only [Option.getD_some]; omega
  intro d
  unfold SparseVec.get min
  simp only
  split
  · exact le_refl 0
  all_goals exact hst _

theorem min_self {v : ResourceVector} (hv : NonNeg v) : min v v = v := by
  ext1
  funext d
  have h := hv d
  unfold SparseVec.get at h
  change (match v.cell d, v.cell d with
    | none, none => none
    | none, some y => stored y
    | some x, none => stored x
    | some x, some y => stored (Min.min x y)) = v.cell d
  cases hvc : v.cell d with
  | none => rfl
  | some a =>
    rw [hvc] at h
    have ha : 0 ≤ a := h
    simp only [stored, Int.min_self]
    rw [if_neg (by omega)]

/-! ### Amounts that can be stored -/

theorem put_valid {v : ResourceVector} (hv : Valid v) (d : ResourceDimension) {x : Int} (h0 : 0 ≤ x)
    (h1 : x ≤ INT64_MAX) : Valid (v.put d x) := by
  intro e
  by_cases he : e = d
  · subst he
    rw [SparseVec.get_put_self]
    exact ⟨h0, h1⟩
  · rw [SparseVec.get_put_ne _ _ he]
    exact hv e

theorem set_valid {v : ResourceVector} (hv : Valid v) (d : ResourceDimension) {x : Int}
    (hx : x ≤ INT64_MAX) : Valid (set v d x).2 := by
  unfold set
  split
  · exact hv
  · exact put_valid hv d (by omega) hx

theorem fromScalar_valid (d : ResourceDimension) {x : Int} (hx : x ≤ INT64_MAX) :
    Valid (fromScalar d x) :=
  set_valid valid_empty d hx

theorem subSat_valid {v o : ResourceVector} (hv : Valid v) (ho : NonNeg o) : Valid (subSat v o) :=
  fun d => ⟨subSat_nonNeg o hv.nonNeg d, (get_subSat_le hv.nonNeg ho d).trans (hv d).2⟩

theorem min_valid {v w : ResourceVector} (hv : Valid v) (hw : Valid w) : Valid (min v w) := by
  have hst : ∀ x : Int, x ≤ INT64_MAX → (stored x).getD 0 ≤ INT64_MAX := by
    intro x hx
    unfold stored
    split
    · decide
    · exact hx
  refine fun d => ⟨min_nonNeg v w d, ?_⟩
  have h1 := (hv d).2
  have h2 := (hw d).2
  unfold SparseVec.get min at *
  simp only
  cases hvc : v.cell d with
  | none =>
    cases hwc : w.cell d with
    | none => decide
    | some y => rw [hwc] at h2; exact hst y h2
  | some x =>
    rw [hvc] at h1
    cases hwc : w.cell d with
    | none => exact hst x h1
    | some y => exact hst _ ((min_le_left x y).trans h1)

/-- A saturating sum stays within 64 bits. -/
theorem addLoop_valid {o : ResourceVector} (ho : NonNeg o) : ∀ (ds : List ResourceDimension)
    (v : ResourceVector), Valid v → Valid (addLoop o true ds v).2
  | [], _, hv => hv
  | d :: ds, v, hv => by
    unfold addLoop
    split
    · exact addLoop_valid ho ds v hv
    · rename_i b hb
      have hb0 : 0 ≤ b := by
        have h := ho d
        unfold SparseVec.get at h
        rwa [hb] at h
      split
      · exact addLoop_valid ho ds _ (put_valid hv d (by decide) (le_refl _))
      · have h := hv d
        exact addLoop_valid ho ds _ (put_valid hv d (by omega) (by omega))

theorem add_valid {v o : ResourceVector} (hv : Valid v) (ho : NonNeg o) : Valid (add v o true).2 :=
  addLoop_valid ho allResourceDimensions v hv

end ResourceVector

end QuotaFabric
