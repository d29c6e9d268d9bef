import QuotaFabric.Accounting.ObservationArithmetic
import QuotaFabric.Lib.Runs
import QuotaFabric.Limits.RollingUsage

/-!
# The cached total of a rolling window

`add` adds to the total up to the largest 64-bit value, and expiry takes the exact amounts off it again.
Once the samples add up to more than the total can hold, dropping any of them leaves the total short.
The cutoff of a call, `now - window_ns`, is plain signed arithmetic, undefined out of range.

* `WindowCall`, `step` — `add` and `expire`; `checkedStep` — the same where the arithmetic is defined;
* `TotalCapped` — the total is the sum of the samples, as far as it can be;
* `OverfullDrop` — a call that drops an amount while the samples add up to too much;
* `resultsOf_iff` — what a call computes is in range where its cutoff and the new total are;
* `step_totalCapped_iff` — a call keeps the total exactly where it is not an overfull drop;
* `window_total_iff` — so the total is right all along a run exactly where no call is one and every cutoff
  is a 64-bit instant;
* `window_total_drifts` — a run after which the total is negative.
-/

set_option autoImplicit false

namespace QuotaFabric

open RollingTotal

namespace RollingWindow

/-! ## Calls -/

inductive WindowCall where
  | add (at_ : Nanos) (amount : Int)
  | expire (now : Nanos)
  deriving DecidableEq

def step (w : RollingWindow) : WindowCall → RollingWindow
  | .add at_ amount => w.add at_ amount
  | .expire now => w.expire now

/-- Times are 64-bit values, and so are amounts, which are not negative. -/
def WindowCall.Typed : WindowCall → Prop
  | .add at_ amount => IsInt64 at_ ∧ 0 ≤ amount ∧ amount ≤ INT64_MAX
  | .expire now => IsInt64 now

instance (c : WindowCall) : Decidable c.Typed := by cases c <;> unfold WindowCall.Typed <;> infer_instance

/-- The samples a call expires from: those held, and the one it adds. -/
def heldBy (w : RollingWindow) : WindowCall → List (Nanos × Int)
  | .add at_ amount => w.samples ++ [(at_, amount)]
  | .expire _ => w.samples

/-- The cutoff of a call. -/
def cutoffOf (w : RollingWindow) : WindowCall → Nanos
  | .add at_ _ => at_ - w.windowNs
  | .expire now => now - w.windowNs

/-- The total a call expires from. -/
def totalBefore (w : RollingWindow) : WindowCall → Int
  | .add _ amount => satAdd w.total amount
  | .expire _ => w.total

/-- The results of the additions and subtractions that a call makes. -/
def resultsOf (w : RollingWindow) : WindowCall → List Int
  | .add at_ amount => w.addResults at_ amount
  | .expire now => (now - w.windowNs) :: expireResults (now - w.windowNs) w.samples w.total

/-- A call that computes nothing out of range. -/
def Defined (w : RollingWindow) (c : WindowCall) : Prop := ∀ r ∈ w.resultsOf c, IsInt64 r

instance (w : RollingWindow) (c : WindowCall) : Decidable (w.Defined c) :=
  inferInstanceAs (Decidable (∀ r ∈ w.resultsOf c, IsInt64 r))

/-- Calls in turn, as long as their arithmetic is defined. -/
def checkedStep : Option RollingWindow → WindowCall → Option RollingWindow
  | none, _ => none
  | some w, c => if w.Defined c then some (w.step c) else none

/-- The total is the sum of the samples as far as 64 bits hold it, and not negative. -/
def TotalCapped (w : RollingWindow) : Prop := w.total = min INT64_MAX (sum w.samples) ∧ 0 ≤ w.total

/-- The call drops an amount though the samples add up to more than 64 bits hold. -/
def OverfullDrop (w : RollingWindow) (c : WindowCall) : Prop :=
  INT64_MAX < sum (w.heldBy c) ∧ sum (dropExpired (w.cutoffOf c) (w.heldBy c)) ≠ sum (w.heldBy c)

instance (w : RollingWindow) : Decidable w.TotalCapped := inferInstanceAs (Decidable (_ ∧ _))

instance (w : RollingWindow) (c : WindowCall) : Decidable (w.OverfullDrop c) :=
  inferInstanceAs (Decidable (_ ∧ _))

/-! ## One call -/

section Step

variable {w : RollingWindow} {c : WindowCall}

theorem samples_step (hc : c.Typed) : (w.step c).samples = dropExpired (w.cutoffOf c) (w.heldBy c) := by
  cases c with
  | add at_ amount =>
    show (w.add at_ amount).samples = _
    unfold add expire
    rw [if_neg (not_lt.mpr hc.2.1), expireLoop_eq]
    rfl
  | expire now =>
    show (w.expire now).samples = _
    unfold expire
    rw [expireLoop_eq]
    rfl

/-- The total a call leaves is the one it expires from, less what is dropped. -/
theorem total_step (hc : c.Typed) :
    (w.step c).total = w.totalBefore c - sum (w.heldBy c) + sum (dropExpired (w.cutoffOf c) (w.heldBy c)) := by
  cases c with
  | add at_ amount =>
    show (w.add at_ amount).total = _
    unfold add expire
    rw [if_neg (not_lt.mpr hc.2.1), expireLoop_eq]
    rfl
  | expire now =>
    show (w.expire now).total = _
    unfold expire
    rw [expireLoop_eq]
    rfl

/-- A call expires from a capped sum where the total was one. -/
theorem totalBefore_eq (h : w.TotalCapped) (hc : c.Typed) : w.totalBefore c = min INT64_MAX (sum (w.heldBy c)) := by
  obtain ⟨htotal, -⟩ := h
  cases c with
  | add at_ amount =>
    obtain ⟨-, hamount, -⟩ := hc
    have hle : w.total ≤ INT64_MAX := htotal.trans_le (min_le_left _ _)
    show satAdd w.total amount = min INT64_MAX (sum (w.samples ++ [(at_, amount)]))
    rw [satAdd_eq_min hle hamount, sum_append, sum_cons, sum_nil, add_zero, htotal]
    omega
  | expire now => exact htotal

theorem heldBy_nonneg (hw : ∀ x ∈ w.samples, 0 ≤ x.2) (hc : c.Typed) : ∀ x ∈ w.heldBy c, 0 ≤ x.2 := by
  cases c with
  | add at_ amount =>
    intro x hx
    rcases List.mem_append.mp hx with hx | hx
    · exact hw x hx
    · rw [List.mem_singleton.mp hx]
      exact hc.2.1
  | expire now => exact hw

theorem step_nonneg (hw : ∀ x ∈ w.samples, 0 ≤ x.2) (hc : c.Typed) : ∀ x ∈ (w.step c).samples, 0 ≤ x.2 := by
  intro x hx
  rw [samples_step hc] at hx
  exact heldBy_nonneg hw hc x (mem_of_mem_dropExpired hx)

/-- **A call keeps the total** exactly when it does not drop from an overfull window. -/
theorem step_totalCapped_iff (h : w.TotalCapped) (hw : ∀ x ∈ w.samples, 0 ≤ x.2) (hc : c.Typed) :
    (w.step c).TotalCapped ↔ ¬ w.OverfullDrop c := by
  have hheld := heldBy_nonneg hw hc
  have hle : sum (dropExpired (w.cutoffOf c) (w.heldBy c)) ≤ sum (w.heldBy c) := sum_dropExpired_le hheld
  have hleft : 0 ≤ sum (dropExpired (w.cutoffOf c) (w.heldBy c)) :=
    sum_nonneg fun x hx => hheld x (mem_of_mem_dropExpired hx)
  unfold TotalCapped OverfullDrop
  rw [total_step hc, totalBefore_eq h hc, samples_step hc]
  have hmax : 0 ≤ INT64_MAX := by decide
  omega

/-- **What a call computes is in range** exactly when its cutoff and the total it leaves are. -/
theorem resultsOf_iff (h : w.TotalCapped) (hw : ∀ x ∈ w.samples, 0 ≤ x.2) (hc : c.Typed) :
    w.Defined c ↔ IsInt64 (w.cutoffOf c) ∧ INT64_MIN ≤ (w.step c).total := by
  have hmin : INT64_MIN ≤ 0 := by decide
  have htotal : IsInt64 w.total := ⟨hmin.trans h.2, h.1.trans_le (min_le_left _ _)⟩
  have hbefore : IsInt64 (w.totalBefore c) := by
    rw [totalBefore_eq h hc]
    exact ⟨hmin.trans (le_min (by decide) (sum_nonneg (heldBy_nonneg hw hc))), min_le_left _ _⟩
  have hloop := expireResults_iff (w.cutoffOf c) (w.heldBy c) (w.totalBefore c) (heldBy_nonneg hw hc) hbefore
  have hleft : (w.step c).total = w.totalBefore c - expiredFront (w.cutoffOf c) (w.heldBy c) := by
    rw [total_step hc, ← expiredFront_add (w.cutoffOf c) (w.heldBy c)]
    omega
  rw [hleft, ← hloop]
  unfold Defined
  cases c with
  | add at_ amount =>
    obtain ⟨-, hpos, hmax⟩ := hc
    have hsum := (satAddResults_inRange htotal hpos hmax).2
    show (∀ r ∈ w.addResults at_ amount, IsInt64 r) ↔ _
    unfold addResults
    rw [if_neg (not_lt.mpr hpos), List.forall_mem_append, List.forall_mem_cons]
    exact and_iff_right hsum
  | expire now => exact List.forall_mem_cons

end Step

/-! ## Runs -/

theorem checkedStep_of_defined {w : RollingWindow} {c : WindowCall} (h : w.Defined c) :
    checkedStep (some w) c = some (w.step c) := if_pos h

theorem checkedStep_of_not_defined {w : RollingWindow} {c : WindowCall} (h : ¬ w.Defined c) :
    checkedStep (some w) c = none := if_neg h

/-- Nothing is defined after a call that is not. -/
theorem foldl_checkedStep_none (l : List WindowCall) : l.foldl checkedStep none = none := by
  induction l with
  | nil => rfl
  | cons c l ih => exact ih

theorem foldl_checkedStep_nonneg : ∀ (l : List WindowCall) (w : RollingWindow) {w' : RollingWindow},
    (∀ c ∈ l, c.Typed) → (∀ x ∈ w.samples, 0 ≤ x.2) → l.foldl checkedStep (some w) = some w' →
    ∀ x ∈ w'.samples, 0 ≤ x.2
  | [], w, w', _, hw, h => by
    cases h
    exact hw
  | c :: l, w, w', hl, hw, h => by
    obtain ⟨hc, hl⟩ := List.forall_mem_cons.mp hl
    rw [List.foldl_cons] at h
    by_cases hd : w.Defined c
    · rw [checkedStep_of_defined hd] at h
      exact foldl_checkedStep_nonneg l (w.step c) hl (step_nonneg hw hc) h
    · rw [checkedStep_of_not_defined hd, foldl_checkedStep_none] at h
      cases h

/-- The window is there, and its total is right. -/
def Reached (o : Option RollingWindow) : Prop := ∃ w, o = some w ∧ w.TotalCapped ∧ ∀ x ∈ w.samples, 0 ≤ x.2

/-- The condition on one call. -/
def KeepsTotal (o : Option RollingWindow) (c : WindowCall) : Prop :=
  ∀ w ∈ o, IsInt64 (w.cutoffOf c) ∧ ¬ w.OverfullDrop c

instance (o : Option RollingWindow) (c : WindowCall) : Decidable (KeepsTotal o c) :=
  inferInstanceAs (Decidable (∀ w ∈ o, _ ∧ ¬ _))

/-- **One call from a window whose total is right.** -/
theorem checkedStep_iff {o : Option RollingWindow} {c : WindowCall} (h : Reached o) (hc : c.Typed) :
    Reached (checkedStep o c) ↔ KeepsTotal o c := by
  obtain ⟨w, rfl, hcapped, hnn⟩ := h
  have hmin : INT64_MIN ≤ 0 := by decide
  have hdefined := resultsOf_iff hcapped hnn hc
  have htotal := step_totalCapped_iff hcapped hnn hc
  unfold KeepsTotal
  simp only [Option.mem_some_iff, forall_eq']
  constructor
  · rintro ⟨w', hw', hcapped', -⟩
    by_cases hd : w.Defined c
    · rw [checkedStep_of_defined hd] at hw'
      cases hw'
      exact ⟨(hdefined.mp hd).1, htotal.mp hcapped'⟩
    · rw [checkedStep_of_not_defined hd] at hw'
      cases hw'
  · rintro ⟨hcutoff, hdrop⟩
    have hcapped' := htotal.mpr hdrop
    rw [checkedStep_of_defined (hdefined.mpr ⟨hcutoff, hmin.trans hcapped'.2⟩)]
    exact ⟨_, rfl, hcapped', step_nonneg hnn hc⟩

/-- **The total is right after every call of a run**, with nothing undefined computed, exactly where every
    cutoff is a 64-bit instant and no call drops an amount while the samples add up to more than 64 bits
    hold. -/
theorem window_total_iff (windowNs : Nanos) {l : List WindowCall} (hl : ∀ c ∈ l, c.Typed) :
    (∀ pre, pre <+: l → ∃ w, pre.foldl checkedStep (some { windowNs := windowNs }) = some w ∧ w.TotalCapped) ↔
      Run checkedStep KeepsTotal (some { windowNs := windowNs }) l
        (l.foldl checkedStep (some { windowNs := windowNs })) := by
  have hmax : 0 ≤ INT64_MAX := by decide
  have hnone : ∀ x ∈ ({ windowNs := windowNs } : RollingWindow).samples, 0 ≤ x.2 := fun x hx => by cases hx
  have hstart : Reached (some { windowNs := windowNs }) :=
    ⟨_, rfl, ⟨(min_eq_right hmax).symm, le_refl _⟩, hnone⟩
  rw [← Run.always_iff hstart l fun o c hc ho => checkedStep_iff ho (hl c hc)]
  refine forall₂_congr fun pre hpre => exists_congr fun w => and_congr_right fun hw => ?_
  refine (and_iff_left ?_).symm
  exact foldl_checkedStep_nonneg pre _ (fun c hc => hl c (hpre.subset hc)) hnone hw

/-- Two samples in a window of 10 that add up to one more than fits. -/
def overfull : List WindowCall := [.add 1 INT64_MAX, .add 2 1]

theorem window_total_two :
    (∀ pre, pre <+: overfull →
      ∃ w, pre.foldl checkedStep (some { windowNs := 10 }) = some w ∧ w.TotalCapped) ∧
      (overfull.foldl checkedStep (some { windowNs := 10 })).map (·.total) = some INT64_MAX :=
  ⟨(window_total_iff 10 (by decide)).mpr (Run.of_check _ _ (by decide)), by decide⟩

/-- Then both expire. -/
def emptied : List WindowCall := overfull ++ [.expire 12]

/-- **When both have expired, the total is `-1`**, though nothing undefined was computed. -/
theorem window_total_drifts :
    (∀ c ∈ emptied, c.Typed) ∧
      ∃ w, emptied.foldl checkedStep (some { windowNs := 10 }) = some w ∧ w.samples = [] ∧ w.total = -1 ∧
        ¬ w.TotalCapped :=
  ⟨by decide, emptied.foldl step { windowNs := 10 }, rfl, by decide, by decide, by decide⟩

end RollingWindow

end QuotaFabric
