import QuotaFabric.Engine.Controls
import QuotaFabric.Lib.RollingTotal
import QuotaFabric.Loans.Lending

/-!
# Usage in rolling windows

A window keeps its samples in order of arrival, and drops the expired ones from the front when a sample
arrives, by the time of that sample.  A query reads the total as it stands: nothing expires between the
last observation and the query, and an early sample stays behind a late one.

* `expire_spec`, `addAll_expire` — what a window holds after any sequence of samples;
* `arrival_order_iff` — when two orders of arrival end with the same total;
* `sampleOf`, `observe` — the sample a call adds, and runs that keep a log of them;
* `windows_observe` — the windows of a tenant hold what was logged;
* `rolling_usage_iff` — when a query sees what was used in the last period.
-/

set_option autoImplicit false

namespace QuotaFabric

open RollingTotal

namespace RollingWindow

/-- The total is the sum of the samples. -/
def Exact (w : RollingWindow) : Prop := w.total = sum w.samples

/-- Add samples in the order given. -/
def addAll (w : RollingWindow) (l : List (Nanos × Int)) : RollingWindow := l.foldl (fun w x => w.add x.1 x.2) w

/-- The expiry loop drops the front and takes it off the total. -/
theorem expireLoop_eq (cutoff : Nanos) : ∀ (l : List (Nanos × Int)) (total : Int),
    expireLoop cutoff l total = (dropExpired cutoff l, total - sum l + sum (dropExpired cutoff l))
  | [], total => by
    unfold expireLoop
    simp
  | x :: l, total => by
    unfold expireLoop
    rw [dropExpired_cons]
    split
    · rw [expireLoop_eq cutoff l, sum_cons]
      congr 1
      omega
    · congr 1
      omega

/-- **Expiry of an exact window** keeps it exact. -/
theorem expire_spec {w : RollingWindow} (h : w.Exact) (now : Nanos) :
    (w.expire now).windowNs = w.windowNs ∧ (w.expire now).samples = dropExpired (now - w.windowNs) w.samples ∧
    (w.expire now).Exact := by
  refine ⟨rfl, ?_, ?_⟩
  · show (expireLoop (now - w.windowNs) w.samples w.total).1 = _
    rw [expireLoop_eq]
  · show (expireLoop (now - w.windowNs) w.samples w.total).2 =
      sum (expireLoop (now - w.windowNs) w.samples w.total).1
    rw [expireLoop_eq, show w.total = sum w.samples from h]
    simp only
    omega

/-- **A sample that fits** is appended, and the front expires by its time. -/
theorem add_spec {w : RollingWindow} (h : w.Exact) (at_ : Nanos) {amount : Int} (hamount : 0 ≤ amount)
    (hfit : sum w.samples + amount ≤ INT64_MAX) :
    (w.add at_ amount).windowNs = w.windowNs ∧
    (w.add at_ amount).samples = dropExpired (at_ - w.windowNs) (w.samples ++ [(at_, amount)]) ∧
    (w.add at_ amount).Exact := by
  have htotal : satAdd w.total amount = sum (w.samples ++ [(at_, amount)]) := by
    rw [sum_append, sum_cons, sum_nil, add_zero, h]
    exact satAdd_of_le hfit
  have hnew : Exact { w with
      samples := w.samples ++ [(at_, amount)], total := sum (w.samples ++ [(at_, amount)]) } := rfl
  unfold add
  rw [if_neg (not_lt.mpr hamount), htotal]
  exact expire_spec hnew at_

/-- **A window after any samples**: as if the front had been dropped on every arrival. -/
theorem addAll_spec : ∀ (l : List (Nanos × Int)) {w : RollingWindow}, w.Exact →
    (∀ x ∈ w.samples ++ l, 0 ≤ x.2) → sum (w.samples ++ l) ≤ INT64_MAX →
    (w.addAll l).windowNs = w.windowNs ∧
    (w.addAll l).samples = l.foldl (fun held x => dropExpired (x.1 - w.windowNs) (held ++ [x])) w.samples ∧
    (w.addAll l).Exact
  | [], _, h, _, _ => ⟨rfl, rfl, h⟩
  | x :: l, w, h, hnn, hfit => by
    have hrest : ∀ y ∈ w.samples ++ ([x] ++ l), 0 ≤ y.2 := hnn
    rw [← List.append_assoc] at hrest
    have hsum : sum (w.samples ++ [x]) + sum l ≤ INT64_MAX := by
      rw [← sum_append, List.append_assoc]
      exact hfit
    have hlnn : 0 ≤ sum l := sum_nonneg fun y hy => hrest y (List.mem_append_right _ hy)
    have hheld : ∀ y ∈ w.samples ++ [x], 0 ≤ y.2 := fun y hy => hrest y (List.mem_append_left _ hy)
    have hroom : sum w.samples + x.2 ≤ INT64_MAX := by
      rw [sum_append, sum_cons, sum_nil, add_zero] at hsum
      omega
    obtain ⟨hw, hs, hexact⟩ := add_spec h x.1 (hnn x (by simp)) hroom
    have hsub : ∀ y ∈ (w.add x.1 x.2).samples, y ∈ w.samples ++ [x] := fun y hy => by
      rw [hs] at hy
      exact mem_of_mem_dropExpired hy
    have hle : sum (w.add x.1 x.2).samples ≤ sum (w.samples ++ [x]) := by
      rw [hs]
      exact sum_dropExpired_le hheld
    have hnext : ∀ y ∈ (w.add x.1 x.2).samples ++ l, 0 ≤ y.2 := fun y hy => by
      rcases List.mem_append.mp hy with hy | hy
      · exact hheld y (hsub y hy)
      · exact hrest y (List.mem_append_right _ hy)
    obtain ⟨hw', hs', hexact'⟩ := addAll_spec l hexact hnext (by rw [sum_append]; omega)
    refine ⟨hw'.trans hw, ?_, hexact'⟩
    show ((w.add x.1 x.2).addAll l).samples = _
    rw [hs', hw, hs]
    rfl

/-- **Samples in any order, then one expiry**: the early ones that arrived behind a live one stay. -/
theorem addAll_expire (windowNs : Nanos) {l : List (Nanos × Int)} {now : Nanos} (hnn : ∀ x ∈ l, 0 ≤ x.2)
    (hfit : sum l ≤ INT64_MAX) (hnow : ∀ x ∈ l, x.1 ≤ now) :
    ((addAll { windowNs := windowNs } l).expire now).total = sum (dropExpired (now - windowNs) l) := by
  obtain ⟨hw, hs, hexact⟩ := addAll_spec l (w := { windowNs := windowNs }) rfl (by simpa using hnn)
    (by simpa using hfit)
  obtain ⟨-, hs', hexact'⟩ := expire_spec hexact now
  rw [hexact', hs', hs, hw]
  exact congrArg sum (foldl_dropExpired (fun x => x.1 - windowNs) fun x hx => sub_le_sub_right (hnow x hx) _)

/-- **Where the order of arrival does not matter**: two orders end with the same total exactly when the
    same amount arrived late in both, and all orders do exactly when nothing is live or everything that
    has expired is zero. -/
theorem arrival_order_iff (windowNs : Nanos) {l : List (Nanos × Int)} {now : Nanos} (hnn : ∀ x ∈ l, 0 ≤ x.2)
    (hfit : sum l ≤ INT64_MAX) (hnow : ∀ x ∈ l, x.1 ≤ now) :
    (∀ l', l.Perm l' →
      (((addAll { windowNs := windowNs } l').expire now).total =
          ((addAll { windowNs := windowNs } l).expire now).total ↔
        sumLate (now - windowNs) l' = sumLate (now - windowNs) l)) ∧
    ((∀ l', l.Perm l' →
      ((addAll { windowNs := windowNs } l').expire now).total =
        ((addAll { windowNs := windowNs } l).expire now).total) ↔
      (∀ x ∈ l, x.1 ≤ now - windowNs) ∨ ∀ x ∈ l, x.1 ≤ now - windowNs → x.2 = 0) := by
  have htotal : ∀ l', l.Perm l' →
      ((addAll { windowNs := windowNs } l').expire now).total = sum (dropExpired (now - windowNs) l') :=
    fun l' hp => addAll_expire windowNs (fun x hx => hnn x (hp.mem_iff.mpr hx)) (by rw [← sum_perm hp]; exact hfit)
      fun x hx => hnow x (hp.mem_iff.mpr hx)
  have hself := htotal l (.refl l)
  constructor
  · intro l' hp
    rw [htotal l' hp, hself, sum_dropExpired, sum_dropExpired, sumAfter_perm hp]
    exact add_right_inj _
  · rw [← sum_dropExpired_perm_iff hnn, hself]
    refine forall₂_congr fun l' hp => ?_
    rw [htotal l' hp]

theorem arrival_order_three :
    ((addAll { windowNs := 10 } [(3, 1), (1, 2), (2, 4)]).expire 5).total =
      ((addAll { windowNs := 10 } [(1, 2), (2, 4), (3, 1)]).expire 5).total :=
  ((@arrival_order_iff 10 _ 5 (by decide) (by decide) (by decide)).2.mpr (.inr (by decide))) _ (by decide)

/-- **An early sample that arrives late stays**: 7 units taken at time 1, with a window of 10 that ends
    at 100. -/
theorem late_sample_stays :
    [((1 : Nanos), (7 : Int)), (100, 5)].Perm [(100, 5), (1, 7)] ∧
    ((addAll { windowNs := 10 } [(1, 7), (100, 5)]).expire 100).total = 5 ∧
    ((addAll { windowNs := 10 } [(100, 5), (1, 7)]).expire 100).total = 12 :=
  ⟨by decide, by decide, by decide⟩

end RollingWindow

/-! ## Observations -/

/-- A window after the default has been put in. -/
def RollingWindow.ready (w : RollingWindow) : RollingWindow :=
  if w.windowNs ≤ 0 then { w with windowNs := Engine.defaultWindowNs } else w

/-- The kind of observation that is counted in the rolling window of `d`. -/
def windowKind (d : ResourceDimension) : Option ObservationKind :=
  match d with
  | .acceleratorComputeTime => some .computeInterval
  | .transferBytes => some .transferConsumed
  | _ => none

namespace Engine

/-- The time an observation is counted at. -/
def sampleTime (env : Env) (obs : Observation) : Nanos := if obs.at_ > 0 then obs.at_ else env.now

/-- The sample a call adds to the window of `t` on `d`. -/
def sampleOf (s : Engine) (t : TenantId) (d : ResourceDimension) (c : Env × Call) : List (Nanos × Int) :=
  match c.2 with
  | .applyObservation obs =>
    if s.tenantExists obs.tenant && obs.tenant == t && obs.dimension == d && windowKind d == some obs.kind then
      [(sampleTime c.1 obs, obs.amount)]
    else []
  | _ => []

/-- Run a call, and log the sample it adds. -/
def observe (t : TenantId) (d : ResourceDimension) (w : Engine × List (Nanos × Int)) (c : Env × Call) :
    Engine × List (Nanos × Int) :=
  (w.1.after c, w.2 ++ w.1.sampleOf t d c)

section Observe

variable {s : Engine} {t : TenantId} {d : ResourceDimension}

/-- What a sample does to a window. -/
def addReady (w : RollingWindow) (l : List (Nanos × Int)) : RollingWindow :=
  l.foldl (fun w x => w.ready.add x.1 x.2) w

theorem windows_modifyUsage (s : Engine) (t x : TenantId) {f : Usage → Usage}
    (hf : ∀ u, (f u).windows = u.windows) : ((s.modifyUsage t f).usageOf x).windows = (s.usageOf x).windows :=
  congrFun (congrArg Standing.windows (standing_modifyUsage s t hf)) x

theorem windows_addSample (s : Engine) (t x : TenantId) (d e : ResourceDimension) (at_ : Nanos) (amount : Int) :
    ((s.modifyUsage t (addSample d at_ amount)).usageOf x).windows e =
      if x = t ∧ e = d then ((s.usageOf t).windows d).ready.add at_ amount else (s.usageOf x).windows e := by
  rw [usageOf_modifyUsage]
  by_cases hx : x = t
  · subst hx
    rw [if_pos rfl]
    unfold addSample
    simp only [true_and]
    by_cases he : e = d
    · subst he
      rw [Function.update_self, if_pos rfl]
      rfl
    · rw [Function.update_of_ne he, if_neg he]
  · rw [if_neg hx, if_neg fun h => hx h.1]

theorem windowKind_eq_some_iff {k : ObservationKind} :
    windowKind d = some k ↔
      d = .acceleratorComputeTime ∧ k = .computeInterval ∨ d = .transferBytes ∧ k = .transferConsumed := by
  cases d <;> simp [windowKind, eq_comm]

/-- **An observation** is counted in the window of its tenant and dimension, or leaves all windows alone. -/
theorem applyObservation_windows (env : Env) (s : Engine) (obs : Observation) :
    ((s.tenantExists obs.tenant = true ∧ windowKind obs.dimension = some obs.kind) ∧
      ∀ x e, ((s.applyObservation env obs).2.usageOf x).windows e =
        if x = obs.tenant ∧ e = obs.dimension then
          ((s.usageOf obs.tenant).windows obs.dimension).ready.add (sampleTime env obs) obs.amount
        else (s.usageOf x).windows e) ∨
    (¬ (s.tenantExists obs.tenant = true ∧ windowKind obs.dimension = some obs.kind) ∧
      ∀ x, ((s.applyObservation env obs).2.usageOf x).windows = (s.usageOf x).windows) := by
  by_cases htenant : s.tenantExists obs.tenant = true
  swap
  · refine .inr ⟨fun h => htenant h.1, fun x => ?_⟩
    unfold applyObservation
    rw [if_pos (by simpa using htenant)]
  have htouch : ∀ x, ((s.modifyUsage obs.tenant id).usageOf x).windows = (s.usageOf x).windows :=
    fun x => windows_modifyUsage s obs.tenant x fun _ => rfl
  have hcounted : ∀ x e, (((s.modifyUsage obs.tenant id).modifyUsage obs.tenant
      (addSample obs.dimension (sampleTime env obs) obs.amount)).usageOf x).windows e =
        if x = obs.tenant ∧ e = obs.dimension then
          ((s.usageOf obs.tenant).windows obs.dimension).ready.add (sampleTime env obs) obs.amount
        else (s.usageOf x).windows e := by
    intro x e
    rw [windows_addSample, usageOf_modifyUsage_id, usageOf_modifyUsage_id]
  have hother : ∀ {k : ObservationKind}, obs.kind = k → k ≠ .computeInterval → k ≠ .transferConsumed →
      ¬ (s.tenantExists obs.tenant = true ∧ windowKind obs.dimension = some obs.kind) := by
    rintro k rfl h1 h2 ⟨-, hwindow⟩
    rcases windowKind_eq_some_iff.mp hwindow with ⟨-, h⟩ | ⟨-, h⟩
    · exact h1 h
    · exact h2 h
  unfold applyObservation
  rw [if_neg (by simp [htenant])]
  cases hk : obs.kind with
  | computeInterval =>
    by_cases hdim : obs.dimension = .acceleratorComputeTime
    · refine .inl ⟨⟨htenant, windowKind_eq_some_iff.mpr (.inl ⟨hdim, rfl⟩)⟩, fun x e => ?_⟩
      simp only [hdim, ne_eq, not_true_eq_false, if_false, usageOf_emitEvent] at hcounted ⊢
      exact hcounted x e
    · refine .inr ⟨fun h => ?_, fun x => ?_⟩
      · rcases windowKind_eq_some_iff.mp h.2 with ⟨h, -⟩ | ⟨-, h⟩
        · exact hdim h
        · cases h
      · simp only [ne_eq, hdim, not_false_eq_true, if_true]
        exact htouch x
  | transferConsumed =>
    by_cases hdim : obs.dimension = .transferBytes
    · refine .inl ⟨⟨htenant, windowKind_eq_some_iff.mpr (.inr ⟨hdim, rfl⟩)⟩, fun x e => ?_⟩
      simp only [hdim, ne_eq, not_true_eq_false, if_false, usageOf_emitEvent] at hcounted ⊢
      exact hcounted x e
    · refine .inr ⟨fun h => ?_, fun x => ?_⟩
      · rcases windowKind_eq_some_iff.mp h.2 with ⟨-, h⟩ | ⟨h, -⟩
        · cases h
        · exact hdim h
      · simp only [ne_eq, hdim, not_false_eq_true, if_true]
        exact htouch x
  | modelResidencyAdded | modelResidencyRemoved | kvUsageChange | tensorUsageChange | usageDelta =>
    rw [← hk]
    refine .inr ⟨hother hk (by decide) (by decide), fun x => ?_⟩
    simp only [hk, usageOf_emitEvent]
    rw [windows_modifyUsage]
    · exact htouch x
    · exact fun _ => rfl
  | allocationStart | allocationResize | allocationRelease | reservationCommitted =>
    rw [← hk]
    refine .inr ⟨hother hk (by decide) (by decide), fun x => ?_⟩
    simp only [hk, usageOf_emitEvent]
    exact htouch x

/-- **A call adds its sample to the window it is counted in**, and changes no other. -/
theorem windows_after (s : Engine) (c : Env × Call) :
    ((s.after c).usageOf t).windows d = addReady ((s.usageOf t).windows d) (s.sampleOf t d c) := by
  obtain ⟨env, call⟩ := c
  by_cases hobs : ∃ obs, call = .applyObservation obs
  · obtain ⟨obs, rfl⟩ := hobs
    have hsample : s.sampleOf t d (env, .applyObservation obs) =
        if (s.tenantExists obs.tenant = true ∧ windowKind obs.dimension = some obs.kind) ∧
          t = obs.tenant ∧ d = obs.dimension then [(sampleTime env obs, obs.amount)] else [] := by
      unfold sampleOf
      simp only [Bool.and_eq_true, beq_iff_eq]
      refine if_congr ?_ rfl rfl
      constructor
      · rintro ⟨⟨⟨h1, h2⟩, h3⟩, h4⟩
        exact ⟨⟨h1, h3 ▸ h4⟩, h2.symm, h3.symm⟩
      · rintro ⟨⟨h1, h4⟩, h2, h3⟩
        exact ⟨⟨⟨h1, h2.symm⟩, h3.symm⟩, h3 ▸ h4⟩
    rw [hsample]
    show ((s.applyObservation env obs).2.usageOf t).windows d = _
    rcases applyObservation_windows env s obs with ⟨hyes, hall⟩ | ⟨hno, hall⟩
    · rw [hall]
      by_cases hmatch : t = obs.tenant ∧ d = obs.dimension
      · rw [if_pos hmatch, if_pos ⟨hyes, hmatch⟩, hmatch.1, hmatch.2]
        rfl
      · rw [if_neg hmatch, if_neg fun h => hmatch h.2]
        rfl
    · rw [hall, if_neg fun h => hno h.1]
      rfl
  · have hne : ∀ obs, call ≠ .applyObservation obs := fun obs heq => hobs ⟨obs, heq⟩
    have hnone : s.sampleOf t d (env, call) = [] := by
      unfold sampleOf
      split
      · rename_i obs heq
        exact absurd heq (hne obs)
      · rfl
    rw [hnone]
    exact congrFun (exec_windows env s hne t) d

/-- **The windows of a tenant hold what was logged.** -/
theorem windows_observe {w₀ : RollingWindow} : ∀ (l : List (Env × Call)) (w : Engine × List (Nanos × Int)),
    (w.1.usageOf t).windows d = addReady w₀ w.2 →
    ((l.foldl (observe t d) w).1.usageOf t).windows d = addReady w₀ (l.foldl (observe t d) w).2
  | [], _, h => h
  | c :: l, w, h => by
    refine windows_observe l (observe t d w c) ?_
    show ((w.1.after c).usageOf t).windows d = addReady w₀ (w.2 ++ w.1.sampleOf t d c)
    rw [windows_after, h]
    unfold addReady
    rw [List.foldl_append]

/-- The default is put in once, by the first sample. -/
theorem addReady_eq {w : RollingWindow} : ∀ {l : List (Nanos × Int)}, l ≠ [] → addReady w l = w.ready.addAll l
  | [], h => absurd rfl h
  | x :: l, _ => by
    have hpos : ∀ (l : List (Nanos × Int)) {w : RollingWindow}, 0 < w.windowNs → addReady w l = w.addAll l := by
      intro l
      induction l with
      | nil => exact fun _ => rfl
      | cons y l ih =>
        intro w hw
        have hready : w.ready = w := by
          unfold RollingWindow.ready
          rw [if_neg (not_le.mpr hw)]
        have hnext : 0 < (w.add y.1 y.2).windowNs := by
          unfold RollingWindow.add RollingWindow.expire
          split <;> exact hw
        show addReady (w.ready.add y.1 y.2) l = _
        rw [hready, ih hnext]
        rfl
    have hready : 0 < w.ready.windowNs := by
      unfold RollingWindow.ready
      split
      · exact (by decide : (0 : Int) < defaultWindowNs)
      · rename_i hset
        exact not_le.mp hset
    have hnext : 0 < (w.ready.add x.1 x.2).windowNs := by
      unfold RollingWindow.add RollingWindow.expire
      split <;> exact hready
    show addReady (w.ready.add x.1 x.2) l = _
    rw [hpos l hnext]
    rfl

end Observe

/-! ## Queries -/

/-- **What a query sees**: in every run of public calls that starts without usage, the usage of a rolling
    budget is what was used in the last period, exactly when no amount that was in the window at the last
    observation has left it since. -/
theorem rolling_usage_iff {s₀ s : Engine} (h₀ : s₀.usage = ∅) (l : List (Env × Call)) {t : TenantId}
    {d : ResourceDimension} (hd : isConsumable d = true) {log : List (Nanos × Int)}
    (hrun : l.foldl (observe t d) (s₀, []) = (s, log)) (hsorted : log.Pairwise fun x y => x.1 ≤ y.1)
    (hnn : ∀ x ∈ log, 0 ≤ x.2) (hfit : sum log < 2 ^ 63) {now : Nanos} (hnow : ∀ x ∈ log, x.1 ≤ now) :
    (s.currentCommittedScalar t d (s.committed t) = sumAfter (now - ((s.usageOf t).windows d).windowNs) log ∧
      s.complianceScalar t (s.committed t) d = sumAfter (now - ((s.usageOf t).windows d).windowNs) log) ↔
      ∀ x ∈ log, x.2 ≠ 0 → (∀ y ∈ log, y.1 - ((s.usageOf t).windows d).windowNs < x.1) →
        now - ((s.usageOf t).windows d).windowNs < x.1 := by
  have hstart : (s₀.usageOf t).windows d = {} := by
    unfold usageOf
    rw [h₀]
    rfl
  have hwindow := windows_observe l (s₀, []) (show (s₀.usageOf t).windows d = addReady {} [] from hstart)
  rw [hrun] at hwindow
  have hscalars : s.currentCommittedScalar t d (s.committed t) = ((s.usageOf t).windows d).total ∧
      s.complianceScalar t (s.committed t) d = ((s.usageOf t).windows d).total := by
    unfold currentCommittedScalar complianceScalar
    rw [if_pos hd]
    exact ⟨rfl, rfl⟩
  rw [hscalars.1, hscalars.2, and_self]
  obtain ⟨w, hw⟩ : ∃ w, w = (s.usageOf t).windows d := ⟨_, rfl⟩
  rw [← hw] at hwindow ⊢
  rcases List.eq_nil_or_concat log with rfl | ⟨init, last, hlog⟩
  · rw [hwindow]
    exact ⟨fun _ x hx => absurd hx List.not_mem_nil, fun _ => rfl⟩
  rw [List.concat_eq_append] at hlog
  have hne : log ≠ [] := by
    rw [hlog]
    exact List.append_ne_nil_of_right_ne_nil _ (List.cons_ne_nil _ _)
  rw [addReady_eq hne] at hwindow
  obtain ⟨hns, hsamples, hexact⟩ := RollingWindow.addAll_spec log (w := RollingWindow.ready {}) rfl hnn
    (Int.le_sub_one_of_lt hfit)
  rw [← hwindow] at hns hsamples hexact
  rw [← hns] at hsamples
  -- the last observation has the latest time
  have hlast : ∀ x ∈ log, x.1 ≤ last.1 := by
    intro x hx
    rw [hlog] at hx hsorted
    rcases List.mem_append.mp hx with hx | hx
    · exact (List.pairwise_append.mp hsorted).2.2 x hx last (List.mem_singleton_self _)
    · rw [List.mem_singleton.mp hx]
  have hmem : last ∈ log := by
    rw [hlog]
    exact List.mem_append_right _ (List.mem_singleton_self _)
  have htotal : w.total = sumAfter (last.1 - w.windowNs) log := by
    have hheld : w.samples = dropExpired (last.1 - w.windowNs) log := by
      rw [hsamples]
      rw [hlog] at hlast ⊢
      exact foldl_dropExpired_snoc (fun x => x.1 - w.windowNs) fun x hx =>
        sub_le_sub_right (hlast x (List.mem_append_left _ hx)) _
    rw [hexact, hheld, dropExpired_of_sorted hsorted]
    rfl
  rw [htotal, sumAfter_eq_iff (sub_le_sub_right (hnow last hmem) _) hnn]
  refine forall₃_congr fun x _ _ => imp_congr_left ⟨fun h y hy => ?_, fun h => h last hmem⟩
  exact (sub_le_sub_right (hlast y hy) _).trans_lt h

def computeAt (n : UInt64) (time : Nanos) (amount : Int) : Env × Call :=
  (.numbered n, .applyObservation
    { tenant := ⟨0, 1⟩, dimension := .acceleratorComputeTime, amount := amount, at_ := time
      kind := .computeInterval })

/-- A tenant that computes for 5 and for 7 units of time. -/
def computeBusiness : List (Env × Call) :=
  [(.numbered 1, .createTenant ⟨0, 1⟩ [] none 100), computeAt 2 1 5, computeAt 3 2 7]

theorem rolling_usage_soon :
    let w := computeBusiness.foldl (observe ⟨0, 1⟩ .acceleratorComputeTime) ({}, [])
    w.1.currentCommittedScalar ⟨0, 1⟩ .acceleratorComputeTime (w.1.committed ⟨0, 1⟩) =
      sumAfter (10 - ((w.1.usageOf ⟨0, 1⟩).windows .acceleratorComputeTime).windowNs) w.2 ∧
    w.1.complianceScalar ⟨0, 1⟩ (w.1.committed ⟨0, 1⟩) .acceleratorComputeTime =
      sumAfter (10 - ((w.1.usageOf ⟨0, 1⟩).windows .acceleratorComputeTime).windowNs) w.2 :=
  (@rolling_usage_iff {} _ rfl computeBusiness _ _ rfl _ rfl (by decide +kernel) (by decide +kernel)
    (by decide +kernel) _ (by decide +kernel)).mpr (by decide +kernel)

/-- **An hour later the query still sees all of it**, though the window is empty. -/
theorem rolling_usage_stale :
    let w := computeBusiness.foldl (observe ⟨0, 1⟩ .acceleratorComputeTime) ({}, [])
    w.2 = [(1, 5), (2, 7)] ∧
    ((w.1.usageOf ⟨0, 1⟩).windows .acceleratorComputeTime).windowNs = 3600000000000 ∧
    w.1.currentCommittedScalar ⟨0, 1⟩ .acceleratorComputeTime (w.1.committed ⟨0, 1⟩) = 12 ∧
    sumAfter (3600000000010 - ((w.1.usageOf ⟨0, 1⟩).windows .acceleratorComputeTime).windowNs) w.2 = 0 :=
  ⟨by decide +kernel, by decide +kernel, by decide +kernel, by decide +kernel⟩

end Engine

end QuotaFabric
