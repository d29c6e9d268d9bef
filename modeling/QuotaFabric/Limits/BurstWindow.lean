import QuotaFabric.Decisions.Admission
import QuotaFabric.Limits.BurstBound

/-!
# Burst windows and cooldowns

A charged burst opens a window: `reserve` sets `burst_active` and `burst_expires`.  `sync_usage` closes
an expired window, but nothing ever sets `cooldown_until`, and a further burst inside the window
replaces `burst_expires`.  There is a cooldown only where no burst is charged inside a window and no
resynchronisation of the tenant falls into the cooldown.

* `Usage.window`, `expireWindow` — the two fields that matter, and what a resynchronisation does to them;
* `tick` — a call together with the clock reading it ends with;
* `GrantsBurst` — a successful `reserve` that is charged burst;
* `KeepsCooldown` — the two things that must not happen;
* `no_burst_in_cooldown` — the run statement; `burst_in_cooldown` — a release in the cooldown makes the
  next burst possible.

Clock readings and windows are exact here: `now + window` is not wrapped at the end of the 64 bits, so a
window that reaches that far is outside the model.
-/

set_option autoImplicit false

namespace QuotaFabric

open AList

/-- Is a burst window open, and until when. -/
def Usage.window (u : Usage) : Bool × Nanos := (u.burstActive, u.burstExpires)

/-- A window after a resynchronisation at a given time. -/
def expireWindow (time : Nanos) (w : Bool × Nanos) : Bool × Nanos := (w.1 && !decide (time ≥ w.2), w.2)

namespace Engine

/-! ## What the calls do to the window -/

section Window

variable {env : Env} {s s' : Engine}

theorem LoanFrame.window (h : LoanFrame s s') (x : TenantId) :
    (s'.usageOf x).window = (s.usageOf x).window := by
  have h1 := congrArg Usage.burstActive (h.capacity x)
  have h2 := congrArg Usage.burstExpires (h.capacity x)
  exact Prod.ext h1 h2

theorem window_syncUsage (env : Env) (k : Nat) (s : Engine) (t : TenantId) :
    ((s.syncUsage env k t).usageOf t).window = expireWindow (env.syncAt k) (s.usageOf t).window := by
  unfold syncUsage
  rw [usageOf_modifyUsage_self]
  unfold expireWindow Usage.window
  cases hactive : (s.usageOf t).burstActive with
  | false => simp
  | true =>
    by_cases hexp : env.syncAt k ≥ (s.usageOf t).burstExpires
    · simp [hexp]
    · simp [hexp]

theorem window_startBurst (env : Env) (eff : ResourceQuota) (s : Engine) (t : TenantId)
    (burst : ResourceVector) :
    ((startBurst env eff s t burst).usageOf t).window =
      if burst.isEmpty then (s.usageOf t).window else (true, env.now + eff.burstRule.window) := by
  unfold startBurst
  split
  · rfl
  · rw [usageOf_modifyUsage_self]
    rfl

/-- An accepted request whose dimensions are all funded is recorded. -/
theorem reserve_of_funded {t : TenantId} {req : ResourceVector} {auth : Authority} {st : Draw}
    (h : Accepted env s t req auth)
    (hf : fundLoop env (s.effectiveLattice t) (s.committed t) t req allResourceDimensions
      { engine := s.modifyUsage t id } = .ok st) :
    s.reserve env t req auth =
      (.ok (recordReservation env (s.effectiveLattice t) t req auth st).1,
        (recordReservation env (s.effectiveLattice t) t req auth st).2) := by
  have hauth := h.authority
  have hcb : (s.modifyUsage t id).committed t = s.committed t := by
    unfold committed
    rw [usageOf_modifyUsage_id]
  have hepoch : s.staleEpoch auth = false := by
    unfold validAuthority at hauth
    unfold staleEpoch
    simp_all
  have hgen : s.staleQuotaGen auth = false := by
    unfold validAuthority at hauth
    unfold staleQuotaGen
    simp_all
  unfold reserve
  simp only [hepoch, hgen, hauth, h.tenant, h.allowed, hcb, hf, Bool.not_true, Bool.false_eq_true, if_false]

theorem window_reserve {t : TenantId} {req : ResourceVector} {auth : Authority} {st : Draw}
    (h : Admitted env s t req auth st (s.reserve env t req auth).2) :
    ((s.reserve env t req auth).2.usageOf t).window =
      expireWindow (env.syncAt 0)
        (if st.burst.isEmpty then (s.usageOf t).window
          else (true, env.now + (s.effectiveLattice t).burstRule.window)) := by
  rw [reserve_of_funded h.accepted h.funded]
  unfold recordReservation
  simp only
  rw [usageOf_emitEvent, window_syncUsage]
  congr 1
  exact (window_startBurst ..).trans (by rw [h.loans.frame.window])

theorem Admitted.window_other {t x : TenantId} {req : ResourceVector} {auth : Authority} {st : Draw}
    (h : Admitted env s t req auth st s') (hx : x ≠ t) :
    (s'.usageOf x).window = (s.usageOf x).window := by
  obtain ⟨e, hent, hres⟩ := h.recorded
  rw [hres.other x (by simpa using hx), hent.other x hx]
  exact h.loans.frame.window x

/-- A release closes an expired window of its tenant. -/
theorem window_release (env : Env) (s : Engine) (rid : ReservationId) (auth : Authority) (x : TenantId) :
    ((s.release env rid auth).2.usageOf x).window = (s.usageOf x).window ∨
    s.staleEpoch auth = false ∧ ∃ r, s.reservations.lookup rid = some r ∧ r.tenant = x ∧
      ((s.release env rid auth).2.usageOf x).window = expireWindow (env.syncAt 0) (s.usageOf x).window := by
  unfold release
  split
  · exact Or.inl rfl
  rename_i hepoch
  split
  · exact Or.inl rfl
  rename_i r hr
  split
  · exact Or.inl rfl
  simp only [usageOf_emitEvent]
  have hback : ∀ y, ((((s.setStatus rid .released).returnAll env
      ((s.setStatus rid .released).listedBorrows rid)).dropReservation rid).usageOf y).window =
      (s.usageOf y).window := fun y => (returnAll_frame env (s.setStatus rid .released) _).window y
  by_cases hx : r.tenant = x
  · subst hx
    refine Or.inr ⟨by simpa using hepoch, r, hr, rfl, ?_⟩
    rw [window_syncUsage, hback]
  · rw [usageOf_syncUsage_ne env 0 _ (Ne.symm hx)]
    exact Or.inl (hback x)

end Window

/-! ## Granted burst -/

/-- The request would be charged burst on some dimension. -/
def DrawsBurst (env : Env) (s : Engine) (t : TenantId) (req : ResourceVector) : Prop :=
  ∃ d, 0 < burstNeed env (s.effectiveLattice t) (s.committed t) req d

instance (env : Env) (s : Engine) (t : TenantId) (req : ResourceVector) :
    Decidable (DrawsBurst env s t req) :=
  inferInstanceAs (Decidable (∃ d, 0 < burstNeed env (s.effectiveLattice t) (s.committed t) req d))

/-- The new reservation is funded by burst. -/
def GrantsBurst (env : Env) (s : Engine) (t : TenantId) (req : ResourceVector) (auth : Authority) : Prop :=
  (s.reserve env t req auth).1.status.ok = true ∧
    ∃ f ∈ (s.reserve env t req auth).2.funding.lookup env.reservationId, f.burst.isEmpty = false

section Grant

variable {env : Env} {s s' : Engine} {t : TenantId} {req : ResourceVector} {auth : Authority} {st : Draw}

theorem Admitted.burst_isEmpty (h : Admitted env s t req auth st s') :
    st.burst.isEmpty = true ↔ ¬ DrawsBurst env s t req := by
  rw [ResourceVector.isEmpty_iff]
  unfold DrawsBurst SparseVec.present
  rw [not_exists]
  refine forall_congr' fun d => ?_
  rw [fundLoop_burst h.funded]
  split
  · rename_i hpos
    simp [hpos]
  · rename_i hno
    simp [hno]

theorem GrantsBurst.admitted (h : GrantsBurst env s t req auth) (hfresh : FreshIds env s) :
    ∃ st, Admitted env s t req auth st (s.reserve env t req auth).2 ∧ DrawsBurst env s t req := by
  obtain ⟨-, f, hf, hburst⟩ := h
  have hmiss : ∀ s' : Engine, s'.funding = s.funding → f ∉ s'.funding.lookup env.reservationId := by
    intro s' heq hmem
    rw [heq, lookup_eq_none.mpr hfresh.fundingId] at hmem
    cases hmem
  rcases reserve_cases hfresh.toFreshLoans t req auth with hsame | ⟨st, hback⟩ | ⟨st, hadm⟩
  · exact absurd hf (hmiss _ (congrArg Engine.funding hsame))
  · exact absurd hf (hmiss _ hback.frame.funding)
  · refine ⟨st, hadm, ?_⟩
    by_contra hno
    have hfund : (s.reserve env t req auth).2.funding = s.funding.insert env.reservationId _ :=
      congrArg Ledger.funding hadm.ledger
    rw [hfund, lookup_insert] at hf
    cases hf
    rw [hadm.burst_isEmpty.mpr hno] at hburst
    cases hburst

end Grant

/-! ## Runs with a clock -/

/-- One call, and the clock reading it ends with. -/
def tick (w : Engine × Nanos) (c : Env × Call) : Engine × Nanos := (w.1.after c, c.1.syncAt 0)

/-- A reserve or release whose clock readings do not go back. -/
def clockedCall (w : Engine × Nanos) (c : Env × Call) : Prop :=
  reservingCall w.1 c ∧ (∀ d, w.2 ≤ c.1.burstAt d ∧ c.1.burstAt d ≤ c.1.now) ∧ c.1.now ≤ c.1.syncAt 0

instance (w : Engine × Nanos) (c : Env × Call) : Decidable (clockedCall w c) :=
  inferInstanceAs (Decidable (_ ∧ _ ∧ _))

/-- The time lies in the cooldown after a window of `t` that ended at `expires`. -/
def InCooldown (s : Engine) (t : TenantId) (expires time : Nanos) : Prop :=
  expires ≤ time ∧ time < expires + (s.effectiveLattice t).burstRule.cooldown

/-- No burst is charged inside an open window, and no open window is resynchronised in its
    cooldown.  A `reserve` does neither where it is refused or a loan it needs is not offered. -/
def KeepsCooldown (s : Engine) (c : Env × Call) : Prop :=
  match c.2 with
  | .reserve t req auth => Accepted c.1 s t req auth → s.LoansOffered t req →
      (DrawsBurst c.1 s t req → (s.usageOf t).burstActive = false ∧
        ¬ s.InCooldown t (c.1.now + (s.effectiveLattice t).burstRule.window) (c.1.syncAt 0)) ∧
      (¬ DrawsBurst c.1 s t req → (s.usageOf t).burstActive = true →
        ¬ s.InCooldown t (s.usageOf t).burstExpires (c.1.syncAt 0))
  | .release rid auth => s.staleEpoch auth = false → ∀ r ∈ s.reservations.lookup rid,
      (s.usageOf r.tenant).burstActive = true →
        ¬ s.InCooldown r.tenant (s.usageOf r.tenant).burstExpires (c.1.syncAt 0)
  | _ => True

instance (s : Engine) (t : TenantId) (expires time : Nanos) : Decidable (s.InCooldown t expires time) :=
  inferInstanceAs (Decidable (_ ∧ _))

instance (s : Engine) (c : Env × Call) : Decidable (s.KeepsCooldown c) := by
  apply Call.casesOn (motive := fun call => Decidable (s.KeepsCooldown (c.1, call))) c.2 <;> intros <;> unfold KeepsCooldown <;> infer_instance

/-- The window that ends at `expires` is still open, or its cooldown is over. -/
def WindowOrLater (t : TenantId) (expires cooldown : Nanos) (w : Engine × Nanos) : Prop :=
  (w.1.usageOf t).window = (true, expires) ∨ expires + cooldown ≤ w.2

section Step

variable {env : Env} {s : Engine} {t : TenantId}

/-- A resynchronisation outside the cooldown leaves the window open, or comes after the cooldown. -/
theorem expireWindow_outside {expires cooldown time : Nanos} (h : ¬ (expires ≤ time ∧ time < expires + cooldown)) :
    expireWindow time (true, expires) = (true, expires) ∨ expires + cooldown ≤ time := by
  unfold expireWindow
  by_cases hopen : time ≥ expires
  · right
    exact not_lt.mp fun hin => h ⟨hopen, hin⟩
  · left
    simp [hopen]

theorem after_config {c : Env × Call} (hc : reservingCall s c) : SameConfig s (s.after c) := by
  obtain ⟨env, c⟩ := c
  obtain ⟨hkind, hfresh, -⟩ := hc
  cases c with
  | reserve t req auth =>
    show SameConfig s (s.reserve env t req auth).2
    rcases reserve_cases hfresh.toFreshLoans t req auth with hsame | ⟨st, hback⟩ | ⟨st, hadm⟩
    · rw [hsame]; exact .refl s
    · exact hback.frame.config
    · obtain ⟨e, hent, hres⟩ := hadm.recorded
      exact (hadm.loans.frame.config.trans hent.config).trans hres.config
  | release rid auth =>
    show SameConfig s (s.release env rid auth).2
    rcases release_cases env s rid auth with hsame | ⟨r, mid, -, -, hret, hsync⟩
    · rw [hsame]; exact .refl s
    · have hset : SameConfig s (s.setStatus rid .released) := ⟨rfl, rfl, rfl, rfl, rfl, rfl, rfl⟩
      have hdrop : SameConfig mid (mid.dropReservation rid) := ⟨rfl, rfl, rfl, rfl, rfl, rfl, rfl⟩
      exact ((hset.trans hret.frame.config).trans hdrop).trans hsync.config
  | _ => cases hkind

theorem clockedCall_mono {w : Engine × Nanos} {c : Env × Call} (hc : clockedCall w c) : w.2 ≤ (tick w c).2 := by
  obtain ⟨-, hclock, hsync⟩ := hc
  have h := hclock default
  exact (h.1.trans h.2).trans hsync

/-- **One call keeps the window open or ends after the cooldown.** -/
theorem tick_windowOrLater {w : Engine × Nanos} {c : Env × Call} (expires : Nanos)
    (hc : clockedCall w c) (hkeep : w.1.KeepsCooldown c)
    (h : WindowOrLater t expires (w.1.effectiveLattice t).burstRule.cooldown w) :
    WindowOrLater t expires (w.1.effectiveLattice t).burstRule.cooldown (tick w c) := by
  rcases h with hopen | hlate
  swap
  · exact Or.inr (hlate.trans (clockedCall_mono hc))
  obtain ⟨s, time⟩ := w
  obtain ⟨env, c⟩ := c
  obtain ⟨⟨hkind, hfresh, -⟩, -, -⟩ := hc
  change (s.usageOf t).window = (true, expires) at hopen
  have hactive : (s.usageOf t).burstActive = true := congrArg Prod.fst hopen
  have hexpires : (s.usageOf t).burstExpires = expires := congrArg Prod.snd hopen
  cases c with
  | reserve t' req auth =>
    rcases reserve_cases hfresh.toFreshLoans t' req auth with hsame | ⟨st, hback⟩ | ⟨st, hadm⟩
    · left
      show ((s.reserve env t' req auth).2.usageOf t).window = _
      rw [hsame]
      exact hopen
    · left
      show ((s.reserve env t' req auth).2.usageOf t).window = _
      rw [hback.frame.window]
      exact hopen
    · by_cases ht : t = t'
      · subst ht
        obtain ⟨hdraw, hquiet⟩ := hkeep hadm.accepted hadm.offered
        by_cases hd : DrawsBurst env s t req
        · have hno := (hdraw hd).1
          rw [show (s.usageOf t).burstActive = true from hactive] at hno
          cases hno
        · have hwindow := window_reserve hadm
          rw [if_pos (hadm.burst_isEmpty.mpr hd), hopen] at hwindow
          have hout := hquiet hd hactive
          rw [show ((s, time).1.usageOf t).burstExpires = expires from hexpires] at hout
          rcases expireWindow_outside hout with hstill | hover
          · exact Or.inl (hwindow.trans hstill)
          · exact Or.inr hover
      · left
        show ((s.reserve env t' req auth).2.usageOf t).window = _
        rw [hadm.window_other ht]
        exact hopen
  | release rid auth =>
    rcases window_release env s rid auth t with hsame | ⟨hepoch, r, hr, hrt, hwindow⟩
    · exact Or.inl (hsame.trans hopen)
    · subst hrt
      have hout := hkeep hepoch r hr hactive
      rw [show ((s, time).1.usageOf r.tenant).burstExpires = expires from hexpires] at hout
      rw [hopen] at hwindow
      rcases expireWindow_outside hout with hstill | hover
      · exact Or.inl (hwindow.trans hstill)
      · exact Or.inr hover
  | _ => cases hkind

end Step

/-- **No burst in the cooldown**: in runs with a clock that does not go back, in which no burst is
    charged inside an open window and no open window is resynchronised in its cooldown. -/
theorem no_burst_in_cooldown {s₁ s₂ : Engine} {time₁ time₂ : Nanos} {l : List (Env × Call)}
    {env₁ env₂ : Env} {t : TenantId} {req₁ req₂ : ResourceVector} {auth₁ auth₂ : Authority}
    (hfirst : clockedCall (s₁, time₁) (env₁, .reserve t req₁ auth₁) ∧
      s₁.KeepsCooldown (env₁, .reserve t req₁ auth₁))
    (hgrant₁ : GrantsBurst env₁ s₁ t req₁ auth₁)
    (hrun : Run tick (fun w c => clockedCall w c ∧ w.1.KeepsCooldown c)
      (tick (s₁, time₁) (env₁, .reserve t req₁ auth₁)) l (s₂, time₂))
    (hsecond : clockedCall (s₂, time₂) (env₂, .reserve t req₂ auth₂) ∧
      s₂.KeepsCooldown (env₂, .reserve t req₂ auth₂))
    (hgrant₂ : GrantsBurst env₂ s₂ t req₂ auth₂) :
    ¬ (env₁.now + (s₁.effectiveLattice t).burstRule.window ≤ env₂.now ∧
      env₂.now < env₁.now + (s₁.effectiveLattice t).burstRule.window +
        (s₁.effectiveLattice t).burstRule.cooldown) := by
  obtain ⟨⟨hcall₁, -⟩, hkeep₁⟩ := hfirst
  obtain ⟨⟨hcall₂, hclock₂, hnow₂⟩, hkeep₂⟩ := hsecond
  obtain ⟨st₁, hadm₁, hdraw₁⟩ := hgrant₁.admitted hcall₁.2.1
  obtain ⟨st₂, hadm₂, hdraw₂⟩ := hgrant₂.admitted hcall₂.2.1
  -- the first grant opens the window, unless it ends after the cooldown
  have hstart : WindowOrLater t (env₁.now + (s₁.effectiveLattice t).burstRule.window)
      (s₁.effectiveLattice t).burstRule.cooldown (tick (s₁, time₁) (env₁, .reserve t req₁ auth₁)) := by
    have hwindow := window_reserve hadm₁
    have hnonempty : st₁.burst.isEmpty = false := by
      rw [← Bool.not_eq_true, hadm₁.burst_isEmpty, not_not]
      exact hdraw₁
    rw [hnonempty] at hwindow
    rcases expireWindow_outside ((hkeep₁ hadm₁.accepted hadm₁.offered).1 hdraw₁).2 with hstill | hover
    · exact Or.inl (hwindow.trans hstill)
    · exact Or.inr hover
  have hend := hrun.invariant
    (I := fun w => SameConfig s₁ w.1 ∧ WindowOrLater t
      (env₁.now + (s₁.effectiveLattice t).burstRule.window)
      (s₁.effectiveLattice t).burstRule.cooldown w)
    ⟨after_config hcall₁, hstart⟩ fun w c hw hc => by
      refine ⟨hw.1.trans (after_config hc.1.1), ?_⟩
      have hstep := tick_windowOrLater (t := t) (env₁.now + (s₁.effectiveLattice t).burstRule.window)
        hc.1 hc.2
      rw [hw.1.effectiveLattice] at hstep
      exact hstep hw.2
  rcases hend.2 with hopen | hlate
  · have hno := ((hkeep₂ hadm₂.accepted hadm₂.offered).1 hdraw₂).1
    have hactive : (s₂.usageOf t).burstActive = true := congrArg Prod.fst hopen
    rw [hactive] at hno
    cases hno
  · have hd := hclock₂ default
    have hafter : env₁.now + (s₁.effectiveLattice t).burstRule.window +
        (s₁.effectiveLattice t).burstRule.cooldown ≤ env₂.now := hlate.trans (hd.1.trans hd.2)
    exact fun hin => absurd hafter (not_le.mpr hin.2)

/-- Release a reservation at a given time. -/
def releaseAt (n : UInt64) (time : Nanos) (rid : ReservationId) : Env × Call :=
  ({ Env.numbered n with now := time, burstAt := fun _ => time, syncAt := fun _ => time },
    .release rid firstAuthority)

instance (env : Env) (s : Engine) (t : TenantId) (req : ResourceVector) (auth : Authority) :
    Decidable (GrantsBurst env s t req auth) :=
  inferInstanceAs (Decidable (_ ∧ _))

theorem no_burst_in_cooldown_afterwards :
    let s₂ := ([reserveAt 1 0 15, releaseAt 2 3660 ⟨0, 1⟩].foldl tick (burstingTenant, 0)).1
    GrantsBurst (reserveAt 3 3660 15).1 s₂ cappedTenant (.fromScalar .acceleratorVRAM 15) firstAuthority ∧
    ¬ ((reserveAt 1 0 15).1.now + (burstingTenant.effectiveLattice cappedTenant).burstRule.window ≤
        (reserveAt 3 3660 15).1.now ∧
      (reserveAt 3 3660 15).1.now < (reserveAt 1 0 15).1.now +
        (burstingTenant.effectiveLattice cappedTenant).burstRule.window +
        (burstingTenant.effectiveLattice cappedTenant).burstRule.cooldown) := by
  have hrun : Run tick (fun w c => clockedCall w c ∧ w.1.KeepsCooldown c)
      (tick (burstingTenant, 0) (reserveAt 1 0 15)) [releaseAt 2 3660 ⟨0, 1⟩]
      ([releaseAt 2 3660 ⟨0, 1⟩].foldl tick (tick (burstingTenant, 0) (reserveAt 1 0 15))) :=
    Run.of_check _ _ (by decide +kernel)
  have hfirst : clockedCall (burstingTenant, 0) (reserveAt 1 0 15) ∧
      burstingTenant.KeepsCooldown (reserveAt 1 0 15) := by decide +kernel
  have hsecond : clockedCall
        ([releaseAt 2 3660 ⟨0, 1⟩].foldl tick (tick (burstingTenant, 0) (reserveAt 1 0 15)))
        (reserveAt 3 3660 15) ∧
      ([releaseAt 2 3660 ⟨0, 1⟩].foldl tick
        (tick (burstingTenant, 0) (reserveAt 1 0 15))).1.KeepsCooldown (reserveAt 3 3660 15) := by
    decide +kernel
  exact ⟨by decide +kernel,
    no_burst_in_cooldown hfirst (by decide +kernel) hrun hsecond (by decide +kernel)⟩

/-- **A release in the cooldown makes the next burst possible**: the window ends at 3600, the cooldown
    lasts 60, and the second burst is granted at 3600. -/
theorem burst_in_cooldown :
    let s₁ := burstingTenant
    let s₂ := ([reserveAt 1 0 15, releaseAt 2 3600 ⟨0, 1⟩].foldl tick (burstingTenant, 0)).1
    Configured s₁ ∧
    Run tick clockedCall (burstingTenant, 0)
      [reserveAt 1 0 15, releaseAt 2 3600 ⟨0, 1⟩, reserveAt 3 3600 15]
      ([reserveAt 1 0 15, releaseAt 2 3600 ⟨0, 1⟩, reserveAt 3 3600 15].foldl tick (burstingTenant, 0)) ∧
    (s₁.usageOf cappedTenant).burstActive = false ∧
    GrantsBurst (reserveAt 1 0 15).1 s₁ cappedTenant (.fromScalar .acceleratorVRAM 15) firstAuthority ∧
    GrantsBurst (reserveAt 3 3600 15).1 s₂ cappedTenant (.fromScalar .acceleratorVRAM 15) firstAuthority ∧
    ((reserveAt 1 0 15).1.now + (s₁.effectiveLattice cappedTenant).burstRule.window ≤
        (reserveAt 3 3600 15).1.now ∧
      (reserveAt 3 3600 15).1.now < (reserveAt 1 0 15).1.now +
        (s₁.effectiveLattice cappedTenant).burstRule.window +
        (s₁.effectiveLattice cappedTenant).burstRule.cooldown) :=
  ⟨⟨rfl, rfl, rfl, rfl, rfl, rfl⟩, Run.of_check _ _ (by decide +kernel), by decide +kernel,
    by decide +kernel, by decide +kernel, by decide +kernel⟩

end Engine

end QuotaFabric
