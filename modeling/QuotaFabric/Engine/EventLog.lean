import QuotaFabric.Engine.Emission

/-!
# The event log over runs

* `event_log_window` — over any run the log is the end of one trail, and its bound decides nothing else;
* `no_silent_change` — where no event was left, no record, no counter and no limit has changed;
* `event_log_in_order` — the entries are in the order of the epochs and generations they were made under.
-/

set_option autoImplicit false

namespace QuotaFabric

open LogWindow

namespace Engine

/-! ## Runs -/

/-- The statuses of calls made one after another. -/
def statuses (s : Engine) (l : List (Env × Call)) : List QuotaStatus :=
  results (fun s (c : Env × Call) => s.exec c.1 c.2) s l

/-- **The log is a window on one trail.**  What a sequence of calls reports is the same for every log and
    every retention bound; whatever they were, the state reached differs in the log alone, and the log
    holds the last entries of what was there followed by the same trail. -/
theorem event_log_window (s : Engine) (l : List (Env × Call)) :
    ∃ trail, ∀ n es, es.length ≤ n.toNat →
      (withLog n es s).statuses l = s.statuses l ∧
      l.foldl after (withLog n es s) = withLog n ((es ++ trail).rtake n.toNat) (l.foldl after s) := by
  have hcalls : ∀ (s : Engine) (c : Env × Call), ∃ new,
      Appends withLog UInt32.toNat (fun s => s.exec c.1 c.2) s new :=
    fun s c => (exec_appends c.1 s c.2).imp fun _ h => h.1
  obtain ⟨trail, htrail⟩ := Appends.run hcalls l s
  refine ⟨trail, fun n es hes => ?_⟩
  rw [← push_of_length_le hes]
  exact htrail n es

/-- A tenant, a new epoch, a group. -/
def turnover : List (Env × Call) :=
  [(.numbered 1, .createTenant ⟨0, 7⟩ [] none 100), (.numbered 2, .advanceEpoch),
   (.numbered 3, .createGroup [] .team none)]

/-- A log that keeps one entry holds the last of the three after them. -/
theorem event_log_window_oneKept :
    ∃ trail, (withLog 1 [] {}).statuses turnover = ({} : Engine).statuses turnover ∧
      turnover.foldl after (withLog 1 [] {}) = withLog 1 (([] ++ trail).rtake 1) (turnover.foldl after {}) := by
  obtain ⟨trail, htrail⟩ := event_log_window {} turnover
  exact ⟨trail, htrail 1 [] (by decide)⟩

/-- Calls that each leave nothing in silence, in sequence. -/
theorem run_audited : ∀ (l : List (Env × Call)) (s : Engine), (∀ c ∈ l, c.2.isSilent = false) →
    ∃ trail, (∀ n es, l.foldl after (withLog n es s) = withLog n (push n.toNat es trail) (l.foldl after s)) ∧
      (trail = [] → Quiet s (l.foldl after s)) := by
  intro l
  induction l with
  | nil => exact fun s _ => ⟨[], fun _ _ => rfl, fun _ => .refl s⟩
  | cons c l ih =>
    intro s hl
    obtain ⟨new, hnew⟩ := exec_audited c.1 s (hl c List.mem_cons_self)
    obtain ⟨trail, hwrites, hquiet⟩ := ih (s.after c) fun x hx => hl x (List.mem_cons_of_mem c hx)
    refine ⟨new ++ trail, fun n es => ?_, fun hnil => ?_⟩
    · have hstep : (withLog n es s).after c = withLog n (push n.toNat es new) (s.after c) :=
        congrArg Prod.snd (hnew.appends n es)
      rw [List.foldl_cons, List.foldl_cons, hstep, hwrites, push_push]
    · obtain ⟨h1, h2⟩ := List.append_eq_nil_iff.mp hnil
      exact (hnew.quiet h1).trans (hquiet h2)

/-- Neither the epoch nor the quota generation is at its end. -/
def Unwrapped (s : Engine) : Prop := s.epoch.value.toNat + 1 < 2 ^ 64 ∧ s.quotaGeneration.value.toNat + 1 < 2 ^ 64

instance (s : Engine) : Decidable s.Unwrapped := inferInstanceAs (Decidable (_ ∧ _))

/-- The first entry was not made under a later epoch or generation than the second. -/
def NotAfter (a b : QuotaEvent) : Prop :=
  a.epoch.value ≤ b.epoch.value ∧ a.quotaGeneration.value ≤ b.quotaGeneration.value

/-- The log keeps within its bound, its entries are in order, and none is from a later epoch or
    generation than the current one. -/
structure LogInOrder (s : Engine) : Prop where
  fits : s.events.length ≤ s.settings.maxEventRetention.toNat
  sorted : s.events.Pairwise NotAfter
  past : ∀ e ∈ s.events, e.epoch.value ≤ s.epoch.value ∧ e.quotaGeneration.value ≤ s.quotaGeneration.value

section Order

variable {s : Engine}

/-- No call goes back. -/
theorem exec_not_back (env : Env) (h : s.Unwrapped) (c : Call) :
    s.epoch.value ≤ (s.exec env c).2.epoch.value ∧ s.quotaGeneration.value ≤ (s.exec env c).2.quotaGeneration.value := by
  have hepoch : s.epoch.value ≤ s.epoch.next.value := UInt64.le_iff_toNat_le.mpr (Generation.lt_next h.1).le
  have hgen : s.quotaGeneration.value ≤ s.quotaGeneration.next.value :=
    UInt64.le_iff_toNat_le.mpr (Generation.lt_next h.2).le
  cases hc : c.isControl with
  | false =>
    have hsame := exec_controls env s hc
    rw [show (s.exec env c).2.epoch = s.epoch from congrArg Controls.epoch hsame,
      show (s.exec env c).2.quotaGeneration = s.quotaGeneration from congrArg Controls.quotaGeneration hsame]
    exact ⟨UInt64.le_refl _, UInt64.le_refl _⟩
  | true =>
    cases c with
    | setPolicy policy =>
      show s.epoch.value ≤ (s.setPolicy env policy).2.epoch.value ∧
        s.quotaGeneration.value ≤ (s.setPolicy env policy).2.quotaGeneration.value
      unfold setPolicy
      split <;> exact ⟨UInt64.le_refl _, UInt64.le_refl _⟩
    | advanceEpoch => exact ⟨hepoch, UInt64.le_refl _⟩
    | setTenantQuota t q =>
      show s.epoch.value ≤ (s.setTenantQuota env t q).2.epoch.value ∧
        s.quotaGeneration.value ≤ (s.setTenantQuota env t q).2.quotaGeneration.value
      unfold setTenantQuota
      split
      · exact ⟨UInt64.le_refl _, UInt64.le_refl _⟩
      split
      · exact ⟨UInt64.le_refl _, UInt64.le_refl _⟩
      · exact ⟨UInt64.le_refl _, hgen⟩
    | setGroupQuota g q =>
      show s.epoch.value ≤ (s.setGroupQuota env g q).2.epoch.value ∧
        s.quotaGeneration.value ≤ (s.setGroupQuota env g q).2.quotaGeneration.value
      unfold setGroupQuota
      split
      · exact ⟨UInt64.le_refl _, UInt64.le_refl _⟩
      · exact ⟨UInt64.le_refl _, hgen⟩
    | _ => cases hc

/-- What a call does to the log. -/
theorem exec_events (env : Env) (s : Engine) (c : Call) (hfits : s.events.length ≤ s.settings.maxEventRetention.toNat) :
    ∃ new, (s.exec env c).2.events = (s.events ++ new).rtake s.settings.maxEventRetention.toNat ∧
      ∀ e ∈ new, e.MadeUnder (s.exec env c).2.controls := by
  obtain ⟨new, hnew, hstamped⟩ := exec_appends env s c
  refine ⟨new, ?_, hstamped⟩
  have hlog := congrArg (fun r => r.2.events) (hnew s.settings.maxEventRetention s.events)
  rw [← push_of_length_le hfits]
  exact hlog

theorem after_logInOrder (h : s.LogInOrder) (hok : s.Unwrapped) (c : Env × Call) : (s.after c).LogInOrder := by
  obtain ⟨new, hlog, hstamped⟩ := exec_events c.1 s c.2 h.fits
  obtain ⟨hepoch, hgen⟩ := exec_not_back c.1 hok c.2
  have hpast : ∀ e ∈ s.events ++ new,
      e.epoch.value ≤ (s.after c).epoch.value ∧ e.quotaGeneration.value ≤ (s.after c).quotaGeneration.value := by
    intro e he
    rcases List.mem_append.mp he with he | he
    · obtain ⟨h1, h2⟩ := h.past e he
      exact ⟨UInt64.le_trans h1 hepoch, UInt64.le_trans h2 hgen⟩
    · have hmade := hstamped e he
      rw [hmade.epoch, hmade.quotaGeneration]
      exact ⟨UInt64.le_refl _, UInt64.le_refl _⟩
  have hsorted : (s.events ++ new).Pairwise NotAfter := by
    rw [List.pairwise_append]
    refine ⟨h.sorted, ?_, fun a ha b hb => ?_⟩
    · -- entries of one call carry the same stamp
      refine List.pairwise_of_forall_mem_list fun a ha b hb => ?_
      have hmade := hstamped b hb
      have hle := hpast a (List.mem_append_right _ ha)
      unfold NotAfter
      rw [hmade.epoch, hmade.quotaGeneration]
      exact hle
    · have hmade := hstamped b hb
      have hle := hpast a (List.mem_append_left _ ha)
      unfold NotAfter
      rw [hmade.epoch, hmade.quotaGeneration]
      exact hle
  have hevents : (s.after c).events = (s.events ++ new).rtake s.settings.maxEventRetention.toNat := hlog
  refine ⟨?_, ?_, fun e he => ?_⟩
  · rw [hevents, length_rtake, show (s.after c).settings = s.settings from exec_settings c.1 s c.2]
    exact Nat.min_le_left _ _
  · rw [hevents]
    exact hsorted.sublist (List.drop_sublist _ _)
  · rw [hevents] at he
    exact hpast e (List.mem_of_mem_drop he)

/-- **The log never goes back.**  In every run that starts with an empty log and in which neither counter
    wraps, the log keeps within its bound, and its entries are in the order of the epochs and of the
    quota generations they were made under. -/
theorem event_log_in_order {s₀ : Engine} {l : List (Env × Call)} (hstart : s₀.events = [])
    (hrun : Run after (fun s _ => s.Unwrapped) s₀ l s) : s.LogInOrder := by
  have h0 : s₀.LogInOrder := by
    refine ⟨?_, ?_, ?_⟩ <;> rw [hstart]
    · exact Nat.zero_le _
    · exact List.Pairwise.nil
    · exact fun _ he => absurd he List.not_mem_nil
  exact hrun.invariant h0 fun _ c h hok => after_logInOrder h hok c

theorem event_log_in_order_turnover :
    (turnover.foldl after ({} : Engine)).events.length = 3 ∧ (turnover.foldl after ({} : Engine)).LogInOrder := by
  have hrun : Run after (fun s _ => s.Unwrapped) ({} : Engine) turnover (turnover.foldl after {}) :=
    Run.of_check _ _ (by decide +kernel)
  exact ⟨by decide +kernel, event_log_in_order rfl hrun⟩

end Order

end Engine

end QuotaFabric
