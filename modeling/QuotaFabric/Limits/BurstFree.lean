import QuotaFabric.Limits.StuckBurst

/-!
# Engines without burst

While no reserve is charged burst there is no window, no cooldown, and nothing in the burst counters.

* `ChargesBurst` — the calls that charge burst;
* `BurstFree` — an engine in which none was charged; `after_burstFree` — the other calls leave it so.
-/

set_option autoImplicit false

namespace QuotaFabric

open AList

namespace Engine

/-- A successful `reserve` that is charged burst. -/
def ChargesBurst (s : Engine) (c : Env × Call) : Prop :=
  match c.2 with
  | .reserve t req auth => GrantsBurst c.1 s t req auth
  | _ => False

instance (s : Engine) (c : Env × Call) : Decidable (s.ChargesBurst c) := by
  apply Call.casesOn (motive := fun call => Decidable (s.ChargesBurst (c.1, call))) c.2 <;> intros <;> unfold ChargesBurst GrantsBurst <;> infer_instance

/-- No burst is funded, counted or running. -/
structure BurstFree (s : Engine) : Prop where
  funding : ∀ rid f, s.funding.lookup rid = some f → ∀ d, f.burst.get d = 0
  counter : ∀ x d, (s.usageOf x).burst.get d = 0
  closed : ∀ x, (s.usageOf x).burstActive = false
  cooldown : ∀ x, (s.usageOf x).cooldownUntil = 0

theorem burstFree_start (settings : EngineSettings) : BurstFree { settings := settings } where
  funding _ _ hf := by cases hf
  counter _ _ := rfl
  closed _ := rfl
  cooldown _ := rfl

section Step

variable {env : Env} {s s' : Engine} {c : Call}

theorem burstSum_of_unfunded (h : ∀ rid f, s.funding.lookup rid = some f → ∀ d, f.burst.get d = 0)
    (x : TenantId) (d : ResourceDimension) : s.burstSum x d = 0 := by
  refine total_eq_zero fun rid f hf => ?_
  rw [h rid f hf d, ite_self]

/-- An admitted reservation that is charged no burst has none. -/
theorem Admitted.unfunded {t : TenantId} {req : ResourceVector} {auth : Authority} {st : Draw}
    (h : Admitted env s t req auth st (s.reserve env t req auth).2) (hno : ¬ GrantsBurst env s t req auth) :
    st.burst.isEmpty = true := by
  by_contra hburst
  refine hno ⟨?_, { burst := st.burst, borrows := st.borrowIds }, ?_, by simpa using hburst⟩
  · rw [reserve_of_funded h.accepted h.funded]
    rfl
  · have hfund : (s.reserve env t req auth).2.funding = s.funding.insert env.reservationId _ :=
      congrArg Ledger.funding h.ledger
    rw [hfund, lookup_insert]
    rfl

/-- Every call recomputes the burst counter of a tenant or leaves it alone. -/
theorem CallStep.burst_recomputed (hstep : CallStep env s c s') (x : TenantId) :
    SyncedAt env s' x ∨ (s'.usageOf x).burst = (s.usageOf x).burst := by
  have hsynced : ∀ {e : Engine} {ts : List TenantId}, Resynced env e s' ts →
      (e.usageOf x).burst = (s.usageOf x).burst →
      SyncedAt env s' x ∨ (s'.usageOf x).burst = (s.usageOf x).burst := by
    intro e ts hsync hsame
    by_cases hx : x ∈ ts
    · exact .inl (hsync.synced x hx)
    · exact .inr (by rw [hsync.other x hx]; exact hsame)
  cases hstep with
  | kept c hkept => exact .inr (by rw [hkept.usageOf])
  | rolledBack hback => exact .inr (hback.frame.counters x).2.2
  | admitted hadm =>
    obtain ⟨e, hent, hsync⟩ := hadm.recorded
    exact hsynced hsync ((hent.counters x).2.2.2.2.trans (hadm.loans.frame.counters x).2.2)
  | committed hr hstatus hsync => exact hsynced hsync rfl
  | started hr hact hsync => exact hsynced hsync rfl
  | resized hgen ha hact hts hsync => exact hsynced hsync rfl
  | @released rid auth r mid s' hr hact hmid hsync =>
    refine hsynced hsync ?_
    rw [hmid]
    exact ((returnAll_frame env (s.setStatus rid .released) _).counters x).2.2
  | stopped ha hact hsync => exact hsynced hsync rfl
  | borrowed hlender hsync => exact hsynced hsync ((openLoan_frame ..).counters x).2.2
  | lent hlender hsync => exact hsynced hsync ((openLoan_frame ..).counters x).2.2
  | recalled hb hrec hsync => exact hsynced hsync ((closeLoan_frame ..).counters x).2.2
  | observed hobs => exact .inr (by rw [hobs.usage x])

/-- **A call that charges no burst leaves an engine without burst.** -/
theorem after_burstFree (hc : anyCall s (env, c)) (hno : ¬ ChargesBurst s (env, c)) (h : BurstFree s) :
    BurstFree (s.after (env, c)) := by
  obtain ⟨hfresh, hamount⟩ := hc
  have hstep : CallStep env s c (s.after (env, c)) := exec_callStep hfresh.toFreshLoans hamount
  have hfunding : ∀ rid f, (s.after (env, c)).funding.lookup rid = some f → ∀ d, f.burst.get d = 0 := by
    rcases hstep.funding_cases with hsame | ⟨rid, herase⟩ | ⟨t, req, auth, st, rfl, hadm, hfund⟩
    · rw [hsame]
      exact h.funding
    · rw [herase]
      exact forall_lookup_erase h.funding
    · rw [hfund]
      refine forall_lookup_insert h.funding fun d => ?_
      have hempty := ResourceVector.isEmpty_iff_eq_empty.mp (hadm.unfunded hno)
      show st.burst.get d = 0
      rw [hempty]
      rfl
  refine ⟨hfunding, fun x d => ?_, fun x => ?_, after_cooldown (c := (env, c)) hfresh.toFreshLoans h.cooldown⟩
  · rcases hstep.burst_recomputed x with hsync | hsame
    · -- a recomputed counter is at most the funding
      have hnn : ∀ rid f, (s.after (env, c)).funding.lookup rid = some f → f.burst.NonNeg :=
        fun rid f hf e => (hfunding rid f hf e).ge
      have hbacked := hsync.burst_backed hnn d
      rw [burstSum_of_unfunded hfunding] at hbacked
      exact le_antisymm hbacked.2 hbacked.1
    · rw [hsame]
      exact h.counter x d
  · by_cases hres : ∃ t req auth, c = .reserve t req auth
    · obtain ⟨t, req, auth, rfl⟩ := hres
      show ((s.reserve env t req auth).2.usageOf x).burstActive = false
      rcases reserve_cases hfresh.toFreshLoans t req auth with hsame | ⟨st, hback⟩ | ⟨st, hadm⟩
      · rw [hsame]
        exact h.closed x
      · exact hback.frame.marksKept.closed x (h.closed x)
      · have hempty := hadm.unfunded hno
        have hkept := @marksKept_recordReservation env (s.effectiveLattice t) t req auth st
        rw [reserve_of_funded hadm.accepted hadm.funded]
        refine hkept.closed x ?_
        unfold startBurst
        rw [if_pos hempty]
        exact hadm.loans.frame.marksKept.closed x (h.closed x)
    · have hkept : MarksKept s (s.exec env c).2 := exec_marksKept fun t req auth heq => hres ⟨t, req, auth, heq⟩
      exact hkept.closed x (h.closed x)

end Step

end Engine

end QuotaFabric
