import QuotaFabric.Authority.Fencing
import QuotaFabric.Limits.Committed
import QuotaFabric.Loans.Recall

/-!
# Reserved capacity that no counter shows

`sync_usage` splits a reservation into the part its allocations use and the rest.  The split takes
`ResourceVector::min` of the use and the reservation, and `min` reads an absent dimension as unbounded:
a reserved dimension that no allocation uses yet counts as used up, while the use itself adds nothing.

* `Shown` — the committed usage of a tenant is at least what its active reservations hold;
* `StartsEmpty` — an allocation is started under a reservation that holds nothing only;
* `CallStep.capacity` — a call resynchronises a tenant or leaves its capacity alone;
* `committed_usage_covers` — in runs of such calls nothing is hidden;
* `start_hides` — every other start hides what it is started for;
* `start_hides_reservation` — a reservation of 10 units that the committed usage shows as 0.
-/

set_option autoImplicit false

namespace QuotaFabric

open AList

namespace Engine

/-- The committed usage of `t` is at least the sum of its active reservations. -/
def Shown (s : Engine) (t : TenantId) : Prop :=
  ∀ d, s.reservedSum t d ≤ (s.envelope t).committedUsage.get d

/-- What a tenant uses and holds fits into 64 bits. -/
def CapacityFits (s : Engine) : Prop :=
  ∀ rid r, s.reservations.lookup rid = some r → ∀ d, s.usedSum r.tenant d + s.reservedSum r.tenant d ≤ INT64_MAX

instance (s : Engine) : Decidable s.CapacityFits := inferInstanceAs (Decidable (∀ _ _, _ → _))

/-- A `start_allocation` that is not refused names a reservation without any positive amount. -/
def StartsEmpty (s : Engine) : Call → Prop
  | .startAllocation rid _ auth => s.validAuthority auth = true →
      ∀ rid' r, s.reservations.lookup rid' = some r → rid' = rid → ∀ d, r.resources.get d ≤ 0
  | _ => True

instance (s : Engine) (c : Call) : Decidable (s.StartsEmpty c) := by
  apply Call.casesOn (motive := fun c => Decidable (s.StartsEmpty c)) c <;> intros <;> unfold StartsEmpty <;> infer_instance

/-! ## Started reservations -/

/-- Reservations stand under their own id, and no running allocation belongs to one that holds
    anything. -/
structure StartedEmpty (b : Ledger) : Prop where
  keyed : ∀ rid r, b.reservations.lookup rid = some r → r.id = rid
  started : ∀ aid a, b.allocations.lookup aid = some a → a.active = true →
    ∀ r, b.reservations.lookup a.reservation = some r → ∀ d, r.resources.get d ≤ 0

section Started

variable {env : Env} {s s' : Engine} {b b' : Ledger}

/-- Reservations that keep id and amounts, and allocations that are not started. -/
theorem StartedEmpty.keep (h : StartedEmpty b)
    (hres : ∀ rid r', b'.reservations.lookup rid = some r' →
      ∃ r, b.reservations.lookup rid = some r ∧ r'.id = r.id ∧ r'.resources = r.resources)
    (halloc : ∀ aid a', b'.allocations.lookup aid = some a' → a'.active = true →
      ∃ a, b.allocations.lookup aid = some a ∧ a.active = true ∧ a'.reservation = a.reservation) :
    StartedEmpty b' where
  keyed rid r' hr' := by
    obtain ⟨r, hr, hid, -⟩ := hres rid r' hr'
    rw [hid]
    exact h.keyed rid r hr
  started aid a' ha' hact' r' hr' d := by
    obtain ⟨a, ha, hact, hrid⟩ := halloc aid a' ha' hact'
    obtain ⟨r, hr, -, hamount⟩ := hres _ r' hr'
    rw [hamount]
    exact h.started aid a ha hact r (hrid ▸ hr) d

theorem StartedEmpty.admitted {t : TenantId} {req : ResourceVector} {auth : Authority} {st : Draw}
    (h : StartedEmpty s.ledger) (hadm : Admitted env s t req auth st s') (hfresh : FreshIds env s) :
    StartedEmpty s'.ledger := by
  rw [hadm.ledger]
  constructor
  · exact forall_lookup_emplace h.keyed rfl
  · intro aid a ha hact r hr
    change (s.reservations.emplace env.reservationId _).lookup a.reservation = some r at hr
    rw [emplace_of_notMem hfresh.reservationId, lookup_insert_ne (hfresh.unreferenced aid a ha)] at hr
    exact h.started aid a ha hact r hr

theorem StartedEmpty.started_empty {rid : ReservationId} {r : Reservation} {req : ResourceVector}
    {auth : Authority} (h : StartedEmpty s.ledger) (hr : s.reservations.lookup rid = some r)
    (hempty : ∀ d, r.resources.get d ≤ 0) : StartedEmpty (s.withAllocation env r rid req auth).ledger := by
  -- the status of the reservation changes, its amounts do not
  have hres : ∀ rid' r', (s.withAllocation env r rid req auth).reservations.lookup rid' = some r' →
      ∃ r, s.reservations.lookup rid' = some r ∧ r'.id = r.id ∧ r'.resources = r.resources :=
    forall_lookup_modify (p := fun rid' (r' : Reservation) =>
      ∃ r, s.reservations.lookup rid' = some r ∧ r'.id = r.id ∧ r'.resources = r.resources)
      (f := fun x => { x with status := .consumed })
      (fun rid' r' hr' => ⟨r', hr', rfl, rfl⟩) fun r' h => h
  constructor
  · intro rid' r' hr'
    obtain ⟨r₀, hr₀, hid, -⟩ := hres rid' r' hr'
    rw [hid]
    exact h.keyed rid' r₀ hr₀
  · refine forall_lookup_emplace (p := fun _ (a : Allocation) => a.active = true →
      ∀ r', (s.withAllocation env r rid req auth).reservations.lookup a.reservation = some r' →
        ∀ d, r'.resources.get d ≤ 0) (fun aid a ha hact r' hr' d => ?_) fun _ r' hr' d => ?_
    · obtain ⟨r₀, hr₀, -, hamount⟩ := hres _ r' hr'
      rw [hamount]
      exact h.started aid a ha hact r₀ hr₀ d
    · obtain ⟨r₀, hr₀, -, hamount⟩ := hres _ r' hr'
      rw [show s.reservations.lookup rid = some r₀ from hr₀] at hr
      cases hr
      rw [hamount]
      exact hempty d

/-- **A call keeps started reservations empty**, unless it starts one that is not. -/
theorem CallStep.startedEmpty {c : Call} (hstep : CallStep env s c s') (hobs : c.isObservation = false)
    (hfresh : FreshIds env s)
    (hstart : ∀ rid req auth r, c = .startAllocation rid req auth → s.reservations.lookup rid = some r →
      ∀ d, r.resources.get d ≤ 0)
    (h : StartedEmpty s.ledger) : StartedEmpty s'.ledger := by
  have hsame : ∀ {e : Engine}, e.ledger = s.ledger → StartedEmpty e.ledger := fun heq => heq ▸ h
  cases hstep with
  | kept c hkept => exact hsame hkept.ledger
  | rolledBack hback => exact hsame hback.frame.ledger
  | admitted hadm => exact h.admitted hadm hfresh
  | committed hr hstatus hsync =>
    rw [hsync.ledger]
    refine h.keep ?_ fun aid a ha hact => ⟨a, ha, hact, rfl⟩
    exact forall_lookup_modify (p := fun rid' (r' : Reservation) =>
      ∃ r, s.reservations.lookup rid' = some r ∧ r'.id = r.id ∧ r'.resources = r.resources)
      (fun _ r hr => ⟨r, hr, rfl, rfl⟩) fun _ h => h
  | started hr hact hsync =>
    rw [hsync.ledger]
    exact h.started_empty hr (hstart _ _ _ _ rfl hr)
  | resized hgen ha hact hts hsync =>
    rw [hsync.ledger]
    refine h.keep (fun _ r hr => ⟨r, hr, rfl, rfl⟩) ?_
    exact forall_lookup_modify (p := fun aid (a' : Allocation) => a'.active = true →
      ∃ a, s.allocations.lookup aid = some a ∧ a.active = true ∧ a'.reservation = a.reservation)
      (fun _ a ha hact => ⟨a, ha, hact, rfl⟩) fun _ h => h
  | stopped ha hact hsync =>
    rw [hsync.ledger]
    refine h.keep (fun _ r hr => ⟨r, hr, rfl, rfl⟩) ?_
    exact forall_lookup_modify (p := fun aid (a' : Allocation) => a'.active = true →
      ∃ a, s.allocations.lookup aid = some a ∧ a.active = true ∧ a'.reservation = a.reservation)
      (fun _ a ha hact => ⟨a, ha, hact, rfl⟩) fun _ _ hact => by cases hact
  | released hr hact hmid hsync =>
    rw [hmid] at hsync
    rw [hsync.ledger.trans (release_ledger ..)]
    refine h.keep ?_ ?_
    · exact forall_lookup_erase fun _ r hr => ⟨r, hr, rfl, rfl⟩
    · refine forall_lookup_mapVals (p := fun aid (a' : Allocation) => a'.active = true →
        ∃ a, s.allocations.lookup aid = some a ∧ a.active = true ∧ a'.reservation = a.reservation)
        (fun _ a ha hact => ⟨a, ha, hact, rfl⟩) fun aid a ha => ?_
      split
      · exact fun hact => by cases hact
      · exact ha
  | borrowed hlender hsync => exact hsame (hsync.ledger.trans (openLoan_frame ..).ledger)
  | lent hlender hsync => exact hsame (hsync.ledger.trans (openLoan_frame ..).ledger)
  | recalled hb hrec hsync => exact hsame (hsync.ledger.trans (closeLoan_frame ..).ledger)
  | observed => cases hobs

theorem after_startedEmpty {c : Env × Call} (hc : unobservedCall s c) (hstart : s.StartsEmpty c.2)
    (h : StartedEmpty s.ledger) : StartedEmpty (s.after c).ledger := by
  have hstep : CallStep c.1 s c.2 (s.after c) := exec_callStep hc.1.1.toFreshLoans hc.1.2
  by_cases hrefused : ∃ rid req auth, c.2 = .startAllocation rid req auth ∧ s.validAuthority auth = false
  · obtain ⟨rid, req, auth, hcall, hinvalid⟩ := hrefused
    have hsame : s.after c = s := by
      unfold Engine.after
      rw [hcall]
      exact (startAllocation_fenced c.1 hinvalid rid req).2
    rw [hsame]
    exact h
  · refine hstep.startedEmpty hc.2 hc.1.1 (fun rid req auth r hcall hr => ?_) h
    have hvalid : s.validAuthority auth = true := by
      by_contra hno
      exact hrefused ⟨rid, req, auth, hcall, by simpa using hno⟩
    rw [hcall] at hstart
    exact hstart hvalid rid r hr rfl

end Started

/-! ## Capacity counters -/

section Capacity

variable {env : Env} {s s' : Engine}

theorem SameRecords.sameCapacity (h : SameRecords s s') (x : TenantId) : SameCapacity s s' x := by
  refine ⟨?_, ?_, ?_, exactReserved_same (congrArg Ledger.reservations h.ledger) x⟩
  all_goals rw [h.usageOf]

theorem LoanFrame.sameCapacity (h : LoanFrame s s') (x : TenantId) : SameCapacity s s' x :=
  ⟨(h.counters x).1, (h.counters x).2.1, (h.counters x).2.2, exactReserved_same h.reservations x⟩

/-- **A call resynchronises a tenant or leaves its capacity alone.** -/
theorem CallStep.capacity {c : Call} (hstep : CallStep env s c s') (hobs : c.isObservation = false)
    (hfresh : FreshIds env s) (hamount : c.amount.NonNeg) (x : TenantId) :
    SyncedAt env s' x ∨ SameCapacity s s' x := by
  have hloan : ∀ {e : Engine} {ts : List TenantId}, LoanFrame s e → Resynced env e s' ts →
      SyncedAt env s' x ∨ SameCapacity s s' x := fun hframe hsync =>
    hsync.counters hframe.counters (fun y _ => exactReserved_same hframe.reservations y) x
  cases hstep with
  | kept c hkept => exact Or.inr (hkept.sameCapacity x)
  | rolledBack hback => exact Or.inr (hback.frame.sameCapacity x)
  | admitted hadm => exact (hadm.capacityStep hfresh.reservationId hamount).counters x
  | committed hr hstatus hsync => exact (hsync.capacityStep_of_commit hr hstatus hamount).counters x
  | @started rid req auth r s' hr hact hsync =>
    refine Resynced.counters (s := s) hsync (fun _ => ⟨rfl, rfl, rfl⟩) (fun y _ => ?_) x
    exact exactReserved_modify hr (f := fun r => { r with status := .consumed }) ⟨rfl, rfl, hact.symm⟩ rfl y
  | resized hgen ha hact hts hsync =>
    exact Resynced.counters (s := s) hsync (fun _ => ⟨rfl, rfl, rfl⟩) (fun y _ => exactReserved_same rfl y) x
  | stopped ha hact hsync =>
    exact Resynced.counters (s := s) hsync (fun _ => ⟨rfl, rfl, rfl⟩) (fun y _ => exactReserved_same rfl y) x
  | @released rid auth r mid s' hr hact hmid hsync =>
    have hret : LoanSteps env (fun _ => True) (s.setStatus rid .released) mid := by
      rw [hmid]
      exact returnAll_loanSteps _ _ fun _ _ => trivial
    exact (hsync.capacityStep_of_release hr hret hamount).counters x
  | borrowed hlender hsync => exact hloan (openLoan_frame ..) hsync
  | lent hlender hsync => exact hloan (openLoan_frame ..) hsync
  | recalled hb hrec hsync => exact hloan (closeLoan_frame ..) hsync
  | observed => cases hobs

theorem get_exactUsed (s : Engine) (t : TenantId) (d : ResourceDimension) :
    (s.exactUsed t).get d = s.usedSum t d := by
  unfold exactUsed usedSum
  rw [get_total]
  exact total_congr fun _ _ _ => get_guarded _ _ d

theorem usedSum_nonneg (h : RecordsNonNeg s) (t : TenantId) (d : ResourceDimension) : 0 ≤ s.usedSum t d :=
  total_nonneg fun aid a ha => by
    split
    · exact h.allocations aid a ha d
    · exact le_refl 0

theorem exactRemaining_le {t : TenantId} {r : Reservation} (hnn : r.resources.NonNeg) (d : ResourceDimension) :
    (s.exactRemaining t r).get d ≤ r.resources.get d := by
  unfold exactRemaining
  split
  · exact le_refl _
  · exact ResourceVector.get_subSat_le hnn (ResourceVector.min_nonNeg _ _) d

theorem SameCapacity.shown {x : TenantId} (h : SameCapacity s s' x) (hs : Shown s x) : Shown s' x := by
  intro d
  have hcommitted : s'.committed x = s.committed x := by
    unfold committed
    rw [h.1, h.2.1]
  show s'.reservedSum x d ≤ (s'.committed x).get d
  rw [hcommitted, ← get_exactReserved, h.2.2.2, get_exactReserved]
  exact hs d

/-- A reservation that is not started, or that holds nothing, counts in full. -/
theorem exactRemaining_get {t : TenantId} {rid : ReservationId} {r : Reservation} (h : StartedEmpty s.ledger)
    (hnn : r.resources.NonNeg) (hr : s.reservations.lookup rid = some r) (d : ResourceDimension) :
    (s.exactRemaining t r).get d = r.resources.get d := by
  unfold exactRemaining exactAllocUsed
  by_cases hany : (s.allocations.entries.any fun e => runsUnder t r.id e.2) = true
  · obtain ⟨e, he, hruns⟩ := List.any_eq_true.mp hany
    unfold runsUnder at hruns
    simp only [Bool.and_eq_true, beq_iff_eq] at hruns
    have hempty : r.resources.get d ≤ 0 := by
      refine h.started e.1 e.2 (lookup_of_mem_entries he) hruns.1.1 r ?_ d
      rw [hruns.2, h.keyed rid r hr]
      exact hr
    have hzero : r.resources.get d = 0 := le_antisymm hempty (hnn d)
    rw [if_pos hany]
    refine le_antisymm (ResourceVector.get_subSat_le hnn (ResourceVector.min_nonNeg _ _) d) ?_
    rw [hzero]
    exact ResourceVector.subSat_nonNeg _ hnn d
  · rw [if_neg hany]

/-- Resynchronised counters show every reservation. -/
theorem SyncedAt.shown {t : TenantId} (h : SyncedAt env s t) (hnn : RecordsNonNeg s)
    (hstarted : StartedEmpty s.ledger) (hfit : CapacityFits s) : Shown s t := by
  intro d
  show s.reservedSum t d ≤ (ResourceVector.accum (s.usageOf t).consumption (s.usageOf t).reserved).get d
  rw [h.consumption, h.reserved]
  by_cases hholds : ∃ rid r, s.reservations.lookup rid = some r ∧ r.tenant = t
  · obtain ⟨rid, r, hr, rfl⟩ := hholds
    have hfit' := hfit rid r hr
    have hused := usedSum_nonneg hnn r.tenant
    have hreserved := reservedSum_nonneg hnn.reservations r.tenant
    have hconsumed : s.computedConsumed env r.tenant = s.exactUsed r.tenant :=
      computedConsumed_eq hnn.allocations fun d => by have := hfit' d; have := hreserved d; omega
    have hremains : s.recomputedReserved env r.tenant = s.exactRemainder r.tenant :=
      recomputedReserved_eq_remaining hnn (fun d => by have := hfit' d; have := hreserved d; omega)
        fun d => by have := hfit' d; have := hused d; omega
    have hexact : ∀ d, (s.exactRemainder r.tenant).get d = s.reservedSum r.tenant d := fun d => by
      unfold exactRemainder reservedSum
      rw [get_total]
      refine total_congr fun rid' r' hr' => ?_
      rw [get_guarded]
      split
      · exact exactRemaining_get hstarted (hnn.reservations rid' r' hr') hr' d
      · rfl
    rw [hconsumed, hremains, ResourceVector.accum_of_fits fun d => by rw [get_exactUsed, hexact]; exact hfit' d,
      SparseVec.get_add, get_exactUsed, hexact]
    have := hused d
    omega
  · have hzero : s.reservedSum t d = 0 := total_eq_zero fun rid r hr => if_neg fun hp => by
      rw [Bool.and_eq_true, beq_iff_eq] at hp
      exact hholds ⟨rid, r, hr, hp.1⟩
    rw [hzero]
    exact ResourceVector.accum_nonNeg (computedConsumed_nonNeg hnn t) (recomputedReserved_nonNeg hnn t) d

end Capacity

/-! ## Runs -/

/-- An observed engine is left out; allocations are started under empty reservations, and what is used
    and held fits. -/
def startsEmptyCall (s : Engine) (c : Env × Call) : Prop :=
  unobservedCall s c ∧ s.CapacityFits ∧ s.StartsEmpty c.2

instance (s : Engine) (c : Env × Call) : Decidable (startsEmptyCall s c) :=
  inferInstanceAs (Decidable (_ ∧ _ ∧ _))

/-- Every reservation is shown, as long as the sums fit. -/
structure NothingHidden (s : Engine) : Prop where
  nonNeg : RecordsNonNeg s
  started : StartedEmpty s.ledger
  shown : CapacityFits s → ∀ x, Shown s x

theorem nothingHidden_start (settings : EngineSettings) : NothingHidden { settings := settings } where
  nonNeg := ⟨fun _ _ h => (by cases h), fun _ _ h => (by cases h)⟩
  started := ⟨fun _ _ h => (by cases h), fun _ _ h => (by cases h)⟩
  shown _ _ _ := le_refl 0

theorem after_nothingHidden {s : Engine} {c : Env × Call} (hc : startsEmptyCall s c) (h : NothingHidden s) :
    NothingHidden (s.after c) := by
  obtain ⟨hcall, hfit, hstart⟩ := hc
  have hstep : CallStep c.1 s c.2 (s.after c) := exec_callStep hcall.1.1.toFreshLoans hcall.1.2
  have hnn := hstep.recordsNonNeg hcall.1.2 h.nonNeg
  have hstarted := after_startedEmpty hcall hstart h.started
  refine ⟨hnn, hstarted, fun hfit' x => ?_⟩
  rcases hstep.capacity hcall.2 hcall.1.1 hcall.1.2 x with hsync | hsame
  · exact hsync.shown hnn hstarted hfit'
  · exact hsame.shown (h.shown hfit x)

/-- **No reserved capacity is hidden**, whatever calls are made, while allocations are started under
    empty reservations only. -/
theorem committed_usage_covers (settings : EngineSettings) {l : List (Env × Call)} {s : Engine}
    (hrun : Run Engine.after startsEmptyCall { settings := settings } l s) (hfit : s.CapacityFits)
    (t : TenantId) (d : ResourceDimension) :
    s.reservedSum t d ≤ (s.envelope t).committedUsage.get d :=
  (hrun.invariant (I := NothingHidden) (nothingHidden_start settings)
    fun _ _ h hc => after_nothingHidden hc h).shown hfit t d

section Resynced

variable {env : Env} {s s' : Engine} {ts : List TenantId}

theorem Resynced.computedConsumed (h : Resynced env s s' ts) (t : TenantId) :
    s'.computedConsumed env t = s.computedConsumed env t := by
  unfold Engine.computedConsumed
  rw [h.allocations]

theorem Resynced.recomputedReserved (h : Resynced env s s' ts) (t : TenantId) :
    s'.recomputedReserved env t = s.recomputedReserved env t := by
  have halloc : ∀ rid, s'.allocUsed env t rid = s.allocUsed env t rid := fun rid => by
    unfold allocUsed
    rw [h.allocations]
  unfold Engine.recomputedReserved remaining
  simp only [h.reservations, halloc]

end Resynced

/-! ## A start under a reservation that holds something -/

section Hides

variable {env : Env} {s s' : Engine} {rid : ReservationId} {r : Reservation} {req : ResourceVector} {auth : Authority}

/-- What nothing uses counts as used up. -/
theorem get_subSat_min_empty {v : ResourceVector} (hv : v.NonNeg) (d : ResourceDimension) :
    (v.subSat (ResourceVector.min 0 v)).get d = 0 := by
  have hmin : ResourceVector.min 0 v = v := by
    ext1
    funext d
    have h := hv d
    unfold SparseVec.get at h
    have habsent : (0 : ResourceVector).cell d = none := rfl
    unfold ResourceVector.min
    cases hvc : v.cell d with
    | none => simp only [habsent, hvc]
    | some a =>
      rw [hvc] at h
      simp only [habsent, hvc]
      exact if_neg (not_lt.mpr h)
  rw [hmin]
  exact ResourceVector.get_subSat_self d

/-- The new allocation uses nothing. -/
theorem usedSum_withAllocation (hfresh : env.allocationId ∉ s.allocations) (t : TenantId) (d : ResourceDimension) :
    (s.withAllocation env r rid req auth).usedSum t d = s.usedSum t d := by
  have halloc : (s.withAllocation env r rid req auth).allocations =
      s.allocations.insert env.allocationId (s.newAllocation env r rid req auth) := emplace_of_notMem hfresh
  unfold usedSum
  rw [halloc, total_insert _ _ hfresh]
  have hnew : (if ((s.newAllocation env r rid req auth).tenant == t &&
      (s.newAllocation env r rid req auth).active) = true
      then (s.newAllocation env r rid req auth).used.get d else 0) = 0 := by
    split <;> rfl
  rw [hnew, zero_add]

/-- Nothing is left of a reservation when its first allocation starts. -/
theorem exactRemaining_withAllocation (h : NothingHidden s) (hfresh : env.allocationId ∉ s.allocations)
    (hr : s.reservations.lookup rid = some r) {d : ResourceDimension} (hpos : 0 < r.resources.get d)
    {r' : Reservation} (hid : r'.id = rid) (hsame : r'.resources = r.resources) :
    ((s.withAllocation env r rid req auth).exactRemaining r.tenant r').get d = 0 := by
  have halloc : (s.withAllocation env r rid req auth).allocations =
      s.allocations.insert env.allocationId (s.newAllocation env r rid req auth) := emplace_of_notMem hfresh
  have hany : ((s.withAllocation env r rid req auth).allocations.entries.any fun e =>
      runsUnder r.tenant rid e.2) = true := by
    refine List.any_eq_true.mpr ⟨⟨env.allocationId, s.newAllocation env r rid req auth⟩, ?_, ?_⟩
    · rw [halloc]
      exact lookup_eq_some_iff.mp (lookup_insert _)
    · simp [runsUnder, newAllocation]
  have hzero : (total (s.withAllocation env r rid req auth).allocations fun _ a =>
      if runsUnder r.tenant rid a then a.used else 0) = 0 := by
    rw [halloc]
    refine total_eq_zero (forall_lookup_insert (fun aid a ha => if_neg fun hruns => ?_) ?_)
    · -- an allocation that runs already would have started under an empty reservation
      unfold runsUnder at hruns
      simp only [Bool.and_eq_true, beq_iff_eq] at hruns
      have hempty := h.started.started aid a ha hruns.1.1 r (hruns.2 ▸ hr) d
      omega
    · split <;> rfl
  unfold exactRemaining exactAllocUsed
  rw [hid, if_pos hany, hzero]
  show (r'.resources.subSat (ResourceVector.min 0 r'.resources)).get d = 0
  rw [hsame]
  exact get_subSat_min_empty (h.nonNeg.reservations rid r hr) d

theorem exactReserved_withAllocation (env : Env) (req : ResourceVector) (auth : Authority)
    (hr : s.reservations.lookup rid = some r) (hact : activeRes r = true)
    (x : TenantId) : (s.withAllocation env r rid req auth).exactReserved x = s.exactReserved x :=
  exactReserved_modify hr (f := fun r => { r with status := .consumed }) ⟨rfl, rfl, hact.symm⟩ rfl x

theorem RecordsNonNeg.withAllocation (h : RecordsNonNeg s) :
    RecordsNonNeg (s.withAllocation env r rid req auth) where
  reservations := forall_lookup_modify h.reservations fun _ hr => hr
  allocations := forall_lookup_emplace h.allocations fun _ => le_refl 0

/-- What is left of all reservations is less than what they hold. -/
theorem reservedSum_withAllocation_lt (h : NothingHidden s) (hfresh : FreshIds env s)
    (hr : s.reservations.lookup rid = some r) (hact : activeRes r = true) {d : ResourceDimension}
    (hpos : 0 < r.resources.get d) :
    ((s.withAllocation env r rid req auth).exactRemainder r.tenant).get d < s.reservedSum r.tenant d := by
  obtain ⟨r', hlookup, ht, hact', hid, hsame⟩ :
      ∃ r', (s.withAllocation env r rid req auth).reservations.lookup rid = some r' ∧
        r'.tenant = r.tenant ∧ activeRes r' = true ∧ r'.id = r.id ∧ r'.resources = r.resources := by
    refine ⟨{ r with status := .consumed }, ?_, rfl, rfl, rfl, rfl⟩
    show (s.reservations.modify rid _).lookup rid = _
    rw [lookup_modify_self, hr]; rfl
  have hnn : RecordsNonNeg (s.withAllocation env r rid req auth) := h.nonNeg.withAllocation
  rw [← get_exactReserved, ← exactReserved_withAllocation env req auth hr hact,
    get_exactReserved]
  unfold exactRemainder reservedSum
  rw [get_total, total_erase _ hlookup, total_erase _ hlookup]
  have hrest : (total ((s.withAllocation env r rid req auth).reservations.erase rid) fun _ r' =>
      (if (r'.tenant == r.tenant && activeRes r') = true
        then (s.withAllocation env r rid req auth).exactRemaining r.tenant r' else 0 : ResourceVector).get d) ≤
      total ((s.withAllocation env r rid req auth).reservations.erase rid) fun _ r' =>
        if (r'.tenant == r.tenant && activeRes r') = true then r'.resources.get d else 0 := by
    refine total_le_total (forall_lookup_erase fun rid' r' hr' => ?_)
    rw [get_guarded]
    split
    · exact exactRemaining_le (hnn.reservations rid' r' hr') d
    · exact le_refl 0
  have hholds : (r'.tenant == r.tenant && activeRes r') = true := by rw [ht, hact']; simp
  have hlost : ((s.withAllocation env r rid req auth).exactRemaining r.tenant r').get d = 0 :=
    exactRemaining_withAllocation h hfresh.allocationId hr hpos (hid.trans (h.started.keyed rid r hr)) hsame
  rw [if_pos hholds, if_pos hholds, hlost, hsame]
  omega

/-- **Every other start hides the reservation it is made for**: what the tenant holds on a dimension it
    does not use is no longer shown. -/
theorem start_hides (h : NothingHidden s) (hfresh : FreshIds env s) (hfit : s.CapacityFits)
    (hvalid : s.validAuthority auth = true) (hr : s.reservations.lookup rid = some r)
    (hact : activeRes r = true) {d : ResourceDimension} (hpos : 0 < r.resources.get d)
    (hidle : s.usedSum r.tenant d = 0) : ¬ Shown (s.startAllocation env rid req auth).2 r.tenant := by
  intro hshown
  have hsync : Resynced env (s.withAllocation env r rid req auth) (s.startAllocation env rid req auth).2
      [r.tenant] := by
    unfold startAllocation
    rw [if_neg (by simp [hvalid]), hr]
    simp only [hact, Bool.not_true, Bool.false_eq_true, if_false]
    exact ((Resynced.refl env _).sync 0 r.tenant).emit _ _ _
  have hlost : ((s.withAllocation env r rid req auth).exactRemainder r.tenant).get d < s.reservedSum r.tenant d :=
    reservedSum_withAllocation_lt h hfresh hr hact hpos
  have hnn : RecordsNonNeg (s.withAllocation env r rid req auth) := h.nonNeg.withAllocation
  have hsum : ∀ d, (s.withAllocation env r rid req auth).reservedSum r.tenant d = s.reservedSum r.tenant d :=
    fun d => by
      rw [← get_exactReserved, ← get_exactReserved, exactReserved_withAllocation env req auth hr hact]
  have hused : ∀ d, 0 ≤ s.usedSum r.tenant d := usedSum_nonneg h.nonNeg r.tenant
  have hreserved := reservedSum_nonneg h.nonNeg.reservations r.tenant
  have hfit' := hfit rid r hr
  have hconsumed : (s.withAllocation env r rid req auth).computedConsumed env r.tenant =
      (s.withAllocation env r rid req auth).exactUsed r.tenant :=
    computedConsumed_eq hnn.allocations fun d => by
      rw [usedSum_withAllocation hfresh.allocationId]
      have h1 := hfit' d
      have h2 := hreserved d
      omega
  have hremains : (s.withAllocation env r rid req auth).recomputedReserved env r.tenant =
      (s.withAllocation env r rid req auth).exactRemainder r.tenant :=
    recomputedReserved_eq_remaining hnn
      (fun d => by
        rw [usedSum_withAllocation hfresh.allocationId]
        have h1 := hfit' d
        have h2 := hreserved d
        omega)
      fun d => by
        rw [hsum]
        have h1 := hfit' d
        have h2 := hused d
        omega
  have hsynced := hsync.synced r.tenant List.mem_cons_self
  have hcommitted : ((s.startAllocation env rid req auth).2.committed r.tenant).get d ≤
      ((s.withAllocation env r rid req auth).exactUsed r.tenant).get d +
        ((s.withAllocation env r rid req auth).exactRemainder r.tenant).get d := by
    unfold committed
    rw [hsynced.consumption, hsynced.reserved, hsync.computedConsumed, hsync.recomputedReserved, hconsumed,
      hremains]
    refine ResourceVector.accum_le ?_ d
    rw [← hremains]
    exact recomputedReserved_nonNeg hnn r.tenant
  have hshows := hshown d
  rw [reservedSum_same hsync.reservations, hsum] at hshows
  rw [get_exactUsed, usedSum_withAllocation hfresh.allocationId, hidle] at hcommitted
  change s.reservedSum r.tenant d ≤ ((s.startAllocation env rid req auth).2.committed r.tenant).get d at hshows
  omega

end Hides

/-! ## One reservation of 10 units -/

def holder : TenantId := ⟨0, 1⟩

def holderAuthority : Authority := { epoch := .initial, quotaGeneration := .next .initial }

/-- A tenant with a hard limit of 100 that holds a reservation of 10 units. -/
def holding : List (Env × Call) :=
  [(.numbered 1, .createTenant holder [] none 100),
   (.numbered 2, .setTenantQuota holder { hardLimit := .fromScalar .acceleratorVRAM 100 }),
   (.numbered 3, .reserve holder (.fromScalar .acceleratorVRAM 10) holderAuthority)]

/-- The holder starts an allocation under a second reservation, which holds nothing. -/
def emptyHanded : List (Env × Call) :=
  [(.numbered 4, .reserve holder .empty holderAuthority),
   (.numbered 5, .startAllocation ⟨0, 4⟩ (.fromScalar .acceleratorVRAM 5) holderAuthority),
   (.numbered 6, .resizeAllocation ⟨0, 5⟩ .empty holderAuthority)]

theorem committed_usage_covers_emptyHanded :
    let s := (holding ++ emptyHanded).foldl Engine.after {}
    s.usedSum holder .acceleratorVRAM = 5 ∧ s.reservedSum holder .acceleratorVRAM = 10 ∧
    s.reservedSum holder .acceleratorVRAM ≤ (s.envelope holder).committedUsage.get .acceleratorVRAM := by
  have hrun : Run Engine.after startsEmptyCall {} (holding ++ emptyHanded)
      ((holding ++ emptyHanded).foldl Engine.after {}) := Run.of_check _ _ (by decide +kernel)
  exact ⟨by decide +kernel, by decide +kernel,
    committed_usage_covers {} hrun (by decide +kernel) holder .acceleratorVRAM⟩

/-- **A start hides the reservation it is made for**: 10 units are reserved and none is shown. -/
theorem start_hides_reservation :
    let start := (Env.numbered 4, Call.startAllocation ⟨0, 3⟩ (.fromScalar .acceleratorVRAM 10) holderAuthority)
    let s := (holding.foldl Engine.after {}).after start
    s.reservedSum holder .acceleratorVRAM = 10 ∧
    (s.envelope holder).committedUsage.get .acceleratorVRAM = 0 := by
  decide +kernel

end Engine

end QuotaFabric
