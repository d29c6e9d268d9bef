import QuotaFabric.Engine.Trace

/-!
# Every change a call can make

`CallStep` lists, for each public call other than `load_from`, what it does to the records and to the
counters: the inversion lemmas of the single calls put together.  Invariants of whole runs are proved
by cases on it.

* `exec_callStep` — the list is complete;
* `Ledger`, `ledger` — reservations, funding and allocations together;
* `Admitted.ledger`, `release_ledger` — the two calls that change more than one of the three maps.
-/

set_option autoImplicit false

namespace QuotaFabric

open AList

structure Ledger where
  reservations : UMap ReservationId Reservation
  funding : UMap ReservationId Funding
  allocations : UMap AllocationId Allocation

namespace Engine

def ledger (s : Engine) : Ledger := ⟨s.reservations, s.funding, s.allocations⟩

/-- Records and counters are the same; configuration, events and the sequence number may differ. -/
structure SameRecords (s s' : Engine) : Prop where
  ledger : s'.ledger = s.ledger
  borrows : s'.borrows = s.borrows
  lends : s'.lends = s.lends
  usage : s'.usage = s.usage

/-- What an observation changes: windows and consumption of its tenant, and the use of at most one
    allocation. -/
structure Observed (s : Engine) (t : TenantId) (s' : Engine) : Prop where
  config : SameConfig s s'
  reservations : s'.reservations = s.reservations
  funding : s'.funding = s.funding
  allocations : s'.allocations = s.allocations ∨ ∃ aid, ∃ u : Allocation → ResourceVector,
    (∀ a, a.used.NonNeg → (u a).NonNeg) ∧
      s'.allocations = s.allocations.modify aid fun a => { a with used := u a }
  borrows : s'.borrows = s.borrows
  lends : s'.lends = s.lends
  usage : ∀ x, s'.usageOf x =
    { s.usageOf x with consumption := (s'.usageOf x).consumption, windows := (s'.usageOf x).windows }
  other : ∀ x, x ≠ t → s'.usageOf x = s.usageOf x

/-- The state `start_allocation` resynchronises. -/
def withAllocation (env : Env) (s : Engine) (r : Reservation) (rid : ReservationId) (req : ResourceVector)
    (auth : Authority) : Engine :=
  ({ s with
    allocations := s.allocations.emplace env.allocationId (s.newAllocation env r rid req auth) } : Engine
    ).setStatus rid .consumed

/-- The state with a changed allocation. -/
def withModified (s : Engine) (aid : AllocationId) (f : Allocation → Allocation) : Engine :=
  { s with allocations := s.allocations.modify aid f }

/-- How one call changes the engine. -/
inductive CallStep (env : Env) (s : Engine) : Call → Engine → Prop
  | kept (c : Call) {s' : Engine} (h : SameRecords s s') : CallStep env s c s'
  | rolledBack {t : TenantId} {req : ResourceVector} {auth : Authority} {st : Draw} {s' : Engine}
      (h : RolledBack env s t req auth st s') : CallStep env s (.reserve t req auth) s'
  | admitted {t : TenantId} {req : ResourceVector} {auth : Authority} {st : Draw} {s' : Engine}
      (h : Admitted env s t req auth st s') : CallStep env s (.reserve t req auth) s'
  | committed {rid : ReservationId} {auth : Authority} {r : Reservation} {s' : Engine}
      (hr : s.reservations.lookup rid = some r) (hstatus : r.status = .provisional)
      (h : Resynced env (s.markCommitted rid) s' [r.tenant]) :
      CallStep env s (.commitReservation rid auth) s'
  | started {rid : ReservationId} {req : ResourceVector} {auth : Authority} {r : Reservation}
      {s' : Engine} (hr : s.reservations.lookup rid = some r) (hact : activeRes r = true)
      (h : Resynced env (s.withAllocation env r rid req auth) s' [r.tenant]) :
      CallStep env s (.startAllocation rid req auth) s'
  | resized {aid : AllocationId} {delta : ResourceVector} {auth : Authority} {a : Allocation}
      {s' : Engine} {ts : List TenantId} (hgen : s.staleQuotaGen auth = false)
      (ha : s.allocations.lookup aid = some a) (hact : a.active = true) (hts : ts = [] ∨ ts = [a.tenant])
      (h : Resynced env (s.withModified aid fun x => { x with used := resizedUse a delta }) s' ts) :
      CallStep env s (.resizeAllocation aid delta auth) s'
  | released {rid : ReservationId} {auth : Authority} {r : Reservation} {mid s' : Engine}
      (hr : s.reservations.lookup rid = some r) (hact : activeRes r = true)
      (hmid : mid = (s.setStatus rid .released).returnAll env (s.listedBorrows rid))
      (h : Resynced env (mid.dropReservation rid) s' [r.tenant]) : CallStep env s (.release rid auth) s'
  | stopped {aid : AllocationId} {auth : Authority} {a : Allocation} {s' : Engine}
      (ha : s.allocations.lookup aid = some a) (hact : a.active = true)
      (h : Resynced env (s.withModified aid fun x => { x with active := false, endedAt := env.now }) s'
        [a.tenant]) : CallStep env s (.releaseAllocation aid auth) s'
  | borrowed {borrower lender : TenantId} {amount : ResourceVector} {auth : Authority} {s' : Engine}
      (hlender : s.chooseLender env borrower amount = some lender)
      (h : Resynced env (s.openLoan env default lender borrower amount none) s' [borrower]) :
      CallStep env s (.borrow borrower amount auth) s'
  | lent {named borrower lender : TenantId} {amount : ResourceVector} {auth : Authority} {s' : Engine}
      (hlender : s.chooseLender env borrower amount = some lender)
      (h : Resynced env (s.openLoan env default lender borrower amount none) s' [borrower, named]) :
      CallStep env s (.lend named borrower amount auth) s'
  | recalled {bid : BorrowId} {auth : Authority} {b : BorrowRecord} {s' : Engine}
      (hb : s.borrows.lookup bid = some b) (hrec : b.recalled = false)
      (h : Resynced env (s.closeLoan env bid b (ResourceVector.min b.consumed b.consumed)) s'
        [b.lender, b.borrower]) : CallStep env s (.recallBorrow bid auth) s'
  | observed {obs : Observation} {s' : Engine} (h : Observed s obs.tenant s') :
      CallStep env s (.applyObservation obs) s'

section Exec

variable {env : Env} {s s' : Engine}

theorem SameRecords.refl (s : Engine) : SameRecords s s := ⟨rfl, rfl, rfl, rfl⟩

theorem SameRecords.usageOf (h : SameRecords s s') (x : TenantId) : s'.usageOf x = s.usageOf x := by
  unfold Engine.usageOf
  rw [h.usage]

/-- Observations that touch only the usage of one tenant. -/
theorem Observed.of_modifyUsage (env : Env) (s : Engine) (t : TenantId) {f : Usage → Usage}
    (hf : ∀ u, f u = { u with consumption := (f u).consumption, windows := (f u).windows })
    (type : EventType) (detail : Str) :
    Observed s t (((s.modifyUsage t id).modifyUsage t f).emitEvent env type t detail) where
  config := ⟨rfl, rfl, rfl, rfl, rfl, rfl, rfl⟩
  reservations := rfl
  funding := rfl
  allocations := Or.inl rfl
  borrows := rfl
  lends := rfl
  usage x := by
    rw [usageOf_emitEvent, usageOf_modifyUsage, usageOf_modifyUsage_id, usageOf_modifyUsage_id]
    split
    · rename_i hx; rw [hx]; exact hf _
    · rfl
  other x hx := by
    rw [usageOf_emitEvent, usageOf_modifyUsage_ne _ _ hx, usageOf_modifyUsage_id]

/-- The same, with the use of an allocation written first. -/
theorem Observed.of_modifyUsage_allocation (env : Env) (s : Engine) (t : TenantId) {f : Usage → Usage}
    (hf : ∀ u, f u = { u with consumption := (f u).consumption, windows := (f u).windows })
    (aid : AllocationId) (u : Allocation → ResourceVector) (hu : ∀ a, a.used.NonNeg → (u a).NonNeg)
    (type : EventType) (detail : Str) :
    Observed s t ((({ s.modifyUsage t id with
      allocations := (s.modifyUsage t id).allocations.modify aid fun a => { a with used := u a } } : Engine
      ).modifyUsage t f).emitEvent env type t detail) where
  config := ⟨rfl, rfl, rfl, rfl, rfl, rfl, rfl⟩
  reservations := rfl
  funding := rfl
  allocations := Or.inr ⟨aid, u, hu, rfl⟩
  borrows := rfl
  lends := rfl
  usage := (Observed.of_modifyUsage env s t hf type detail).usage
  other := (Observed.of_modifyUsage env s t hf type detail).other

theorem Observed.of_touch (s : Engine) (t : TenantId) : Observed s t (s.modifyUsage t id) where
  config := ⟨rfl, rfl, rfl, rfl, rfl, rfl, rfl⟩
  reservations := rfl
  funding := rfl
  allocations := Or.inl rfl
  borrows := rfl
  lends := rfl
  usage x := by rw [usageOf_modifyUsage_id]
  other x _ := usageOf_modifyUsage_id s t x

theorem Observed.emit {t : TenantId} (h : Observed s t s') (env : Env) (type : EventType) (detail : Str) :
    Observed s t (s'.emitEvent env type t detail) :=
  ⟨h.config.trans ⟨rfl, rfl, rfl, rfl, rfl, rfl, rfl⟩, h.reservations, h.funding, h.allocations,
    h.borrows, h.lends, h.usage, h.other⟩

theorem applyObservation_callStep (env : Env) (s : Engine) (obs : Observation) :
    CallStep env s (.applyObservation obs) (s.applyObservation env obs).2 := by
  unfold applyObservation
  split
  · exact .kept _ (.refl s)
  · cases obs.kind with
    | computeInterval | transferConsumed =>
      simp only
      split
      · exact .observed (.of_touch s obs.tenant)
      · exact .observed (.of_modifyUsage env s obs.tenant (fun _ => rfl) _ _)
    | modelResidencyRemoved | kvUsageChange | tensorUsageChange | usageDelta =>
      exact .observed (.of_modifyUsage env s obs.tenant (fun _ => rfl) _ _)
    | modelResidencyAdded =>
      simp only
      exact .observed (.of_modifyUsage_allocation env s obs.tenant (fun _ => rfl) obs.allocation _
        (fun _ h => ResourceVector.set_nonNeg h _ _) _ _)
    | _ => exact .observed ((Observed.of_touch s obs.tenant).emit env _ _)

theorem createTenant_sameRecords (env : Env) (s : Engine) (id : TenantId) (name : Str)
    (group : Option TenantGroupId) (priority : UInt32) :
    SameRecords s (s.createTenant env id name group priority).2 := by
  unfold createTenant
  repeat' split
  all_goals exact ⟨rfl, rfl, rfl, rfl⟩

/-- **Every call makes one of the listed changes.** -/
theorem exec_callStep {c : Call} (hfresh : FreshLoans env s) (hamount : c.amount.NonNeg) :
    CallStep env s c (s.exec env c).2 := by
  cases c with
  | setPolicy policy =>
    show CallStep env s _ (s.setPolicy env policy).2
    unfold setPolicy
    split <;> exact .kept _ ⟨rfl, rfl, rfl, rfl⟩
  | advanceEpoch => exact .kept _ ⟨rfl, rfl, rfl, rfl⟩
  | createGroup name kind parent =>
    show CallStep env s _ (s.createGroup env name kind parent).2
    unfold createGroup
    split <;> exact .kept _ ⟨rfl, rfl, rfl, rfl⟩
  | createGroupAutoid name kind parent => exact .kept _ ⟨rfl, rfl, rfl, rfl⟩
  | createTenant id name group priority => exact .kept _ (createTenant_sameRecords ..)
  | createTenantAutoid name group priority => exact .kept _ (createTenant_sameRecords ..)
  | setTenantQuota t q =>
    show CallStep env s _ (s.setTenantQuota env t q).2
    unfold setTenantQuota
    repeat' split
    all_goals exact .kept _ ⟨rfl, rfl, rfl, rfl⟩
  | setGroupQuota g q =>
    show CallStep env s _ (s.setGroupQuota env g q).2
    unfold setGroupQuota
    split <;> exact .kept _ ⟨rfl, rfl, rfl, rfl⟩
  | reserve t req auth =>
    show CallStep env s _ (s.reserve env t req auth).2
    rcases reserve_cases hfresh t req auth with h | ⟨st, h⟩ | ⟨st, h⟩
    · rw [h]; exact .kept _ (.refl s)
    · exact .rolledBack h
    · exact .admitted h
  | commitReservation rid auth =>
    show CallStep env s _ (s.commitReservation env rid auth).2
    rcases commitReservation_cases env s rid auth with h | ⟨r, hr, hstatus, h⟩
    · rw [h]; exact .kept _ (.refl s)
    · exact .committed hr hstatus h
  | startAllocation rid req auth =>
    show CallStep env s _ (s.startAllocation env rid req auth).2
    rcases startAllocation_cases env s rid req auth with h | ⟨r, hr, hact, h⟩
    · rw [h]; exact .kept _ (.refl s)
    · exact .started hr hact h
  | resizeAllocation aid delta auth =>
    show CallStep env s _ (s.resizeAllocation env aid delta auth).2
    by_cases hgen : s.staleQuotaGen auth = true
    · have hstale : (s.resizeAllocation env aid delta auth).2 = s := by
        unfold resizeAllocation
        rw [if_pos hgen]
      rw [hstale]; exact .kept _ (.refl s)
    rcases resizeAllocation_cases env s aid delta auth with h | ⟨a, ha, hact, ts, hts, h⟩
    · rw [h]; exact .kept _ (.refl s)
    · exact .resized (by simpa using hgen) ha hact hts h
  | release rid auth =>
    show CallStep env s _ (s.release env rid auth).2
    unfold release
    split
    · exact .kept _ (.refl s)
    split
    · exact .kept _ (.refl s)
    rename_i r hr
    split
    · exact .kept _ (.refl s)
    rename_i hact
    exact .released hr (by simpa using hact) rfl
      (((Resynced.refl env _).sync 0 r.tenant).emit _ _ _)
  | releaseAllocation aid auth =>
    show CallStep env s _ (s.releaseAllocation env aid auth).2
    rcases releaseAllocation_cases env s aid auth with h | ⟨a, ha, hact, h⟩
    · rw [h]; exact .kept _ (.refl s)
    · exact .stopped ha hact h
  | borrow b amount auth =>
    show CallStep env s _ (s.borrow env b amount auth).2
    rcases borrow_cases hfresh b amount hamount auth with h | ⟨lender, hl, -, h⟩
    · rw [h]; exact .kept _ (.refl s)
    · exact .borrowed hl h
  | lend l b amount auth =>
    show CallStep env s _ (s.lend env l b amount auth).2
    rcases lend_cases hfresh l b amount hamount auth with h | ⟨lender, hl, -, h⟩
    · rw [h]; exact .kept _ (.refl s)
    · exact .lent hl h
  | recallBorrow bid auth =>
    show CallStep env s _ (s.recallBorrow env bid auth).2
    rcases recallBorrow_cases env s bid auth with h | ⟨b, hb, hrec, -, h⟩
    · rw [h]; exact .kept _ (.refl s)
    · exact .recalled hb hrec h
  | applyObservation obs => exact applyObservation_callStep env s obs
  | snapshot => exact .kept _ ⟨rfl, rfl, rfl, rfl⟩
  | saveTo path =>
    show CallStep env s _ (s.saveTo env path).2
    unfold saveTo
    split <;> exact .kept _ ⟨rfl, rfl, rfl, rfl⟩
  | query => exact .kept _ (.refl s)

/-! ## The ledger after a call -/

theorem Resynced.ledger {ts : List TenantId} (h : Resynced env s s' ts) : s'.ledger = s.ledger := by
  unfold Engine.ledger
  rw [h.reservations, h.funding, h.allocations]

theorem LoanFrame.ledger (h : LoanFrame s s') : s'.ledger = s.ledger := by
  unfold Engine.ledger
  rw [h.reservations, h.funding, h.allocations]

theorem newReservation_congr (h : SameConfig s s') (env : Env) (t : TenantId) (req : ResourceVector)
    (auth : Authority) : s'.newReservation env t req auth = s.newReservation env t req auth := by
  unfold newReservation
  rw [h.quotaGeneration, h.policy, h.epoch]

theorem Admitted.ledger {t : TenantId} {req : ResourceVector} {auth : Authority} {st : Draw}
    (h : Admitted env s t req auth st s') :
    s'.ledger =
      { reservations := s.reservations.emplace env.reservationId (s.newReservation env t req auth)
        funding := s.funding.insert env.reservationId { burst := st.burst, borrows := st.borrowIds }
        allocations := s.allocations } := by
  obtain ⟨e, hent, hres⟩ := h.recorded
  have hframe := h.loans.frame
  rw [hres.ledger]
  unfold Engine.ledger
  rw [hent.reservations, hent.funding, hent.allocations, hframe.reservations, hframe.funding,
    hframe.allocations, newReservation_congr hframe.config]

theorem returnAll_frame (env : Env) (s : Engine) (bids : List BorrowId) :
    LoanFrame s (s.returnAll env bids) :=
  (returnAll_loanSteps (B := fun _ => True) bids s fun _ _ => trivial).frame

/-- A release drops the reservation: the status it had in between leaves no trace. -/
theorem release_ledger (env : Env) (s : Engine) (rid : ReservationId) (bids : List BorrowId) :
    (((s.setStatus rid .released).returnAll env bids).dropReservation rid).ledger =
      (s.dropReservation rid).ledger := by
  have hframe := returnAll_frame env (s.setStatus rid .released) bids
  unfold Engine.ledger dropReservation
  simp only
  rw [hframe.reservations, hframe.funding, hframe.allocations]
  unfold setStatus
  simp only
  rw [erase_modify]

end Exec

end Engine

end QuotaFabric
