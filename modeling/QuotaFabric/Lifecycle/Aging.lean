import QuotaFabric.Lib.Persists
import QuotaFabric.Lifecycle.Reservations

/-!
# Records only age

What a record says about who got what, when and under which authority is written once.  Afterwards a
reservation moves forward through its statuses, an allocation ends once, a loan is returned once.

* `Reservation.Ages`, `Allocation.Ages`, `BorrowRecord.Ages`, `LendingRecord.Ages` — what a record may become;
* `Aged` — the records of two moments of a run;
* `CallStep.aged` — every call keeps it;
* `records_only_age` — so does every run.
-/

set_option autoImplicit false

namespace QuotaFabric

open AList

/-! ## One record -/

def ReservationStatus.rank : ReservationStatus → Nat
  | .provisional => 0
  | .committed => 1
  | .consumed => 2
  | _ => 3

/-- The status moves forward; the quota generation is stamped again by the commit alone; nothing else
    changes. -/
structure Reservation.Ages (r r' : Reservation) : Prop where
  kept : r' = { r with status := r'.status, quotaGeneration := r'.quotaGeneration }
  forward : r.status.rank ≤ r'.status.rank
  stamped : r'.quotaGeneration = r.quotaGeneration ∨ r.status = .provisional ∧ r'.status ≠ .provisional

/-- Only the use changes, and the allocation ends once, for good.  The use of an ended one can still be set:
    `MODEL_RESIDENCY_ADDED` does not look whether the allocation it names is active. -/
structure Allocation.Ages (a a' : Allocation) : Prop where
  kept : a' = { a with used := a'.used, active := a'.active, endedAt := a'.endedAt }
  ended : a.active = false → a'.active = false ∧ a'.endedAt = a.endedAt

/-- A loan stays as it is until it is returned, and then for good. -/
def BorrowRecord.Ages (b b' : BorrowRecord) : Prop :=
  b' = b ∨ b.recalled = false ∧ b' = { b with consumed := b'.consumed, recalled := true }

/-- Only what is outstanding changes. -/
def LendingRecord.Ages (l l' : LendingRecord) : Prop := l' = { l with outstanding := l'.outstanding }

namespace Reservation

theorem Ages.refl (r : Reservation) : r.Ages r := ⟨rfl, le_refl _, .inl rfl⟩

theorem Ages.trans {r r' r'' : Reservation} (h : r.Ages r') (h' : r'.Ages r'') : r.Ages r'' := by
  refine ⟨?_, h.forward.trans h'.forward, ?_⟩
  · rw [h'.kept, h.kept]
  · -- who has left the first status does not come back to it
    have hleft : r'.status ≠ .provisional → r''.status ≠ .provisional := by
      intro hne heq
      have hrank := h'.forward
      rw [heq] at hrank
      cases hs : r'.status <;> simp_all [ReservationStatus.rank]
    rcases h.stamped with h1 | ⟨h1, h2⟩
    · rcases h'.stamped with h3 | ⟨h3, h4⟩
      · exact .inl (h3.trans h1)
      · have hrank := h.forward
        rw [h3] at hrank
        refine .inr ⟨?_, h4⟩
        cases hs : r.status <;> simp_all [ReservationStatus.rank]
    · exact .inr ⟨h1, hleft h2⟩

end Reservation

namespace Allocation

theorem Ages.refl (a : Allocation) : a.Ages a := ⟨rfl, fun h => ⟨h, rfl⟩⟩

theorem Ages.trans (a a' a'' : Allocation) (h : a.Ages a') (h' : a'.Ages a'') : a.Ages a'' := by
  refine ⟨?_, fun hend => ?_⟩
  · rw [h'.kept, h.kept]
  · obtain ⟨h1, h2⟩ := h.ended hend
    obtain ⟨h3, h4⟩ := h'.ended h1
    exact ⟨h3, h4.trans h2⟩

end Allocation

namespace BorrowRecord

theorem Ages.refl (b : BorrowRecord) : b.Ages b := .inl rfl

theorem Ages.trans (b b' b'' : BorrowRecord) (h : b.Ages b') (h' : b'.Ages b'') : b.Ages b'' := by
  rcases h with rfl | ⟨h1, h2⟩
  · exact h'
  · rcases h' with rfl | ⟨h3, -⟩
    · exact .inr ⟨h1, h2⟩
    · rw [h2] at h3
      cases h3

end BorrowRecord

namespace LendingRecord

theorem Ages.refl (l : LendingRecord) : l.Ages l := rfl

theorem Ages.trans (l l' l'' : LendingRecord) (h : l.Ages l') (h' : l'.Ages l'') : l.Ages l'' := by
  unfold Ages at *
  rw [h', h]

end LendingRecord

namespace Engine

/-! ## One call -/

/-- The records of `s` from those of `s₀`, where `new` are the reservation ids handed out in between. -/
structure Aged (s₀ : Engine) (new : List ReservationId) (s : Engine) : Prop where
  reservations : ∀ rid r', s.reservations.lookup rid = some r' →
    rid ∈ new ∨ ∃ r, s₀.reservations.lookup rid = some r ∧ r.Ages r'
  allocations : Persists Allocation.Ages s₀.allocations s.allocations
  borrows : Persists BorrowRecord.Ages s₀.borrows s.borrows
  lends : Persists LendingRecord.Ages s₀.lends s.lends

section Step

variable {env : Env} {s s' s'' : Engine} {new new' : List ReservationId}

theorem Aged.trans (h : Aged s new s') (h' : Aged s' new' s'') : Aged s (new ++ new') s'' where
  reservations rid r'' hr'' := by
    rcases h'.reservations rid r'' hr'' with hnew | ⟨r', hr', hages'⟩
    · exact .inl (List.mem_append_right _ hnew)
    · rcases h.reservations rid r' hr' with hnew | ⟨r, hr, hages⟩
      · exact .inl (List.mem_append_left _ hnew)
      · exact .inr ⟨r, hr, hages.trans hages'⟩
  allocations := h.allocations.trans Allocation.Ages.trans h'.allocations
  borrows := h.borrows.trans BorrowRecord.Ages.trans h'.borrows
  lends := h.lends.trans LendingRecord.Ages.trans h'.lends

/-- Reservations of which none is new and none has changed. -/
theorem reservations_same (h : s'.reservations = s.reservations) (rid : ReservationId) (r' : Reservation)
    (hr' : s'.reservations.lookup rid = some r') :
    rid ∈ new ∨ ∃ r, s.reservations.lookup rid = some r ∧ r.Ages r' := by
  rw [h] at hr'
  exact .inr ⟨r', hr', .refl r'⟩

theorem LoanStep.ages {B : BorrowId → Prop} (h : LoanStep env B s s') :
    Persists BorrowRecord.Ages s.borrows s'.borrows ∧ Persists LendingRecord.Ages s.lends s'.lends := by
  cases h with
  | touched t => exact ⟨.refl BorrowRecord.Ages.refl _, .refl LendingRecord.Ages.refl _⟩
  | opened k _ _ hbid hlid =>
    rw [openLoan_borrows, openLoan_lends]
    exact ⟨persists_emplace BorrowRecord.Ages.refl _ _, persists_emplace LendingRecord.Ages.refl _ _⟩
  | closed _ hb hrec =>
    rw [closeLoan_borrows, closeLoan_lends]
    refine ⟨persists_modify BorrowRecord.Ages.refl fun x hx => ?_, persists_modify LendingRecord.Ages.refl fun _ _ => rfl⟩
    rw [hb] at hx
    cases hx
    exact .inr ⟨hrec, rfl⟩
  | adopted _ hm => exact ⟨persists_emplace BorrowRecord.Ages.refl _ _, .refl LendingRecord.Ages.refl _⟩

theorem LoanSteps.ages {B : BorrowId → Prop} (h : LoanSteps env B s s') :
    Persists BorrowRecord.Ages s.borrows s'.borrows ∧ Persists LendingRecord.Ages s.lends s'.lends := by
  induction h with
  | refl => exact ⟨.refl BorrowRecord.Ages.refl _, .refl LendingRecord.Ages.refl _⟩
  | tail _ hstep ih =>
    exact ⟨ih.1.trans BorrowRecord.Ages.trans (LoanStep.ages hstep).1,
      ih.2.trans LendingRecord.Ages.trans (LoanStep.ages hstep).2⟩

/-- Loans moved, and nothing else. -/
theorem LoanSteps.aged {B : BorrowId → Prop} (h : LoanSteps env B s s') : Aged s new s' where
  reservations := reservations_same h.frame.reservations
  allocations := .of_eq Allocation.Ages.refl h.frame.allocations
  borrows := (LoanSteps.ages h).1
  lends := (LoanSteps.ages h).2

/-- Counters rewritten, and nothing else. -/
theorem Resynced.aged {ts : List TenantId} (h : Resynced env s s' ts) : Aged s new s' where
  reservations := reservations_same h.reservations
  allocations := .of_eq Allocation.Ages.refl h.allocations
  borrows := .of_eq BorrowRecord.Ages.refl h.borrows
  lends := .of_eq LendingRecord.Ages.refl h.lends

theorem aged_modifyReservation {rid : ReservationId} {f : Reservation → Reservation}
    (hr : ∀ r, s.reservations.lookup rid = some r → r.Ages (f r))
    (h : s'.reservations = s.reservations.modify rid f) (ha : s'.allocations = s.allocations)
    (hb : s'.borrows = s.borrows) (hl : s'.lends = s.lends) : Aged s new s' where
  reservations x r' hr' := by
    rw [h] at hr'
    by_cases hx : x = rid
    · subst hx
      rw [lookup_modify_self] at hr'
      obtain ⟨r, hlook, rfl⟩ := Option.map_eq_some_iff.mp hr'
      exact .inr ⟨r, hlook, hr r hlook⟩
    · rw [lookup_modify_ne _ _ hx] at hr'
      exact .inr ⟨r', hr', .refl r'⟩
  allocations := .of_eq Allocation.Ages.refl ha
  borrows := .of_eq BorrowRecord.Ages.refl hb
  lends := .of_eq LendingRecord.Ages.refl hl

theorem aged_allocations (h : Persists Allocation.Ages s.allocations s'.allocations)
    (hr : s'.reservations = s.reservations) (hb : s'.borrows = s.borrows) (hl : s'.lends = s.lends) :
    Aged s new s' where
  reservations := reservations_same hr
  allocations := h
  borrows := .of_eq BorrowRecord.Ages.refl hb
  lends := .of_eq LendingRecord.Ages.refl hl

/-- What a release drops. -/
theorem aged_dropReservation (s : Engine) (rid : ReservationId) : Aged s new (s.dropReservation rid) where
  reservations x r' hr' := by
    refine .inr ⟨r', ?_, .refl r'⟩
    have hx : x ≠ rid := by
      rintro rfl
      rw [show (s.dropReservation x).reservations = s.reservations.erase x from rfl, lookup_erase] at hr'
      cases hr'
    rwa [show (s.dropReservation rid).reservations = s.reservations.erase rid from rfl, lookup_erase_ne hx] at hr'
  allocations := persists_mapVals fun _ a _ => by
    split
    · exact ⟨rfl, fun _ => ⟨rfl, rfl⟩⟩
    · exact .refl a
  borrows := .refl BorrowRecord.Ages.refl _
  lends := .refl LendingRecord.Ages.refl _

theorem aged_withModified (aid : AllocationId) {f : Allocation → Allocation}
    (hf : ∀ a, s.allocations.lookup aid = some a → a.Ages (f a)) : Aged s new (s.withModified aid f) :=
  aged_allocations (persists_modify Allocation.Ages.refl hf) rfl rfl rfl

theorem Aged.refl (s : Engine) : Aged s new s :=
  aged_allocations (.refl Allocation.Ages.refl _) rfl rfl rfl

/-- Steps of one call, of which the first may hand out an id. -/
theorem Aged.then (h : Aged s new s') (h' : Aged s' [] s'') : Aged s new s'' := by
  have hall := h.trans h'
  rwa [List.append_nil] at hall

theorem rank_of_active {r : Reservation} (h : activeRes r = true) : r.status.rank ≤ ReservationStatus.consumed.rank := by
  unfold activeRes at h
  cases hs : r.status <;> simp_all [ReservationStatus.rank]

/-- A reservation in use is marked, as consumed or as released. -/
theorem aged_setStatus {rid : ReservationId} {r : Reservation} (hr : s.reservations.lookup rid = some r)
    (hact : activeRes r = true) {status : ReservationStatus}
    (hstatus : ReservationStatus.consumed.rank ≤ status.rank) : Aged s new (s.setStatus rid status) := by
  refine aged_modifyReservation (f := fun x => { x with status := status }) (fun x hx => ?_) rfl rfl rfl rfl
  rw [hr] at hx
  cases hx
  exact ⟨rfl, (rank_of_active hact).trans hstatus, .inl rfl⟩

/-- A reservation that is entered. -/
theorem Admitted.aged {t : TenantId} {req : ResourceVector} {auth : Authority} {st : Draw}
    (h : Admitted env s t req auth st s') : Aged s [env.reservationId] s' := by
  obtain ⟨e, hent, hsync⟩ := h.recorded
  have hloans := LoanSteps.ages h.loans
  refine ⟨fun rid r' hr' => ?_, .of_eq Allocation.Ages.refl (congrArg Ledger.allocations h.ledger), ?_, ?_⟩
  · have hres : s'.reservations = _ := congrArg Ledger.reservations h.ledger
    rw [hres] at hr'
    unfold emplace at hr'
    split at hr'
    · exact .inr ⟨r', hr', .refl r'⟩
    · by_cases hrid : rid = env.reservationId
      · exact .inl (List.mem_singleton.mpr hrid)
      · rw [lookup_insert_ne hrid] at hr'
        exact .inr ⟨r', hr', .refl r'⟩
  · rw [hsync.borrows, hent.borrows]
    exact hloans.1
  · rw [hsync.lends, hent.lends]
    exact hloans.2

/-- A loan that is opened. -/
theorem openLoan_aged (k : ResourceDimension) (lender borrower : TenantId) (amount : ResourceVector)
    (reservation : Option ReservationId) : Aged s new (s.openLoan env k lender borrower amount reservation) := by
  have hframe := openLoan_frame env s k lender borrower amount reservation
  refine ⟨reservations_same hframe.reservations, .of_eq Allocation.Ages.refl hframe.allocations, ?_, ?_⟩
  · rw [openLoan_borrows]
    exact persists_emplace BorrowRecord.Ages.refl _ _
  · rw [openLoan_lends]
    exact persists_emplace LendingRecord.Ages.refl _ _

/-- **Every call leaves records that have aged.** -/
theorem CallStep.aged {c : Call} (h : CallStep env s c s') : Aged s (reservationIds [(env, c)]) s' := by
  cases h with
  | kept c h =>
    exact ⟨reservations_same (congrArg Ledger.reservations h.ledger),
      .of_eq Allocation.Ages.refl (congrArg Ledger.allocations h.ledger), .of_eq BorrowRecord.Ages.refl h.borrows,
      .of_eq LendingRecord.Ages.refl h.lends⟩
  | rolledBack h => exact (LoanSteps.aged h.loans).then (LoanSteps.aged h.returned)
  | admitted h => exact Admitted.aged h
  | @committed rid auth r _ hr hstatus h =>
    have hmarked : Aged s (reservationIds [(env, .commitReservation rid auth)]) (s.markCommitted rid) := by
      refine aged_modifyReservation
        (f := fun x => { x with status := .committed, quotaGeneration := s.quotaGeneration })
        (fun x hx => ?_) rfl rfl rfl rfl
      rw [hr] at hx
      cases hx
      refine ⟨rfl, ?_, .inr ⟨hstatus, fun hc => by cases hc⟩⟩
      rw [hstatus]
      exact Nat.zero_le _
    exact hmarked.then (Resynced.aged h)
  | @started rid req auth r _ hr hact h =>
    have hmarked : Aged s (reservationIds [(env, .startAllocation rid req auth)]) (s.setStatus rid .consumed) :=
      aged_setStatus hr hact (le_refl _)
    have hentered : Aged (s.setStatus rid .consumed) [] (s.withAllocation env r rid req auth) :=
      aged_allocations (persists_emplace Allocation.Ages.refl _ _) rfl rfl rfl
    exact (hmarked.then hentered).then (Resynced.aged h)
  | @resized aid delta auth a _ ts hgen ha hact hts h =>
    have hused : Aged s (reservationIds [(env, .resizeAllocation aid delta auth)])
        (s.withModified aid fun x => { x with used := resizedUse a delta }) :=
      aged_withModified aid fun x _ => ⟨rfl, fun hend => ⟨hend, rfl⟩⟩
    exact hused.then (Resynced.aged h)
  | @released rid auth r mid _ hr hact hmid h =>
    have hmarked : Aged s (reservationIds [(env, .release rid auth)]) (s.setStatus rid .released) :=
      aged_setStatus hr hact (by decide)
    have hreturned : Aged (s.setStatus rid .released) [] mid := by
      rw [hmid]
      exact LoanSteps.aged (returnAll_loanSteps (B := fun _ => True) _ _ fun _ _ => trivial)
    exact ((hmarked.then hreturned).then (aged_dropReservation mid rid)).then (Resynced.aged h)
  | @stopped aid auth a _ ha hact h =>
    have hended : Aged s (reservationIds [(env, .releaseAllocation aid auth)])
        (s.withModified aid fun x => { x with active := false, endedAt := env.now }) := by
      refine aged_withModified aid fun x hx => ⟨rfl, fun hend => ?_⟩
      rw [ha] at hx
      cases hx
      rw [hact] at hend
      cases hend
    exact hended.then (Resynced.aged h)
  | borrowed hlender h => exact (openLoan_aged ..).then (Resynced.aged h)
  | lent hlender h => exact (openLoan_aged ..).then (Resynced.aged h)
  | recalled hb hrec h =>
    have hclosed : LoanStep env (fun _ => True) s _ := .closed trivial hb hrec
    exact (LoanSteps.aged (.single hclosed)).then (Resynced.aged h)
  | observed h =>
    refine aged_allocations ?_ h.reservations h.borrows h.lends
    rcases h.allocations with hsame | ⟨aid, u, -, hu⟩
    · exact .of_eq Allocation.Ages.refl hsame
    · rw [hu]
      exact persists_modify Allocation.Ages.refl fun _ _ => ⟨rfl, fun hend => ⟨hend, rfl⟩⟩

end Step

/-! ## Whole runs -/

/-- **Records only age.**  In every run of the public calls every reservation found at the end was entered
    by the run or was there at the start with the same tenant, amounts, owner and instants, no further
    on in its statuses, and stamped with the same generation unless it was committed in between.  Every
    allocation and every loan of the start is still there: an allocation changes in its use and ends once,
    for good; a loan is as it was until it is returned, and stays returned. -/
theorem records_only_age {s₀ s : Engine} {l : List (Env × Call)} (hrun : Run after anyCall s₀ l s) :
    Aged s₀ (reservationIds l) s := by
  refine hrun.invariant_hist (I := fun l s => Aged s₀ (reservationIds l) s) (.refl s₀) ?_
  intro l s c h hc
  rw [reservationIds_append]
  exact h.trans (CallStep.aged (exec_callStep hc.1.toFreshLoans hc.2))

/-- A reservation that is used, for a while. -/
def reserveAndUse : List (Env × Call) :=
  let auth : Authority := { epoch := .initial, quotaGeneration := .next .initial }
  [(.numbered 6, .startAllocation ⟨0, 3⟩ (.fromScalar .acceleratorVRAM 10) auth),
   (.numbered 7, .releaseAllocation ⟨0, 6⟩ auth)]

theorem records_only_age_reserveAndUse :
    let s₀ := (reserveAndStart.take 3).foldl after {}
    let s := reserveAndUse.foldl after s₀
    (s₀.reservations.lookup ⟨0, 3⟩).map (·.status) = some .committed ∧
      (s.reservations.lookup ⟨0, 3⟩).map (·.status) = some .consumed ∧
      (s.allocations.lookup ⟨0, 6⟩).map (·.active) = some false ∧ Aged s₀ (reservationIds reserveAndUse) s := by
  have hrun : Run after anyCall ((reserveAndStart.take 3).foldl after {}) reserveAndUse
      (reserveAndUse.foldl after ((reserveAndStart.take 3).foldl after {})) :=
    Run.of_check _ _ (by decide +kernel)
  exact ⟨by decide +kernel, by decide +kernel, by decide +kernel, records_only_age hrun⟩

end Engine

end QuotaFabric
