import QuotaFabric.Lifecycle.Isolation
import QuotaFabric.Loans.BorrowedCounter

/-!
# Closing the accounts

Whatever happened before, releasing every reservation and recalling every loan that is still out
brings the counters back to zero, in whichever order it is done.

* `Released`, `Recalled` — what a successful `release` and a successful `recall_borrow` do;
* `Explained` — nothing is counted that no record of the tenant stands for;
* `Accounts` — the invariant of runs without observations;
* `close`, `openItems` — one closing call, and everything there is to close;
* `accounting_closes_to_zero` — the closing calls succeed and leave nothing behind.
-/

set_option autoImplicit false

namespace QuotaFabric

open AList

def Call.isObservation : Call → Bool
  | .applyObservation _ => true
  | _ => false

namespace Engine

/-! ## Successful releases and recalls -/

/-- A released reservation is gone, its loans are given back and its tenant is resynchronised. -/
def Released (env : Env) (s : Engine) (rid : ReservationId) (r : Reservation) (s' : Engine) : Prop :=
  Resynced env
    (((s.setStatus rid .released).returnAll env (s.listedBorrows rid)).dropReservation rid) s' [r.tenant]

/-- A recalled loan is given back and both parties are resynchronised. -/
def Recalled (env : Env) (s : Engine) (bid : BorrowId) (b : BorrowRecord) (s' : Engine) : Prop :=
  Resynced env (s.closeLoan env bid b (ResourceVector.min b.consumed b.consumed)) s' [b.lender, b.borrower]

section Success

variable (env : Env) {s : Engine} {auth : Authority}

theorem release_succeeds {rid : ReservationId} {r : Reservation} (hauth : s.staleEpoch auth = false)
    (hr : s.reservations.lookup rid = some r) (hact : activeRes r = true) :
    (s.release env rid auth).1.ok = true ∧ Released env s rid r (s.release env rid auth).2 := by
  unfold release
  rw [if_neg (by simp [hauth]), hr]
  simp only [hact, Bool.not_true, Bool.false_eq_true, if_false]
  exact ⟨rfl, ((Resynced.refl env _).sync 0 r.tenant).emit _ _ _⟩

theorem recallBorrow_succeeds {bid : BorrowId} {b : BorrowRecord} (hauth : s.staleEpoch auth = false)
    (hb : s.borrows.lookup bid = some b) (hrec : b.recalled = false) :
    (s.recallBorrow env bid auth).1.ok = true ∧ Recalled env s bid b (s.recallBorrow env bid auth).2 := by
  unfold recallBorrow
  rw [if_neg (by simp [hauth]), hb]
  have hret : s.returnBorrow env bid b.consumed =
      (.success, s.closeLoan env bid b (ResourceVector.min b.consumed b.consumed)) := by
    unfold returnBorrow
    rw [hb]
    simp only [hrec, Bool.false_eq_true, if_false]
  simp only [hret]
  exact ⟨rfl, (((Resynced.refl env _).sync 0 b.borrower).sync 1 b.lender).emit _ _ _⟩

end Success

section Records

variable {env : Env} {s s' : Engine} {rid : ReservationId} {r : Reservation} {bid : BorrowId}
  {b : BorrowRecord}

theorem Released.ledger (h : Released env s rid r s') : s'.ledger = (s.dropReservation rid).ledger :=
  (Resynced.ledger h).trans (release_ledger ..)

theorem Released.moves (h : Released env s rid r s') (hlisted : ListedKnown s) : LoanMoves env s s' := by
  have hmark : LoanMoves env s (s.setStatus rid .released) := .of_same rfl rfl
  have hback : LoanSteps env (fun bid => bid ∈ s.listedBorrows rid) (s.setStatus rid .released)
      ((s.setStatus rid .released).returnAll env (s.listedBorrows rid)) :=
    returnAll_loanSteps _ _ fun _ hbid => hbid
  have hreturned := hmark.trans (hback.moves (listedBorrows_known hlisted rid))
  exact Resynced.moves h (hreturned.trans (LoanMoves.of_same rfl rfl))

theorem Recalled.moves (h : Recalled env s bid b s') (hb : s.borrows.lookup bid = some b)
    (hrec : b.recalled = false) : LoanMoves env s s' :=
  Resynced.moves h (.single (.closed hb hrec))

theorem Released.consistent (h : Released env s rid r s') (hs : Consistent s) : Consistent s' := by
  have hmoves := h.moves hs.listed
  have hfund : s'.funding = s.funding.erase rid := congrArg Ledger.funding h.ledger
  refine ⟨?_, hmoves.paired hs.paired, ?_, ?_⟩
  · rw [h.ledger]
    exact lifecycle_dropReservation rid hs.lifecycle
  · exact listedKnown_erase hs.listed (fun _ hbid => hmoves.mem_borrows hbid) hfund
  · exact hs.own.dropped (fun t bids => hmoves.borrowedBy) h.ledger

theorem Recalled.consistent (h : Recalled env s bid b s') (hb : s.borrows.lookup bid = some b)
    (hrec : b.recalled = false) (hs : Consistent s) : Consistent s' := by
  have hmoves := h.moves hb hrec
  have hledger : s'.ledger = s.ledger := (Resynced.ledger h).trans (closeLoan_frame ..).ledger
  have hfund : s'.funding = s.funding := congrArg Ledger.funding hledger
  have hres : s'.reservations = s.reservations := congrArg Ledger.reservations hledger
  refine ⟨?_, hmoves.paired hs.paired, ?_, ?_⟩
  · rw [hledger]
    exact hs.lifecycle
  · exact listedKnown_same hs.listed (fun _ hbid => hmoves.mem_borrows hbid) hfund
  · exact hs.own.keep (fun t bids => hmoves.borrowedBy) hfund fun rid r' hr' => ⟨r', hres ▸ hr', rfl⟩

theorem Released.loansCovered (h : Released env s rid r s') (hs : Consistent s) (hc : LoansCovered s) :
    LoansCovered s' := by
  have hmarked : LoansCovered (s.setStatus rid .released) := hc.same rfl rfl fun _ => ⟨rfl, rfl⟩
  have hback : LoanSteps env (fun bid => bid ∈ s.listedBorrows rid) (s.setStatus rid .released)
      ((s.setStatus rid .released).returnAll env (s.listedBorrows rid)) :=
    returnAll_loanSteps _ _ fun _ hbid => hbid
  have hmid := hback.loansCovered (listedBorrows_known hs.listed rid) hmarked
  exact Resynced.loansCovered h hmid rfl rfl fun _ _ => rfl

theorem Recalled.loansCovered (h : Recalled env s bid b s') (hb : s.borrows.lookup bid = some b)
    (hrec : b.recalled = false) (hc : LoansCovered s) : LoansCovered s' :=
  Resynced.loansCovered h (closeLoan_loansCovered hc hb hrec) rfl rfl fun _ _ => rfl

end Records

/-! ## Counters that a record explains -/


def Reserving (s : Engine) (x : TenantId) : Prop :=
  ∃ rid r, s.reservations.lookup rid = some r ∧ r.tenant = x

def Running (s : Engine) (x : TenantId) : Prop :=
  ∃ aid a, s.allocations.lookup aid = some a ∧ a.active = true ∧ a.tenant = x

/-- Without a running allocation nothing is consumed; without a reservation nothing is reserved or
    burst. -/
structure Explained (s : Engine) (x : TenantId) : Prop where
  consumption : ¬ s.Running x → ∀ d, (s.usageOf x).consumption.get d = 0
  reserved : ¬ s.Reserving x → ∀ d, (s.usageOf x).reserved.get d = 0
  burst : ¬ s.Reserving x → ∀ d, (s.usageOf x).burst.get d = 0

theorem explained_start (settings : EngineSettings) (x : TenantId) : Explained { settings := settings } x :=
  ⟨fun _ _ => rfl, fun _ _ => rfl, fun _ _ => rfl⟩

section Explained

variable {env : Env} {s s' : Engine} {x : TenantId}

/-- Recomputed counters are explained by the records they are computed from. -/
theorem SyncedAt.explained (h : SyncedAt env s x) : Explained s x where
  consumption hno d := by
    have hnil : ((env.allocationOrder s.allocations.entries).filter fun e =>
        e.2.tenant == x && e.2.active) = [] := by
      rw [List.filter_eq_nil_iff]
      intro e he hp
      simp only [Bool.and_eq_true, beq_iff_eq] at hp
      exact hno ⟨e.1, e.2, lookup_of_mem_entries (env.allocationOrder.mem_run.mp he), hp.2, hp.1⟩
    rw [h.consumption]
    unfold computedConsumed
    rw [hnil]; rfl
  reserved hno d := by
    have hnil : ((env.reservationOrder s.reservations.entries).filter fun e =>
        e.2.tenant == x && activeRes e.2) = [] := by
      rw [List.filter_eq_nil_iff]
      intro e he hp
      simp only [Bool.and_eq_true, beq_iff_eq] at hp
      exact hno ⟨e.1, e.2, lookup_of_mem_entries (env.reservationOrder.mem_run.mp he), hp.1⟩
    rw [h.reserved]
    unfold recomputedReserved
    rw [hnil]; rfl
  burst hno d := by
    rcases h.burst with hb | hb
    · rw [hb]
      unfold computedBurst
      rw [List.filter_eq_nil_iff.mpr]
      · rfl
      · intro e he hp
        split at hp
        · cases hp
        · rename_i r hr
          simp only [Bool.and_eq_true, beq_iff_eq] at hp
          exact hno ⟨e.1, r, hr, hp.1⟩
    · rw [hb]; rfl

/-- The three counters are the same and no record that explains them is gone. -/
theorem Explained.keep (h : Explained s x)
    (hu : (s'.usageOf x).consumption = (s.usageOf x).consumption ∧
      (s'.usageOf x).reserved = (s.usageOf x).reserved ∧ (s'.usageOf x).burst = (s.usageOf x).burst)
    (hrun : s.Running x → s'.Running x) (hres : s.Reserving x → s'.Reserving x) : Explained s' x where
  consumption hno d := by rw [hu.1]; exact h.consumption (fun hr => hno (hrun hr)) d
  reserved hno d := by rw [hu.2.1]; exact h.reserved (fun hr => hno (hres hr)) d
  burst hno d := by rw [hu.2.2]; exact h.burst (fun hr => hno (hres hr)) d

theorem Explained.of_ledger (h : Explained s x) (hledger : s'.ledger = s.ledger)
    (hu : (s'.usageOf x).consumption = (s.usageOf x).consumption ∧
      (s'.usageOf x).reserved = (s.usageOf x).reserved ∧ (s'.usageOf x).burst = (s.usageOf x).burst) :
    Explained s' x := by
  have hres : s'.reservations = s.reservations := congrArg Ledger.reservations hledger
  have halloc : s'.allocations = s.allocations := congrArg Ledger.allocations hledger
  refine h.keep hu (fun hrun => ?_) fun hr => ?_
  · unfold Running at *
    rw [halloc]
    exact hrun
  · unfold Reserving at *
    rw [hres]
    exact hr

theorem RecordsKept.explained (hk : RecordsKept s x s') (h : Explained s x)
    (hu : (s'.usageOf x).consumption = (s.usageOf x).consumption ∧
      (s'.usageOf x).reserved = (s.usageOf x).reserved ∧ (s'.usageOf x).burst = (s.usageOf x).burst) :
    Explained s' x := by
  refine h.keep hu ?_ ?_
  · rintro ⟨aid, a, ha, hact, ht⟩
    exact ⟨aid, a, (hk.allocations aid a ht).mpr ha, hact, ht⟩
  · rintro ⟨rid, r, hr, ht⟩
    exact ⟨rid, r, (hk.reservations rid r ht).mpr hr, ht⟩

theorem Released.explained {rid : ReservationId} {r : Reservation} (h : Released env s rid r s')
    (hr : s.reservations.lookup rid = some r) (hs : Consistent s) (hex : ∀ x, Explained s x) (x : TenantId) :
    Explained s' x := by
  by_cases hx : x = r.tenant
  · subst hx
    exact (Resynced.synced h _ List.mem_cons_self).explained
  · have hu : s'.usageOf x = s.usageOf x :=
      (Resynced.other h x (by simpa using hx)).trans (usageOf_released hs hr hx)
    refine (recordsKept_dropped hs.lifecycle hr h.ledger hx).explained (hex x) ?_
    rw [hu]
    exact ⟨rfl, rfl, rfl⟩

/-- A change of the loans alone, followed by a resynchronisation. -/
theorem Resynced.explained_loans {e : Engine} {ts : List TenantId} (h : Resynced env e s' ts)
    (hframe : LoanFrame s e) (hex : ∀ x, Explained s x) (x : TenantId) : Explained s' x := by
  by_cases hx : x ∈ ts
  · exact (h.synced x hx).explained
  · refine (hex x).of_ledger (h.ledger.trans hframe.ledger) ?_
    rw [h.other x hx]
    exact hframe.counters x

/-- A call of one tenant that ends with its resynchronisation. -/
theorem CallStep.explained_acting {c : Call} {t : TenantId} (hstep : CallStep env s c s')
    (hfresh : FreshIds env s) (hs : Consistent s) (hacts : s.actsOn c = some t) (hsync : SyncedAt env s' t)
    (hex : ∀ x, Explained s x) (x : TenantId) : Explained s' x := by
  by_cases hx : x = t
  · subst hx
    exact hsync.explained
  · refine (hstep.recordsKept hfresh hs hacts hx).explained (hex x) ?_
    rcases hstep.usage_other hfresh hs hacts hx with hsame | ⟨-, hfor⟩
    · rw [hsame]
      exact ⟨rfl, rfl, rfl⟩
    · rw [hfor.usage x hx]
      exact ⟨rfl, rfl, rfl⟩

/-- A resize keeps the allocation running, resynchronised or not. -/
theorem Resynced.explained_resized {aid : AllocationId} {u : Allocation → ResourceVector} {ts : List TenantId}
    (h : Resynced env (s.withModified aid fun a => { a with used := u a }) s' ts) (hex : ∀ x, Explained s x)
    (x : TenantId) : Explained s' x := by
  by_cases hx : x ∈ ts
  · exact (h.synced x hx).explained
  · have hu : s'.usageOf x = s.usageOf x := h.other x hx
    refine (hex x).keep (by rw [hu]; exact ⟨rfl, rfl, rfl⟩) ?_ ?_
    · rintro ⟨aid', a, ha, hact, ht⟩
      unfold Running
      rw [h.allocations]
      show ∃ aid' a', (s.allocations.modify aid fun a => { a with used := u a }).lookup aid' = some a' ∧ _
      by_cases heq : aid' = aid
      · subst heq
        refine ⟨aid', { a with used := u a }, ?_, hact, ht⟩
        rw [lookup_modify_self, ha]; rfl
      · refine ⟨aid', a, ?_, hact, ht⟩
        rw [lookup_modify_ne _ _ heq]
        exact ha
    · unfold Reserving
      rw [h.reservations]
      exact id

/-- **Every call but an observation leaves the counters explained.** -/
theorem CallStep.explained {c : Call} (hstep : CallStep env s c s') (hobs : c.isObservation = false)
    (hfresh : FreshIds env s) (hs : Consistent s) (hex : ∀ x, Explained s x) (x : TenantId) :
    Explained s' x := by
  have hact : ∀ t, s.actsOn c = some t → SyncedAt env s' t → Explained s' x :=
    fun t hacts hsync => hstep.explained_acting hfresh hs hacts hsync hex x
  cases hstep with
  | kept c h =>
    refine (hex x).of_ledger h.ledger ?_
    rw [h.usageOf]
    exact ⟨rfl, rfl, rfl⟩
  | rolledBack h => exact (hex x).of_ledger h.frame.ledger (h.frame.counters x)
  | admitted h =>
    obtain ⟨e, -, hsync⟩ := h.recorded
    exact hact _ rfl (hsync.synced _ List.mem_cons_self)
  | committed hr hstatus h =>
    exact hact _ (by rw [actsOn, hr]; rfl) (h.synced _ List.mem_cons_self)
  | started hr _ h => exact hact _ (by rw [actsOn, hr]; rfl) (h.synced _ List.mem_cons_self)
  | resized hgen ha _ hts h => exact h.explained_resized hex x
  | stopped ha _ h => exact hact _ (by rw [actsOn, ha]; rfl) (h.synced _ List.mem_cons_self)
  | released hr _ hmid h => exact hact _ (by rw [actsOn, hr]; rfl) (h.synced _ List.mem_cons_self)
  | borrowed hlender h => exact h.explained_loans (openLoan_frame ..) hex x
  | lent hlender h => exact h.explained_loans (openLoan_frame ..) hex x
  | recalled hb hrec h => exact h.explained_loans (closeLoan_frame ..) hex x
  | observed => cases hobs

end Explained

/-- What is true in every state reached without observations. -/
structure Accounts (s : Engine) : Prop where
  consistent : Consistent s
  covered : LoansCovered s
  explained : ∀ x, Explained s x

def unobservedCall (s : Engine) (c : Env × Call) : Prop := anyCall s c ∧ c.2.isObservation = false

instance (s : Engine) (c : Env × Call) : Decidable (unobservedCall s c) :=
  inferInstanceAs (Decidable (_ ∧ _))

theorem after_accounts {s : Engine} {c : Env × Call} (hc : unobservedCall s c) (h : Accounts s) :
    Accounts (s.after c) := by
  obtain ⟨hany, hobs⟩ := hc
  have hstep : CallStep c.1 s c.2 (s.after c) := exec_callStep hany.1.toFreshLoans hany.2
  exact ⟨after_consistent hany h.consistent,
    hstep.loansCovered hany.1.toFreshLoans hany.2 h.consistent.listed h.covered,
    hstep.explained hobs hany.1 h.consistent h.explained⟩

theorem run_accounts {settings : EngineSettings} {l : List (Env × Call)} {s : Engine}
    (hrun : Run Engine.after unobservedCall { settings := settings } l s) : Accounts s :=
  hrun.invariant (I := Accounts)
    ⟨consistent_start settings, loansCovered_start settings, explained_start settings⟩
    fun _ _ h hc => after_accounts hc h

/-! ## Closing calls -/

/-- One thing to close. -/
inductive Closing
  | reservation (rid : ReservationId)
  | loan (bid : BorrowId)
  deriving DecidableEq

/-- The loan is not out: it was given back, or there is none. -/
def returned (s : Engine) (bid : BorrowId) : Bool :=
  match s.borrows.lookup bid with
  | none => true
  | some b => b.recalled

/-- Everything there is to close: the reservations and the loans that are out. -/
def openItems (s : Engine) : List Closing :=
  s.reservations.keys.map .reservation ++ (s.borrows.keys.filter fun bid => !s.returned bid).map .loan

/-- Release a reservation; recall a loan, unless a release has given it back already. -/
def close (env : Env) (s : Engine) (auth : Authority) : Closing → QuotaStatus × Engine
  | .reservation rid => s.release env rid auth
  | .loan bid => if s.returned bid then (.success, s) else s.recallBorrow env bid auth

def closeStep (s : Engine) (c : Env × Authority × Closing) : Engine := (s.close c.1 c.2.1 c.2.2).2

def CloseSucceeds (s : Engine) (c : Env × Authority × Closing) : Prop :=
  (s.close c.1 c.2.1 c.2.2).1.ok = true

section Returned

variable {env : Env} {s : Engine}

theorem returned_closeLoan {bid : BorrowId} {b : BorrowRecord} (hb : s.borrows.lookup bid = some b)
    (ret : ResourceVector) (bid' : BorrowId) :
    (s.closeLoan env bid b ret).returned bid' = (decide (bid' = bid) || s.returned bid') := by
  unfold returned
  rw [closeLoan_borrows]
  by_cases heq : bid' = bid
  · subst heq
    rw [lookup_modify_self, hb]
    simp
  · rw [lookup_modify_ne _ _ heq]
    simp [heq]

/-- Giving back recorded loans opens none. -/
theorem returned_returnAll {bid : BorrowId} : ∀ (bids : List BorrowId) (s : Engine),
    (∀ x ∈ bids, x ∈ s.borrows) → (s.returnAll env bids).returned bid = false → s.returned bid = false
  | [], _, _, h => h
  | x :: bids, s, hknown, h => by
    obtain ⟨b, hb⟩ := exists_lookup_of_mem (hknown x List.mem_cons_self)
    have hkeep : ∀ y ∈ bids, y ∈ (s.returnListed env x).borrows := fun y hy =>
      (returnListed_move env hb).mem_borrows (hknown y (List.mem_cons_of_mem x hy))
    have hrest := returned_returnAll bids (s.returnListed env x) hkeep h
    rcases returnListed_cases env hb with ⟨-, heq⟩ | ⟨-, heq⟩
    · rwa [heq] at hrest
    · rw [heq, returned_closeLoan hb] at hrest
      simp only [Bool.or_eq_false_iff] at hrest
      exact hrest.2

end Returned

/-- Exactly the reservations of `rest` are left, and no loan is out that is not in it. -/
structure ToClose (s : Engine) (rest : List Closing) : Prop where
  accounts : Accounts s
  reservations : ∀ rid, rid ∈ s.reservations ↔ .reservation rid ∈ rest
  loans : ∀ bid, s.returned bid = false → .loan bid ∈ rest
  nodup : rest.Nodup

section Close

variable {env : Env} {s s' : Engine} {auth : Authority} {rest : List Closing}

theorem Released.config {rid : ReservationId} {r : Reservation} (h : Released env s rid r s') :
    SameConfig s s' := by
  have hframe := returnAll_frame env (s.setStatus rid .released) (s.listedBorrows rid)
  have hmark : SameConfig s (s.setStatus rid .released) := ⟨rfl, rfl, rfl, rfl, rfl, rfl, rfl⟩
  have hdrop : SameConfig s
      (((s.setStatus rid .released).returnAll env (s.listedBorrows rid)).dropReservation rid) :=
    (hmark.trans hframe.config).trans ⟨rfl, rfl, rfl, rfl, rfl, rfl, rfl⟩
  exact hdrop.trans (Resynced.config h)

theorem ToClose.release {rid : ReservationId} (h : ToClose s (.reservation rid :: rest))
    (hauth : s.staleEpoch auth = false) :
    (s.release env rid auth).1.ok = true ∧ ToClose (s.release env rid auth).2 rest ∧
      (s.release env rid auth).2.epoch = s.epoch := by
  obtain ⟨hcons, hcov, hex⟩ := h.accounts
  obtain ⟨r, hr⟩ := exists_lookup_of_mem ((h.reservations rid).mpr List.mem_cons_self)
  obtain ⟨hok, hrel⟩ := release_succeeds env hauth hr (hcons.lifecycle.active rid r hr)
  obtain ⟨s', hs'⟩ : ∃ x, x = (s.release env rid auth).2 := ⟨_, rfl⟩
  rw [← hs'] at hrel ⊢
  obtain ⟨hnotMem, hnodup⟩ := List.nodup_cons.mp h.nodup
  have hres : s'.reservations = s.reservations.erase rid := congrArg Ledger.reservations hrel.ledger
  refine ⟨hok, ⟨⟨hrel.consistent hcons, hrel.loansCovered hcons hcov, hrel.explained hr hcons hex⟩,
    fun rid' => ?_, fun bid hbid => ?_, hnodup⟩, hrel.config.epoch⟩
  · rw [hres, mem_erase, h.reservations]
    constructor
    · rintro ⟨hne, hmem⟩
      rcases List.mem_cons.mp hmem with heq | hmem
      · cases heq
        exact absurd rfl hne
      · exact hmem
    · intro hmem
      refine ⟨?_, List.mem_cons_of_mem _ hmem⟩
      rintro rfl
      exact hnotMem hmem
  · -- the released reservation's loans are given back, no other loan is touched
    have hreturned : s.returned bid = false := by
      have hback : ((s.setStatus rid .released).returnAll env (s.listedBorrows rid)).returned bid = false := by
        unfold returned at hbid ⊢
        rw [Resynced.borrows hrel] at hbid
        exact hbid
      exact returned_returnAll _ (s.setStatus rid .released) (listedBorrows_known hcons.listed rid) hback
    rcases List.mem_cons.mp (h.loans bid hreturned) with heq | hmem
    · cases heq
    · exact hmem

theorem ToClose.recall {bid : BorrowId} (h : ToClose s (.loan bid :: rest)) (hauth : s.staleEpoch auth = false)
    (hout : s.returned bid = false) :
    (s.recallBorrow env bid auth).1.ok = true ∧ ToClose (s.recallBorrow env bid auth).2 rest ∧
      (s.recallBorrow env bid auth).2.epoch = s.epoch := by
  obtain ⟨hcons, hcov, hex⟩ := h.accounts
  obtain ⟨b, hb, hrec⟩ : ∃ b, s.borrows.lookup bid = some b ∧ b.recalled = false := by
    unfold returned at hout
    split at hout
    · cases hout
    · exact ⟨_, by assumption, hout⟩
  obtain ⟨hok, hcall⟩ := recallBorrow_succeeds env hauth hb hrec
  obtain ⟨s', hs'⟩ : ∃ x, x = (s.recallBorrow env bid auth).2 := ⟨_, rfl⟩
  rw [← hs'] at hcall ⊢
  have hframe := closeLoan_frame env s bid b (ResourceVector.min b.consumed b.consumed)
  have hres : s'.reservations = s.reservations := (Resynced.reservations hcall).trans hframe.reservations
  refine ⟨hok, ⟨⟨hcall.consistent hb hrec hcons, hcall.loansCovered hb hrec hcov,
    Resynced.explained_loans hcall hframe hex⟩, fun rid => ?_, fun bid' hbid' => ?_,
    (List.nodup_cons.mp h.nodup).2⟩, (hframe.config.trans (Resynced.config hcall)).epoch⟩
  · rw [hres, h.reservations]
    simp
  · have hclosed : (s.closeLoan env bid b (ResourceVector.min b.consumed b.consumed)).returned bid' = false := by
      unfold returned at hbid' ⊢
      rw [Resynced.borrows hcall] at hbid'
      exact hbid'
    rw [returned_closeLoan hb] at hclosed
    simp only [Bool.or_eq_false_iff, decide_eq_false_iff_not] at hclosed
    rcases List.mem_cons.mp (h.loans bid' hclosed.2) with heq | hmem
    · cases heq
      exact absurd rfl hclosed.1
    · exact hmem

/-- **One closing call succeeds and leaves the rest to close.** -/
theorem ToClose.step (env : Env) {i : Closing} (h : ToClose s (i :: rest)) (hauth : s.staleEpoch auth = false) :
    (s.close env auth i).1.ok = true ∧ ToClose (s.close env auth i).2 rest ∧
      (s.close env auth i).2.epoch = s.epoch := by
  cases i with
  | reservation rid => exact h.release hauth
  | loan bid =>
    cases hout : s.returned bid with
    | false =>
      have heq : s.close env auth (.loan bid) = s.recallBorrow env bid auth := if_neg (by simp [hout])
      rw [heq]
      exact h.recall hauth hout
    | true =>
      have heq : s.close env auth (.loan bid) = (.success, s) := if_pos hout
      rw [heq]
      refine ⟨rfl, ⟨h.accounts, fun rid => ?_, fun bid' hbid' => ?_, (List.nodup_cons.mp h.nodup).2⟩, rfl⟩
      · rw [h.reservations]
        simp
      · rcases List.mem_cons.mp (h.loans bid' hbid') with heq | hmem
        · cases heq
          rw [hout] at hbid'
          cases hbid'
        · exact hmem

end Close

theorem toClose_all : ∀ (order : List (Env × Authority × Closing)) (s : Engine),
    ToClose s (order.map fun c => c.2.2) → (∀ c ∈ order, s.staleEpoch c.2.1 = false) →
    Run closeStep CloseSucceeds s order (order.foldl closeStep s) ∧ ToClose (order.foldl closeStep s) []
  | [], s, h, _ => ⟨.nil s, h⟩
  | c :: order, s, h, hauth => by
    obtain ⟨hok, hnext, hepoch⟩ := h.step c.1 (hauth c List.mem_cons_self)
    have hrest : ∀ c' ∈ order, (s.closeStep c).staleEpoch c'.2.1 = false := by
      intro c' hc'
      have hold := hauth c' (List.mem_cons_of_mem c hc')
      unfold staleEpoch at hold ⊢
      rw [show (s.closeStep c).epoch = s.epoch from hepoch]
      exact hold
    obtain ⟨hrun, hdone⟩ := toClose_all order (s.closeStep c) hnext hrest
    exact ⟨.cons hok hrun, hdone⟩

/-- Nothing left to close: nothing left on the counters. -/
theorem ToClose.zero {s : Engine} (h : ToClose s []) (t : TenantId) (d : ResourceDimension) :
    (s.usageOf t).consumption.get d = 0 ∧ (s.usageOf t).reserved.get d = 0 ∧
    (s.usageOf t).borrowedConsumed.get d = 0 ∧ (s.usageOf t).burst.get d = 0 ∧
    (s.usageOf t).debt.get d = 0 := by
  have hnone : ∀ rid, rid ∉ s.reservations := fun rid hrid =>
    absurd ((h.reservations rid).mp hrid) List.not_mem_nil
  have hres : ¬ s.Reserving t := by
    rintro ⟨rid, r, hr, -⟩
    exact hnone rid (mem_of_lookup hr)
  have hrun : ¬ s.Running t := by
    rintro ⟨aid, a, ha, hact, -⟩
    obtain ⟨r, hr, -⟩ := h.accounts.consistent.lifecycle.backed aid a ha hact
    exact hnone a.reservation (mem_of_lookup hr)
  have hsum : s.borrowedSum t d = 0 := by
    refine total_eq_zero fun bid b hb => if_neg ?_
    intro hp
    simp only [Bool.and_eq_true, Bool.not_eq_true'] at hp
    refine absurd (h.loans bid ?_) List.not_mem_nil
    unfold returned
    rw [hb]
    exact hp.2
  have hex := h.accounts.explained t
  have hborrowed := h.accounts.covered.borrowed t d
  have hdebt := h.accounts.covered.debt t d
  exact ⟨hex.consumption hrun d, hex.reserved hres d, by omega, hex.burst hres d, by omega⟩

theorem toClose_openItems {s : Engine} (h : Accounts s) {items : List Closing} (hall : items.Perm s.openItems) :
    ToClose s items where
  accounts := h
  reservations rid := by
    rw [hall.mem_iff]
    unfold openItems
    simp [mem_keys]
  loans bid hbid := by
    rw [hall.mem_iff]
    have hmem : bid ∈ s.borrows.keys := by
      unfold returned at hbid
      split at hbid
      · cases hbid
      · exact mem_keys.mp (mem_of_lookup (by assumption))
    unfold openItems
    simp [hmem, hbid]
  nodup := by
    rw [hall.nodup_iff]
    unfold openItems
    refine List.nodup_append.mpr ⟨?_, ?_, ?_⟩
    · exact (keys_nodup _).map fun _ _ heq => by cases heq; rfl
    · exact ((keys_nodup _).filter _).map fun _ _ heq => by cases heq; rfl
    · intro i hi j hj heq
      subst heq
      obtain ⟨rid, -, rfl⟩ := List.mem_map.mp hi
      obtain ⟨bid, -, hne⟩ := List.mem_map.mp hj
      cases hne

/-- **The accounts close to zero**, whatever calls came before and in whichever order the open
    reservations and loans are closed. -/
theorem accounting_closes_to_zero (settings : EngineSettings) {l : List (Env × Call)} {s : Engine}
    (hrun : Run Engine.after unobservedCall { settings := settings } l s)
    {order : List (Env × Authority × Closing)} (hall : (order.map fun c => c.2.2).Perm s.openItems)
    (hauth : ∀ c ∈ order, s.staleEpoch c.2.1 = false) :
    Run closeStep CloseSucceeds s order (order.foldl closeStep s) ∧
    ∀ t d, ((order.foldl closeStep s).usageOf t).consumption.get d = 0 ∧
      ((order.foldl closeStep s).usageOf t).reserved.get d = 0 ∧
      ((order.foldl closeStep s).usageOf t).borrowedConsumed.get d = 0 ∧
      ((order.foldl closeStep s).usageOf t).burst.get d = 0 ∧
      ((order.foldl closeStep s).usageOf t).debt.get d = 0 := by
  obtain ⟨hclosed, hdone⟩ := toClose_all order s (toClose_openItems (run_accounts hrun) hall) hauth
  exact ⟨hclosed, hdone.zero⟩

/-- A loan is out, and the lender has a reservation with a running allocation. -/
def openBusiness : List (Env × Call) :=
  let auth : Authority := { epoch := .initial, quotaGeneration := .next .initial }
  twoLoans ++
    [(.numbered 7, .reserve ⟨0, 2⟩ (.fromScalar .acceleratorVRAM 10) auth),
     (.numbered 8, .startAllocation ⟨0, 7⟩ (.fromScalar .acceleratorVRAM 10) auth),
     (.numbered 9, .resizeAllocation ⟨0, 8⟩ (.fromScalar .acceleratorVRAM 4) auth)]

/-- Its closing calls, the loan first. -/
def closingOrder : List (Env × Authority × Closing) :=
  [(.numbered 10, { epoch := .initial }, .loan ⟨5, 0⟩),
   (.numbered 11, { epoch := .initial }, .reservation ⟨0, 7⟩)]

theorem accounting_closes_to_zero_openBusiness :
    ((openBusiness.foldl Engine.after {}).usageOf ⟨0, 2⟩).consumption.get .acceleratorVRAM = 4 ∧
    ((openBusiness.foldl Engine.after {}).usageOf ⟨0, 2⟩).reserved.get .acceleratorVRAM = 6 ∧
    ((openBusiness.foldl Engine.after {}).usageOf ⟨0, 1⟩).debt.get .acceleratorVRAM = 20 ∧
    Run closeStep CloseSucceeds (openBusiness.foldl Engine.after {}) closingOrder
      (closingOrder.foldl closeStep (openBusiness.foldl Engine.after {})) ∧
    ∀ t d, ((closingOrder.foldl closeStep (openBusiness.foldl Engine.after {})).usageOf t).consumption.get d = 0 ∧
      ((closingOrder.foldl closeStep (openBusiness.foldl Engine.after {})).usageOf t).reserved.get d = 0 ∧
      ((closingOrder.foldl closeStep (openBusiness.foldl Engine.after {})).usageOf t).borrowedConsumed.get d = 0 ∧
      ((closingOrder.foldl closeStep (openBusiness.foldl Engine.after {})).usageOf t).burst.get d = 0 ∧
      ((closingOrder.foldl closeStep (openBusiness.foldl Engine.after {})).usageOf t).debt.get d = 0 := by
  have hrun : Run Engine.after unobservedCall {} openBusiness (openBusiness.foldl Engine.after {}) :=
    Run.of_check _ _ (by decide +kernel)
  exact ⟨by decide +kernel, by decide +kernel, by decide +kernel,
    accounting_closes_to_zero {} hrun (by decide +kernel) (by decide +kernel)⟩

end Engine

end QuotaFabric
