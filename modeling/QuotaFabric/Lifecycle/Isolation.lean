import QuotaFabric.Lifecycle.Reservations

/-!
# What a tenant's calls do to the other tenants

Reservation calls are addressed by reservation or allocation id, `release` scans all allocations, and
a loan writes into the counters of two tenants.  Still, of every other tenant they can change only the
lent counter, and only when they borrow from it.

* `ListedOwn` — the loans that fund a reservation were drawn for its tenant;
* `LoansFor` — loans drawn and given back for one tenant, seen by the others;
* `RecordsKept` — reservations, funding and allocations of a tenant are the same;
* `tenant_isolation` — the statement for every reachable state.
-/

set_option autoImplicit false

namespace QuotaFabric

open AList

namespace Engine

/-! ## Loans drawn for one tenant -/

/-- The parties of a loan never change. -/
theorem LoanMove.parties {env : Env} {s s' : Engine} (h : LoanMove env s s') {bid : BorrowId}
    {b : BorrowRecord} (hb : s.borrows.lookup bid = some b) :
    ∃ b', s'.borrows.lookup bid = some b' ∧ b'.lender = b.lender ∧ b'.borrower = b.borrower := by
  cases h with
  | same hsame => exact ⟨b, hsame ▸ hb, rfl, rfl⟩
  | opened k _ hbid =>
    refine ⟨b, ?_, rfl, rfl⟩
    rw [openLoan_borrows, emplace_of_notMem hbid, lookup_insert_ne]
    · exact hb
    · rintro rfl; exact hbid (mem_of_lookup hb)
  | @closed bid' b' hb' =>
    rw [closeLoan_borrows]
    by_cases heq : bid = bid'
    · subst heq
      rw [lookup_modify_self, hb]
      exact ⟨_, rfl, rfl, rfl⟩
    · rw [lookup_modify_ne _ _ heq]
      exact ⟨b, hb, rfl, rfl⟩

theorem LoanMoves.parties {env : Env} {s s' : Engine} (h : LoanMoves env s s') {bid : BorrowId}
    {b : BorrowRecord} (hb : s.borrows.lookup bid = some b) :
    ∃ b', s'.borrows.lookup bid = some b' ∧ b'.lender = b.lender ∧ b'.borrower = b.borrower := by
  induction h with
  | refl => exact ⟨b, hb, rfl, rfl⟩
  | tail _ hstep ih =>
    obtain ⟨b₁, hb₁, hl₁, hr₁⟩ := ih
    obtain ⟨b₂, hb₂, hl₂, hr₂⟩ := hstep.parties hb₁
    exact ⟨b₂, hb₂, hl₂.trans hl₁, hr₂.trans hr₁⟩

/-- The borrows of a list are recorded, with `t` as the borrower. -/
def BorrowedBy (s : Engine) (t : TenantId) (bids : List BorrowId) : Prop :=
  ∀ bid ∈ bids, ∃ b, s.borrows.lookup bid = some b ∧ b.borrower = t

theorem LoanMoves.borrowedBy {env : Env} {s s' : Engine} (h : LoanMoves env s s') {t : TenantId}
    {bids : List BorrowId} (hb : BorrowedBy s t bids) : BorrowedBy s' t bids := by
  intro bid hbid
  obtain ⟨b, hlook, ht⟩ := hb bid hbid
  obtain ⟨b', hlook', -, ht'⟩ := h.parties hlook
  exact ⟨b', hlook', ht'.trans ht⟩

section Return

variable {env : Env} {s : Engine} {t : TenantId}

/-- Giving back a recorded loan, or finding it given back already. -/
theorem returnListed_cases (env : Env) {bid : BorrowId} {b : BorrowRecord} (hb : s.borrows.lookup bid = some b) :
    (b.recalled = true ∧ s.returnListed env bid = s) ∨
    (b.recalled = false ∧ s.returnListed env bid =
      s.closeLoan env bid b (ResourceVector.min b.consumed b.consumed)) := by
  have hmem : s.borrows.emplace bid {} = s.borrows := if_pos (mem_of_lookup hb)
  unfold returnListed
  simp only [hmem, hb, Option.getD_some]
  unfold returnBorrow
  rw [hb]
  cases hrec : b.recalled with
  | true => exact Or.inl ⟨rfl, by simp [hrec]⟩
  | false => exact Or.inr ⟨rfl, by simp [hrec]⟩

theorem returnListed_move (env : Env) {bid : BorrowId} {b : BorrowRecord} (hb : s.borrows.lookup bid = some b) :
    LoanMove env s (s.returnListed env bid) := by
  rcases returnListed_cases env hb with ⟨-, h⟩ | ⟨hrec, h⟩
  · rw [h]; exact .same rfl rfl
  · rw [h]; exact .closed hb hrec

/-- Giving a loan back touches the counters of the borrower only: the lending record keeps its
    entries, so the lender's counter is not written. -/
theorem usageOf_returnListed (hp : LoansPaired s) {bid : BorrowId} {b : BorrowRecord}
    (hb : s.borrows.lookup bid = some b) {x : TenantId} (hx : x ≠ b.borrower) :
    (s.returnListed env bid).usageOf x = s.usageOf x := by
  rcases returnListed_cases env hb with ⟨-, h⟩ | ⟨hrec, h⟩
  · rw [h]
  · rw [h, usageOf_closeLoan env s bid b _ (hp.entries hb), if_neg hx, if_neg hx]

theorem usageOf_returnAll {x : TenantId} (hx : x ≠ t) : ∀ (bids : List BorrowId) (s : Engine),
    LoansPaired s → BorrowedBy s t bids → (s.returnAll env bids).usageOf x = s.usageOf x
  | [], _, _, _ => rfl
  | bid :: bids, s, hp, hown => by
    obtain ⟨b, hb, ht⟩ := hown bid List.mem_cons_self
    have hmove := returnListed_move env hb
    have hrest : BorrowedBy (s.returnListed env bid) t bids :=
      LoanMoves.borrowedBy (.single hmove) fun y hy => hown y (List.mem_cons_of_mem bid hy)
    have htail := usageOf_returnAll hx bids (s.returnListed env bid) (hmove.paired hp) hrest
    exact htail.trans (usageOf_returnListed hp hb (by rw [ht]; exact hx))

end Return

/-- Loans drawn for `t` between two states, as the other tenants see them. -/
structure LoansFor (s : Engine) (t : TenantId) (s' : Engine) : Prop where
  usage : ∀ x, x ≠ t → s'.usageOf x = { s.usageOf x with lent := (s'.usageOf x).lent }
  lent : ∀ x, x ≠ t → (s'.usageOf x).lent = (s.usageOf x).lent ∨
    ∃ bid b, bid ∉ s.borrows ∧ s'.borrows.lookup bid = some b ∧ b.lender = x ∧ b.borrower = t

theorem LoansFor.refl (s : Engine) (t : TenantId) : LoansFor s t s :=
  ⟨fun _ _ => rfl, fun _ _ => Or.inl rfl⟩

/-- The other tenants keep their counters and no record is lost. -/
theorem LoansFor.keep {s s₁ s₂ : Engine} {t : TenantId} (h : LoansFor s t s₁)
    (husage : ∀ x, x ≠ t → s₂.usageOf x = s₁.usageOf x)
    (hborrows : ∀ bid b, s₁.borrows.lookup bid = some b →
      ∃ b', s₂.borrows.lookup bid = some b' ∧ b'.lender = b.lender ∧ b'.borrower = b.borrower) :
    LoansFor s t s₂ where
  usage x hx := by rw [husage x hx]; exact h.usage x hx
  lent x hx := by
    rw [husage x hx]
    rcases h.lent x hx with hsame | ⟨bid, b, hnew, hb, hl, ht⟩
    · exact Or.inl hsame
    · obtain ⟨b', hb', hl', ht'⟩ := hborrows bid b hb
      exact Or.inr ⟨bid, b', hnew, hb', hl'.trans hl, ht'.trans ht⟩

section Draw

variable {env : Env} {s : Engine} {t : TenantId} {req : ResourceVector}

/-- One dimension of the funding loop: its loan is `t`'s. -/
theorem fundDimension_loansFor {eff : ResourceQuota} {cb : ResourceVector} {d : ResourceDimension}
    {ds : List ResourceDimension} {st st' : Draw} (hfresh : FreshLoans env s)
    (hinv : FundInv env s (d :: ds) st) (h : LoansFor s t st.engine)
    (hown : BorrowedBy st.engine t st.borrowIds)
    (hd : fundDimension env eff cb t req st d = .ok st') :
    LoansFor s t st'.engine ∧ BorrowedBy st'.engine t st'.borrowIds := by
  rcases fundDimension_cases env eff cb t req st d with
    ⟨-, burst, hok, -⟩ | ⟨-, -, -, ⟨lender, burst, hl, hok, -⟩ | ⟨-, q, herr⟩⟩
  · rw [hok] at hd
    cases hd
    exact ⟨h, hown⟩
  · rw [hok] at hd
    cases hd
    have hb := hinv.borrowId d List.mem_cons_self
    have hnew : (st.engine.openLoan env d lender t
        (ResourceVector.fromScalar d (borrowNeed eff cb req d)) none).borrows.lookup (env.borrowId d) =
        some (st.engine.newBorrow env d lender t
          (ResourceVector.fromScalar d (borrowNeed eff cb req d)) none) := by
      rw [openLoan_borrows, emplace_of_notMem hb, lookup_insert]
    have hold : ∀ bid b, st.engine.borrows.lookup bid = some b →
        (st.engine.openLoan env d lender t
          (ResourceVector.fromScalar d (borrowNeed eff cb req d)) none).borrows.lookup bid = some b := by
      intro bid b hbid
      rw [openLoan_borrows, emplace_of_notMem hb, lookup_insert_ne]
      · exact hbid
      · rintro rfl; exact hb (mem_of_lookup hbid)
    refine ⟨⟨fun x hx => ?_, fun x hx => ?_⟩, fun bid hbid => ?_⟩
    · rw [usageOf_openLoan, if_neg hx, if_neg hx, h.usage x hx]
    · rw [usageOf_openLoan]
      by_cases hxl : x = lender
      · exact Or.inr ⟨env.borrowId d, _, hfresh.borrowId d, hnew, hxl.symm, rfl⟩
      · simp only [hxl, if_false]
        rcases h.lent x hx with hsame | ⟨bid, b, hbid, hlook, hparties⟩
        · exact Or.inl hsame
        · exact Or.inr ⟨bid, b, hbid, hold bid b hlook, hparties⟩
    · rcases List.mem_append.mp hbid with hbid | hbid
      · obtain ⟨b, hlook, ht⟩ := hown bid hbid
        exact ⟨b, hold bid b hlook, ht⟩
      · rw [List.mem_singleton.mp hbid]
        exact ⟨_, hnew, rfl⟩
  · rw [herr] at hd; cases hd

/-- The funding loop draws for `t`. -/
theorem fundLoop_loansFor {eff : ResourceQuota} {cb : ResourceVector} {ds post : List ResourceDimension}
    {st : Draw} (hfresh : FreshLoans env s) (hds : allResourceDimensions = ds ++ post)
    (h : fundLoop env eff cb t req ds { engine := s.modifyUsage t id } = .ok st) :
    LoansFor s t st.engine ∧ BorrowedBy st.engine t st.borrowIds := by
  have hrule := fundLoop_rule
    (P := fun ds st => FundInv env s (ds ++ post) st ∧ LoansFor s t st.engine ∧
      BorrowedBy st.engine t st.borrowIds)
    (fun d ds st st' hp hd => ⟨fundInv_step hfresh hp.1 hd,
      fundDimension_loansFor hfresh hp.1 hp.2.1 hp.2.2 hd⟩)
    ds _ st ⟨hds ▸ fundInv_start hfresh t, ?_, fun _ hbid => absurd hbid List.not_mem_nil⟩ h
  · exact hrule.2
  · exact (LoansFor.refl s t).keep (fun x _ => usageOf_modifyUsage_id s t x)
      fun bid b hb => ⟨b, hb, rfl, rfl⟩

variable {auth : Authority} {st : Draw} {s' : Engine}

theorem Admitted.loansFor (h : Admitted env s t req auth st s') (hfresh : FreshLoans env s) :
    LoansFor s t s' ∧ BorrowedBy s' t st.borrowIds := by
  obtain ⟨hfor, hown⟩ := fundLoop_loansFor hfresh (List.append_nil _).symm h.funded
  obtain ⟨e, hent, hres⟩ := h.recorded
  have hborrows : s'.borrows = st.engine.borrows := hres.borrows.trans hent.borrows
  refine ⟨hfor.keep (fun x hx => ?_) fun bid b hb => ⟨b, hborrows ▸ hb, rfl, rfl⟩, ?_⟩
  · rw [hres.other x (by simpa using hx)]
    exact hent.other x hx
  · unfold BorrowedBy
    rw [hborrows]
    exact hown

theorem RolledBack.loansFor (h : RolledBack env s t req auth st s') (hfresh : FreshLoans env s)
    (hp : LoansPaired s) : LoansFor s t s' := by
  obtain ⟨pre, d, post, hds, hpre, -, -⟩ := h.stuck
  obtain ⟨hfor, hown⟩ := fundLoop_loansFor hfresh hds hpre
  have hpaired : LoansPaired st.engine := (h.loans.moves fun _ hF => hF.elim).paired hp
  have hback := h.returned.moves fun bid hbid => (h.drawn bid hbid).2
  refine hfor.keep (fun x hx => ?_) fun bid b hb => hback.parties hb
  rw [h.result]
  exact usageOf_returnAll hx st.borrowIds st.engine hpaired hown

end Draw

/-! ## Loans of a reservation -/

/-- The loans listed for a reservation were drawn for its tenant. -/
def ListedOwn (s : Engine) : Prop :=
  ∀ rid f r, s.funding.lookup rid = some f → s.reservations.lookup rid = some r →
    BorrowedBy s r.tenant f.borrows

theorem ListedOwn.listedBorrows {s : Engine} (h : ListedOwn s) {rid : ReservationId} {r : Reservation}
    (hr : s.reservations.lookup rid = some r) : BorrowedBy s r.tenant (s.listedBorrows rid) := by
  unfold Engine.listedBorrows
  cases hf : s.funding.lookup rid with
  | none => exact fun _ hbid => absurd hbid List.not_mem_nil
  | some f => exact h rid f r hf hr

/-- A change that keeps loans, funding and the tenants of the reservations. -/
theorem ListedOwn.keep {s s' : Engine} (h : ListedOwn s)
    (hb : ∀ t bids, BorrowedBy s t bids → BorrowedBy s' t bids) (hf : s'.funding = s.funding)
    (hr : ∀ rid r', s'.reservations.lookup rid = some r' →
      ∃ r, s.reservations.lookup rid = some r ∧ r.tenant = r'.tenant) : ListedOwn s' := by
  intro rid f r' hfund hres
  obtain ⟨r, hlook, ht⟩ := hr rid r' hres
  rw [← ht]
  exact hb _ _ (h rid f r (hf ▸ hfund) hlook)

theorem lookup_tenant_modify {m : UMap ReservationId Reservation} {rid : ReservationId}
    {f : Reservation → Reservation} (hf : ∀ r, (f r).tenant = r.tenant) :
    ∀ rid' r', (m.modify rid f).lookup rid' = some r' →
      ∃ r, m.lookup rid' = some r ∧ r.tenant = r'.tenant := by
  intro rid' r' h
  by_cases heq : rid' = rid
  · subst heq
    rw [lookup_modify_self] at h
    obtain ⟨r, hr, rfl⟩ := Option.map_eq_some_iff.mp h
    exact ⟨r, hr, (hf r).symm⟩
  · rw [lookup_modify_ne _ _ heq] at h
    exact ⟨r', h, rfl⟩

/-- A reservation dropped with its funding. -/
theorem ListedOwn.dropped {s s' : Engine} (h : ListedOwn s)
    (hb : ∀ t bids, BorrowedBy s t bids → BorrowedBy s' t bids) {rid : ReservationId}
    (hledger : s'.ledger = (s.dropReservation rid).ledger) : ListedOwn s' := by
  have hres : s'.reservations = s.reservations.erase rid := congrArg Ledger.reservations hledger
  have hfund : s'.funding = s.funding.erase rid := congrArg Ledger.funding hledger
  intro rid' f r' hf hr'
  rw [hres] at hr'
  rw [hfund] at hf
  by_cases heq : rid' = rid
  · subst heq
    rw [lookup_erase] at hf
    cases hf
  · rw [lookup_erase_ne heq] at hf hr'
    exact hb _ _ (h rid' f r' hf hr')

section Keep

variable {env : Env} {s s' : Engine} {c : Call}

/-- **Every call keeps the loans of a reservation its tenant's own.** -/
theorem CallStep.listedOwn (h : CallStep env s c s') (hfresh : FreshIds env s)
    (hmoves : LoanMoves env s s') (hown : ListedOwn s) : ListedOwn s' := by
  have hb : ∀ t bids, BorrowedBy s t bids → BorrowedBy s' t bids := fun t bids => hmoves.borrowedBy
  have hkeep : s'.ledger = s.ledger → ListedOwn s' := fun heq => by
    refine hown.keep hb (congrArg Ledger.funding heq) fun rid r' hr => ⟨r', ?_, rfl⟩
    have hres : s'.reservations = s.reservations := congrArg Ledger.reservations heq
    exact hres ▸ hr
  have hsame : s'.reservations = s.reservations → ∀ rid r', s'.reservations.lookup rid = some r' →
      ∃ r, s.reservations.lookup rid = some r ∧ r.tenant = r'.tenant :=
    fun heq rid r' hr => ⟨r', heq ▸ hr, rfl⟩
  cases h with
  | kept c h => exact hkeep h.ledger
  | rolledBack h => exact hkeep h.frame.ledger
  | @admitted t req auth st s' h =>
    have hres : s'.reservations =
        s.reservations.emplace env.reservationId (s.newReservation env t req auth) :=
      congrArg Ledger.reservations h.ledger
    have hfund : s'.funding = s.funding.insert env.reservationId _ := congrArg Ledger.funding h.ledger
    rw [emplace_of_notMem hfresh.reservationId] at hres
    intro rid f r hf hr
    rw [hres] at hr
    rw [hfund] at hf
    by_cases heq : rid = env.reservationId
    · subst heq
      rw [lookup_insert] at hf hr
      cases hf
      cases hr
      exact (h.loansFor hfresh.toFreshLoans).2
    · rw [lookup_insert_ne heq] at hf hr
      exact hb _ _ (hown rid f r hf hr)
  | committed hr hstatus h =>
    refine hown.keep hb h.funding ?_
    rw [h.reservations]
    exact lookup_tenant_modify fun _ => rfl
  | started hr hact h =>
    refine hown.keep hb h.funding ?_
    rw [h.reservations]
    exact lookup_tenant_modify fun _ => rfl
  | resized hgen ha hact hts h => exact hown.keep hb h.funding (hsame h.reservations)
  | stopped ha hact h => exact hown.keep hb h.funding (hsame h.reservations)
  | released hr hact hmid h =>
    rw [hmid] at h
    exact hown.dropped hb (h.ledger.trans (release_ledger ..))
  | borrowed hlender h => exact hkeep (h.ledger.trans (openLoan_frame ..).ledger)
  | lent hlender h => exact hkeep (h.ledger.trans (openLoan_frame ..).ledger)
  | recalled hrec hb' h => exact hkeep (h.ledger.trans (closeLoan_frame ..).ledger)
  | observed h => exact hown.keep hb h.funding (hsame h.reservations)

end Keep

/-- What is true of the records in every reachable state. -/
structure Consistent (s : Engine) : Prop where
  lifecycle : Lifecycle s.ledger
  paired : LoansPaired s
  listed : ListedKnown s
  own : ListedOwn s

theorem consistent_start (settings : EngineSettings) : Consistent { settings := settings } :=
  ⟨Lifecycle.empty, loansPaired_start rfl rfl, fun _ _ hf => (by cases hf), fun _ _ _ hf => (by cases hf)⟩

theorem after_consistent {s : Engine} {c : Env × Call} (hc : anyCall s c) (h : Consistent s) : Consistent (s.after c) := by
  obtain ⟨hpaired, hlisted⟩ := after_paired hc ⟨h.paired, h.listed⟩
  have hmoves := exec_moves hc.1.toFreshLoans hc.2 h.listed
  exact ⟨after_lifecycle hc h.lifecycle, hpaired, hlisted,
    (exec_callStep hc.1.toFreshLoans hc.2).listedOwn hc.1 hmoves h.own⟩

/-! ## Isolation -/

/-- The tenant whose reservation or allocation a call acts on. -/
def actsOn (s : Engine) : Call → Option TenantId
  | .reserve t _ _ => some t
  | .commitReservation rid _ => (s.reservations.lookup rid).map (·.tenant)
  | .startAllocation rid _ _ => (s.reservations.lookup rid).map (·.tenant)
  | .resizeAllocation aid _ _ => (s.allocations.lookup aid).map (·.tenant)
  | .release rid _ => (s.reservations.lookup rid).map (·.tenant)
  | .releaseAllocation aid _ => (s.allocations.lookup aid).map (·.tenant)
  | _ => none

/-- Reservations, funding and allocations of `x` are the same. -/
structure RecordsKept (s : Engine) (x : TenantId) (s' : Engine) : Prop where
  reservations : SameWhere (fun r => r.tenant = x) s.reservations s'.reservations
  funding : ∀ rid r, s.reservations.lookup rid = some r → r.tenant = x →
    s'.funding.lookup rid = s.funding.lookup rid
  allocations : SameWhere (fun a => a.tenant = x) s.allocations s'.allocations

theorem RecordsKept.of_ledger {s s' : Engine} (h : s'.ledger = s.ledger) (x : TenantId) : RecordsKept s x s' := by
  have hr : s'.reservations = s.reservations := congrArg Ledger.reservations h
  have hf : s'.funding = s.funding := congrArg Ledger.funding h
  have ha : s'.allocations = s.allocations := congrArg Ledger.allocations h
  exact ⟨by rw [hr]; exact .refl _ _, fun rid _ _ _ => by rw [hf], by rw [ha]; exact .refl _ _⟩

section Isolation

variable {env : Env} {s s' : Engine} {c : Call} {t x : TenantId}

/-- A change of one allocation of `t`. -/
theorem recordsKept_withModified {aid : AllocationId} {a : Allocation} {f : Allocation → Allocation}
    {ts : List TenantId} (h : Resynced env (s.withModified aid f) s' ts)
    (ha : s.allocations.lookup aid = some a) (hf : ∀ a, (f a).tenant = a.tenant) (hx : x ≠ a.tenant) :
    RecordsKept s x s' where
  reservations := by rw [h.reservations]; exact .refl _ _
  funding rid _ _ _ := by rw [h.funding]; rfl
  allocations := by
    rw [h.allocations]
    refine sameWhere_modify fun a' ha' => ?_
    rw [ha] at ha'
    cases ha'
    rw [hf]
    exact ⟨fun hc => hx hc.symm, fun hc => hx hc.symm⟩

theorem recordsKept_status {rid : ReservationId} {r : Reservation} {f : Reservation → Reservation}
    (hr : s.reservations.lookup rid = some r) (hf : ∀ r, (f r).tenant = r.tenant) (hx : x ≠ r.tenant) :
    SameWhere (fun r => r.tenant = x) s.reservations (s.reservations.modify rid f) := by
  refine sameWhere_modify fun r' hr' => ?_
  rw [hr] at hr'
  cases hr'
  rw [hf]
  exact ⟨fun hc => hx hc.symm, fun hc => hx hc.symm⟩

/-- Stopping the allocations of a reservation: the active ones are its tenant's, the others do not
    change. -/
theorem recordsKept_dropReservation (hl : Lifecycle s.ledger) {rid : ReservationId} {r : Reservation}
    (hr : s.reservations.lookup rid = some r) (hx : x ≠ r.tenant) : RecordsKept s x (s.dropReservation rid) where
  reservations := by
    refine sameWhere_erase fun r' hr' => ?_
    rw [hr] at hr'
    cases hr'
    exact fun hc => hx hc.symm
  funding rid' r' hr' ht := by
    refine lookup_erase_ne ?_
    rintro rfl
    rw [hr] at hr'
    cases hr'
    exact hx ht.symm
  allocations := by
    refine sameWhere_mapVals fun aid a ha => ?_
    by_cases hrid : a.reservation = rid
    · rw [if_pos hrid]
      cases hact : a.active with
      | false =>
        left
        cases a
        simp only at hact
        rw [hact]
      | true =>
        obtain ⟨r', hr', ht⟩ := hl.backed aid a ha hact
        rw [hrid, show s.ledger.reservations = s.reservations from rfl, hr] at hr'
        cases hr'
        exact Or.inr ⟨fun hc => hx (hc.symm.trans ht.symm), fun hc => hx (hc.symm.trans ht.symm)⟩
    · rw [if_neg hrid]
      exact Or.inl rfl

theorem recordsKept_dropped (hl : Lifecycle s.ledger) {rid : ReservationId} {r : Reservation}
    (hr : s.reservations.lookup rid = some r) (hledger : s'.ledger = (s.dropReservation rid).ledger)
    (hx : x ≠ r.tenant) : RecordsKept s x s' := by
  have hdrop := recordsKept_dropReservation hl hr hx
  have hr' : s'.reservations = _ := congrArg Ledger.reservations hledger
  have hf' : s'.funding = _ := congrArg Ledger.funding hledger
  have ha' : s'.allocations = _ := congrArg Ledger.allocations hledger
  exact ⟨by rw [hr']; exact hdrop.reservations, by rw [hf']; exact hdrop.funding,
    by rw [ha']; exact hdrop.allocations⟩

/-- The loans of a released reservation are its tenant's: the others keep their counters. -/
theorem usageOf_released (hs : Consistent s) {rid : ReservationId} {r : Reservation}
    (hr : s.reservations.lookup rid = some r) (hx : x ≠ r.tenant) :
    ((s.setStatus rid .released).returnAll env (s.listedBorrows rid)).usageOf x = s.usageOf x := by
  have hpaired : LoansPaired (s.setStatus rid .released) := ⟨hs.paired.linked, hs.paired.balance⟩
  exact usageOf_returnAll hx _ _ hpaired (hs.own.listedBorrows hr)

/-- What the call of one tenant leaves of another's records. -/
theorem CallStep.recordsKept (h : CallStep env s c s') (hfresh : FreshIds env s) (hs : Consistent s)
    (hacts : s.actsOn c = some t) (hx : x ≠ t) : RecordsKept s x s' := by
  cases h with
  | kept c h => exact .of_ledger h.ledger x
  | rolledBack h => exact .of_ledger h.frame.ledger x
  | @admitted t' req auth st s' h =>
    cases hacts
    have hres : s'.reservations =
        s.reservations.emplace env.reservationId (s.newReservation env t req auth) :=
      congrArg Ledger.reservations h.ledger
    have hfund : s'.funding = s.funding.insert env.reservationId _ := congrArg Ledger.funding h.ledger
    have halloc : s'.allocations = s.allocations := congrArg Ledger.allocations h.ledger
    rw [emplace_of_notMem hfresh.reservationId] at hres
    refine ⟨?_, fun rid r hr _ => ?_, by rw [halloc]; exact .refl _ _⟩
    · rw [hres]
      exact sameWhere_insert hfresh.reservationId fun hc => hx hc.symm
    · rw [hfund, lookup_insert_ne]
      rintro rfl
      exact hfresh.reservationId (mem_of_lookup hr)
  | committed hr hstatus h =>
    rw [actsOn, hr] at hacts
    cases hacts
    refine ⟨?_, fun rid _ _ _ => by rw [h.funding]; rfl, by rw [h.allocations]; exact .refl _ _⟩
    rw [h.reservations]
    exact recordsKept_status hr (fun _ => rfl) hx
  | started hr hact h =>
    rw [actsOn, hr] at hacts
    cases hacts
    refine ⟨?_, fun rid _ _ _ => by rw [h.funding]; rfl, ?_⟩
    · rw [h.reservations]
      exact recordsKept_status hr (fun _ => rfl) hx
    · rw [h.allocations]
      show SameWhere _ _ (emplace _ _ s.allocations)
      rw [emplace_of_notMem hfresh.allocationId]
      exact sameWhere_insert hfresh.allocationId fun hc => hx hc.symm
  | resized hgen ha hact hts h =>
    rw [actsOn, ha] at hacts
    cases hacts
    exact recordsKept_withModified h ha (fun _ => rfl) hx
  | stopped ha hact h =>
    rw [actsOn, ha] at hacts
    cases hacts
    exact recordsKept_withModified h ha (fun _ => rfl) hx
  | released hr hact hmid h =>
    rw [actsOn, hr] at hacts
    cases hacts
    rw [hmid] at h
    exact recordsKept_dropped hs.lifecycle hr (h.ledger.trans (release_ledger ..)) hx
  | borrowed => cases hacts
  | lent => cases hacts
  | recalled => cases hacts
  | observed => cases hacts

/-- What the call of one tenant leaves of another's counters. -/
theorem CallStep.usage_other (h : CallStep env s c s') (hfresh : FreshIds env s) (hs : Consistent s)
    (hacts : s.actsOn c = some t) (hx : x ≠ t) :
    s'.usageOf x = s.usageOf x ∨ (∃ req auth, c = .reserve t req auth) ∧ LoansFor s t s' := by
  have hnot : ∀ ts : List TenantId, ts = [] ∨ ts = [t] → x ∉ ts := by
    rintro ts (rfl | rfl)
    · exact List.not_mem_nil
    · simpa using hx
  cases h with
  | kept c h => exact Or.inl (h.usageOf x)
  | rolledBack h =>
    cases hacts
    exact Or.inr ⟨⟨_, _, rfl⟩, h.loansFor hfresh.toFreshLoans hs.paired⟩
  | admitted h =>
    cases hacts
    exact Or.inr ⟨⟨_, _, rfl⟩, (h.loansFor hfresh.toFreshLoans).1⟩
  | committed hr hstatus h =>
    rw [actsOn, hr] at hacts
    cases hacts
    exact Or.inl (h.other x (hnot _ (Or.inr rfl)))
  | started hr hact h =>
    rw [actsOn, hr] at hacts
    cases hacts
    exact Or.inl (h.other x (hnot _ (Or.inr rfl)))
  | resized hgen ha hact hts h =>
    rw [actsOn, ha] at hacts
    cases hacts
    exact Or.inl (h.other x (hnot _ hts))
  | stopped ha hact h =>
    rw [actsOn, ha] at hacts
    cases hacts
    exact Or.inl (h.other x (hnot _ (Or.inr rfl)))
  | @released rid auth r mid s' hr hact hmid h =>
    rw [actsOn, hr] at hacts
    cases hacts
    left
    have hback : mid.usageOf x = s.usageOf x := hmid ▸ usageOf_released hs hr hx
    exact (h.other x (hnot _ (Or.inr rfl))).trans hback
  | borrowed => cases hacts
  | lent => cases hacts
  | recalled => cases hacts
  | observed => cases hacts

end Isolation

theorem run_consistent {settings : EngineSettings} {l : List (Env × Call)} {s : Engine}
    (hrun : Run Engine.after anyCall { settings := settings } l s) : Consistent s :=
  hrun.invariant (consistent_start settings) fun _ _ h hc => after_consistent hc h

/-- **Tenant isolation**: a reservation or allocation call of tenant `A` leaves the records and the
    counters of every other tenant `B` as they were, except that a `reserve` that borrows from `B`
    changes `B`'s lent counter. -/
theorem tenant_isolation (settings : EngineSettings) {l : List (Env × Call)} {s : Engine}
    (hrun : Run Engine.after anyCall { settings := settings } l s) {env : Env} {c : Call}
    (hc : anyCall s (env, c)) {A B : TenantId} (hacts : s.actsOn c = some A) (hB : B ≠ A) :
    (∀ rid r, r.tenant = B →
      ((s.exec env c).2.reservations.lookup rid = some r ↔ s.reservations.lookup rid = some r)) ∧
    (∀ rid r, s.reservations.lookup rid = some r → r.tenant = B →
      (s.exec env c).2.funding.lookup rid = s.funding.lookup rid) ∧
    (∀ aid a, a.tenant = B →
      ((s.exec env c).2.allocations.lookup aid = some a ↔ s.allocations.lookup aid = some a)) ∧
    ((s.exec env c).2.usageOf B = s.usageOf B ∨
      (∃ req auth, c = .reserve A req auth) ∧
      (s.exec env c).2.usageOf B = { s.usageOf B with lent := ((s.exec env c).2.usageOf B).lent } ∧
      ∃ bid b, bid ∉ s.borrows ∧ (s.exec env c).2.borrows.lookup bid = some b ∧
        b.lender = B ∧ b.borrower = A) := by
  have hs := run_consistent hrun
  have hstep := exec_callStep hc.1.toFreshLoans hc.2
  have hrecords := hstep.recordsKept hc.1 hs hacts hB
  refine ⟨hrecords.reservations, hrecords.funding, hrecords.allocations, ?_⟩
  rcases hstep.usage_other hc.1 hs hacts hB with hsame | ⟨hreserve, hfor⟩
  · exact Or.inl hsame
  · rcases hfor.lent B hB with hlent | hloan
    · left
      rw [hfor.usage B hB, hlent]
    · exact Or.inr ⟨hreserve, hfor.usage B hB, hloan⟩

theorem tenant_isolation_twoLoans :
    let s := twoLoans.foldl Engine.after {}
    let c : Call := .reserve ⟨0, 2⟩ (.fromScalar .acceleratorVRAM 10)
      { epoch := .initial, quotaGeneration := .next .initial }
    (s.exec (.numbered 7) c).1.ok = true ∧
      ((s.exec (.numbered 7) c).2.usageOf ⟨0, 1⟩ = s.usageOf ⟨0, 1⟩ ∨
        (∃ req auth, c = .reserve ⟨0, 2⟩ req auth) ∧
        (s.exec (.numbered 7) c).2.usageOf ⟨0, 1⟩ =
          { s.usageOf ⟨0, 1⟩ with lent := ((s.exec (.numbered 7) c).2.usageOf ⟨0, 1⟩).lent } ∧
        ∃ bid b, bid ∉ s.borrows ∧ (s.exec (.numbered 7) c).2.borrows.lookup bid = some b ∧
          b.lender = ⟨0, 1⟩ ∧ b.borrower = ⟨0, 2⟩) := by
  have hrun : Run Engine.after anyCall {} twoLoans (twoLoans.foldl Engine.after {}) :=
    Run.of_check _ _ (by decide +kernel)
  exact ⟨by decide +kernel,
    (tenant_isolation {} hrun (by decide +kernel) rfl (by decide)).2.2.2⟩

end Engine

end QuotaFabric
