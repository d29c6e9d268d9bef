import QuotaFabric.Engine.Trace
import QuotaFabric.Lib.DoubleEntry

/-!
# Borrow and lending records stay paired

A loan is recorded twice: by the borrower's `BorrowRecord` and by the lender's `LendingRecord`.
Through every public call other than `load_from` the two sides agree (`LoanAgrees`), each borrow
has a lending record of its own, and the totals of both sides are equal.

* `LoanMove` — the changes of the loan records: a loan opened on both sides, closed on both sides,
  or nothing; `exec_moves` — every call is a sequence of them;
* `LoanMove.paired` — each keeps the pairing (`Linked`, from the double-entry library);
* `LoanMove.returned` — a returned borrow is final;
* `borrows_and_lends_paired` — the whole-run statement.
-/

set_option autoImplicit false

namespace QuotaFabric

open AList

/-- The two records of one loan agree. -/
structure LoanAgrees (b : BorrowRecord) (l : LendingRecord) : Prop where
  lender : l.lender = b.lender
  borrower : l.borrower = b.borrower
  amount : l.amount = b.amount
  nonNeg : b.amount.NonNeg
  unreturned : b.recalled = false → b.consumed = b.amount ∧ l.outstanding = b.amount
  returned : b.recalled = true → ∀ d, b.consumed.get d = 0 ∧ l.outstanding.get d = 0
  entries : ∀ d, l.outstanding.present d = l.amount.present d

namespace Engine

/-- What the unreturned part of a borrow weighs on `d`. -/
def unreturned (d : ResourceDimension) (_ : BorrowId) (b : BorrowRecord) : Int :=
  if b.recalled then 0 else b.consumed.get d

structure LoansPaired (s : Engine) : Prop where
  linked : Linked BorrowRecord.lending LoanAgrees s.borrows s.lends
  balance : ∀ d, total s.borrows (unreturned d) = total s.lends fun _ l => l.outstanding.get d

/-- The lending record of a loan keeps its entries, at zero when it is returned. -/
theorem LoansPaired.entries {s : Engine} (hp : LoansPaired s) {bid : BorrowId} {b : BorrowRecord}
    (hb : s.borrows.lookup bid = some b) : ∀ l, s.lends.lookup b.lending = some l →
      ∀ d, l.amount.present d = true → l.outstanding.present d = true := by
  intro l hl d hd
  obtain ⟨l', hl', hagree⟩ := hp.linked.pair bid b hb
  rw [hl] at hl'
  cases hl'
  rw [hagree.entries]
  exact hd

/-- Every loan listed in some funding has a record. -/
def ListedKnown (s : Engine) : Prop :=
  ∀ rid f, s.funding.lookup rid = some f → ∀ bid ∈ f.borrows, bid ∈ s.borrows

/-! ## Moves -/

/-- A change of the loan records. -/
inductive LoanMove (env : Env) : Engine → Engine → Prop
  | same {s s' : Engine} (hb : s'.borrows = s.borrows) (hl : s'.lends = s.lends) : LoanMove env s s'
  | opened {s : Engine} {borrower lender : TenantId} {amount : ResourceVector} (k : ResourceDimension)
      (hamount : amount.NonNeg) (hbid : env.borrowId k ∉ s.borrows) (hlid : env.lendingId k ∉ s.lends) :
      LoanMove env s (s.openLoan env k lender borrower amount none)
  | closed {s : Engine} {bid : BorrowId} {b : BorrowRecord} (hb : s.borrows.lookup bid = some b)
      (hrec : b.recalled = false) :
      LoanMove env s (s.closeLoan env bid b (ResourceVector.min b.consumed b.consumed))

abbrev LoanMoves (env : Env) : Engine → Engine → Prop := Relation.ReflTransGen (LoanMove env)

section Moves

variable {env : Env} {s s' : Engine}

theorem LoanMoves.of_same (hb : s'.borrows = s.borrows) (hl : s'.lends = s.lends) : LoanMoves env s s' :=
  .single (.same hb hl)

theorem LoanSteps.moves {B : BorrowId → Prop} (h : LoanSteps env B s s')
    (hB : ∀ bid, B bid → bid ∈ s.borrows) : LoanMoves env s s' := by
  induction h with
  | refl => exact .refl
  | @tail s₁ s₂ hrun hstep ih =>
    refine ih.tail ?_
    cases hstep with
    | touched t => exact .same rfl rfl
    | opened k _ hamount hbid hlid => exact .opened k hamount hbid hlid
    | closed _ hb hrec => exact .closed hb hrec
    | adopted hBbid hmiss => exact absurd (LoanSteps.mem_borrows hrun (hB _ hBbid)) hmiss

theorem Resynced.moves {ts : List TenantId} {s₀ : Engine} (h : Resynced env s s' ts)
    (h₀ : LoanMoves env s₀ s) : LoanMoves env s₀ s' :=
  h₀.tail (.same h.borrows h.lends)

theorem listedBorrows_known (h : ListedKnown s) (rid : ReservationId) :
    ∀ bid ∈ s.listedBorrows rid, bid ∈ s.borrows := by
  unfold listedBorrows
  cases hf : s.funding.lookup rid with
  | none => exact fun _ hbid => absurd hbid List.not_mem_nil
  | some f => exact h rid f hf

theorem RolledBack.moves {t : TenantId} {req : ResourceVector} {auth : Authority} {st : Draw}
    (h : RolledBack env s t req auth st s') : LoanMoves env s s' :=
  (h.loans.moves fun _ hF => hF.elim).trans (h.returned.moves fun bid hbid => (h.drawn bid hbid).2)

/-- **Every call is a sequence of loan moves.** -/
theorem exec_moves {c : Call} (hfresh : FreshLoans env s) (hamount : c.amount.NonNeg)
    (hlisted : ListedKnown s) : LoanMoves env s (s.exec env c).2 := by
  cases hc : c.isCore with
  | false => exact .of_same (exec_sameLoans env s hc).borrows (exec_sameLoans env s hc).lends
  | true =>
    cases c with
    | reserve t req auth =>
      change LoanMoves env s (s.reserve env t req auth).2
      rcases reserve_cases hfresh t req auth with h | ⟨st, h⟩ | ⟨st, h⟩
      · rw [h]
      · exact h.moves
      · obtain ⟨e, hent, hres⟩ := h.recorded
        exact hres.moves ((h.loans.moves fun _ hF => hF.elim).tail (.same hent.borrows hent.lends))
    | commitReservation rid auth =>
      change LoanMoves env s (s.commitReservation env rid auth).2
      rcases commitReservation_cases env s rid auth with h | ⟨r, -, -, h⟩
      · rw [h]
      · exact h.moves (.of_same rfl rfl)
    | release rid auth =>
      change LoanMoves env s (s.release env rid auth).2
      rcases release_cases env s rid auth with h | ⟨r, mid, -, -, hret, h⟩
      · rw [h]
      · have hmid := hret.moves (listedBorrows_known hlisted rid)
        have hmark : LoanMoves env s (s.setStatus rid .released) := .of_same rfl rfl
        exact h.moves ((hmark.trans hmid).tail (.same rfl rfl))
    | borrow b amount auth =>
      change LoanMoves env s (s.borrow env b amount auth).2
      rcases borrow_cases hfresh b amount hamount auth with h | ⟨lender, -, hstep, h⟩
      · rw [h]
      · exact h.moves (LoanSteps.moves (.single hstep) fun _ hF => hF.elim)
    | lend l b amount auth =>
      change LoanMoves env s (s.lend env l b amount auth).2
      rcases lend_cases hfresh l b amount hamount auth with h | ⟨lender, -, hstep, h⟩
      · rw [h]
      · exact h.moves (LoanSteps.moves (.single hstep) fun _ hF => hF.elim)
    | recallBorrow bid auth =>
      change LoanMoves env s (s.recallBorrow env bid auth).2
      rcases recallBorrow_cases env s bid auth with h | ⟨b, hb, hrec, -, h⟩
      · rw [h]
      · exact h.moves (.single (.closed hb hrec))
    | _ => cases hc

end Moves

/-! ## What the moves keep -/

section Keep

variable {env : Env} {s s' : Engine}

theorem LoanMove.mem_borrows (h : LoanMove env s s') {bid : BorrowId} (hb : bid ∈ s.borrows) :
    bid ∈ s'.borrows := by
  cases h with
  | same hsame => rw [hsame]; exact hb
  | opened k _ hbid => rw [openLoan_borrows, emplace_of_notMem hbid, mem_insert]; exact Or.inr hb
  | closed => rw [closeLoan_borrows, mem_modify]; exact hb

theorem LoanMoves.mem_borrows (h : LoanMoves env s s') {bid : BorrowId} (hb : bid ∈ s.borrows) :
    bid ∈ s'.borrows := by
  induction h with
  | refl => exact hb
  | tail _ hstep ih => exact hstep.mem_borrows ih

/-- A returned borrow is final. -/
theorem LoanMove.returned (h : LoanMove env s s') {bid : BorrowId} {b : BorrowRecord}
    (hb : s.borrows.lookup bid = some b) (hrec : b.recalled = true) :
    s'.borrows.lookup bid = some b := by
  cases h with
  | same hsame => rw [hsame]; exact hb
  | opened k _ hbid =>
    rw [openLoan_borrows, emplace_of_notMem hbid, lookup_insert_ne]
    · exact hb
    · rintro rfl; exact hbid (mem_of_lookup hb)
  | closed hb' hrec' =>
    rw [closeLoan_borrows, lookup_modify_ne]
    · exact hb
    · rintro rfl
      rw [hb] at hb'
      cases hb'
      rw [hrec] at hrec'; cases hrec'

theorem LoanMoves.returned (h : LoanMoves env s s') {bid : BorrowId} {b : BorrowRecord}
    (hb : s.borrows.lookup bid = some b) (hrec : b.recalled = true) :
    s'.borrows.lookup bid = some b := by
  induction h with
  | refl => exact hb
  | tail _ hstep ih => exact hstep.returned ih hrec

/-- The record a loan is opened with agrees with its counterpart. -/
theorem loanAgrees_new (env : Env) (s : Engine) (k : ResourceDimension) (lender borrower : TenantId)
    {amount : ResourceVector} (h : amount.NonNeg) :
    LoanAgrees (s.newBorrow env k lender borrower amount none)
      (s.newLending env k lender borrower amount) :=
  ⟨rfl, rfl, rfl, h, fun _ => ⟨rfl, rfl⟩, fun hrec => (by cases hrec), fun _ => rfl⟩

/-- Closing both sides with the whole amount keeps them in agreement. -/
theorem loanAgrees_close {b : BorrowRecord} {l : LendingRecord} (h : LoanAgrees b l)
    (hrec : b.recalled = false) :
    LoanAgrees { b with consumed := b.consumed.subSat b.consumed, recalled := true }
      { l with outstanding := l.outstanding.subSat b.consumed } := by
  obtain ⟨hc, ho⟩ := h.unreturned hrec
  refine ⟨h.lender, h.borrower, h.amount, h.nonNeg, fun hr => (by cases hr), fun _ d => ?_, fun d => ?_⟩
  · simp only
    rw [hc, ho]
    exact ⟨ResourceVector.get_subSat_self d, ResourceVector.get_subSat_self d⟩
  · simp only
    rw [ResourceVector.present_subSat]
    exact h.entries d

theorem LoanMove.paired (h : LoanMove env s s') (hp : LoansPaired s) : LoansPaired s' := by
  cases h with
  | same hb hl => exact ⟨by rw [hb, hl]; exact hp.linked, fun d => by rw [hb, hl]; exact hp.balance d⟩
  | @opened borrower lender amount k hamount hbid hlid =>
    have hagree := loanAgrees_new env s k lender borrower hamount
    constructor
    · rw [openLoan_borrows, openLoan_lends, emplace_of_notMem hbid, emplace_of_notMem hlid]
      exact hp.linked.insert hbid hlid hagree
    · intro d
      rw [openLoan_borrows, openLoan_lends, emplace_of_notMem hbid, emplace_of_notMem hlid]
      exact total_insert_both hbid hlid rfl (hp.balance d)
  | @closed bid b hb hrec =>
    obtain ⟨l, hl, hagree⟩ := hp.linked.pair bid b hb
    obtain ⟨hc, ho⟩ := hagree.unreturned hrec
    have hmin : ResourceVector.min b.consumed b.consumed = b.consumed :=
      ResourceVector.min_self (by rw [hc]; exact hagree.nonNeg)
    rw [hmin]
    constructor
    · rw [closeLoan_borrows, closeLoan_lends]
      refine hp.linked.modify hb rfl fun l' hl' => ?_
      exact loanAgrees_close hl' hrec
    · intro d
      rw [closeLoan_borrows, closeLoan_lends]
      refine total_modify_both hb hl ?_ ?_ (hp.balance d)
      · simp only [unreturned, hrec, Bool.false_eq_true, if_false]
        rw [hc, ho]
      · simp only [unreturned, if_true]
        rw [ho, hc, ResourceVector.get_subSat_self]

theorem LoanMoves.paired (h : LoanMoves env s s') (hp : LoansPaired s) : LoansPaired s' := by
  induction h with
  | refl => exact hp
  | tail _ hstep ih => exact hstep.paired ih

/-! ## Listed loans -/

theorem listedKnown_insert {rid : ReservationId} {f : Funding} (h : ListedKnown s)
    (hmem : ∀ bid, bid ∈ s.borrows → bid ∈ s'.borrows) (hf : ∀ bid ∈ f.borrows, bid ∈ s'.borrows)
    (hfund : s'.funding = s.funding.insert rid f) : ListedKnown s' := by
  intro rid' f' hf' bid hbid
  rw [hfund] at hf'
  by_cases hr : rid' = rid
  · subst hr
    rw [lookup_insert] at hf'
    cases hf'
    exact hf bid hbid
  · rw [lookup_insert_ne hr] at hf'
    exact hmem bid (h rid' f' hf' bid hbid)

theorem listedKnown_erase {rid : ReservationId} (h : ListedKnown s)
    (hmem : ∀ bid, bid ∈ s.borrows → bid ∈ s'.borrows)
    (hfund : s'.funding = s.funding.erase rid) : ListedKnown s' := by
  intro rid' f' hf' bid hbid
  rw [hfund] at hf'
  by_cases hr : rid' = rid
  · subst hr
    rw [lookup_erase] at hf'; cases hf'
  · rw [lookup_erase_ne hr] at hf'
    exact hmem bid (h rid' f' hf' bid hbid)

theorem listedKnown_same (h : ListedKnown s) (hmem : ∀ bid, bid ∈ s.borrows → bid ∈ s'.borrows)
    (hfund : s'.funding = s.funding) : ListedKnown s' := by
  intro rid f hf bid hbid
  rw [hfund] at hf
  exact hmem bid (h rid f hf bid hbid)

/-- What `funding` becomes. -/
theorem exec_funding {c : Call} (hfresh : FreshLoans env s) (hamount : c.amount.NonNeg) :
    (s.exec env c).2.funding = s.funding ∨
    (∃ rid, (s.exec env c).2.funding = s.funding.erase rid) ∨
    (∃ rid f, (s.exec env c).2.funding = s.funding.insert rid f ∧
      ∀ bid ∈ f.borrows, bid ∈ (s.exec env c).2.borrows) := by
  cases hc : c.isCore with
  | false => exact Or.inl (exec_sameLoans env s hc).funding
  | true =>
    cases c with
    | reserve t req auth =>
      rcases reserve_cases hfresh t req auth with h | ⟨st, h⟩ | ⟨st, h⟩
      · exact Or.inl (congrArg Engine.funding h)
      · exact Or.inl h.frame.funding
      · right; right
        obtain ⟨e, hent, hres⟩ := h.recorded
        refine ⟨env.reservationId, { burst := st.burst, borrows := st.borrowIds }, ?_, ?_⟩
        · change (s.reserve env t req auth).2.funding = _
          rw [hres.funding, hent.funding, h.loans.frame.funding]
        · intro bid hbid
          change bid ∈ (s.reserve env t req auth).2.borrows
          rw [hres.borrows, hent.borrows]
          exact (h.drawn bid hbid).2
    | commitReservation rid auth =>
      left
      change (s.commitReservation env rid auth).2.funding = _
      rcases commitReservation_cases env s rid auth with h | ⟨r, -, -, h⟩
      · rw [h]
      · exact h.funding
    | release rid auth =>
      rcases release_cases env s rid auth with h | ⟨r, mid, -, -, hret, h⟩
      · exact Or.inl (congrArg Engine.funding h)
      · right; left
        refine ⟨rid, ?_⟩
        change (s.release env rid auth).2.funding = _
        rw [h.funding]
        change mid.funding.erase rid = _
        rw [hret.frame.funding]; rfl
    | borrow b amount auth =>
      left
      change (s.borrow env b amount auth).2.funding = _
      rcases borrow_cases hfresh b amount hamount auth with h | ⟨lender, -, hstep, h⟩
      · rw [h]
      · exact h.funding.trans hstep.frame.funding
    | lend l b amount auth =>
      left
      change (s.lend env l b amount auth).2.funding = _
      rcases lend_cases hfresh l b amount hamount auth with h | ⟨lender, -, hstep, h⟩
      · rw [h]
      · exact h.funding.trans hstep.frame.funding
    | recallBorrow bid auth =>
      left
      change (s.recallBorrow env bid auth).2.funding = _
      rcases recallBorrow_cases env s bid auth with h | ⟨b, -, -, hstep, h⟩
      · rw [h]
      · exact h.funding.trans hstep.frame.funding
    | _ => cases hc

theorem exec_listedKnown {c : Call} (hfresh : FreshLoans env s) (hamount : c.amount.NonNeg)
    (h : ListedKnown s) : ListedKnown (s.exec env c).2 := by
  have hmem := fun bid (hb : bid ∈ s.borrows) => (exec_moves hfresh hamount h).mem_borrows hb
  rcases exec_funding hfresh hamount with hf | ⟨rid, hf⟩ | ⟨rid, f, hf, hknown⟩
  · exact listedKnown_same h hmem hf
  · exact listedKnown_erase h hmem hf
  · exact listedKnown_insert h hmem hknown hf

end Keep

/-! ## Whole runs -/

/-- Any public call, with new ids and non-negative amounts. -/
def anyCall (s : Engine) (c : Env × Call) : Prop := FreshIds c.1 s ∧ c.2.amount.NonNeg

instance (s : Engine) (c : Env × Call) : Decidable (anyCall s c) :=
  inferInstanceAs (Decidable (_ ∧ _))

theorem after_paired {s : Engine} {c : Env × Call} (hc : anyCall s c)
    (h : LoansPaired s ∧ ListedKnown s) : LoansPaired (s.after c) ∧ ListedKnown (s.after c) :=
  ⟨(exec_moves hc.1.toFreshLoans hc.2 h.2).paired h.1, exec_listedKnown hc.1.toFreshLoans hc.2 h.2⟩

theorem loansPaired_start {s : Engine} (hb : s.borrows = ∅) (hl : s.lends = ∅) : LoansPaired s :=
  ⟨by rw [hb, hl]; exact .empty, fun d => by rw [hb, hl]; rfl⟩

/-- **Borrow and lending records stay paired and conserve capacity**, in every run of public calls
    from a fresh engine.  A returned borrow cannot be returned again, now or later. -/
theorem borrows_and_lends_paired (settings : EngineSettings) {l : List (Env × Call)} {s : Engine}
    (hrun : Run Engine.after anyCall { settings := settings } l s) :
    (∀ bid b, s.borrows.lookup bid = some b → ∃ ln, s.lends.lookup b.lending = some ln ∧
      ln.lender = b.lender ∧ ln.borrower = b.borrower ∧ ln.amount = b.amount ∧
      (b.recalled = false → b.consumed = b.amount ∧ ln.outstanding = b.amount) ∧
      (b.recalled = true → ∀ d, b.consumed.get d = 0 ∧ ln.outstanding.get d = 0)) ∧
    (∀ bid b bid' b', s.borrows.lookup bid = some b → s.borrows.lookup bid' = some b' →
      b.lending = b'.lending → bid = bid') ∧
    (∀ d, total s.borrows (fun _ b => if b.recalled then 0 else b.consumed.get d) =
      total s.lends fun _ ln => ln.outstanding.get d) ∧
    (∀ bid b, s.borrows.lookup bid = some b → b.recalled = true →
      (∀ env amount, (s.returnBorrow env bid amount).1.ok = false ∧
        (s.returnBorrow env bid amount).2 = s) ∧
      ∀ l' s', Run Engine.after anyCall s l' s' → s'.borrows.lookup bid = some b) := by
  have hinv : LoansPaired s ∧ ListedKnown s :=
    hrun.invariant ⟨loansPaired_start rfl rfl, fun rid f hf => by cases hf⟩
      fun t c h hc => after_paired hc h
  refine ⟨?_, ?_, hinv.1.balance, ?_⟩
  · intro bid b hb
    obtain ⟨ln, hln, h⟩ := hinv.1.linked.pair bid b hb
    exact ⟨ln, hln, h.lender, h.borrower, h.amount, h.unreturned, h.returned⟩
  · exact hinv.1.linked.distinct
  · intro bid b hb hrec
    refine ⟨fun env amount => ?_, fun l' s' hrun' => ?_⟩
    · unfold returnBorrow
      rw [hb]
      simp [hrec, QuotaStatus.failure]
    · have hstay : ListedKnown s' ∧ s'.borrows.lookup bid = some b :=
        hrun'.invariant (I := fun x => ListedKnown x ∧ x.borrows.lookup bid = some b) ⟨hinv.2, hb⟩
          fun t c h hc => ⟨exec_listedKnown hc.1.toFreshLoans hc.2 h.1,
            (exec_moves hc.1.toFreshLoans hc.2 h.1).returned h.2 hrec⟩
      exact hstay.2

/-- Two tenants, a quota, two loans, and one of them recalled. -/
def twoLoans : List (Env × Call) :=
  let auth : Authority := { epoch := .initial, quotaGeneration := .next .initial }
  [(.numbered 1, .createTenant ⟨0, 1⟩ [] none 100),
   (.numbered 2, .createTenant ⟨0, 2⟩ [] none 100),
   (.numbered 3, .setTenantQuota ⟨0, 2⟩
     { guaranteed := .fromScalar .acceleratorVRAM 100, borrowable := .fromScalar .acceleratorVRAM 60 }),
   (.numbered 4, .borrow ⟨0, 1⟩ (.fromScalar .acceleratorVRAM 10) auth),
   (.numbered 5, .lend ⟨0, 2⟩ ⟨0, 1⟩ (.fromScalar .acceleratorVRAM 20) auth),
   (.numbered 6, .recallBorrow ⟨4, 0⟩ auth)]

theorem borrows_and_lends_paired_twoLoans :
    (twoLoans.foldl Engine.after {}).borrows.entries.length = 2 ∧
    (total (twoLoans.foldl Engine.after {}).lends fun _ ln => ln.outstanding.get .acceleratorVRAM) = 20 ∧
    (total (twoLoans.foldl Engine.after {}).borrows fun _ b =>
        if b.recalled then 0 else b.consumed.get .acceleratorVRAM) =
      total (twoLoans.foldl Engine.after {}).lends fun _ ln => ln.outstanding.get .acceleratorVRAM :=
  ⟨by decide +kernel, by decide +kernel,
    (borrows_and_lends_paired {} (Run.of_check _ _ (by decide +kernel))).2.2.1 .acceleratorVRAM⟩

end Engine

end QuotaFabric
