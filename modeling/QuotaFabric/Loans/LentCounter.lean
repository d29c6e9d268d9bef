import QuotaFabric.Loans.Lending

/-!
# When the lent counter is exact

`return_borrow` takes a loan off the lender's counter only if the lending record has no entry left,
which never happens: a returned record keeps its entries, at zero.  The counter is repaired when
the lender itself is resynchronised.  `recall_borrow` does that; `release` and the rollback inside
`reserve` resynchronise the borrower only.

* `StrandsLoan` — the calls that give back a loan without telling its lender;
* `lent_counter_exact` — in every run without them the counter is the sum of the outstanding loans,
  and no lender without unreturned loans is told to recall;
* `lent_counter_leaks` — one such call breaks both.
-/

set_option autoImplicit false

namespace QuotaFabric

open AList

namespace Engine

/-- Lent counters equal the records, and a recall is demanded only where something is lent. -/
def LentSound (s : Engine) : Prop :=
  ∀ x, (∀ d, (s.envelope x).lent.get d = s.lentSum x d) ∧
    ((∀ bid b, s.borrows.lookup bid = some b → b.lender = x → b.recalled = true) →
      (s.envelope x).compliance ≠ .recallRequired)

/-- The call gives back a loan of a positive amount without resynchronising its lender: a release of
    a reservation whose funding lists one, or a reservation that fails for want of a lender after
    it has drawn one. -/
def StrandsLoan (s : Engine) (c : Env × Call) : Prop :=
  match c.2 with
  | .release rid auth =>
    s.staleEpoch auth = false ∧ (∃ r, s.reservations.lookup rid = some r ∧ activeRes r = true) ∧
      ∃ bid ∈ s.listedBorrows rid, ∃ b, s.borrows.lookup bid = some b ∧ b.recalled = false ∧
        ∃ d, 0 < b.consumed.get d
  | .reserve t req auth =>
    Accepted c.1 s t req auth ∧ ∃ st, StuckAt c.1 s t req st ∧ st.borrowIds ≠ []
  | _ => False

/-- Lent counters equal the records, for all tenants but those in `ts`. -/
def LentExact (ts : List TenantId) (s : Engine) : Prop :=
  ∀ x, x ∉ ts → ∀ d, (s.usageOf x).lent.get d = s.lentSum x d

section Steps

variable {env : Env} {s₀ s s' : Engine}

theorem openLoan_lentExact (hq : QuotasValid s₀) (h : LendInv s₀ s) (he : LentExact [] s)
    {borrower lender : TenantId} {amount : ResourceVector} {k : ResourceDimension}
    (hl : s.chooseLender env borrower amount = some lender) (hlid : env.lendingId k ∉ s.lends) :
    LentExact [] (s.openLoan env k lender borrower amount none) := by
  intro x hx d
  have hold := he x hx d
  rw [lentSum_openLoan lender borrower amount hlid, lent_openLoan (h.config.quotasValid hq) h.covers hl]
  by_cases hxl : x = lender
  · subst hxl
    rw [if_pos rfl, if_pos rfl, SparseVec.get_add]
    omega
  · rw [if_neg hxl, if_neg fun heq => hxl heq.symm]
    omega

/-- What a return changes in the sums: only those of the lender on record. -/
theorem lentSum_closeLoan_ne {bid : BorrowId} {b : BorrowRecord} {ret : ResourceVector} {x : TenantId}
    (hx : ∀ l, s.lends.lookup b.lending = some l → l.lender ≠ x) (d : ResourceDimension) :
    (s.closeLoan env bid b ret).lentSum x d = s.lentSum x d := by
  unfold lentSum
  rw [closeLoan_lends]
  cases hl : s.lends.lookup b.lending with
  | none => rw [modify_of_lookup_none _ hl]
  | some l =>
    have hm := total_modify (fun y : LendingRecord => { y with outstanding := y.outstanding.subSat ret })
      (fun _ y => if y.lender == x then y.outstanding.get d else 0) hl
    have hne : (l.lender == x) = false := by simpa using hx l hl
    simp only [hne, Bool.false_eq_true, if_false] at hm
    omega

/-- A return of nothing changes nothing. -/
theorem lentSum_closeLoan_zero (h : LendInv s₀ s) (bid : BorrowId) (b : BorrowRecord)
    {ret : ResourceVector} (hret : ∀ d, ret.get d = 0) (x : TenantId) (d : ResourceDimension) :
    (s.closeLoan env bid b ret).lentSum x d = s.lentSum x d := by
  unfold lentSum
  rw [closeLoan_lends]
  cases hl : s.lends.lookup b.lending with
  | none => rw [modify_of_lookup_none _ hl]
  | some l =>
    have hm := total_modify (fun y : LendingRecord => { y with outstanding := y.outstanding.subSat ret })
      (fun _ y => if y.lender == x then y.outstanding.get d else 0) hl
    have hz := ResourceVector.get_subSat_zero (h.lends b.lending l hl).1 (hret d)
    simp only [hz] at hm
    omega

theorem get_min_self_zero {v : ResourceVector} (h : ∀ d, v.get d = 0) (d : ResourceDimension) :
    (ResourceVector.min v v).get d = 0 := by
  rw [ResourceVector.min_self fun d => (h d).ge]
  exact h d

/-- The borrows that may be given back are known, and nothing is left on those unreturned. -/
def NothingOwed (B : BorrowId → Prop) (s : Engine) : Prop :=
  ∀ bid, B bid → ∃ b, s.borrows.lookup bid = some b ∧ (b.recalled = false → ∀ d, b.consumed.get d = 0)

theorem LoanStep.nothingOwed {B : BorrowId → Prop} (hstep : LoanStep env B s s')
    (h : NothingOwed B s) : NothingOwed B s' := by
  intro bid hB
  obtain ⟨b, hb, hz⟩ := h bid hB
  cases hstep with
  | touched t => exact ⟨b, hb, hz⟩
  | opened k _ _ hbid _ =>
    refine ⟨b, ?_, hz⟩
    rw [openLoan_borrows, emplace_of_notMem hbid, lookup_insert_ne]
    · exact hb
    · rintro rfl; exact hbid (mem_of_lookup hb)
  | @closed bid' b' hB' hb' hrec =>
    rw [closeLoan_borrows]
    by_cases hid : bid = bid'
    · subst hid
      rw [lookup_modify_self, hb]
      exact ⟨_, rfl, fun hr => by cases hr⟩
    · rw [lookup_modify_ne _ _ hid]
      exact ⟨b, hb, hz⟩
  | @adopted bid' hB' hmiss =>
    obtain ⟨b', hb', -⟩ := h bid' hB'
    exact absurd (mem_of_lookup hb') hmiss

theorem LoanStep.lentExact {B : BorrowId → Prop} (hq : QuotasValid s₀) (hstep : LoanStep env B s s')
    (h : LendInv s₀ s) (hz : NothingOwed B s) (he : LentExact [] s) : LentExact [] s' := by
  cases hstep with
  | touched t => exact fun x hx d => by rw [usageOf_modifyUsage_id]; exact he x hx d
  | opened k hl _ _ hlid => exact openLoan_lentExact hq h he hl hlid
  | @closed bid b hB hb hrec =>
    intro x hx d
    obtain ⟨b', hb', hzero⟩ := hz bid hB
    rw [hb] at hb'
    cases hb'
    rw [lent_closeLoan h.covers, lentSum_closeLoan_zero h bid b (get_min_self_zero (hzero hrec))]
    exact he x hx d
  | adopted => exact he

theorem LoanSteps.lentExact {B : BorrowId → Prop} (hq : QuotasValid s₀) (hsteps : LoanSteps env B s s')
    (h : LendInv s₀ s) (hz : NothingOwed B s) (he : LentExact [] s) :
    LentExact [] s' := by
  have hall : LendInv s₀ s' ∧ NothingOwed B s' ∧ LentExact [] s' := by
    induction hsteps with
    | refl => exact ⟨h, hz, he⟩
    | tail _ hstep ih =>
      exact ⟨hstep.lendInv hq ih.1, hstep.nothingOwed ih.2.1, hstep.lentExact hq ih.1 ih.2.1 ih.2.2⟩
  exact hall.2.2

/-- Resynchronising the tenants that were off makes all counters exact. -/
theorem Resynced.lentExact {ts : List TenantId} (hsync : Resynced env s s' ts)
    (h : LendInv s₀ s) {u : List TenantId} (he : LentExact u s) (hu : ∀ x ∈ u, x ∈ ts) :
    LentExact [] s' := by
  intro x _ d
  rw [hsync.lentSum]
  by_cases hx : x ∈ ts
  · exact hsync.lent_get h.covers hx d
  · rw [hsync.other x hx]
    exact he x (fun hxu => hx (hu x hxu)) d

/-! ## Every call that strands nothing -/

/-- The invariant of runs that strand no loan. -/
structure LentInv (s₀ s : Engine) : Prop where
  lend : LendInv s₀ s
  paired : LoansPaired s
  listed : ListedKnown s
  exact : LentExact [] s

theorem release_nothingOwed {rid : ReservationId} {auth : Authority} {r : Reservation}
    (hlisted : ListedKnown s) (hp : LoansPaired s) (hep : s.staleEpoch auth = false)
    (hr : s.reservations.lookup rid = some r) (hact : activeRes r = true)
    (hno : ¬ StrandsLoan s (env, .release rid auth)) :
    NothingOwed (fun bid => bid ∈ s.listedBorrows rid) s := by
  intro bid hbid
  obtain ⟨b, hb⟩ := exists_lookup_of_mem (listedBorrows_known hlisted rid bid hbid)
  refine ⟨b, hb, fun hrec d => ?_⟩
  obtain ⟨l, -, hagree⟩ := hp.linked.pair bid b hb
  have hnn : 0 ≤ b.consumed.get d := by
    rw [(hagree.unreturned hrec).1]; exact hagree.nonNeg d
  have hle : ¬ 0 < b.consumed.get d := fun hpos =>
    hno ⟨hep, ⟨r, hr, hact⟩, bid, hbid, b, hb, hrec, d, hpos⟩
  omega

theorem exec_lentExact {c : Call} (hq : QuotasValid s₀) (hfresh : FreshLoans env s)
    (hamount : c.amount.NonNeg) (hc : c.isCore = true) (hno : ¬ StrandsLoan s (env, c))
    (h : LentInv s₀ s) : LentExact [] (s.exec env c).2 := by
  have hnone : ∀ s : Engine, NothingOwed (fun _ => False) s := fun _ _ hF => hF.elim
  cases c with
  | reserve t req auth =>
    change LentExact [] (s.reserve env t req auth).2
    rcases reserve_cases hfresh t req auth with heq | ⟨st, hback⟩ | ⟨st, hadm⟩
    · rw [heq]; exact h.exact
    · -- no loan was drawn, so nothing is rolled back
      have hnil : st.borrowIds = [] := by
        by_contra hne
        exact hno ⟨hback.accepted, st, hback.stuck, hne⟩
      have hmid := hback.loans.lentExact hq h.lend (hnone s) h.exact
      have hres : (s.reserve env t req auth).2 = st.engine := by rw [hback.result, hnil]; rfl
      rw [hres]; exact hmid
    · obtain ⟨e, hent, hres⟩ := hadm.recorded
      have hexact := hadm.loans.lentExact hq h.lend (hnone s) h.exact
      have hsum : ∀ x d, e.lentSum x d = st.engine.lentSum x d := fun x d => by
        unfold lentSum; rw [hent.lends]
      have he := LendInv.entered (hadm.loans.lendInv hq h.lend) hent hamount
      refine hres.lentExact he (u := []) (fun x hx d => ?_) fun x hx => absurd hx List.not_mem_nil
      rw [(hent.counters x).2.2.1, hsum]
      exact hexact x hx d
  | commitReservation rid auth =>
    change LentExact [] (s.commitReservation env rid auth).2
    rcases commitReservation_cases env s rid auth with heq | ⟨r, -, -, hres⟩
    · rw [heq]; exact h.exact
    · exact hres.lentExact (h.lend.markCommitted rid) (u := []) h.exact
        fun x hx => absurd hx List.not_mem_nil
  | release rid auth =>
    change LentExact [] (s.release env rid auth).2
    cases hep : s.staleEpoch auth with
    | true =>
      have heq : (s.release env rid auth).2 = s := by
        unfold release; rw [hep]; rfl
      rw [heq]; exact h.exact
    | false =>
      rcases release_cases env s rid auth with heq | ⟨r, mid, hr, hact, hret, hres⟩
      · rw [heq]; exact h.exact
      · have hz := release_nothingOwed h.listed h.paired hep hr hact hno
        have hmark := h.lend.setStatus rid .released
        have hexact := hret.lentExact hq hmark hz h.exact
        exact hres.lentExact ((hret.lendInv hq hmark).dropReservation rid) (u := []) hexact
          fun x hx => absurd hx List.not_mem_nil
  | borrow b amount auth =>
    change LentExact [] (s.borrow env b amount auth).2
    rcases borrow_cases hfresh b amount hamount auth with heq | ⟨lender, -, hstep, hres⟩
    · rw [heq]; exact h.exact
    · exact hres.lentExact (hstep.lendInv hq h.lend) (u := [])
        (hstep.lentExact hq h.lend (hnone s) h.exact) fun x hx => absurd hx List.not_mem_nil
  | lend l b amount auth =>
    change LentExact [] (s.lend env l b amount auth).2
    rcases lend_cases hfresh l b amount hamount auth with heq | ⟨lender, -, hstep, hres⟩
    · rw [heq]; exact h.exact
    · exact hres.lentExact (hstep.lendInv hq h.lend) (u := [])
        (hstep.lentExact hq h.lend (hnone s) h.exact) fun x hx => absurd hx List.not_mem_nil
  | recallBorrow bid auth =>
    change LentExact [] (s.recallBorrow env bid auth).2
    rcases recallBorrow_cases env s bid auth with heq | ⟨b, hb, hrec, hstep, hres⟩
    · rw [heq]; exact h.exact
    · -- the return puts the lender's counter off, and the lender is resynchronised
      refine hres.lentExact (hstep.lendInv hq h.lend) (u := [b.lender]) ?_ ?_
      · intro x hx d
        rw [lent_closeLoan h.lend.covers, lentSum_closeLoan_ne]
        · exact h.exact x List.not_mem_nil d
        · intro l hl heq
          obtain ⟨l', hl', hagree⟩ := h.paired.linked.pair bid b hb
          rw [hl] at hl'
          cases hl'
          exact hx (by rw [← heq, hagree.lender]; exact List.mem_singleton_self _)
      · intro x hx
        rw [List.mem_singleton.mp hx]
        exact List.mem_cons_self
  | _ => cases hc

end Steps

/-! ## Recall demands -/

theorem complianceLoop_ne_recall {s : Engine} {t : TenantId} {eff : ResourceQuota}
    {committed : ResourceVector} (h : ∀ d, s.recallNeeded t eff committed d = false) :
    ∀ (ds : List ResourceDimension) (overSoft overHard : Bool),
      s.complianceLoop t eff committed ds overSoft overHard ≠ .recallRequired
  | [], overSoft, overHard => by
    unfold complianceLoop
    cases overHard <;> cases overSoft <;> simp
  | d :: ds, overSoft, overHard => by
    unfold complianceLoop
    simp only [h d, Bool.false_eq_true, if_false]
    exact complianceLoop_ne_recall h ds _ _

theorem compliance_ne_recall {s : Engine} {x : TenantId} (h : ∀ d, (s.usageOf x).lent.get d = 0) :
    (s.envelope x).compliance ≠ .recallRequired := by
  change s.complianceLoop x (s.effectiveLattice x) (s.committed x) allResourceDimensions false false ≠ _
  apply complianceLoop_ne_recall
  intro d
  unfold recallNeeded
  simp [h d]

/-- A lender all of whose loans are returned has nothing outstanding. -/
theorem lentSum_of_returned {s : Engine} (hp : LoansPaired s) {x : TenantId}
    (h : ∀ bid b, s.borrows.lookup bid = some b → b.lender = x → b.recalled = true)
    (d : ResourceDimension) : s.lentSum x d = 0 := by
  unfold lentSum
  apply total_eq_zero
  intro lid l hl
  split
  · rename_i hx
    obtain ⟨bid, b, hb, rfl⟩ := hp.linked.named lid l hl
    obtain ⟨l', hl', hagree⟩ := hp.linked.pair bid b hb
    rw [hl] at hl'
    cases hl'
    have hlender : b.lender = x := by rw [← hagree.lender]; simpa using hx
    exact (hagree.returned (h bid b hb hlender) d).2
  · rfl

theorem LentInv.sound {s₀ s : Engine} (h : LentInv s₀ s) : LentSound s := by
  intro x
  refine ⟨fun d => h.exact x List.not_mem_nil d, fun hret => compliance_ne_recall fun d => ?_⟩
  rw [h.exact x List.not_mem_nil d]
  exact lentSum_of_returned h.paired hret d

/-! ## Whole runs -/

/-- An engine without loans. -/
structure NoLoans (s : Engine) : Prop extends NoLends s where
  borrows : s.borrows = ∅
  listed : ListedKnown s
  lent : ∀ x d, (s.usageOf x).lent.get d = 0

theorem NoLoans.lentInv {s : Engine} (h : NoLoans s) : LentInv s s where
  lend := h.toNoLends.lendInv
  paired := loansPaired_start h.borrows h.lends
  listed := h.listed
  exact x _ d := by rw [h.lent, h.toNoLends.lentSum]

theorem after_lentInv {s₀ s : Engine} {c : Env × Call} (hq : QuotasValid s₀)
    (hc : coreCall s c ∧ ¬ StrandsLoan s c) (h : LentInv s₀ s) : LentInv s₀ (s.after c) := by
  obtain ⟨⟨hcore, hfresh, hamount⟩, hno⟩ := hc
  exact ⟨exec_lendInv hq hfresh.toFreshLoans hamount hcore h.lend,
    (exec_moves hfresh.toFreshLoans hamount h.listed).paired h.paired,
    exec_listedKnown hfresh.toFreshLoans hamount h.listed,
    exec_lentExact hq hfresh.toFreshLoans hamount hcore hno h⟩

/-- **In every run whose calls strand no loan, the lent counter of every tenant is the sum of its
    outstanding loans, and no tenant without unreturned loans is told to recall.** -/
theorem lent_counter_exact {s₀ s : Engine} {l : List (Env × Call)} (hstart : NoLoans s₀)
    (hrun : Run Engine.after (fun s c => coreCall s c ∧ ¬ StrandsLoan s c) s₀ l s) : LentSound s :=
  LentInv.sound (hrun.invariant hstart.lentInv fun _ _ h hc => after_lentInv hstart.quotas hc h)

theorem Configured.noLoans {s : Engine} (h : Configured s) (hq : QuotasValid s) : NoLoans s where
  toNoLends := h.noLends hq
  borrows := h.borrows
  listed rid f hf := by rw [h.funding] at hf; cases hf
  lent x d := by rw [h.usageOf]; rfl

/-- A loan and its recall. -/
def loanAndRecall : List (Env × Call) :=
  [(.numbered 1, .borrow cappedTenant (.fromScalar .acceleratorVRAM 10) firstAuthority),
   (.numbered 2, .recallBorrow ⟨1, 0⟩ firstAuthority)]

theorem lent_counter_exact_loanAndRecall :
    (loanAndRecall.foldl Engine.after borrowerAndLender).borrows.entries.length = 1 ∧
      LentSound (loanAndRecall.foldl Engine.after borrowerAndLender) :=
  ⟨by decide +kernel,
    lent_counter_exact (borrowerAndLender_configured.noLoans borrowerAndLender_quotasValid)
      (Run.cons ⟨by decide +kernel, id⟩ (Run.cons ⟨by decide +kernel, id⟩ (.nil _)))⟩

/-- The capped tenant reserves 20 and borrows 10 for it, the lender fills its own guarantee, and the
    borrower releases. -/
def strandedLoan : List (Env × Call) :=
  [(.numbered 1, .reserve cappedTenant (.fromScalar .acceleratorVRAM 20) firstAuthority),
   (.numbered 2, .reserve lendingTenant (.fromScalar .acceleratorVRAM 95) firstAuthority),
   (.numbered 3, .release ⟨0, 1⟩ firstAuthority)]

/-- The release returns the loan, but the lender still counts it as lent, and is told to recall. -/
theorem lent_counter_leaks :
    NoLoans borrowerAndLender ∧
    Run Engine.after coreCall borrowerAndLender strandedLoan
      (strandedLoan.foldl Engine.after borrowerAndLender) ∧
    ((strandedLoan.foldl Engine.after borrowerAndLender).envelope lendingTenant).lent.get
      .acceleratorVRAM = 10 ∧
    (strandedLoan.foldl Engine.after borrowerAndLender).lentSum lendingTenant .acceleratorVRAM = 0 ∧
    (∀ bid b, (strandedLoan.foldl Engine.after borrowerAndLender).borrows.lookup bid = some b →
      b.lender = lendingTenant → b.recalled = true) ∧
    ((strandedLoan.foldl Engine.after borrowerAndLender).envelope lendingTenant).compliance =
      .recallRequired ∧
    ¬ LentSound (strandedLoan.foldl Engine.after borrowerAndLender) := by
  have hlent : ((strandedLoan.foldl Engine.after borrowerAndLender).envelope lendingTenant).lent.get
      .acceleratorVRAM = 10 := by decide +kernel
  have hsum : (strandedLoan.foldl Engine.after borrowerAndLender).lentSum lendingTenant
      .acceleratorVRAM = 0 := by decide +kernel
  refine ⟨borrowerAndLender_configured.noLoans borrowerAndLender_quotasValid,
    Run.of_check _ _ (by decide +kernel), hlent, hsum, by decide +kernel, by decide +kernel, ?_⟩
  intro hsound
  have h := (hsound lendingTenant).1 .acceleratorVRAM
  rw [hlent, hsum] at h
  exact absurd h (by decide)

end Engine

end QuotaFabric
