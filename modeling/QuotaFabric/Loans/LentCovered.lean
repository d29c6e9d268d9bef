import QuotaFabric.Loans.Recall

/-!
# Lent counters that the records cover

Whatever the limits, a lent counter exceeds what its lender's records say only after a loan was given back
behind the lender's back.

* `LoanSteps.lentCovered`, `Resynced.lentCovered` — drawing loans, and resynchronising, keeps it covered;
* `exec_lentCovered` — so does every call that strands no loan.
-/

set_option autoImplicit false

namespace QuotaFabric

open AList

namespace Engine

section Steps

variable {env : Env} {s s' : Engine} {c : Call}

theorem LentCovered.same {x : TenantId} (h : LentCovered s x) (hl : s'.lends = s.lends)
    (hu : (s'.usageOf x).lent = (s.usageOf x).lent) : LentCovered s' x := by
  intro d
  unfold lentSum
  rw [hu, hl]
  exact h d

theorem openLoan_lentCovered (h : ∀ x, LentCovered s x) {k : ResourceDimension} (lender borrower : TenantId)
    {amount : ResourceVector} (hamount : amount.NonNeg) (hlid : env.lendingId k ∉ s.lends) (x : TenantId) :
    LentCovered (s.openLoan env k lender borrower amount none) x := by
  intro d
  rw [lentSum_openLoan lender borrower amount hlid, usageOf_openLoan]
  by_cases hx : x = lender
  · simp only [hx, if_true]
    exact accum_covered (h lender d) hamount
  · simp only [hx, Ne.symm hx, if_false, zero_add]
    exact h x d

/-- A return takes something off the sum of its lender only. -/
theorem closeLoan_lentCovered (h : ∀ x, LentCovered s x) (hp : LoansPaired s) {bid : BorrowId} {b : BorrowRecord}
    (hb : s.borrows.lookup bid = some b) (hrec : b.recalled = false) {x : TenantId}
    (hx : b.lender ≠ x ∨ ∀ d, b.consumed.get d = 0) :
    LentCovered (s.closeLoan env bid b (ResourceVector.min b.consumed b.consumed)) x := by
  intro d
  have hsum : s.lentSum x d = (if b.lender = x then b.consumed.get d else 0) +
      (s.closeLoan env bid b (ResourceVector.min b.consumed b.consumed)).lentSum x d :=
    lentSum_closeLoan hp hb hrec x d
  have hnothing : (if b.lender = x then b.consumed.get d else 0) = 0 := by
    rcases hx with hne | hzero
    · rw [if_neg hne]
    · rw [hzero d, ite_self]
  rw [hnothing, zero_add] at hsum
  rw [← hsum, usageOf_closeLoan env s bid b _ (hp.entries hb)]
  exact h x d

theorem LoanStep.lentCovered {B : BorrowId → Prop} (hstep : LoanStep env B s s') (hp : LoansPaired s)
    (hz : NothingOwed B s) (h : ∀ x, LentCovered s x) : ∀ x, LentCovered s' x := by
  cases hstep with
  | touched t => exact fun x => (h x).same rfl (by rw [usageOf_modifyUsage_id])
  | opened k hlender hamount hbid hlid => exact openLoan_lentCovered h _ _ hamount hlid
  | @closed bid b hB hb hrec =>
    obtain ⟨b', hb', hzero⟩ := hz bid hB
    rw [hb] at hb'
    cases hb'
    exact fun x => closeLoan_lentCovered h hp hb hrec (Or.inr (hzero hrec))
  | adopted => exact fun x => (h x).same rfl rfl

/-- **Loan steps that give back nothing keep all lent counters covered.** -/
theorem LoanSteps.lentCovered {B : BorrowId → Prop} (hsteps : LoanSteps env B s s') (hp : LoansPaired s)
    (hz : NothingOwed B s) (h : ∀ x, LentCovered s x) : ∀ x, LentCovered s' x := by
  have hall : LoansPaired s' ∧ NothingOwed B s' ∧ ∀ x, LentCovered s' x := by
    induction hsteps with
    | refl => exact ⟨hp, hz, h⟩
    | @tail s₁ s₂ hrun hstep ih =>
      obtain ⟨hp₁, hz₁, h₁⟩ := ih
      have hknown : ∀ bid, B bid → bid ∈ s₁.borrows := fun bid hB => by
        obtain ⟨b, hb, -⟩ := hz₁ bid hB
        exact mem_of_lookup hb
      have hmoves := LoanSteps.moves (Relation.ReflTransGen.single hstep) hknown
      exact ⟨hmoves.paired hp₁, hstep.nothingOwed hz₁, hstep.lentCovered hp₁ hz₁ h₁⟩
  exact hall.2.2

/-- A resynchronised counter is covered; the others must have been. -/
theorem Resynced.lentCovered {ts : List TenantId} {e : Engine} (hsync : Resynced env e s' ts)
    (hp : LoansPaired s') (h : ∀ x, x ∉ ts → LentCovered e x) (x : TenantId) : LentCovered s' x := by
  by_cases hx : x ∈ ts
  · exact (hsync.synced x hx).lentCovered hp
  · exact (h x hx).same hsync.lends (by rw [hsync.other x hx])

/-- **Every call that strands no loan keeps all lent counters covered.** -/
theorem exec_lentCovered (hc : anyCall s (env, c)) (hno : ¬ StrandsLoan s (env, c)) (hs : Consistent s)
    (h : ∀ x, LentCovered s x) : ∀ x, LentCovered (s.exec env c).2 x := by
  obtain ⟨hfresh, hamount⟩ := hc
  have hnone : NothingOwed (fun _ => False) s := fun _ hF => hF.elim
  have hp : LoansPaired (s.exec env c).2 := (after_consistent (c := (env, c)) ⟨hfresh, hamount⟩ hs).paired
  have hstep : CallStep env s c (s.exec env c).2 := exec_callStep hfresh.toFreshLoans hamount
  obtain ⟨s', hs'⟩ : ∃ y, y = (s.exec env c).2 := ⟨_, rfl⟩
  rw [← hs'] at hp hstep ⊢
  cases hstep with
  | kept c hsame => exact fun x => (h x).same hsame.lends (by rw [hsame.usageOf])
  | @rolledBack t req auth st s' hback =>
    -- no loan was drawn, so nothing is rolled back
    have hnil : st.borrowIds = [] := by
      by_contra hne
      exact hno ⟨hback.accepted, st, hback.stuck, hne⟩
    have hres : s' = st.engine := by
      rw [hback.result, hnil]
      rfl
    rw [hres]
    exact hback.loans.lentCovered hs.paired hnone h
  | admitted hadm =>
    obtain ⟨e, hent, hsync⟩ := hadm.recorded
    have hdrawn := hadm.loans.lentCovered hs.paired hnone h
    exact hsync.lentCovered hp fun x _ => (hdrawn x).same hent.lends (hent.counters x).2.2.1
  | committed hr hstatus hsync => exact hsync.lentCovered hp fun x _ => (h x).same rfl rfl
  | started hr hact hsync => exact hsync.lentCovered hp fun x _ => (h x).same rfl rfl
  | resized hgen ha hact hts hsync => exact hsync.lentCovered hp fun x _ => (h x).same rfl rfl
  | stopped ha hact hsync => exact hsync.lentCovered hp fun x _ => (h x).same rfl rfl
  | @released rid auth r mid s' hr hact hmid hsync =>
    cases hstale : s.staleEpoch auth with
    | true =>
      have hsame : (s.exec env (.release rid auth)).2 = s := by
        show (s.release env rid auth).2 = s
        unfold release
        rw [if_pos hstale]
      rw [hs', hsame]
      exact h
    | false =>
      have hmarked : ∀ x, LentCovered (s.setStatus rid .released) x := fun x => (h x).same rfl rfl
      have hpaired : LoansPaired (s.setStatus rid .released) := ⟨hs.paired.linked, hs.paired.balance⟩
      have howed : NothingOwed (fun bid => bid ∈ s.listedBorrows rid) (s.setStatus rid .released) :=
        release_nothingOwed hs.listed hs.paired hstale hr hact hno
      have hback : LoanSteps env (fun bid => bid ∈ s.listedBorrows rid) (s.setStatus rid .released) mid := by
        rw [hmid]
        exact returnAll_loanSteps _ _ fun _ hbid => hbid
      have hmid := hback.lentCovered hpaired howed hmarked
      exact hsync.lentCovered hp fun x _ => (hmid x).same rfl rfl
  | @borrowed borrower lender amount auth s' hlender hsync =>
    have hopen := openLoan_lentCovered h (k := default) lender borrower hamount (hfresh.lendingId default)
    exact hsync.lentCovered hp fun x _ => hopen x
  | @lent named borrower lender amount auth s' hlender hsync =>
    have hopen := openLoan_lentCovered h (k := default) lender borrower hamount (hfresh.lendingId default)
    exact hsync.lentCovered hp fun x _ => hopen x
  | recalled hb hrec hsync =>
    -- only the lender's counter is off, and it is resynchronised
    refine hsync.lentCovered hp fun x hx => closeLoan_lentCovered h hs.paired hb hrec (Or.inl ?_)
    exact fun heq => hx (heq ▸ List.mem_cons_self)
  | observed hobs =>
    exact fun x => (h x).same hobs.lends (by rw [hobs.usage x])

end Steps

end Engine

end QuotaFabric
