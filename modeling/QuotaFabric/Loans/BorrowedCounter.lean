import QuotaFabric.Engine.Recompute
import QuotaFabric.Engine.Steps
import QuotaFabric.Loans.Pairing

/-!
# The borrower's counters

What a tenant has borrowed and owes is counted up when a loan is drawn and down when it is given
back, and recomputed by every resynchronisation.  Additions that overflow are lost, so the counters
may fall short of the records; they never exceed them.

* `LoansCovered` — both counters are at most what the unreturned loans add up to;
* `LoanSteps.loansCovered` — drawing and giving back loans keeps this, resynchronised or not;
* `CallStep.loansCovered`, `run_loansCovered` — so does every call and every run.
-/

set_option autoImplicit false

namespace QuotaFabric

open AList

namespace Engine

/-- Borrowed amount and debt of every tenant are at most its unreturned loans. -/
structure LoansCovered (s : Engine) : Prop where
  paired : LoansPaired s
  owed : ∀ bid b, s.borrows.lookup bid = some b → b.debt = b.amount
  borrowed : ∀ x d, 0 ≤ (s.usageOf x).borrowedConsumed.get d ∧
    (s.usageOf x).borrowedConsumed.get d ≤ s.borrowedSum x d
  debt : ∀ x d, 0 ≤ (s.usageOf x).debt.get d ∧ (s.usageOf x).debt.get d ≤ s.borrowedSum x d

/-! ## The sum of the unreturned loans -/

section Sum

variable {env : Env} {s : Engine}

theorem borrowedSum_openLoan {k : ResourceDimension} (lender borrower : TenantId)
    (amount : ResourceVector) (hbid : env.borrowId k ∉ s.borrows) (x : TenantId) (d : ResourceDimension) :
    (s.openLoan env k lender borrower amount none).borrowedSum x d =
      (if borrower = x then amount.get d else 0) + s.borrowedSum x d := by
  unfold borrowedSum
  rw [openLoan_borrows, emplace_of_notMem hbid, total_insert _ _ hbid]
  simp [newBorrow]

theorem borrowedSum_closeLoan {bid : BorrowId} {b : BorrowRecord} (hb : s.borrows.lookup bid = some b)
    (hrec : b.recalled = false) (ret : ResourceVector) (x : TenantId) (d : ResourceDimension) :
    s.borrowedSum x d =
      (if b.borrower = x then b.consumed.get d else 0) + (s.closeLoan env bid b ret).borrowedSum x d := by
  unfold borrowedSum
  rw [closeLoan_borrows]
  have hm := total_modify
    (fun y : BorrowRecord => { y with consumed := b.consumed.subSat ret, recalled := true })
    (fun _ y => if y.borrower == x && !y.recalled then y.consumed.get d else 0) hb
  simp only [hrec, Bool.not_false, Bool.and_true, Bool.not_true, Bool.and_false, beq_iff_eq,
    Bool.false_eq_true, if_false] at hm
  omega

theorem borrowedSum_congr {s' : Engine} (h : s'.borrows = s.borrows) (x : TenantId) (d : ResourceDimension) :
    s'.borrowedSum x d = s.borrowedSum x d := by
  unfold borrowedSum
  rw [h]

/-- An unreturned loan is for a non-negative amount. -/
theorem LoansPaired.consumed_nonNeg (hp : LoansPaired s) {bid : BorrowId} {b : BorrowRecord}
    (hb : s.borrows.lookup bid = some b) (hrec : b.recalled = false) : b.consumed.NonNeg := by
  obtain ⟨l, -, hagree⟩ := hp.linked.pair bid b hb
  rw [(hagree.unreturned hrec).1]
  exact hagree.nonNeg

theorem LoansPaired.borrowedSum_nonneg (hp : LoansPaired s) (x : TenantId) (d : ResourceDimension) :
    0 ≤ s.borrowedSum x d := by
  refine total_nonneg fun bid b hb => ?_
  split
  · rename_i h
    simp only [Bool.and_eq_true, Bool.not_eq_true'] at h
    exact hp.consumed_nonNeg hb h.2 d
  · exact le_refl 0

/-- The recomputed counters are covered. -/
theorem LoansCovered.recomputed (h : LoansCovered s) (env : Env) (x : TenantId) (d : ResourceDimension) :
    (0 ≤ (s.computedBorrowed env x).get d ∧ (s.computedBorrowed env x).get d ≤ s.borrowedSum x d) ∧
    (0 ≤ (s.computedDebt env x).get d ∧ (s.computedDebt env x).get d ≤ s.borrowedSum x d) := by
  have hconsumed : ∀ bid b, s.borrows.lookup bid = some b → (b.borrower == x && !b.recalled) = true →
      b.consumed.NonNeg := by
    intro bid b hb hp
    simp only [Bool.and_eq_true, Bool.not_eq_true'] at hp
    exact h.paired.consumed_nonNeg hb hp.2
  have hdebt : ∀ bid b, s.borrows.lookup bid = some b → (b.borrower == x && !b.recalled) = true →
      b.debt = b.consumed := by
    intro bid b hb hp
    simp only [Bool.and_eq_true, Bool.not_eq_true'] at hp
    obtain ⟨l, -, hagree⟩ := h.paired.linked.pair bid b hb
    rw [h.owed bid b hb, (hagree.unreturned hp.2).1]
  have hnonNeg : ∀ bid b, s.borrows.lookup bid = some b → (b.borrower == x && !b.recalled) = true →
      b.debt.NonNeg := by
    intro bid b hb hp
    rw [hdebt bid b hb hp]
    exact hconsumed bid b hb hp
  refine ⟨⟨sumOf_run_nonNeg env.borrowOrder hconsumed d, sumOf_run_le env.borrowOrder hconsumed d⟩,
    sumOf_run_nonNeg env.borrowOrder hnonNeg d, (sumOf_run_le env.borrowOrder hnonNeg d).trans ?_⟩
  refine total_le_total fun bid b hb => ?_
  split
  · rename_i hp
    rw [hdebt bid b hb hp]
  · exact le_refl 0

end Sum

/-! ## Steps -/

section Steps

variable {env : Env} {s s' : Engine}

theorem LoansPaired.same (h : LoansPaired s) (hb : s'.borrows = s.borrows) (hl : s'.lends = s.lends) :
    LoansPaired s' :=
  ⟨by rw [hb, hl]; exact h.linked, fun d => by rw [hb, hl]; exact h.balance d⟩

/-- Counters and records of the loans are the same. -/
theorem LoansCovered.same (h : LoansCovered s) (hb : s'.borrows = s.borrows) (hl : s'.lends = s.lends)
    (hu : ∀ x, (s'.usageOf x).borrowedConsumed = (s.usageOf x).borrowedConsumed ∧
      (s'.usageOf x).debt = (s.usageOf x).debt) : LoansCovered s' where
  paired := h.paired.same hb hl
  owed := by rw [hb]; exact h.owed
  borrowed x d := by
    rw [(hu x).1, borrowedSum_congr hb]
    exact h.borrowed x d
  debt x d := by
    rw [(hu x).2, borrowedSum_congr hb]
    exact h.debt x d

/-- A counter that takes `amount` in, or loses the addition to an overflow. -/
theorem accum_covered {v amount : ResourceVector} {d : ResourceDimension} {n : Int}
    (hv : 0 ≤ v.get d ∧ v.get d ≤ n) (hamount : amount.NonNeg) :
    0 ≤ (v.accum amount).get d ∧ (v.accum amount).get d ≤ amount.get d + n := by
  have h1 := hamount d
  have h2 := ResourceVector.le_accum (v := v) hamount d
  have h3 := ResourceVector.accum_le (v := v) hamount d
  omega

/-- A counter from which `amount` is taken out, as far as it goes. -/
theorem subSat_covered {v amount : ResourceVector} {d : ResourceDimension} {n : Int}
    (hv : 0 ≤ v.get d ∧ v.get d ≤ amount.get d + n) (hn : 0 ≤ n) :
    0 ≤ (v.subSat amount).get d ∧ (v.subSat amount).get d ≤ n := by
  unfold SparseVec.get at *
  rw [ResourceVector.subSat_cell]
  cases hvd : v.cell d with
  | none => exact ⟨le_refl 0, hn⟩
  | some a =>
    rw [hvd] at hv
    cases hod : amount.cell d with
    | none =>
      rw [hod] at hv
      simp only [Option.getD_some, Option.getD_none] at hv ⊢
      omega
    | some b =>
      rw [hod] at hv
      simp only [Option.getD_some] at hv ⊢
      split <;> omega

theorem openLoan_loansCovered (h : LoansCovered s) {k : ResourceDimension} (lender borrower : TenantId)
    {amount : ResourceVector} (hamount : amount.NonNeg) (hbid : env.borrowId k ∉ s.borrows)
    (hlid : env.lendingId k ∉ s.lends) :
    LoansCovered (s.openLoan env k lender borrower amount none) where
  paired := (LoanMove.opened k hamount hbid hlid).paired h.paired
  owed := by
    rw [openLoan_borrows]
    exact forall_lookup_emplace h.owed rfl
  borrowed x d := by
    rw [borrowedSum_openLoan lender borrower amount hbid, usageOf_openLoan]
    by_cases hx : x = borrower
    · simp only [hx, if_true]
      exact accum_covered (h.borrowed borrower d) hamount
    · simp only [hx, Ne.symm hx, if_false, zero_add]
      exact h.borrowed x d
  debt x d := by
    rw [borrowedSum_openLoan lender borrower amount hbid, usageOf_openLoan]
    by_cases hx : x = borrower
    · simp only [hx, if_true]
      exact accum_covered (h.debt borrower d) hamount
    · simp only [hx, Ne.symm hx, if_false, zero_add]
      exact h.debt x d

theorem closeLoan_loansCovered (h : LoansCovered s) {bid : BorrowId} {b : BorrowRecord}
    (hb : s.borrows.lookup bid = some b) (hrec : b.recalled = false) :
    LoansCovered (s.closeLoan env bid b (ResourceVector.min b.consumed b.consumed)) := by
  have hmoved : LoansPaired (s.closeLoan env bid b (ResourceVector.min b.consumed b.consumed)) :=
    (LoanMove.closed hb hrec).paired h.paired
  rw [ResourceVector.min_self (h.paired.consumed_nonNeg hb hrec)] at *
  have hsum : ∀ x d, s.borrowedSum x d = (if b.borrower = x then b.consumed.get d else 0) +
      (s.closeLoan env bid b b.consumed).borrowedSum x d :=
    fun x d => borrowedSum_closeLoan hb hrec b.consumed x d
  have hrest := fun x d => hmoved.borrowedSum_nonneg x d
  refine ⟨hmoved, ?_, fun x d => ?_, fun x d => ?_⟩
  · rw [closeLoan_borrows]
    exact forall_lookup_modify h.owed fun b' hb' => hb'
  · have hold := h.borrowed x d
    rw [hsum x d] at hold
    rw [usageOf_closeLoan env s bid b _ (h.paired.entries hb)]
    by_cases hx : x = b.borrower
    · simp only [hx, if_true] at hold ⊢
      exact subSat_covered hold (hrest _ d)
    · simp only [hx, Ne.symm hx, if_false, zero_add] at hold ⊢
      exact hold
  · have hold := h.debt x d
    rw [hsum x d] at hold
    rw [usageOf_closeLoan env s bid b _ (h.paired.entries hb)]
    by_cases hx : x = b.borrower
    · simp only [hx, if_true] at hold ⊢
      exact subSat_covered hold (hrest _ d)
    · simp only [hx, Ne.symm hx, if_false, zero_add] at hold ⊢
      exact hold

theorem LoanStep.loansCovered {B : BorrowId → Prop} (hstep : LoanStep env B s s')
    (hB : ∀ bid, B bid → bid ∈ s.borrows) (h : LoansCovered s) : LoansCovered s' := by
  cases hstep with
  | touched t =>
    show LoansCovered (s.modifyUsage t id)
    refine h.same rfl rfl fun x => ?_
    rw [usageOf_modifyUsage_id]
    exact ⟨rfl, rfl⟩
  | opened k hlender hamount hbid hlid => exact openLoan_loansCovered h _ _ hamount hbid hlid
  | closed hBb hb hrec => exact closeLoan_loansCovered h hb hrec
  | adopted hBb hmiss => exact absurd (hB _ hBb) hmiss

theorem LoanSteps.loansCovered {B : BorrowId → Prop} (hsteps : LoanSteps env B s s')
    (hB : ∀ bid, B bid → bid ∈ s.borrows) (h : LoansCovered s) : LoansCovered s' := by
  induction hsteps with
  | refl => exact h
  | tail hpre hstep ih => exact hstep.loansCovered (fun bid hbid => LoanSteps.mem_borrows hpre (hB bid hbid)) ih

/-- A resynchronisation after a change that touched no loan and no counter of the other tenants. -/
theorem Resynced.loansCovered {ts : List TenantId} {e : Engine} (hsync : Resynced env e s' ts)
    (h : LoansCovered s) (hb : e.borrows = s.borrows) (hl : e.lends = s.lends)
    (hu : ∀ x, x ∉ ts → e.usageOf x = s.usageOf x) : LoansCovered s' := by
  have hborrows := hsync.borrows.trans hb
  have hsum := fun x d => borrowedSum_congr hborrows x d
  have hborrowed : ∀ x, s'.computedBorrowed env x = s.computedBorrowed env x := fun x => by
    unfold computedBorrowed
    rw [hborrows]
  have hdebt : ∀ x, s'.computedDebt env x = s.computedDebt env x := fun x => by
    unfold computedDebt
    rw [hborrows]
  refine ⟨h.paired.same hborrows (hsync.lends.trans hl), ?_, fun x d => ?_, fun x d => ?_⟩
  · rw [hborrows]
    exact h.owed
  · rw [hsum]
    by_cases hx : x ∈ ts
    · rw [(hsync.synced x hx).borrowed, hborrowed]
      exact (h.recomputed env x d).1
    · rw [hsync.other x hx, hu x hx]
      exact h.borrowed x d
  · rw [hsum]
    by_cases hx : x ∈ ts
    · rw [hsync.debts x hx, hdebt]
      exact (h.recomputed env x d).2
    · rw [hsync.other x hx, hu x hx]
      exact h.debt x d

/-- **Every call keeps the borrower's counters covered.** -/
theorem CallStep.loansCovered {c : Call} (hstep : CallStep env s c s') (hfresh : FreshLoans env s)
    (hamount : c.amount.NonNeg) (hlisted : ListedKnown s) (h : LoansCovered s) : LoansCovered s' := by
  cases hstep with
  | kept c hsame =>
    exact h.same hsame.borrows hsame.lends fun x => by rw [hsame.usageOf]; exact ⟨rfl, rfl⟩
  | rolledBack hback =>
    have hdrawn := hback.loans.loansCovered (fun _ hF => hF.elim) h
    exact hback.returned.loansCovered (fun bid hbid => (hback.drawn bid hbid).2) hdrawn
  | admitted hadm =>
    obtain ⟨e, hent, hsync⟩ := hadm.recorded
    have hdrawn := hadm.loans.loansCovered (fun _ hF => hF.elim) h
    exact hsync.loansCovered hdrawn hent.borrows hent.lends fun x hx => hent.other x (by simpa using hx)
  | committed hr hstatus hsync => exact hsync.loansCovered h rfl rfl fun _ _ => rfl
  | started hr hact hsync => exact hsync.loansCovered h rfl rfl fun _ _ => rfl
  | resized hgen ha hact hts hsync => exact hsync.loansCovered h rfl rfl fun _ _ => rfl
  | stopped ha hact hsync => exact hsync.loansCovered h rfl rfl fun _ _ => rfl
  | @released rid auth r mid s' hr hact hmid hsync =>
    have hmarked : LoansCovered (s.setStatus rid .released) := h.same rfl rfl fun _ => ⟨rfl, rfl⟩
    have hback : LoanSteps env (fun bid => bid ∈ s.listedBorrows rid) (s.setStatus rid .released) mid := by
      rw [hmid]
      exact returnAll_loanSteps _ _ fun _ hbid => hbid
    have hmid := hback.loansCovered (listedBorrows_known hlisted rid) hmarked
    exact hsync.loansCovered hmid rfl rfl fun _ _ => rfl
  | @borrowed borrower lender amount auth s' hlender hsync =>
    have hopen := openLoan_loansCovered h lender borrower hamount (hfresh.borrowId default) (hfresh.lendingId default)
    exact hsync.loansCovered hopen rfl rfl fun _ _ => rfl
  | @lent named borrower lender amount auth s' hlender hsync =>
    have hopen := openLoan_loansCovered h lender borrower hamount (hfresh.borrowId default) (hfresh.lendingId default)
    exact hsync.loansCovered hopen rfl rfl fun _ _ => rfl
  | recalled hb hrec hsync =>
    exact hsync.loansCovered (closeLoan_loansCovered h hb hrec) rfl rfl fun _ _ => rfl
  | observed hobs =>
    refine h.same hobs.borrows hobs.lends fun x => ?_
    rw [hobs.usage x]
    exact ⟨rfl, rfl⟩

end Steps

theorem loansCovered_start (settings : EngineSettings) : LoansCovered { settings := settings } where
  paired := loansPaired_start rfl rfl
  owed _ _ h := by cases h
  borrowed _ _ := ⟨le_refl 0, le_refl 0⟩
  debt _ _ := ⟨le_refl 0, le_refl 0⟩

theorem run_loansCovered {settings : EngineSettings} {l : List (Env × Call)} {s : Engine}
    (hrun : Run Engine.after anyCall { settings := settings } l s) : LoansCovered s ∧ ListedKnown s := by
  refine hrun.invariant (I := fun s => LoansCovered s ∧ ListedKnown s)
    ⟨loansCovered_start settings, fun _ _ hf => by cases hf⟩ fun s c h hc => ?_
  have hstep : CallStep c.1 s c.2 (s.after c) := exec_callStep hc.1.toFreshLoans hc.2
  exact ⟨hstep.loansCovered hc.1.toFreshLoans hc.2 h.2 h.1, (after_paired hc ⟨h.1.paired, h.2⟩).2⟩

end Engine

end QuotaFabric
