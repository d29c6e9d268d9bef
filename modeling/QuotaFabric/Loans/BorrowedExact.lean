import QuotaFabric.Lifecycle.Isolation
import QuotaFabric.Limits.TenantCeiling
import QuotaFabric.Loans.BorrowedCounter

/-!
# The borrowed counter within 64 bits

The borrowed counter of a tenant falls short of its unreturned loans only where an addition was lost to
an overflow.  As long as the loans and the amount asked for stay within 64 bits together, none is.

* `LoansCounted` — the counter of `t` is what its unreturned loans add up to, a 64-bit amount;
* `openLoan_loansCounted`, `closeLoan_loansCounted` — one loan drawn, or given back;
* `borrowedSum_fundLoop_le` — `reserve` draws no more than it is asked for;
* `CallStep.loansCounted` — every call keeps the counter exact.
-/

set_option autoImplicit false

namespace QuotaFabric

open AList

namespace Engine

/-- The borrowed counter of `t` is the sum of its unreturned loans, which is a 64-bit amount. -/
structure LoansCounted (s : Engine) (t : TenantId) : Prop where
  paired : LoansPaired s
  fit : ∀ d, s.borrowedSum t d ≤ INT64_MAX
  counter : ∀ d, (s.usageOf t).borrowedConsumed.get d = s.borrowedSum t d

section Moves

variable {env : Env} {s s' : Engine} {t : TenantId}

/-- Loans and counter of `t` are the same. -/
theorem LoansCounted.same (h : LoansCounted s t) (hb : s'.borrows = s.borrows) (hl : s'.lends = s.lends)
    (hu : (s'.usageOf t).borrowedConsumed = (s.usageOf t).borrowedConsumed) : LoansCounted s' t where
  paired := h.paired.same hb hl
  fit d := by
    rw [borrowedSum_congr hb]
    exact h.fit d
  counter d := by
    rw [hu, borrowedSum_congr hb]
    exact h.counter d

/-- A loan adds at most its amount to what is borrowed. -/
theorem borrowedSum_openLoan_le (k : ResourceDimension) (lender borrower : TenantId) {amount : ResourceVector}
    (hamount : amount.NonNeg) (x : TenantId) (d : ResourceDimension) :
    (s.openLoan env k lender borrower amount none).borrowedSum x d ≤ s.borrowedSum x d + amount.get d := by
  have hd := hamount d
  by_cases hbid : env.borrowId k ∈ s.borrows
  · have hsame : (s.openLoan env k lender borrower amount none).borrows = s.borrows := by
      rw [openLoan_borrows]
      unfold emplace
      rw [if_pos hbid]
    rw [borrowedSum_congr hsame]
    omega
  · rw [borrowedSum_openLoan _ _ _ hbid]
    split <;> omega

theorem openLoan_loansCounted (h : LoansCounted s t) {k : ResourceDimension} (lender borrower : TenantId)
    {amount : ResourceVector} (hamount : amount.NonNeg) (hbid : env.borrowId k ∉ s.borrows)
    (hlid : env.lendingId k ∉ s.lends)
    (hfit : ∀ d, (s.openLoan env k lender borrower amount none).borrowedSum t d ≤ INT64_MAX) :
    LoansCounted (s.openLoan env k lender borrower amount none) t where
  paired := (LoanMove.opened k hamount hbid hlid).paired h.paired
  fit := hfit
  counter d := by
    rw [borrowedSum_openLoan lender borrower amount hbid, usageOf_openLoan]
    by_cases ht : t = borrower
    · subst ht
      simp only [if_true]
      have hsum : ∀ e, (s.usageOf t).borrowedConsumed.get e + amount.get e ≤ INT64_MAX := by
        intro e
        have hle := hfit e
        rw [borrowedSum_openLoan lender t amount hbid, if_pos rfl, ← h.counter e] at hle
        omega
      rw [ResourceVector.accum_of_fits hsum, SparseVec.get_add, h.counter d]
      exact Int.add_comm _ _
    · simp only [ht, Ne.symm ht, if_false, zero_add]
      exact h.counter d

/-- Where it is no more than the counter, an amount is taken out exactly. -/
theorem get_subSat_of_le {v amount : ResourceVector} {d : ResourceDimension} (h0 : 0 ≤ amount.get d)
    (hle : amount.get d ≤ v.get d) : (v.subSat amount).get d = v.get d - amount.get d := by
  unfold SparseVec.get at *
  rw [ResourceVector.subSat_cell]
  cases hvd : v.cell d with
  | none =>
    rw [hvd] at hle
    simp only [Option.getD_none] at hle ⊢
    omega
  | some a =>
    rw [hvd] at hle
    cases hod : amount.cell d with
    | none => simp only [Option.getD_some, Option.getD_none, sub_zero]
    | some b =>
      rw [hod] at hle
      simp only [Option.getD_some] at hle ⊢
      rw [if_neg (not_lt.mpr hle)]

theorem closeLoan_loansCounted (h : LoansCounted s t) {bid : BorrowId} {b : BorrowRecord}
    (hb : s.borrows.lookup bid = some b) (hrec : b.recalled = false) :
    LoansCounted (s.closeLoan env bid b (ResourceVector.min b.consumed b.consumed)) t := by
  have hmoved : LoansPaired (s.closeLoan env bid b (ResourceVector.min b.consumed b.consumed)) :=
    (LoanMove.closed hb hrec).paired h.paired
  have hnn := h.paired.consumed_nonNeg hb hrec
  rw [ResourceVector.min_self hnn] at *
  have hsum : ∀ d, s.borrowedSum t d = (if b.borrower = t then b.consumed.get d else 0) +
      (s.closeLoan env bid b b.consumed).borrowedSum t d :=
    fun d => borrowedSum_closeLoan hb hrec b.consumed t d
  refine ⟨hmoved, fun d => ?_, fun d => ?_⟩
  · have hpos := hnn d
    have hfit := h.fit d
    rw [hsum d] at hfit
    split at hfit <;> omega
  · have hold := hsum d
    have hrest := hmoved.borrowedSum_nonneg t d
    have hcount := h.counter d
    rw [usageOf_closeLoan env s bid b _ (h.paired.entries hb)]
    by_cases ht : t = b.borrower
    · simp only [ht, if_true] at hold hrest hcount ⊢
      rw [get_subSat_of_le (hnn d) (by omega)]
      omega
    · simp only [ht, Ne.symm ht, if_false, zero_add] at hold ⊢
      rw [hcount, hold]

/-! ## Loans that are only drawn, loans that are only given back -/

theorem LoanStep.borrowedSum_le (hstep : LoanStep env (fun _ => False) s s') (t : TenantId)
    (d : ResourceDimension) : s.borrowedSum t d ≤ s'.borrowedSum t d := by
  cases hstep with
  | touched x => exact le_refl _
  | @opened borrower lender amount k hlender hamount hbid hlid =>
    have hd := hamount d
    rw [borrowedSum_openLoan _ _ _ hbid]
    split <;> omega
  | closed hF => exact hF.elim
  | adopted hF => exact hF.elim

/-- Where the loans fit in the end, they fitted all along. -/
theorem LoanSteps.loansCounted (hsteps : LoanSteps env (fun _ => False) s s')
    (hfit : ∀ d, s'.borrowedSum t d ≤ INT64_MAX) (h : LoansCounted s t) : LoansCounted s' t := by
  induction hsteps with
  | refl => exact h
  | tail _ hstep ih =>
    have hbefore := ih fun d => (hstep.borrowedSum_le t d).trans (hfit d)
    cases hstep with
    | touched x => exact hbefore.same rfl rfl (by rw [usageOf_modifyUsage_id])
    | opened k hlender hamount hbid hlid => exact openLoan_loansCounted hbefore _ _ hamount hbid hlid hfit
    | closed hF => exact hF.elim
    | adopted hF => exact hF.elim

theorem returnAll_loansCounted : ∀ (bids : List BorrowId) (s : Engine), (∀ bid ∈ bids, bid ∈ s.borrows) →
    LoansCounted s t → LoansCounted (s.returnAll env bids) t
  | [], _, _, h => h
  | bid :: bids, s, hm, h => by
    obtain ⟨hbid, hbids⟩ := List.forall_mem_cons.mp hm
    have hnext : LoansCounted (s.returnListed env bid) t := by
      obtain ⟨b, hb⟩ := exists_lookup_of_mem hbid
      rcases returnListed_cases env hb with ⟨-, hsame⟩ | ⟨hrec, hclose⟩
      · rw [hsame]
        exact h
      · rw [hclose]
        exact closeLoan_loansCounted h hb hrec
    have hsteps : LoanSteps env (fun x => x = bid) s (s.returnListed env bid) := returnListed_loanSteps s rfl
    exact returnAll_loansCounted bids _ (fun x hx => hsteps.mem_borrows (hbids x hx)) hnext

end Moves

/-! ## What `reserve` draws -/

section Draw

variable {env : Env} {s : Engine} {eff : ResourceQuota} {cb req : ResourceVector} {t x : TenantId}
  {d : ResourceDimension}

/-- **The loop that funds a request draws no more than is asked for.** -/
theorem borrowedSum_fundLoop_le (hreq : req.NonNeg) {ds : List ResourceDimension} (hds : ds.Nodup) {st st' : Draw}
    (h : fundLoop env eff cb t req ds st = .ok st') (x : TenantId) (e : ResourceDimension) :
    st'.engine.borrowedSum x e ≤ st.engine.borrowedSum x e + req.get e := by
  have hdrawn : ([] : List ResourceDimension).Nodup ∧ ∀ e, st'.engine.borrowedSum x e ≤
      st.engine.borrowedSum x e + if e ∈ ([] : List ResourceDimension) then 0 else req.get e := by
    refine fundLoop_rule (P := fun ds y => ds.Nodup ∧ ∀ e, y.engine.borrowedSum x e ≤
      st.engine.borrowedSum x e + if e ∈ ds then 0 else req.get e) ?_ ds st st' ⟨hds, fun e => ?_⟩ h
    · rintro d ds y y' ⟨hnd, hle⟩ hstep
      obtain ⟨hd, hnd⟩ := List.nodup_cons.mp hnd
      refine ⟨hnd, fun e => ?_⟩
      have hbefore := hle e
      have hpos := hreq e
      rcases fundDimension_cases env eff cb t req y d with ⟨-, burst, hok, -⟩ |
        ⟨hneed, -, -, ⟨lender, burst, -, hok, -⟩ | ⟨-, q, hfail⟩⟩
      · rw [hok] at hstep
        cases hstep
        simp only [List.mem_cons] at hbefore
        show y.engine.borrowedSum x e ≤ _
        by_cases hed : e = d
        · subst hed
          rw [if_pos (.inl rfl)] at hbefore
          rw [if_neg hd]
          omega
        · simpa only [hed, false_or] using hbefore
      · rw [hok] at hstep
        cases hstep
        -- the loan is for `d` alone, which comes once
        have hnn : (ResourceVector.fromScalar d (borrowNeed eff cb req d)).NonNeg :=
          ResourceVector.set_nonNeg ResourceVector.valid_empty.nonNeg d _
        have hopen : (y.engine.openLoan env d lender t
            (ResourceVector.fromScalar d (borrowNeed eff cb req d)) none).borrowedSum x e ≤
              y.engine.borrowedSum x e + (ResourceVector.fromScalar d (borrowNeed eff cb req d)).get e :=
          borrowedSum_openLoan_le d lender t hnn x e
        simp only [List.mem_cons] at hbefore
        show (y.engine.openLoan env d lender t _ none).borrowedSum x e ≤ _
        by_cases hed : e = d
        · subst hed
          rw [ResourceVector.get_fromScalar_self hneed.le] at hopen
          have hmost := borrowNeed_le eff cb hreq e
          rw [if_pos (.inl rfl)] at hbefore
          rw [if_neg hd]
          omega
        · rw [ResourceVector.get_fromScalar_ne hed] at hopen
          simp only [hed, false_or] at hbefore
          omega
      · rw [hfail] at hstep
        cases hstep
    · have hpos := hreq e
      split <;> omega
  simpa only [List.not_mem_nil, if_false] using hdrawn.2 e

end Draw

/-! ## Calls -/

section Calls

variable {env : Env} {s s' : Engine} {t : TenantId}

/-- A recomputed counter is exact. -/
theorem get_computedBorrowed (hp : LoansPaired s) (hfit : ∀ d, s.borrowedSum t d ≤ INT64_MAX) (env : Env)
    (d : ResourceDimension) : (s.computedBorrowed env t).get d = s.borrowedSum t d := by
  have hexact : s.computedBorrowed env t = s.exactBorrowed t := by
    unfold computedBorrowed exactBorrowed
    refine sumOf_run_eq env.borrowOrder (p := fun _ b => b.borrower == t && !b.recalled)
      (f := fun _ b => b.consumed) (fun bid b hb hmine => ?_) hfit
    simp only [Bool.and_eq_true, Bool.not_eq_true'] at hmine
    exact hp.consumed_nonNeg hb hmine.2
  rw [hexact, get_exactBorrowed]

/-- A resynchronisation keeps the counter of `t`, or makes it exact again. -/
theorem Resynced.loansCounted {ts : List TenantId} {e : Engine} (hsync : Resynced env e s' ts)
    (h : LoansCounted e t) : LoansCounted s' t := by
  by_cases ht : t ∈ ts
  · have hrecomputed : s'.computedBorrowed env t = e.computedBorrowed env t := by
      unfold computedBorrowed
      rw [hsync.borrows]
    refine ⟨h.paired.same hsync.borrows hsync.lends, fun d => ?_, fun d => ?_⟩
    · rw [borrowedSum_congr hsync.borrows]
      exact h.fit d
    · rw [(hsync.synced t ht).borrowed, hrecomputed, get_computedBorrowed h.paired h.fit,
        borrowedSum_congr hsync.borrows]
  · exact h.same hsync.borrows hsync.lends (by rw [hsync.other t ht])

/-- **Every call keeps the borrowed counter exact**, as long as the loans of the tenant and the amount of the
    call are within 64 bits together. -/
theorem CallStep.loansCounted {c : Call} (hstep : CallStep env s c s') (hfresh : FreshLoans env s)
    (hamount : c.amount.NonNeg) (hlisted : ListedKnown s)
    (hfit : ∀ d, s.borrowedSum t d + c.amount.get d ≤ INT64_MAX) (h : LoansCounted s t) : LoansCounted s' t := by
  cases hstep with
  | kept c hkept => exact h.same hkept.borrows hkept.lends (by rw [hkept.usageOf])
  | rolledBack hback =>
    obtain ⟨pre, d, post, hds, hloop, -, -⟩ := hback.stuck
    have hnd : pre.Nodup := (List.nodup_append.mp (hds ▸ allResourceDimensions_nodup)).1
    have hdrawn := hback.loans.loansCounted
      (fun e => (borrowedSum_fundLoop_le hamount hnd hloop t e).trans (hfit e)) h
    rw [hback.result]
    exact returnAll_loansCounted _ _ (fun bid hbid => (hback.drawn bid hbid).2) hdrawn
  | admitted hadm =>
    obtain ⟨e, hent, hsync⟩ := hadm.recorded
    have hdrawn := hadm.loans.loansCounted
      (fun e => (borrowedSum_fundLoop_le hamount allResourceDimensions_nodup hadm.funded t e).trans (hfit e)) h
    exact hsync.loansCounted (hdrawn.same hent.borrows hent.lends (hent.counters t).2.2.2.1)
  | committed hr hstatus hsync => exact hsync.loansCounted (h.same rfl rfl rfl)
  | started hr hact hsync => exact hsync.loansCounted (h.same rfl rfl rfl)
  | resized hgen ha hact hts hsync => exact hsync.loansCounted (h.same rfl rfl rfl)
  | stopped ha hact hsync => exact hsync.loansCounted (h.same rfl rfl rfl)
  | @released rid auth r mid s' hr hact hmid hsync =>
    have hmarked : LoansCounted (s.setStatus rid .released) t := h.same rfl rfl rfl
    have hreturned : LoansCounted mid t := by
      rw [hmid]
      exact returnAll_loansCounted _ _ (listedBorrows_known hlisted rid) hmarked
    exact hsync.loansCounted (hreturned.same rfl rfl rfl)
  | @borrowed borrower lender amount auth s' hlender hsync =>
    exact hsync.loansCounted (openLoan_loansCounted h lender borrower hamount (hfresh.borrowId default)
      (hfresh.lendingId default) fun d => (borrowedSum_openLoan_le default lender borrower hamount t d).trans (hfit d))
  | @lent named borrower lender amount auth s' hlender hsync =>
    exact hsync.loansCounted (openLoan_loansCounted h lender borrower hamount (hfresh.borrowId default)
      (hfresh.lendingId default) fun d => (borrowedSum_openLoan_le default lender borrower hamount t d).trans (hfit d))
  | recalled hb hrec hsync => exact hsync.loansCounted (closeLoan_loansCounted h hb hrec)
  | observed hobs => exact h.same hobs.borrows hobs.lends (by rw [hobs.usage t])

end Calls

end Engine

end QuotaFabric
