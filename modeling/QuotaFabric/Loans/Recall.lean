import QuotaFabric.Lifecycle.Closing
import QuotaFabric.Loans.LentCounter

/-!
# Recalling all loans of a lender

A recall gives one loan back and resynchronises both parties.  Once every loan of a lender is recalled
its lent counter is zero, and what the parties' counters show then depends on the records only, not on
the order of the recalls.

* `ExactAt` — the counters of a tenant are the exact sums over the records;
* `Recalling` — what holds while the loans of a lender are recalled one after another;
* `recalls_restore_lender` — the statement for every reachable state and any two orders.
-/

set_option autoImplicit false

namespace QuotaFabric

open AList

namespace Engine

/-! ## No negative record -/

section NonNeg

variable {env : Env} {s s' : Engine} {c : Call}

theorem RecordsNonNeg.of_ledger (h : RecordsNonNeg s) (hledger : s'.ledger = s.ledger) : RecordsNonNeg s' := by
  have hres : s'.reservations = s.reservations := congrArg Ledger.reservations hledger
  have halloc : s'.allocations = s.allocations := congrArg Ledger.allocations hledger
  exact ⟨by rw [hres]; exact h.reservations, by rw [halloc]; exact h.allocations⟩

theorem CallStep.recordsNonNeg (hstep : CallStep env s c s') (hamount : c.amount.NonNeg)
    (h : RecordsNonNeg s) : RecordsNonNeg s' := by
  cases hstep with
  | kept c hsame => exact h.of_ledger hsame.ledger
  | rolledBack hback => exact h.of_ledger hback.frame.ledger
  | @admitted t req auth st s' hadm =>
    have hres : s'.reservations = _ := congrArg Ledger.reservations hadm.ledger
    have halloc : s'.allocations = s.allocations := congrArg Ledger.allocations hadm.ledger
    refine ⟨?_, by rw [halloc]; exact h.allocations⟩
    rw [hres]
    exact forall_lookup_emplace h.reservations hamount
  | committed hr hstatus hsync =>
    refine RecordsNonNeg.of_ledger ?_ hsync.ledger
    exact ⟨forall_lookup_modify h.reservations fun _ hr => hr, h.allocations⟩
  | started hr hact hsync =>
    refine RecordsNonNeg.of_ledger ?_ hsync.ledger
    exact ⟨forall_lookup_modify h.reservations fun _ hr => hr,
      forall_lookup_emplace h.allocations fun _ => le_refl 0⟩
  | resized hgen ha hact hts hsync =>
    refine RecordsNonNeg.of_ledger ?_ hsync.ledger
    exact ⟨h.reservations, forall_lookup_modify h.allocations fun _ _ => ResourceVector.min_nonNeg _ _⟩
  | stopped ha hact hsync =>
    refine RecordsNonNeg.of_ledger ?_ hsync.ledger
    exact ⟨h.reservations, forall_lookup_modify h.allocations fun _ ha => ha⟩
  | released hr hact hmid hsync =>
    rw [hmid] at hsync
    refine RecordsNonNeg.of_ledger ?_ (hsync.ledger.trans (release_ledger ..))
    refine ⟨forall_lookup_erase h.reservations, forall_lookup_mapVals h.allocations fun _ a ha => ?_⟩
    split <;> exact ha
  | borrowed hlender hsync => exact h.of_ledger (hsync.ledger.trans (openLoan_frame ..).ledger)
  | lent hlender hsync => exact h.of_ledger (hsync.ledger.trans (openLoan_frame ..).ledger)
  | recalled hb hrec hsync => exact h.of_ledger (hsync.ledger.trans (closeLoan_frame ..).ledger)
  | observed hobs =>
    refine ⟨by rw [hobs.reservations]; exact h.reservations, ?_⟩
    rcases hobs.allocations with halloc | ⟨aid, u, hu, halloc⟩
    · rw [halloc]
      exact h.allocations
    · rw [halloc]
      exact forall_lookup_modify h.allocations fun a ha => hu a ha

theorem run_recordsNonNeg {settings : EngineSettings} {l : List (Env × Call)}
    (hrun : Run Engine.after anyCall { settings := settings } l s) : RecordsNonNeg s :=
  hrun.invariant (I := RecordsNonNeg) ⟨fun _ _ h => (by cases h), fun _ _ h => (by cases h)⟩
    fun _ _ h hc => (exec_callStep hc.1.toFreshLoans hc.2).recordsNonNeg hc.2 h

end NonNeg

/-! ## Exact counters -/

/-- Per-dimension totals of the records of `x` fit into 64 bits. -/
structure TotalsFit (s : Engine) (x : TenantId) : Prop where
  used : ∀ d, s.usedSum x d ≤ INT64_MAX
  reserved : ∀ d, s.reservedSum x d ≤ INT64_MAX
  borrowed : ∀ d, s.borrowedSum x d ≤ INT64_MAX
  lent : ∀ d, s.lentSum x d ≤ INT64_MAX

/-- The counters of `x` are the exact sums over its records. -/
structure ExactAt (s : Engine) (x : TenantId) : Prop where
  consumption : (s.usageOf x).consumption = s.exactUsed x
  reserved : (s.usageOf x).reserved = s.exactRemainder x
  borrowed : ∀ d, (s.usageOf x).borrowedConsumed.get d = s.borrowedSum x d
  debt : ∀ d, (s.usageOf x).debt.get d = s.borrowedSum x d
  lent : ∀ d, (s.usageOf x).lent.get d = s.lentSum x d

section Exact

variable {env : Env} {s s' : Engine} {x : TenantId}

theorem LoansPaired.outstanding_nonNeg (hp : LoansPaired s) {lid : LendingId} {l : LendingRecord}
    (hl : s.lends.lookup lid = some l) : l.outstanding.NonNeg := by
  obtain ⟨bid, b, hb, rfl⟩ := hp.linked.named lid l hl
  obtain ⟨l', hl', hagree⟩ := hp.linked.pair bid b hb
  rw [hl] at hl'
  cases hl'
  cases hrec : b.recalled with
  | false =>
    rw [(hagree.unreturned hrec).2]
    exact hagree.nonNeg
  | true => exact fun d => ((hagree.returned hrec d).2).ge

theorem LoansPaired.borrow_nonNeg (hp : LoansPaired s) {bid : BorrowId} {b : BorrowRecord}
    (hb : s.borrows.lookup bid = some b) : b.consumed.NonNeg := by
  cases hrec : b.recalled with
  | false => exact hp.consumed_nonNeg hb hrec
  | true =>
    obtain ⟨l, -, hagree⟩ := hp.linked.pair bid b hb
    exact fun d => ((hagree.returned hrec d).1).ge

theorem computedDebt_get (h : LoansCovered s) (hfit : ∀ d, s.borrowedSum x d ≤ INT64_MAX)
    (d : ResourceDimension) : (s.computedDebt env x).get d = s.borrowedSum x d := by
  have hdebt : ∀ bid b, s.borrows.lookup bid = some b → (b.borrower == x && !b.recalled) = true →
      b.debt = b.consumed := by
    intro bid b hb hp
    simp only [Bool.and_eq_true, Bool.not_eq_true'] at hp
    obtain ⟨l, -, hagree⟩ := h.paired.linked.pair bid b hb
    rw [h.owed bid b hb, (hagree.unreturned hp.2).1]
  have hsum : ∀ d, s.debtSum x d = s.borrowedSum x d := by
    intro d
    refine total_congr fun bid b hb => ?_
    split
    · rename_i hp
      rw [hdebt bid b hb hp]
    · rfl
  have hnn : ∀ bid b, s.borrows.lookup bid = some b → (b.borrower == x && !b.recalled) = true →
      b.debt.NonNeg := by
    intro bid b hb hp
    rw [hdebt bid b hb hp]
    exact h.paired.borrow_nonNeg hb
  rw [computedDebt_eq hnn fun d => by rw [hsum d]; exact hfit d, get_exactDebt]
  exact hsum d

/-- A resynchronised tenant whose totals fit. -/
theorem SyncedAt.exactAt (h : SyncedAt env s x) (hdebt : (s.usageOf x).debt = s.computedDebt env x)
    (hrec : RecordsNonNeg s) (hcov : LoansCovered s) (hfit : TotalsFit s x) : ExactAt s x where
  consumption := h.consumption.trans (computedConsumed_eq hrec.allocations hfit.used)
  reserved := h.reserved.trans (recomputedReserved_eq_remaining hrec hfit.used hfit.reserved)
  borrowed d := by
    rw [h.borrowed, computedBorrowed_eq (fun bid b hb => hcov.paired.borrow_nonNeg hb) hfit.borrowed,
      get_exactBorrowed]
  debt d := by
    rw [hdebt]
    exact computedDebt_get hcov hfit.borrowed d
  lent d := by
    rw [h.lent, computedLent_eq (fun lid l hl => hcov.paired.outstanding_nonNeg hl) hfit.lent, get_exactLent]

/-- The lent counter of `x` is at most what its records say. -/
def LentCovered (s : Engine) (x : TenantId) : Prop :=
  ∀ d, 0 ≤ (s.usageOf x).lent.get d ∧ (s.usageOf x).lent.get d ≤ s.lentSum x d

theorem SyncedAt.lentCovered (h : SyncedAt env s x) (hp : LoansPaired s) : LentCovered s x := by
  intro d
  have hnn : ∀ lid l, s.lends.lookup lid = some l →
      (l.lender == x && l.outstanding.presentCount != 0) = true → l.outstanding.NonNeg :=
    fun lid l hl _ => hp.outstanding_nonNeg hl
  rw [h.lent]
  refine ⟨sumOf_run_nonNeg env.lendOrder hnn d, (sumOf_run_le env.lendOrder hnn d).trans ?_⟩
  refine total_le_total fun lid l hl => ?_
  have h0 := hp.outstanding_nonNeg hl d
  cases l.lender == x <;> cases l.outstanding.presentCount != 0 <;> simp [h0]

/-- What a recall takes off the lender's sum. -/
theorem lentSum_closeLoan (hp : LoansPaired s) {bid : BorrowId} {b : BorrowRecord}
    (hb : s.borrows.lookup bid = some b) (hrec : b.recalled = false) (x : TenantId) (d : ResourceDimension) :
    s.lentSum x d = (if b.lender = x then b.consumed.get d else 0) +
      (s.closeLoan env bid b (ResourceVector.min b.consumed b.consumed)).lentSum x d := by
  obtain ⟨l, hl, hagree⟩ := hp.linked.pair bid b hb
  obtain ⟨hc, ho⟩ := hagree.unreturned hrec
  rw [ResourceVector.min_self (hp.consumed_nonNeg hb hrec)]
  unfold lentSum
  rw [closeLoan_lends]
  have hm := total_modify (fun y : LendingRecord => { y with outstanding := y.outstanding.subSat b.consumed })
    (fun _ y => if y.lender == x then y.outstanding.get d else 0) hl
  simp only [hagree.lender, ho, hc, ResourceVector.get_subSat_self, ite_self, beq_iff_eq] at hm
  simp only [hc, beq_iff_eq]
  omega

/-- A recall leaves the counters and the sums of all others alone. -/
theorem ExactAt.recalled {bid : BorrowId} {b : BorrowRecord} (h : ExactAt s x) (hp : LoansPaired s)
    (hb : s.borrows.lookup bid = some b) (hrec : b.recalled = false) (hcall : Recalled env s bid b s')
    (hl : x ≠ b.lender) (hr : x ≠ b.borrower) : ExactAt s' x := by
  obtain ⟨e, he⟩ : ∃ e, e = s.closeLoan env bid b (ResourceVector.min b.consumed b.consumed) := ⟨_, rfl⟩
  unfold Recalled at hcall
  rw [← he] at hcall
  have hframe : LoanFrame s e := he ▸ closeLoan_frame env s bid b _
  have hu : s'.usageOf x = s.usageOf x := by
    rw [hcall.other x (by simp [hl, hr]), he]
    have hclose : (s.returnListed env bid).usageOf x = s.usageOf x := usageOf_returnListed hp hb hr
    rcases returnListed_cases env hb with ⟨htrue, -⟩ | ⟨-, heq⟩
    · rw [hrec] at htrue
      cases htrue
    · rwa [heq] at hclose
  have hborrowed : ∀ d, s'.borrowedSum x d = s.borrowedSum x d := by
    intro d
    have hsum : s.borrowedSum x d = (if b.borrower = x then b.consumed.get d else 0) + e.borrowedSum x d :=
      he ▸ borrowedSum_closeLoan hb hrec _ x d
    rw [hsum, if_neg (Ne.symm hr), zero_add]
    exact borrowedSum_congr hcall.borrows x d
  have hlent : ∀ d, s'.lentSum x d = s.lentSum x d := by
    intro d
    have hsum : s.lentSum x d = (if b.lender = x then b.consumed.get d else 0) + e.lentSum x d :=
      he ▸ lentSum_closeLoan hp hb hrec x d
    rw [hsum, if_neg (Ne.symm hl), zero_add]
    unfold lentSum
    rw [hcall.lends]
  have halloc : s'.allocations = s.allocations := hcall.allocations.trans hframe.allocations
  have hres : s'.reservations = s.reservations := hcall.reservations.trans hframe.reservations
  refine ⟨?_, ?_, fun d => ?_, fun d => ?_, fun d => ?_⟩
  · rw [hu, h.consumption]
    unfold exactUsed
    rw [halloc]
  · rw [hu, h.reserved]
    unfold exactRemainder exactRemaining exactAllocUsed
    rw [hres, halloc]
  · rw [hu, hborrowed, h.borrowed]
  · rw [hu, hborrowed, h.debt]
  · rw [hu, hlent, h.lent]

end Exact

/-! ## One recall after another -/

/-- The loans of `L` that are out. -/
def loansOf (s : Engine) (L : TenantId) : List BorrowId :=
  (s.borrows.entries.filter fun e => e.2.lender == L && !e.2.recalled).map fun e => e.1

/-- `x` has a loan of `L`. -/
def BorrowsFrom (s : Engine) (L x : TenantId) : Prop :=
  ∃ bid b, s.borrows.lookup bid = some b ∧ b.recalled = false ∧ b.lender = L ∧ b.borrower = x

def recallStep (s : Engine) (c : Env × Authority × BorrowId) : Engine := (s.recallBorrow c.1 c.2.2 c.2.1).2

def RecallSucceeds (s : Engine) (c : Env × Authority × BorrowId) : Prop :=
  (s.recallBorrow c.1 c.2.2 c.2.1).1.ok = true

/-- All loans of `L`, in some order, each under an authority of the current epoch. -/
structure IsRecallOrder (s : Engine) (L : TenantId) (order : List (Env × Authority × BorrowId)) : Prop where
  all : (order.map fun c => c.2.2).Perm (s.loansOf L)
  current : ∀ c ∈ order, s.staleEpoch c.2.1 = false

/-- What a loan of `s` weighs on `x`. -/
def owing (s : Engine) (x : TenantId) (d : ResourceDimension) (bid : BorrowId) : Int :=
  match s.borrows.lookup bid with
  | none => 0
  | some b => if b.borrower = x then b.consumed.get d else 0

theorem mem_loansOf {s : Engine} {L : TenantId} {bid : BorrowId} :
    bid ∈ s.loansOf L ↔ ∃ b, s.borrows.lookup bid = some b ∧ b.recalled = false ∧ b.lender = L := by
  unfold loansOf
  constructor
  · intro h
    obtain ⟨e, he, rfl⟩ := List.mem_map.mp h
    obtain ⟨hmem, hp⟩ := List.mem_filter.mp he
    simp only [Bool.and_eq_true, beq_iff_eq, Bool.not_eq_true'] at hp
    exact ⟨e.2, lookup_of_mem_entries hmem, hp.2, hp.1⟩
  · rintro ⟨b, hb, hrec, hl⟩
    refine List.mem_map.mpr ⟨⟨bid, b⟩, List.mem_filter.mpr ⟨lookup_eq_some_iff.mp hb, ?_⟩, rfl⟩
    simp [hrec, hl]

theorem loansOf_nodup (s : Engine) (L : TenantId) : (s.loansOf L).Nodup := by
  have hsub : (s.loansOf L).Sublist s.borrows.keys := List.Sublist.map _ List.filter_sublist
  exact s.borrows.keys_nodup.sublist hsub

/-- What holds while the loans of `L` are recalled: `rest` are those still out. -/
structure Recalling (s₀ : Engine) (L : TenantId) (s : Engine) (rest : List BorrowId) : Prop where
  epoch : s.epoch = s₀.epoch
  ledger : s.ledger = s₀.ledger
  covered : LoansCovered s
  out : ∀ bid, bid ∈ rest ↔ ∃ b, s.borrows.lookup bid = some b ∧ b.recalled = false ∧ b.lender = L
  same : ∀ bid ∈ rest, s.borrows.lookup bid = s₀.borrows.lookup bid
  nodup : rest.Nodup
  borrowed : ∀ x d, s.borrowedSum x d + ((s₀.loansOf L).map (s₀.owing x d)).sum =
    s₀.borrowedSum x d + (rest.map (s₀.owing x d)).sum
  lent : ∀ x, x ≠ L → ∀ d, s.lentSum x d = s₀.lentSum x d
  borrowedLe : ∀ x d, s.borrowedSum x d ≤ s₀.borrowedSum x d
  lentLe : ∀ x d, s.lentSum x d ≤ s₀.lentSum x d

theorem recalling_start {s : Engine} (h : LoansCovered s) {L : TenantId} {rest : List BorrowId}
    (hall : rest.Perm (s.loansOf L)) : Recalling s L s rest where
  epoch := rfl
  ledger := rfl
  covered := h
  out bid := by rw [hall.mem_iff, mem_loansOf]
  same _ _ := rfl
  nodup := hall.nodup_iff.mpr (loansOf_nodup s L)
  borrowed x d := by rw [(hall.map (s.owing x d)).sum_eq]
  lent _ _ _ := rfl
  borrowedLe _ _ := le_refl _
  lentLe _ _ := le_refl _

section Recalling

variable {env : Env} {s₀ s s' : Engine} {L : TenantId} {bid : BorrowId} {rest : List BorrowId} {b : BorrowRecord}

/-- **One recall.** -/
theorem Recalling.step (h : Recalling s₀ L s (bid :: rest)) (hb : s.borrows.lookup bid = some b)
    (hrec : b.recalled = false) (hL : b.lender = L) (hcall : Recalled env s bid b s') :
    Recalling s₀ L s' rest := by
  obtain ⟨e, he⟩ : ∃ e, e = s.closeLoan env bid b (ResourceVector.min b.consumed b.consumed) := ⟨_, rfl⟩
  have hcov := hcall.loansCovered hb hrec h.covered
  unfold Recalled at hcall
  rw [← he] at hcall
  have hframe : LoanFrame s e := he ▸ closeLoan_frame env s bid b _
  obtain ⟨hnotMem, hnodup⟩ := List.nodup_cons.mp h.nodup
  have hlook : ∀ bid', bid' ≠ bid → s'.borrows.lookup bid' = s.borrows.lookup bid' := by
    intro bid' hne
    rw [hcall.borrows, he, closeLoan_borrows, lookup_modify_ne _ _ hne]
  have hclosed : ∀ b', s'.borrows.lookup bid = some b' → b'.recalled = true := by
    intro b' hb'
    rw [hcall.borrows, he, closeLoan_borrows, lookup_modify_self, hb] at hb'
    cases hb'
    rfl
  have hlent : ∀ x d, s.lentSum x d = (if b.lender = x then b.consumed.get d else 0) + s'.lentSum x d := by
    intro x d
    have hsum : s.lentSum x d = _ + e.lentSum x d := he ▸ lentSum_closeLoan h.covered.paired hb hrec x d
    rw [hsum]
    unfold lentSum
    rw [hcall.lends]
  have hborrowed : ∀ x d, s.borrowedSum x d =
      (if b.borrower = x then b.consumed.get d else 0) + s'.borrowedSum x d := by
    intro x d
    have hsum : s.borrowedSum x d = _ + e.borrowedSum x d := he ▸ borrowedSum_closeLoan hb hrec _ x d
    rw [hsum, borrowedSum_congr hcall.borrows x d]
  have hpos := fun d => h.covered.paired.consumed_nonNeg hb hrec d
  refine ⟨(hframe.config.trans hcall.config).epoch.trans h.epoch, (hcall.ledger.trans hframe.ledger).trans h.ledger,
    hcov, fun bid' => ?_, fun bid' hbid' => ?_, hnodup, fun x d => ?_, fun x hx d => ?_, fun x d => ?_, fun x d => ?_⟩
  · by_cases hne : bid' = bid
    · subst hne
      refine ⟨fun hmem => absurd hmem hnotMem, ?_⟩
      rintro ⟨b', hb', hrec', -⟩
      rw [hclosed b' hb'] at hrec'
      cases hrec'
    · rw [hlook bid' hne, ← h.out bid', List.mem_cons]
      exact ⟨Or.inr, fun hmem => hmem.resolve_left hne⟩
  · have hne : bid' ≠ bid := by
      rintro rfl
      exact hnotMem hbid'
    rw [hlook bid' hne]
    exact h.same bid' (List.mem_cons_of_mem bid hbid')
  · have howing : s₀.owing x d bid = if b.borrower = x then b.consumed.get d else 0 := by
      unfold owing
      rw [← h.same bid List.mem_cons_self, hb]
    have hold := h.borrowed x d
    have hsum := hborrowed x d
    rw [List.map_cons, List.sum_cons, howing] at hold
    omega
  · have hsum := hlent x d
    rw [hL, if_neg (Ne.symm hx), zero_add] at hsum
    rw [← hsum]
    exact h.lent x hx d
  · have hold := h.borrowedLe x d
    have hsum := hborrowed x d
    have h0 := hpos d
    split at hsum <;> omega
  · have hold := h.lentLe x d
    have hsum := hlent x d
    have h0 := hpos d
    split at hsum <;> omega

theorem Recalling.recordsNonNeg (h : Recalling s₀ L s rest) (hrec : RecordsNonNeg s₀) : RecordsNonNeg s :=
  hrec.of_ledger h.ledger

theorem Recalling.totalsFit (h : Recalling s₀ L s rest) {x : TenantId} (hfit : TotalsFit s₀ x) : TotalsFit s x where
  used d := by
    unfold usedSum
    rw [show s.allocations = s₀.allocations from congrArg Ledger.allocations h.ledger]
    exact hfit.used d
  reserved d := by
    unfold reservedSum
    rw [show s.reservations = s₀.reservations from congrArg Ledger.reservations h.ledger]
    exact hfit.reserved d
  borrowed d := (h.borrowedLe x d).trans (hfit.borrowed d)
  lent d := (h.lentLe x d).trans (hfit.lent d)

end Recalling

/-- Who takes part in the loans of a list. -/
def PartyIn (s : Engine) (rest : List BorrowId) (x : TenantId) : Prop :=
  ∃ bid ∈ rest, ∃ b, s.borrows.lookup bid = some b ∧ (x = b.lender ∨ x = b.borrower)

/-- **All recalls succeed; whoever takes part in one ends with exact counters.** -/
theorem recalling_all {s₀ : Engine} {L : TenantId} (hnn : RecordsNonNeg s₀) :
    ∀ (order : List (Env × Authority × BorrowId)) (s : Engine),
    Recalling s₀ L s (order.map fun c => c.2.2) → (∀ c ∈ order, s₀.staleEpoch c.2.1 = false) →
    Run recallStep RecallSucceeds s order (order.foldl recallStep s) ∧
    Recalling s₀ L (order.foldl recallStep s) [] ∧
    (LentCovered s L ∨ order ≠ [] → LentCovered (order.foldl recallStep s) L) ∧
    ∀ x, TotalsFit s₀ x → ExactAt s x ∨ PartyIn s (order.map fun c => c.2.2) x →
      ExactAt (order.foldl recallStep s) x
  | [], s, h, _ => by
    refine ⟨.nil s, h, fun hs => hs.resolve_right fun hne => hne rfl, fun x _ hx => hx.resolve_right ?_⟩
    rintro ⟨bid, hbid, -⟩
    exact absurd hbid List.not_mem_nil
  | c :: order, s, h, hauth => by
    obtain ⟨b, hb, hrec, hL⟩ := (h.out c.2.2).mp List.mem_cons_self
    have hepoch : s.staleEpoch c.2.1 = false := by
      have hold := hauth c List.mem_cons_self
      unfold staleEpoch at hold ⊢
      rw [h.epoch]
      exact hold
    obtain ⟨hok, hcall⟩ := recallBorrow_succeeds c.1 hepoch hb hrec
    have hnext : Recalling s₀ L (s.recallStep c) (order.map fun c => c.2.2) := h.step hb hrec hL hcall
    obtain ⟨hrun, hdone, hlent, hexact⟩ := recalling_all hnn order (s.recallStep c) hnext
      fun c' hc' => hauth c' (List.mem_cons_of_mem c hc')
    have hsynced : SyncedAt c.1 (s.recallStep c) L :=
      hL ▸ Resynced.synced hcall b.lender List.mem_cons_self
    refine ⟨.cons hok hrun, hdone, fun _ => hlent (Or.inl (hsynced.lentCovered hnext.covered.paired)),
      fun x hfit hx => hexact x hfit ?_⟩
    by_cases hparty : x = b.lender ∨ x = b.borrower
    · have hmem : x ∈ [b.lender, b.borrower] := by simpa using hparty
      exact Or.inl ((Resynced.synced hcall x hmem).exactAt (Resynced.debts hcall x hmem)
        (hnext.recordsNonNeg hnn) hnext.covered (hnext.totalsFit hfit))
    · obtain ⟨hl, hr⟩ := not_or.mp hparty
      rcases hx with hx | ⟨bid, hbid, b', hb', hp⟩
      · exact Or.inl (hx.recalled h.covered.paired hb hrec hcall hl hr)
      · right
        rcases List.mem_cons.mp hbid with rfl | hbid
        · rw [hb] at hb'
          cases hb'
          exact absurd hp hparty
        · refine ⟨bid, hbid, b', ?_, hp⟩
          rw [hnext.same bid hbid, ← h.same bid (List.mem_cons_of_mem _ hbid)]
          exact hb'

/-- The counters of `u` and `v` that the statement is about agree on `d`. -/
def SameCounters (u v : Usage) (d : ResourceDimension) : Prop :=
  u.lent.get d = v.lent.get d ∧ u.borrowedConsumed.get d = v.borrowedConsumed.get d ∧
  u.debt.get d = v.debt.get d ∧ u.reserved.get d = v.reserved.get d ∧
  u.consumption.get d = v.consumption.get d

section Done

variable {s₀ s s' : Engine} {L x : TenantId}

/-- With all its loans recalled the lender's sum is zero. -/
theorem Recalling.lentSum_zero (h : Recalling s₀ L s []) (d : ResourceDimension) : s.lentSum L d = 0 := by
  refine lentSum_of_returned h.covered.paired (fun bid b hb hL => ?_) d
  by_contra hrec
  have hmem := (h.out bid).mpr ⟨b, hb, by simpa using hrec, hL⟩
  exact absurd hmem List.not_mem_nil

theorem Recalling.sameCounters (h : Recalling s₀ L s []) (h' : Recalling s₀ L s' []) (hx : ExactAt s x)
    (hx' : ExactAt s' x) (d : ResourceDimension) : SameCounters (s.usageOf x) (s'.usageOf x) d := by
  have hborrowed : s.borrowedSum x d = s'.borrowedSum x d := by
    have h1 := h.borrowed x d
    have h2 := h'.borrowed x d
    omega
  have hlent : s.lentSum x d = s'.lentSum x d := by
    by_cases hxL : x = L
    · rw [hxL, h.lentSum_zero, h'.lentSum_zero]
    · rw [h.lent x hxL, h'.lent x hxL]
  have hledger : s.ledger = s'.ledger := h.ledger.trans h'.ledger.symm
  have halloc : s.allocations = s'.allocations := congrArg Ledger.allocations hledger
  have hres : s.reservations = s'.reservations := congrArg Ledger.reservations hledger
  refine ⟨?_, ?_, ?_, ?_, ?_⟩
  · rw [hx.lent, hx'.lent, hlent]
  · rw [hx.borrowed, hx'.borrowed, hborrowed]
  · rw [hx.debt, hx'.debt, hborrowed]
  · rw [hx.reserved, hx'.reserved]
    unfold exactRemainder exactRemaining exactAllocUsed
    rw [hres, halloc]
  · rw [hx.consumption, hx'.consumption]
    unfold exactUsed
    rw [halloc]

end Done

/-- **Recalling all loans of a lender restores it, in any order**: every recall succeeds, the lent
    counter ends at zero and no recall is demanded any more; and while the totals fit, the final
    counters of all parties are the same for any two orders. -/
theorem recalls_restore_lender (settings : EngineSettings) {l : List (Env × Call)} {s : Engine}
    (hrun : Run Engine.after anyCall { settings := settings } l s) {L : TenantId} (hsome : s.loansOf L ≠ []) :
    (∀ order, IsRecallOrder s L order →
      Run recallStep RecallSucceeds s order (order.foldl recallStep s) ∧
      (∀ d, ((order.foldl recallStep s).usageOf L).lent.get d = 0) ∧
      ((order.foldl recallStep s).envelope L).compliance ≠ .recallRequired) ∧
    ∀ order order', IsRecallOrder s L order → IsRecallOrder s L order' → ∀ x, x = L ∨ BorrowsFrom s L x →
      TotalsFit s x → ∀ d,
        SameCounters ((order.foldl recallStep s).usageOf x) ((order'.foldl recallStep s).usageOf x) d := by
  have hnn := run_recordsNonNeg hrun
  have hcov := (run_loansCovered hrun).1
  have hall : ∀ order, IsRecallOrder s L order → _ := fun order hord =>
    recalling_all hnn order s (recalling_start hcov hord.all) hord.current
  have hparty : ∀ order, IsRecallOrder s L order → ∀ x, x = L ∨ BorrowsFrom s L x →
      PartyIn s (order.map fun c => c.2.2) x := by
    rintro order hord x (rfl | ⟨bid, b, hb, hrec, hL, rfl⟩)
    · obtain ⟨bid, hbid⟩ := List.exists_mem_of_ne_nil _ hsome
      obtain ⟨b, hb, -, hL⟩ := mem_loansOf.mp hbid
      exact ⟨bid, hord.all.mem_iff.mpr hbid, b, hb, Or.inl hL.symm⟩
    · exact ⟨bid, hord.all.mem_iff.mpr (mem_loansOf.mpr ⟨b, hb, hrec, hL⟩), b, hb, Or.inr rfl⟩
  refine ⟨fun order hord => ?_, fun order order' hord hord' x hx hfit d => ?_⟩
  · obtain ⟨hruns, hdone, hlent, -⟩ := hall order hord
    have hne : order ≠ [] := by
      rintro rfl
      exact hsome (List.nil_perm.mp hord.all)
    have hzero : ∀ d, ((order.foldl recallStep s).usageOf L).lent.get d = 0 := by
      intro d
      have hcovered := hlent (Or.inr hne) d
      rw [hdone.lentSum_zero d] at hcovered
      omega
    exact ⟨hruns, hzero, compliance_ne_recall hzero⟩
  · obtain ⟨-, hdone, -, hexact⟩ := hall order hord
    obtain ⟨-, hdone', -, hexact'⟩ := hall order' hord'
    exact hdone.sameCounters hdone' (hexact x hfit (Or.inr (hparty order hord x hx)))
      (hexact' x hfit (Or.inr (hparty order' hord' x hx))) d

/-- One lender, two borrowers. -/
def twoBorrowers : List (Env × Call) :=
  let auth : Authority := { epoch := .initial, quotaGeneration := .next .initial }
  [(.numbered 1, .createTenant ⟨0, 1⟩ [] none 100),
   (.numbered 2, .createTenant ⟨0, 2⟩ [] none 100),
   (.numbered 3, .createTenant ⟨0, 3⟩ [] none 100),
   (.numbered 4, .setTenantQuota ⟨0, 2⟩
     { guaranteed := .fromScalar .acceleratorVRAM 100, borrowable := .fromScalar .acceleratorVRAM 60 }),
   (.numbered 5, .borrow ⟨0, 1⟩ (.fromScalar .acceleratorVRAM 10) auth),
   (.numbered 6, .borrow ⟨0, 3⟩ (.fromScalar .acceleratorVRAM 20) auth)]

def firstThenSecond : List (Env × Authority × BorrowId) :=
  [(.numbered 7, { epoch := .initial }, ⟨5, 0⟩), (.numbered 8, { epoch := .initial }, ⟨6, 0⟩)]

theorem recalls_restore_lender_twoBorrowers :
    let s := twoBorrowers.foldl Engine.after {}
    (s.usageOf ⟨0, 2⟩).lent.get .acceleratorVRAM = 30 ∧
    ((firstThenSecond.foldl recallStep s).usageOf ⟨0, 2⟩).lent.get .acceleratorVRAM = 0 ∧
    SameCounters ((firstThenSecond.foldl recallStep s).usageOf ⟨0, 1⟩)
      ((firstThenSecond.reverse.foldl recallStep s).usageOf ⟨0, 1⟩) .acceleratorVRAM := by
  have hrun : Run Engine.after anyCall {} twoBorrowers (twoBorrowers.foldl Engine.after {}) :=
    Run.of_check _ _ (by decide +kernel)
  have hmain := recalls_restore_lender {} hrun (L := ⟨0, 2⟩) (by decide +kernel)
  have hfirst : IsRecallOrder (twoBorrowers.foldl Engine.after {}) ⟨0, 2⟩ firstThenSecond :=
    ⟨by decide +kernel, by decide +kernel⟩
  have hsecond : IsRecallOrder (twoBorrowers.foldl Engine.after {}) ⟨0, 2⟩ firstThenSecond.reverse :=
    ⟨by decide +kernel, by decide +kernel⟩
  have hparty : BorrowsFrom (twoBorrowers.foldl Engine.after {}) ⟨0, 2⟩ ⟨0, 1⟩ :=
    ⟨⟨5, 0⟩, _, rfl, rfl, rfl, rfl⟩
  have hfit : TotalsFit (twoBorrowers.foldl Engine.after {}) ⟨0, 1⟩ :=
    ⟨by decide +kernel, by decide +kernel, by decide +kernel, by decide +kernel⟩
  exact ⟨by decide +kernel, (hmain.1 firstThenSecond hfirst).2.1 .acceleratorVRAM,
    hmain.2 _ _ hfirst hsecond ⟨0, 1⟩ (Or.inr hparty) hfit .acceleratorVRAM⟩

end Engine

end QuotaFabric
