import QuotaFabric.Engine.Operations
import QuotaFabric.Engine.Reads

/-!
# What the loan primitives change

Every public call that touches borrow or lending records does so through `openLoan` (the tail of
`borrow_impl`) and `closeLoan` (the tail of `return_borrow`).  `LoanStep` lists the elementary
changes; the loops of `reserve` and `release` are runs of them.

* `LoanFrame` — loan steps leave reservations, funding, allocations, the configuration and the
  capacity counters alone;
* `LoanSteps.lookup_borrow` — a borrow that is not given back keeps its record;
* `returnAll_loanSteps`, `fundLoop_rule` — the loops as runs of loan steps.
-/

set_option autoImplicit false

namespace QuotaFabric

open AList

/-- The counters of a tenant that loans do not touch. -/
def Usage.capacity (u : Usage) : Usage :=
  { u with borrowedConsumed := .empty, lent := .empty, debt := .empty }

namespace Engine

/-! ## Usage entries -/

theorem usageOf_modifyUsage (s : Engine) (t x : TenantId) (f : Usage → Usage) :
    (s.modifyUsage t f).usageOf x = if x = t then f (s.usageOf t) else s.usageOf x := by
  unfold modifyUsage usageOf
  by_cases h : x = t
  · subst h; simp
  · simp [h, lookup_insert_ne h]

@[simp] theorem usageOf_modifyUsage_self (s : Engine) (t : TenantId) (f : Usage → Usage) :
    (s.modifyUsage t f).usageOf t = f (s.usageOf t) := by
  rw [usageOf_modifyUsage, if_pos rfl]

theorem usageOf_modifyUsage_ne (s : Engine) {t x : TenantId} (f : Usage → Usage) (h : x ≠ t) :
    (s.modifyUsage t f).usageOf x = s.usageOf x := by
  rw [usageOf_modifyUsage, if_neg h]

@[simp] theorem usageOf_modifyUsage_id (s : Engine) (t x : TenantId) :
    (s.modifyUsage t id).usageOf x = s.usageOf x := by
  rw [usageOf_modifyUsage]
  split
  · rename_i h; subst h; rfl
  · rfl

theorem capacity_modifyUsage (s : Engine) (t x : TenantId) (f : Usage → Usage)
    (hf : ∀ u, (f u).capacity = u.capacity) :
    ((s.modifyUsage t f).usageOf x).capacity = (s.usageOf x).capacity := by
  rw [usageOf_modifyUsage]
  split
  · rename_i h; rw [hf, h]
  · rfl

@[simp] theorem usageOf_emitEvent (env : Env) (s : Engine) (type : EventType) (t x : TenantId)
    (detail : Str) : (s.emitEvent env type t detail).usageOf x = s.usageOf x := rfl

/-! ## Opening a loan -/

/-- The ids a call may give to its loans are new. -/
structure FreshLoans (env : Env) (s : Engine) : Prop where
  borrowId : ∀ d, env.borrowId d ∉ s.borrows
  lendingId : ∀ d, env.lendingId d ∉ s.lends
  borrowId_injective : Function.Injective env.borrowId
  lendingId_injective : Function.Injective env.lendingId

section OpenLoan

variable (env : Env) (s : Engine) (k : ResourceDimension) (lender borrower : TenantId)
  (amount : ResourceVector) (reservation : Option ReservationId)

theorem openLoan_borrows : (s.openLoan env k lender borrower amount reservation).borrows =
    s.borrows.emplace (env.borrowId k) (s.newBorrow env k lender borrower amount reservation) := rfl

theorem openLoan_lends : (s.openLoan env k lender borrower amount reservation).lends =
    s.lends.emplace (env.lendingId k) (s.newLending env k lender borrower amount) := rfl

/-- The counters after a loan is opened. -/
theorem usageOf_openLoan (x : TenantId) :
    (s.openLoan env k lender borrower amount reservation).usageOf x =
      { s.usageOf x with
        lent := if x = lender then (s.usageOf x).lent.accum amount else (s.usageOf x).lent
        borrowedConsumed :=
          if x = borrower then (s.usageOf x).borrowedConsumed.accum amount
          else (s.usageOf x).borrowedConsumed
        debt := if x = borrower then (s.usageOf x).debt.accum amount else (s.usageOf x).debt } := by
  unfold openLoan
  simp only [usageOf_emitEvent, usageOf_modifyUsage]
  by_cases hb : x = borrower <;> by_cases hl : x = lender
  · subst hb; subst hl; simp [usageOf]
  · subst hb; simp [hl, usageOf]
  · subst hl; simp [hb, usageOf]
  · simp [hb, hl, usageOf]

end OpenLoan

theorem borrowImpl_of_lender {env : Env} {s : Engine} {borrower lender : TenantId}
    {amount : ResourceVector} (h : s.chooseLender env borrower amount = some lender)
    (k : ResourceDimension) (reservation : Option ReservationId) :
    s.borrowImpl env k borrower amount reservation =
      (.ok (s.newBorrow env k lender borrower amount reservation),
        s.openLoan env k lender borrower amount reservation) := by
  unfold borrowImpl
  rw [h]

theorem borrowImpl_of_no_lender {env : Env} {s : Engine} {borrower : TenantId}
    {amount : ResourceVector} (h : s.chooseLender env borrower amount = none)
    (k : ResourceDimension) (reservation : Option ReservationId) :
    s.borrowImpl env k borrower amount reservation =
      (.error (.failure .hardLimitExceeded (text "no lender with borrowable capacity")), s) := by
  unfold borrowImpl
  rw [h]

/-- The chosen lender is another tenant that offers enough. -/
theorem chooseLender_spec {env : Env} {s : Engine} {borrower lender : TenantId}
    {amount : ResourceVector} (h : s.chooseLender env borrower amount = some lender) :
    lender ≠ borrower ∧ s.canLend lender amount = true := by
  unfold chooseLender at h
  obtain ⟨e, he, rfl⟩ := Option.map_eq_some_iff.mp h
  have hp := List.find?_some he
  simp only [Bool.and_eq_true, Bool.not_eq_true', beq_eq_false_iff_ne] at hp
  exact hp

theorem canLend_apply {s : Engine} {lender : TenantId} {amount : ResourceVector}
    (h : s.canLend lender amount = true) {d : ResourceDimension} (hd : amount.present d = true) :
    (s.effectiveLattice lender).borrowable.present d = true ∧
      amount.get d ≤ s.availableToLend lender d := by
  unfold canLend at h
  have hp := (List.all_eq_true.mp h) d (mem_allResourceDimensions d)
  simp only [hd, Bool.not_true, Bool.false_or, Bool.and_eq_true, Bool.not_eq_true',
    decide_eq_false_iff_not, not_lt] at hp
  exact hp

/-! ## Closing a loan -/

theorem closeLending_lends (s : Engine) (lid : LendingId) (ret : ResourceVector) :
    (s.closeLending lid ret).lends =
      s.lends.modify lid fun x => { x with outstanding := x.outstanding.subSat ret } := by
  unfold closeLending
  split
  · rename_i h
    exact (modify_of_lookup_none _ h).symm
  · rename_i l h
    have hm : s.lends.modify lid (fun x => { x with outstanding := l.outstanding.subSat ret }) =
        s.lends.modify lid fun x => { x with outstanding := x.outstanding.subSat ret } := by
      apply modify_congr
      intro x hx
      rw [h] at hx
      cases hx; rfl
    simp only
    split <;> exact hm

/-- A lending record that has an entry in `outstanding` wherever it has one in `amount` never
    looks used up, so the lender's counter stays. -/
theorem usageOf_closeLending {s : Engine} {lid : LendingId}
    (h : ∀ l, s.lends.lookup lid = some l →
      ∀ d, l.amount.present d = true → l.outstanding.present d = true)
    (ret : ResourceVector) (x : TenantId) : (s.closeLending lid ret).usageOf x = s.usageOf x := by
  unfold closeLending
  split
  · rfl
  · rename_i l hl
    rw [if_neg]
    · rfl
    · intro hc
      simp only [Bool.and_eq_true, bne_iff_ne, ne_eq] at hc
      obtain ⟨he, hne⟩ := hc
      apply hne
      rw [ResourceVector.presentCount_eq_zero_iff, ResourceVector.isEmpty_iff]
      intro d
      by_contra hd
      have hp := h l hl d (by simpa using hd)
      have hq := ResourceVector.isEmpty_iff.mp he d
      rw [ResourceVector.present_subSat, hp] at hq
      cases hq

theorem capacity_closeLending (s : Engine) (lid : LendingId) (ret : ResourceVector) (x : TenantId) :
    ((s.closeLending lid ret).usageOf x).capacity = (s.usageOf x).capacity := by
  unfold closeLending
  split
  · rfl
  · simp only
    split
    · rw [capacity_modifyUsage]
      · rfl
      · exact fun _ => rfl
    · rfl

section CloseLoan

variable (env : Env) (s : Engine) (bid : BorrowId) (b : BorrowRecord) (ret : ResourceVector)

theorem closeLoan_borrows : (s.closeLoan env bid b ret).borrows =
    s.borrows.modify bid fun x => { x with consumed := b.consumed.subSat ret, recalled := true } := by
  change ((s.closeBorrow bid b ret).closeLending b.lending ret).borrows = _
  unfold closeLending
  split
  · rfl
  · simp only
    split <;> rfl

theorem closeLoan_lends : (s.closeLoan env bid b ret).lends =
    s.lends.modify b.lending fun x => { x with outstanding := x.outstanding.subSat ret } :=
  closeLending_lends (s.closeBorrow bid b ret) b.lending ret

/-- The counters after a loan is closed. -/
theorem usageOf_closeLoan
    (h : ∀ l, s.lends.lookup b.lending = some l →
      ∀ d, l.amount.present d = true → l.outstanding.present d = true) (x : TenantId) :
    (s.closeLoan env bid b ret).usageOf x =
      { s.usageOf x with
        borrowedConsumed :=
          if x = b.borrower then (s.usageOf x).borrowedConsumed.subSat ret
          else (s.usageOf x).borrowedConsumed
        debt := if x = b.borrower then (s.usageOf x).debt.subSat ret else (s.usageOf x).debt } := by
  unfold closeLoan
  rw [usageOf_emitEvent, usageOf_closeLending (s := s.closeBorrow bid b ret) h]
  unfold closeBorrow
  rw [usageOf_modifyUsage]
  by_cases hb : x = b.borrower
  · subst hb; simp [usageOf]
  · simp [hb, usageOf]

theorem capacity_closeLoan (x : TenantId) :
    ((s.closeLoan env bid b ret).usageOf x).capacity = (s.usageOf x).capacity := by
  unfold closeLoan
  rw [usageOf_emitEvent, capacity_closeLending]
  unfold closeBorrow
  rw [capacity_modifyUsage]
  · rfl
  · exact fun _ => rfl

end CloseLoan

/-! ## Loan steps -/

/-- An elementary change of the loan book.  `B` says which borrows may be given back.  `adopted`
    is the record that `borrows_[bid]` makes when `bid` is missing. -/
inductive LoanStep (env : Env) (B : BorrowId → Prop) : Engine → Engine → Prop
  | touched (s : Engine) (t : TenantId) : LoanStep env B s (s.modifyUsage t id)
  | opened {s : Engine} {borrower lender : TenantId} {amount : ResourceVector} (k : ResourceDimension)
      (hlender : s.chooseLender env borrower amount = some lender) (hamount : amount.NonNeg)
      (hbid : env.borrowId k ∉ s.borrows) (hlid : env.lendingId k ∉ s.lends) :
      LoanStep env B s (s.openLoan env k lender borrower amount none)
  | closed {s : Engine} {bid : BorrowId} {b : BorrowRecord} (hB : B bid)
      (hb : s.borrows.lookup bid = some b) (hrec : b.recalled = false) :
      LoanStep env B s (s.closeLoan env bid b (ResourceVector.min b.consumed b.consumed))
  | adopted {s : Engine} {bid : BorrowId} (hB : B bid) (hb : bid ∉ s.borrows) :
      LoanStep env B s { s with borrows := s.borrows.emplace bid {} }

abbrev LoanSteps (env : Env) (B : BorrowId → Prop) : Engine → Engine → Prop :=
  Relation.ReflTransGen (LoanStep env B)

theorem LoanSteps.mono {env : Env} {B B' : BorrowId → Prop} {s s' : Engine}
    (hB : ∀ bid, B bid → B' bid) (h : LoanSteps env B s s') : LoanSteps env B' s s' := by
  induction h with
  | refl => exact .refl
  | tail _ hstep ih =>
    refine ih.tail ?_
    cases hstep with
    | touched t => exact .touched _ t
    | opened k h1 h2 h3 h4 => exact .opened k h1 h2 h3 h4
    | closed h1 h2 h3 => exact .closed (hB _ h1) h2 h3
    | adopted h1 h2 => exact .adopted (hB _ h1) h2

/-- What loan steps leave alone. -/
structure LoanFrame (s s' : Engine) : Prop where
  config : SameConfig s s'
  reservations : s'.reservations = s.reservations
  funding : s'.funding = s.funding
  allocations : s'.allocations = s.allocations
  capacity : ∀ x, (s'.usageOf x).capacity = (s.usageOf x).capacity

theorem LoanFrame.refl (s : Engine) : LoanFrame s s := ⟨.refl s, rfl, rfl, rfl, fun _ => rfl⟩

theorem LoanFrame.trans {s s' s'' : Engine} (h : LoanFrame s s') (h' : LoanFrame s' s'') :
    LoanFrame s s'' :=
  ⟨h.config.trans h'.config, h'.reservations.trans h.reservations, h'.funding.trans h.funding,
    h'.allocations.trans h.allocations, fun x => (h'.capacity x).trans (h.capacity x)⟩

theorem LoanFrame.counters {s s' : Engine} (h : LoanFrame s s') (x : TenantId) :
    (s'.usageOf x).consumption = (s.usageOf x).consumption ∧
      (s'.usageOf x).reserved = (s.usageOf x).reserved ∧ (s'.usageOf x).burst = (s.usageOf x).burst := by
  have h1 := congrArg Usage.consumption (h.capacity x)
  have h2 := congrArg Usage.reserved (h.capacity x)
  have h3 := congrArg Usage.burst (h.capacity x)
  exact ⟨h1, h2, h3⟩

section Frame

variable {env : Env} {B : BorrowId → Prop} {s s' : Engine}

theorem openLoan_frame (env : Env) (s : Engine) (k : ResourceDimension) (lender borrower : TenantId)
    (amount : ResourceVector) (reservation : Option ReservationId) :
    LoanFrame s (s.openLoan env k lender borrower amount reservation) := by
  refine ⟨?_, ?_, ?_, ?_, fun x => by rw [usageOf_openLoan]; rfl⟩
  -- unfolded first, or `rfl` compares the event logs as well
  all_goals unfold openLoan emitEvent modifyUsage
  · exact ⟨rfl, rfl, rfl, rfl, rfl, rfl, rfl⟩
  all_goals rfl

theorem closeLoan_frame (env : Env) (s : Engine) (bid : BorrowId) (b : BorrowRecord)
    (ret : ResourceVector) : LoanFrame s (s.closeLoan env bid b ret) := by
  refine ⟨?_, ?_, ?_, ?_, capacity_closeLoan env s bid b ret⟩
  all_goals
    unfold closeLoan closeLending
    simp only
    split
  all_goals try split
  all_goals first | rfl | exact ⟨rfl, rfl, rfl, rfl, rfl, rfl, rfl⟩

theorem LoanStep.frame (h : LoanStep env B s s') : LoanFrame s s' := by
  cases h with
  | touched t => exact ⟨⟨rfl, rfl, rfl, rfl, rfl, rfl, rfl⟩, rfl, rfl, rfl, fun x => by simp⟩
  | opened k => exact openLoan_frame ..
  | closed => exact closeLoan_frame ..
  | adopted => exact ⟨⟨rfl, rfl, rfl, rfl, rfl, rfl, rfl⟩, rfl, rfl, rfl, fun _ => rfl⟩

theorem LoanSteps.frame (h : LoanSteps env B s s') : LoanFrame s s' := by
  induction h with
  | refl => exact .refl s
  | tail _ hstep ih => exact ih.trans hstep.frame

/-- A borrow that may not be given back keeps its record. -/
theorem LoanStep.lookup_borrow (h : LoanStep env B s s') {bid : BorrowId} {b : BorrowRecord}
    (hb : s.borrows.lookup bid = some b) (hB : ¬ B bid) : s'.borrows.lookup bid = some b := by
  cases h with
  | touched t => exact hb
  | opened k _ _ hbid _ =>
    rw [openLoan_borrows, emplace_of_notMem hbid, lookup_insert_ne]
    · exact hb
    · rintro rfl; exact hbid (mem_of_lookup hb)
  | closed hB' =>
    rw [closeLoan_borrows, lookup_modify_ne]
    · exact hb
    · rintro rfl; exact hB hB'
  | adopted hB' hm =>
    change (emplace _ _ s.borrows).lookup bid = some b
    rw [emplace_of_notMem hm, lookup_insert_ne]
    · exact hb
    · rintro rfl; exact hB hB'

theorem LoanSteps.lookup_borrow (h : LoanSteps env B s s') {bid : BorrowId} {b : BorrowRecord}
    (hb : s.borrows.lookup bid = some b) (hB : ¬ B bid) : s'.borrows.lookup bid = some b := by
  induction h with
  | refl => exact hb
  | tail _ hstep ih => exact hstep.lookup_borrow ih hB

/-- Borrow records are never removed. -/
theorem LoanStep.mem_borrows (h : LoanStep env B s s') {bid : BorrowId} (hb : bid ∈ s.borrows) :
    bid ∈ s'.borrows := by
  cases h with
  | touched t => exact hb
  | opened k _ _ hbid _ =>
    rw [openLoan_borrows, emplace_of_notMem hbid, mem_insert]; exact Or.inr hb
  | closed => rw [closeLoan_borrows, mem_modify]; exact hb
  | adopted _ hm =>
    change bid ∈ emplace _ _ s.borrows
    rw [emplace_of_notMem hm, mem_insert]; exact Or.inr hb

theorem LoanSteps.mem_borrows (h : LoanSteps env B s s') {bid : BorrowId} (hb : bid ∈ s.borrows) :
    bid ∈ s'.borrows := by
  induction h with
  | refl => exact hb
  | tail _ hstep ih => exact hstep.mem_borrows ih

end Frame

/-! ## The loops as runs of loan steps -/

section Loops

variable {env : Env} {B : BorrowId → Prop}

theorem returnBorrow_loanSteps {s : Engine} {bid : BorrowId} {b : BorrowRecord}
    (hb : s.borrows.lookup bid = some b) (hB : B bid) :
    LoanSteps env B s (s.returnBorrow env bid b.consumed).2 := by
  unfold returnBorrow
  rw [hb]
  simp only
  split
  · exact .refl
  · rename_i hrec
    exact .single (.closed hB hb (by simpa using hrec))

theorem returnListed_loanSteps (s : Engine) {bid : BorrowId} (hB : B bid) :
    LoanSteps env B s (s.returnListed env bid) := by
  obtain ⟨s₁, hs₁⟩ : ∃ x : Engine, x = { s with borrows := s.borrows.emplace bid {} } := ⟨_, rfl⟩
  have heq : s.returnListed env bid =
      (s₁.returnBorrow env bid ((s₁.borrows.lookup bid).getD {}).consumed).2 := by rw [hs₁]; rfl
  rw [heq]
  by_cases hm : bid ∈ s.borrows
  · obtain ⟨b, hb⟩ := exists_lookup_of_mem hm
    have hs : s₁ = s := by
      rw [hs₁]; unfold emplace; rw [if_pos hm]
    rw [hs, hb]
    exact returnBorrow_loanSteps hb hB
  · have hb : s₁.borrows.lookup bid = some {} := by
      rw [hs₁]
      change (emplace bid _ s.borrows).lookup bid = _
      rw [emplace_of_notMem hm, lookup_insert]
    rw [hb]
    have hfirst : LoanStep env B s s₁ := by rw [hs₁]; exact .adopted hB hm
    exact (Relation.ReflTransGen.single hfirst).trans (returnBorrow_loanSteps hb hB)

theorem returnAll_loanSteps : ∀ (bids : List BorrowId) (s : Engine), (∀ bid ∈ bids, B bid) →
    LoanSteps env B s (s.returnAll env bids)
  | [], _, _ => .refl
  | bid :: bids, s, hB =>
    (returnListed_loanSteps s (hB bid List.mem_cons_self)).trans
      (returnAll_loanSteps bids _ fun x hx => hB x (List.mem_cons_of_mem bid hx))

end Loops

section Funding

variable {env : Env} {eff : ResourceQuota} {cb : ResourceVector} {t : TenantId} {req : ResourceVector}

/-- The amount `reserve` borrows on `d`. -/
def borrowNeed (eff : ResourceQuota) (cb req : ResourceVector) (d : ResourceDimension) : Int :=
  if req.present d && !isConsumable d then borrowPart eff d (cb.get d) (satAdd (cb.get d) (req.get d))
  else 0

/-- What one dimension of the funding loop can do: nothing but burst, a loan, or a rollback. -/
theorem fundDimension_cases (env : Env) (eff : ResourceQuota) (cb : ResourceVector) (t : TenantId)
    (req : ResourceVector) (st : Draw) (d : ResourceDimension) :
    (borrowNeed eff cb req d ≤ 0 ∧
      ∃ burst, fundDimension env eff cb t req st d = .ok { st with burst := burst } ∧
        (burst = st.burst ∨ req.present d = true ∧ ∃ x, 0 < x ∧ burst = st.burst.put d x)) ∨
    (0 < borrowNeed eff cb req d ∧ req.present d = true ∧ isConsumable d = false ∧
      ((∃ lender burst, st.engine.chooseLender env t
            (ResourceVector.fromScalar d (borrowNeed eff cb req d)) = some lender ∧
          fundDimension env eff cb t req st d =
            .ok { engine := st.engine.openLoan env d lender t
                    (ResourceVector.fromScalar d (borrowNeed eff cb req d)) none
                  burst := burst, borrowIds := st.borrowIds ++ [env.borrowId d] } ∧
          (burst = st.burst ∨ ∃ x, 0 < x ∧ burst = st.burst.put d x)) ∨
       (st.engine.chooseLender env t
            (ResourceVector.fromScalar d (borrowNeed eff cb req d)) = none ∧
          ∃ q, fundDimension env eff cb t req st d =
            .error (q, st.engine.returnAll env st.borrowIds)))) := by
  by_cases hd : req.present d = true ∧ isConsumable d = false
  · obtain ⟨hp, hc⟩ := hd
    obtain ⟨need, hneed⟩ : ∃ x, x = borrowNeed eff cb req d := ⟨_, rfl⟩
    have hneed' : borrowPart eff d (cb.get d) (satAdd (cb.get d) (req.get d)) = need := by
      rw [hneed]; unfold borrowNeed; simp [hp, hc]
    obtain ⟨bp, hbp⟩ : ∃ x, x = burstPart env eff d (cb.get d) (satAdd (cb.get d) (req.get d)) :=
      ⟨_, rfl⟩
    obtain ⟨burst, hburst⟩ : ∃ v, v = if bp > 0 then (st.burst.set d bp).2 else st.burst := ⟨_, rfl⟩
    have hb : burst = st.burst ∨ ∃ x, 0 < x ∧ burst = st.burst.put d x := by
      by_cases h : bp > 0
      · right
        refine ⟨bp, h, ?_⟩
        rw [hburst, if_pos h]; unfold ResourceVector.set; rw [if_neg (by omega)]
      · left; rw [hburst, if_neg h]
    rw [← hneed]
    unfold fundDimension
    simp only [hp, hc, Bool.not_true, Bool.or_false, Bool.false_eq_true, if_false, hneed', ← hbp, ← hburst]
    by_cases hpos : need > 0
    · right
      rw [if_pos hpos]
      refine ⟨hpos, trivial, trivial, ?_⟩
      cases hl : st.engine.chooseLender env t (ResourceVector.fromScalar d need) with
      | none =>
        right
        rw [borrowImpl_of_no_lender hl]
        exact ⟨rfl, _, rfl⟩
      | some lender =>
        left
        rw [borrowImpl_of_lender hl]
        exact ⟨lender, burst, rfl, rfl, hb⟩
    · left
      rw [if_neg hpos]
      exact ⟨by omega, burst, rfl, hb.imp id fun h => ⟨trivial, h⟩⟩
  · left
    have hskip : (!req.present d || isConsumable d) = true := by
      cases h1 : req.present d <;> cases h2 : isConsumable d <;> simp_all
    refine ⟨?_, st.burst, ?_, Or.inl rfl⟩
    · unfold borrowNeed
      rw [if_neg]
      cases h1 : req.present d <;> cases h2 : isConsumable d <;> simp_all
    · unfold fundDimension
      rw [if_pos hskip]

/-- Loop rule: `P` speaks about the dimensions still to come and the loop state. -/
theorem fundLoop_rule {P : List ResourceDimension → Draw → Prop}
    (hstep : ∀ d ds st st', P (d :: ds) st → fundDimension env eff cb t req st d = .ok st' → P ds st') :
    ∀ (ds : List ResourceDimension) (st st' : Draw), P ds st →
      fundLoop env eff cb t req ds st = .ok st' → P [] st'
  | [], st, st', h, hf => by cases hf; exact h
  | d :: ds, st, st', h, hf => by
    unfold fundLoop at hf
    split at hf
    · cases hf
    · rename_i st₁ hd
      exact fundLoop_rule hstep ds st₁ st' (hstep d ds st st₁ h hd) hf

/-- The loop fails at one dimension, after it got through the ones before. -/
theorem fundLoop_error {e : QuotaStatus × Engine} : ∀ (ds : List ResourceDimension) (st : Draw),
    fundLoop env eff cb t req ds st = .error e →
      ∃ pre d post st', ds = pre ++ d :: post ∧ fundLoop env eff cb t req pre st = .ok st' ∧
        fundDimension env eff cb t req st' d = .error e
  | [], st, h => by cases h
  | d :: ds, st, h => by
    unfold fundLoop at h
    split at h
    · rename_i e' hd
      cases h
      exact ⟨[], d, ds, st, rfl, rfl, hd⟩
    · rename_i st₁ hd
      obtain ⟨pre, d', post, st', rfl, hpre, herr⟩ := fundLoop_error ds st₁ h
      refine ⟨d :: pre, d', post, st', rfl, ?_, herr⟩
      unfold fundLoop
      rw [hd]
      exact hpre

end Funding

end Engine

end QuotaFabric
