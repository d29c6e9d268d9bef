import QuotaFabric.Loans.Pairing
import QuotaFabric.Engine.Lattice
import QuotaFabric.Engine.Recompute

/-!
# What a lender lends

The lender's `lent` counter is raised when a loan is opened and rewritten when the lender is
resynchronised; a return leaves it as it is.  So it never under-counts the outstanding loans, and
`available_to_lend`, which reads it, keeps them within what the lender marked borrowable.

* `CoversLoans` — the counters cover the records;
* `LendInv` — and, under one configuration, the records stay within the lendable amount;
* `LoanStep.coversLoans`, `Resynced.coversLoans`, `exec_lendInv` — each step keeps it;
* `lending_bounded` — the bound, in every state of every run of the core calls.
-/

set_option autoImplicit false

namespace QuotaFabric

open AList

/-- What a tenant may lend on `d` at most; an absent limit counts as `0`. -/
def lendable (eff : ResourceQuota) (d : ResourceDimension) : Int :=
  min (eff.borrowable.get d) (eff.guaranteed.get d)

namespace Engine

/-- No amount is negative, and the lent counters cover the outstanding loans. -/
structure CoversLoans (s : Engine) : Prop where
  records : RecordsNonNeg s
  capacity : ∀ x, (s.usageOf x).consumption.NonNeg ∧ (s.usageOf x).reserved.NonNeg
  lent : ∀ x, (s.usageOf x).lent.Valid
  lends : ∀ lid l, s.lends.lookup lid = some l →
    l.outstanding.NonNeg ∧ ∀ d, l.outstanding.present d = l.amount.present d
  covered : ∀ x d, s.lentSum x d ≤ (s.usageOf x).lent.get d

/-- The counter covers the outstanding loans, and they stay within the lendable amount. -/
structure LendInv (s₀ s : Engine) : Prop where
  config : SameConfig s₀ s
  records : RecordsNonNeg s
  capacity : ∀ x, (s.usageOf x).consumption.NonNeg ∧ (s.usageOf x).reserved.NonNeg
  lent : ∀ x, (s.usageOf x).lent.Valid
  lends : ∀ lid l, s.lends.lookup lid = some l →
    l.outstanding.NonNeg ∧ ∀ d, l.outstanding.present d = l.amount.present d
  covered : ∀ x d, s.lentSum x d ≤ (s.usageOf x).lent.get d
  bounded : ∀ x d, s.lentSum x d ≤ lendable (s₀.effectiveLattice x) d

theorem LendInv.covers {s₀ s : Engine} (h : LendInv s₀ s) : CoversLoans s :=
  ⟨h.records, h.capacity, h.lent, h.lends, h.covered⟩

theorem CoversLoans.lendInv {s₀ s : Engine} (h : CoversLoans s) (hconf : SameConfig s₀ s)
    (hb : ∀ x d, s.lentSum x d ≤ lendable (s₀.effectiveLattice x) d) : LendInv s₀ s :=
  ⟨hconf, h.records, h.capacity, h.lent, h.lends, h.covered, hb⟩

theorem SameConfig.quotasValid {s s' : Engine} (h : SameConfig s s') (hq : QuotasValid s) : QuotasValid s' :=
  ⟨by rw [h.localQuota]; exact hq.localQuota, by rw [h.groupQuota]; exact hq.groupQuota⟩

/-! ## Opening -/

/-- What is lent already plus what is offered stays within the lendable amount. -/
theorem availableToLend_bound {s : Engine} {x : TenantId} {d : ResourceDimension} {a : Int}
    (hb : (s.effectiveLattice x).borrowable.present d = true) (ha : a ≤ s.availableToLend x d)
    (hpos : 0 < a) (hc : 0 ≤ (s.committed x).get d) (hl : 0 ≤ (s.usageOf x).lent.get d) :
    (s.usageOf x).lent.get d + a ≤ lendable (s.effectiveLattice x) d := by
  have hg : (if (s.effectiveLattice x).guaranteed.present d = true then
      (s.effectiveLattice x).guaranteed.get d else 0) = (s.effectiveLattice x).guaranteed.get d := by
    cases h : (s.effectiveLattice x).guaranteed.present d with
    | true => rfl
    | false => rw [SparseVec.get_of_not_present h]; rfl
  unfold availableToLend at ha
  simp only [hb, if_true, hg] at ha
  unfold lendable
  omega

/-- An opened loan adds to the lender's records what it adds to its counter. -/
theorem lentSum_openLoan {env : Env} {s : Engine} {k : ResourceDimension} (lender borrower : TenantId)
    (amount : ResourceVector) (hlid : env.lendingId k ∉ s.lends) (x : TenantId) (d : ResourceDimension) :
    (s.openLoan env k lender borrower amount none).lentSum x d =
      (if lender = x then amount.get d else 0) + s.lentSum x d := by
  unfold lentSum
  rw [openLoan_lends, emplace_of_notMem hlid, total_insert _ _ hlid]
  simp [newLending]

section Steps

variable {env : Env} {s₀ s s' : Engine}

theorem committed_nonNeg (h : CoversLoans s) (x : TenantId) : (s.committed x).NonNeg :=
  ResourceVector.accum_nonNeg (h.capacity x).1 (h.capacity x).2

/-- The counter of the chosen lender can take the amount without overflow. -/
theorem openLoan_fits (hq : QuotasValid s) (h : CoversLoans s) {borrower lender : TenantId}
    {amount : ResourceVector} (hl : s.chooseLender env borrower amount = some lender)
    (d : ResourceDimension) :
    (s.usageOf lender).lent.get d + amount.get d ≤ INT64_MAX ∧
      (0 < amount.get d →
        (s.usageOf lender).lent.get d + amount.get d ≤ lendable (s.effectiveLattice lender) d) := by
  have hcan := (chooseLender_spec hl).2
  have hbound : 0 < amount.get d →
      (s.usageOf lender).lent.get d + amount.get d ≤ lendable (s.effectiveLattice lender) d := by
    intro hpos
    have hpres : amount.present d = true := by
      by_contra hno
      have hz := SparseVec.get_of_not_present (v := amount) (i := d) (by simpa using hno)
      omega
    obtain ⟨hb, hle⟩ := canLend_apply hcan hpres
    exact availableToLend_bound hb hle hpos (committed_nonNeg h lender d) (h.lent lender d).1
  refine ⟨?_, hbound⟩
  by_cases hpos : 0 < amount.get d
  · have h1 := hbound hpos
    have h2 := ((effectiveLattice_valid hq lender).1 d).2
    unfold lendable at h1
    omega
  · have h1 := (h.lent lender d).2
    omega

/-- The lender's counter grows by the amount. -/
theorem lent_openLoan (hq : QuotasValid s) (h : CoversLoans s) {borrower lender : TenantId}
    {amount : ResourceVector} {k : ResourceDimension}
    (hl : s.chooseLender env borrower amount = some lender) (x : TenantId) :
    ((s.openLoan env k lender borrower amount none).usageOf x).lent =
      if x = lender then (s.usageOf lender).lent + amount else (s.usageOf x).lent := by
  have hacc : (s.usageOf lender).lent.accum amount = (s.usageOf lender).lent + amount :=
    ResourceVector.accum_of_fits fun d => (openLoan_fits hq h hl d).1
  rw [usageOf_openLoan]
  simp only
  split
  · rename_i hx
    rw [hx]
    exact hacc
  · rfl

theorem openLoan_coversLoans (hq : QuotasValid s) (h : CoversLoans s) {borrower lender : TenantId}
    {amount : ResourceVector} {k : ResourceDimension}
    (hl : s.chooseLender env borrower amount = some lender) (hamount : amount.NonNeg)
    (hlid : env.lendingId k ∉ s.lends) : CoversLoans (s.openLoan env k lender borrower amount none) := by
  have hfits := openLoan_fits hq h hl
  have hframe := openLoan_frame env s k lender borrower amount none
  refine ⟨⟨?_, ?_⟩, ?_, ?_, ?_, ?_⟩
  · rw [hframe.reservations]
    exact h.records.reservations
  · rw [hframe.allocations]
    exact h.records.allocations
  · intro x
    rw [usageOf_openLoan]
    exact h.capacity x
  · intro x d
    rw [lent_openLoan hq h hl]
    split
    · have h1 := (h.lent lender d).1
      have h2 := hamount d
      have h3 := (hfits d).1
      rw [SparseVec.get_add]
      omega
    · exact h.lent x d
  · intro lid l hlook
    rw [openLoan_lends, emplace_of_notMem hlid] at hlook
    by_cases hid : lid = env.lendingId k
    · subst hid
      rw [lookup_insert] at hlook
      cases hlook
      exact ⟨hamount, fun _ => rfl⟩
    · rw [lookup_insert_ne hid] at hlook
      exact h.lends lid l hlook
  · intro x d
    rw [lentSum_openLoan lender borrower amount hlid, lent_openLoan hq h hl]
    have hcov := h.covered x d
    by_cases hx : x = lender
    · subst hx
      rw [if_pos rfl, if_pos rfl, SparseVec.get_add]
      omega
    · rw [if_neg hx, if_neg fun he => hx he.symm]
      omega

/-! ## Closing -/

/-- A return takes the outstanding amounts down. -/
theorem lentSum_closeLoan_le (h : CoversLoans s) (bid : BorrowId) (b : BorrowRecord)
    {ret : ResourceVector} (hret : ret.NonNeg) (x : TenantId) (d : ResourceDimension) :
    (s.closeLoan env bid b ret).lentSum x d ≤ s.lentSum x d := by
  unfold lentSum
  rw [closeLoan_lends]
  cases hl : s.lends.lookup b.lending with
  | none => rw [modify_of_lookup_none _ hl]
  | some l =>
    have hm := total_modify (fun y : LendingRecord => { y with outstanding := y.outstanding.subSat ret })
      (fun _ y => if y.lender == x then y.outstanding.get d else 0) hl
    have hle := ResourceVector.get_subSat_le (h.lends b.lending l hl).1 hret d
    have hstep : (if l.lender == x then (l.outstanding.subSat ret).get d else 0) ≤
        if l.lender == x then l.outstanding.get d else 0 := by
      split
      · exact hle
      · exact le_refl 0
    simp only at hm
    omega

theorem lent_closeLoan (h : CoversLoans s) (bid : BorrowId) (b : BorrowRecord) (ret : ResourceVector)
    (x : TenantId) : ((s.closeLoan env bid b ret).usageOf x).lent = (s.usageOf x).lent := by
  rw [usageOf_closeLoan]
  intro l hl d hp
  rw [(h.lends b.lending l hl).2 d]; exact hp

theorem closeLoan_coversLoans (h : CoversLoans s) (bid : BorrowId) (b : BorrowRecord)
    {ret : ResourceVector} (hret : ret.NonNeg) : CoversLoans (s.closeLoan env bid b ret) := by
  have hframe := closeLoan_frame env s bid b ret
  refine ⟨⟨?_, ?_⟩, ?_, ?_, ?_, ?_⟩
  · rw [hframe.reservations]; exact h.records.reservations
  · rw [hframe.allocations]; exact h.records.allocations
  · intro x
    rw [(hframe.counters x).1, (hframe.counters x).2.1]; exact h.capacity x
  · intro x
    rw [lent_closeLoan h]; exact h.lent x
  · intro lid l hlook
    rw [closeLoan_lends] at hlook
    by_cases hid : lid = b.lending
    · subst hid
      rw [lookup_modify_self] at hlook
      obtain ⟨l₀, hl₀, rfl⟩ := Option.map_eq_some_iff.mp hlook
      obtain ⟨hnn, hpres⟩ := h.lends b.lending l₀ hl₀
      exact ⟨ResourceVector.subSat_nonNeg ret hnn, fun d => by
        rw [ResourceVector.present_subSat]; exact hpres d⟩
    · rw [lookup_modify_ne _ _ hid] at hlook
      exact h.lends lid l hlook
  · intro x d
    rw [lent_closeLoan h]
    exact (lentSum_closeLoan_le h bid b hret x d).trans (h.covered x d)

/-! ## Loan steps -/

theorem LoanStep.coversLoans {B : BorrowId → Prop} (hstep : LoanStep env B s s') (hq : QuotasValid s)
    (h : CoversLoans s) : CoversLoans s' := by
  cases hstep with
  | touched t =>
    exact ⟨⟨h.records.reservations, h.records.allocations⟩, fun x => by simpa using h.capacity x,
      fun x => by simpa using h.lent x, h.lends, fun x d => by rw [usageOf_modifyUsage_id]; exact h.covered x d⟩
  | opened k hl hamount _ hlid => exact openLoan_coversLoans hq h hl hamount hlid
  | closed => exact closeLoan_coversLoans h _ _ (ResourceVector.min_nonNeg _ _)
  | adopted =>
    exact ⟨⟨h.records.reservations, h.records.allocations⟩, h.capacity, h.lent, h.lends, h.covered⟩

theorem LoanSteps.coversLoans {B : BorrowId → Prop} (hsteps : LoanSteps env B s s') (hq : QuotasValid s)
    (h : CoversLoans s) : CoversLoans s' := by
  induction hsteps with
  | refl => exact h
  | tail hsteps hstep ih => exact hstep.coversLoans ((LoanSteps.frame hsteps).config.quotasValid hq) ih

theorem LoanStep.lendInv {B : BorrowId → Prop} (hq : QuotasValid s₀) (hstep : LoanStep env B s s')
    (h : LendInv s₀ s) : LendInv s₀ s' := by
  have hq' := h.config.quotasValid hq
  refine (hstep.coversLoans hq' h.covers).lendInv (h.config.trans hstep.frame.config) fun x d => ?_
  have hbd := h.bounded x d
  cases hstep with
  | touched t => exact hbd
  | @opened borrower lender amount k hl hamount _ hlid =>
    rw [lentSum_openLoan lender borrower amount hlid]
    have hcov := h.covered x d
    by_cases hx : lender = x
    · subst hx
      rw [if_pos rfl]
      by_cases hpos : 0 < amount.get d
      · have h1 := (openLoan_fits hq' h.covers hl d).2 hpos
        rw [h.config.effectiveLattice] at h1
        omega
      · have h2 := hamount d
        omega
    · rw [if_neg hx]
      omega
  | closed => exact (lentSum_closeLoan_le h.covers _ _ (ResourceVector.min_nonNeg _ _) x d).trans hbd
  | adopted => exact hbd

theorem LoanSteps.lendInv {B : BorrowId → Prop} (hq : QuotasValid s₀) (hsteps : LoanSteps env B s s')
    (h : LendInv s₀ s) : LendInv s₀ s' := by
  induction hsteps with
  | refl => exact h
  | tail _ hstep ih => exact hstep.lendInv hq ih

/-! ## Resynchronising -/

theorem lendable_nonneg (hq : QuotasValid s₀) (x : TenantId) (d : ResourceDimension) :
    0 ≤ lendable (s₀.effectiveLattice x) d := by
  have h1 := ((effectiveLattice_valid hq x).1 d).1
  have h2 := ((effectiveLattice_valid hq x).2.2.2 d).1
  unfold lendable
  omega

theorem lentSum_nonneg (h : CoversLoans s) (x : TenantId) (d : ResourceDimension) :
    0 ≤ s.lentSum x d := by
  unfold lentSum
  apply total_nonneg
  intro lid l hl
  split
  · exact (h.lends lid l hl).1 d
  · exact le_refl 0

theorem CoversLoans.lentSum_le (h : CoversLoans s) (x : TenantId) (d : ResourceDimension) :
    s.lentSum x d ≤ INT64_MAX :=
  (h.covered x d).trans (h.lent x d).2

/-- A resynchronised lender's counter is the sum over its records. -/
theorem CoversLoans.computedLent (h : CoversLoans s) (x : TenantId) : s.computedLent env x = s.exactLent x :=
  computedLent_eq (fun lid l hl => (h.lends lid l hl).1) (h.lentSum_le x)

theorem Resynced.lent_get {ts : List TenantId} (hsync : Resynced env s s' ts) (h : CoversLoans s)
    {x : TenantId} (hx : x ∈ ts) (d : ResourceDimension) : (s'.usageOf x).lent.get d = s.lentSum x d := by
  have hcomp : s'.computedLent env x = s.computedLent env x := by
    unfold Engine.computedLent; rw [hsync.lends]
  rw [(hsync.synced x hx).lent, hcomp, h.computedLent, get_exactLent]

theorem Resynced.lentSum {ts : List TenantId} (hsync : Resynced env s s' ts) (x : TenantId)
    (d : ResourceDimension) : s'.lentSum x d = s.lentSum x d := by
  unfold Engine.lentSum
  rw [hsync.lends]

theorem Resynced.coversLoans {ts : List TenantId} (hsync : Resynced env s s' ts) (h : CoversLoans s) :
    CoversLoans s' := by
  have hrec : RecordsNonNeg s' :=
    ⟨by rw [hsync.reservations]; exact h.records.reservations,
      by rw [hsync.allocations]; exact h.records.allocations⟩
  refine ⟨hrec, ?_, ?_, ?_, ?_⟩
  · intro x
    by_cases hx : x ∈ ts
    · rw [(hsync.synced x hx).consumption, (hsync.synced x hx).reserved]
      exact ⟨computedConsumed_nonNeg hrec x, recomputedReserved_nonNeg hrec x⟩
    · rw [hsync.other x hx]; exact h.capacity x
  · intro x
    by_cases hx : x ∈ ts
    · intro d
      rw [hsync.lent_get h hx d]
      exact ⟨lentSum_nonneg h x d, h.lentSum_le x d⟩
    · rw [hsync.other x hx]; exact h.lent x
  · rw [hsync.lends]; exact h.lends
  · intro x d
    rw [hsync.lentSum]
    by_cases hx : x ∈ ts
    · rw [hsync.lent_get h hx d]
    · rw [hsync.other x hx]; exact h.covered x d

theorem Resynced.lendInv {ts : List TenantId} (hsync : Resynced env s s' ts) (h : LendInv s₀ s) :
    LendInv s₀ s' :=
  (hsync.coversLoans h.covers).lendInv (h.config.trans hsync.config) fun x d => by
    rw [hsync.lentSum]; exact h.bounded x d

/-- A change of the records that keeps them non-negative keeps the counters. -/
theorem CoversLoans.of_records (h : CoversLoans s) (hrec : RecordsNonNeg s')
    (husage : ∀ x, (s'.usageOf x).consumption = (s.usageOf x).consumption ∧
      (s'.usageOf x).reserved = (s.usageOf x).reserved ∧ (s'.usageOf x).lent = (s.usageOf x).lent)
    (hlends : s'.lends = s.lends) : CoversLoans s' := by
  refine ⟨hrec, ?_, ?_, by rw [hlends]; exact h.lends, ?_⟩
  · intro x
    rw [(husage x).1, (husage x).2.1]; exact h.capacity x
  · intro x
    rw [(husage x).2.2]; exact h.lent x
  · intro x d
    have hsum : s'.lentSum x d = s.lentSum x d := by unfold lentSum; rw [hlends]
    rw [hsum, (husage x).2.2]; exact h.covered x d

theorem LendInv.of_records (h : LendInv s₀ s) (hconf : SameConfig s s') (hrec : RecordsNonNeg s')
    (husage : ∀ x, (s'.usageOf x).consumption = (s.usageOf x).consumption ∧
      (s'.usageOf x).reserved = (s.usageOf x).reserved ∧ (s'.usageOf x).lent = (s.usageOf x).lent)
    (hlends : s'.lends = s.lends) : LendInv s₀ s' :=
  (h.covers.of_records hrec husage hlends).lendInv (h.config.trans hconf) fun x d => by
    have hsum : s'.lentSum x d = s.lentSum x d := by unfold lentSum; rw [hlends]
    rw [hsum]; exact h.bounded x d

theorem LendInv.entered {t : TenantId} {req : ResourceVector} {auth : Authority} {st : Draw}
    {e : Engine} (h : LendInv s₀ st.engine) (hent : Entered env t req auth st e) (hreq : req.NonNeg) :
    LendInv s₀ e := by
  refine h.of_records hent.config ⟨?_, ?_⟩
    (fun x => ⟨(hent.counters x).1, (hent.counters x).2.1, (hent.counters x).2.2.1⟩) hent.lends
  · rw [hent.reservations]
    exact forall_lookup_emplace h.records.reservations hreq
  · rw [hent.allocations]; exact h.records.allocations

theorem LendInv.setStatus (h : LendInv s₀ s) (rid : ReservationId) (status : ReservationStatus) :
    LendInv s₀ (s.setStatus rid status) :=
  h.of_records ⟨rfl, rfl, rfl, rfl, rfl, rfl, rfl⟩
    ⟨forall_lookup_modify h.records.reservations fun _ hr => hr, h.records.allocations⟩
    (fun _ => ⟨rfl, rfl, rfl⟩) rfl

theorem LendInv.markCommitted (h : LendInv s₀ s) (rid : ReservationId) :
    LendInv s₀ (s.markCommitted rid) :=
  h.of_records ⟨rfl, rfl, rfl, rfl, rfl, rfl, rfl⟩
    ⟨forall_lookup_modify h.records.reservations fun _ hr => hr, h.records.allocations⟩
    (fun _ => ⟨rfl, rfl, rfl⟩) rfl

theorem LendInv.dropReservation (h : LendInv s₀ s) (rid : ReservationId) :
    LendInv s₀ (s.dropReservation rid) := by
  refine h.of_records ⟨rfl, rfl, rfl, rfl, rfl, rfl, rfl⟩ ⟨?_, ?_⟩ (fun _ => ⟨rfl, rfl, rfl⟩) rfl
  · exact forall_lookup_erase h.records.reservations
  · refine forall_lookup_mapVals h.records.allocations fun _ a ha => ?_
    split <;> exact ha

/-- **Every core call keeps the bound.** -/
theorem exec_lendInv {c : Call} (hq : QuotasValid s₀) (hfresh : FreshLoans env s)
    (hamount : c.amount.NonNeg) (hc : c.isCore = true) (h : LendInv s₀ s) :
    LendInv s₀ (s.exec env c).2 := by
  cases c with
  | reserve t req auth =>
    change LendInv s₀ (s.reserve env t req auth).2
    rcases reserve_cases hfresh t req auth with heq | ⟨st, hback⟩ | ⟨st, hadm⟩
    · rw [heq]; exact h
    · exact hback.returned.lendInv hq (hback.loans.lendInv hq h)
    · obtain ⟨e, hent, hres⟩ := hadm.recorded
      exact hres.lendInv (LendInv.entered (hadm.loans.lendInv hq h) hent hamount)
  | commitReservation rid auth =>
    change LendInv s₀ (s.commitReservation env rid auth).2
    rcases commitReservation_cases env s rid auth with heq | ⟨r, -, -, hres⟩
    · rw [heq]; exact h
    · exact hres.lendInv (h.markCommitted rid)
  | release rid auth =>
    change LendInv s₀ (s.release env rid auth).2
    rcases release_cases env s rid auth with heq | ⟨r, mid, -, -, hret, hres⟩
    · rw [heq]; exact h
    · exact hres.lendInv ((hret.lendInv hq (h.setStatus rid .released)).dropReservation rid)
  | borrow b amount auth =>
    change LendInv s₀ (s.borrow env b amount auth).2
    rcases borrow_cases hfresh b amount hamount auth with heq | ⟨lender, -, hstep, hres⟩
    · rw [heq]; exact h
    · exact hres.lendInv (hstep.lendInv hq h)
  | lend l b amount auth =>
    change LendInv s₀ (s.lend env l b amount auth).2
    rcases lend_cases hfresh l b amount hamount auth with heq | ⟨lender, -, hstep, hres⟩
    · rw [heq]; exact h
    · exact hres.lendInv (hstep.lendInv hq h)
  | recallBorrow bid auth =>
    change LendInv s₀ (s.recallBorrow env bid auth).2
    rcases recallBorrow_cases env s bid auth with heq | ⟨b, -, -, hstep, hres⟩
    · rw [heq]; exact h
    · exact hres.lendInv (hstep.lendInv hq h)
  | _ => cases hc

end Steps

/-! ## Whole runs -/

/-- An engine whose counters, records and quotas hold no negative amounts, and which has no lending
    records. -/
structure NoLends (s : Engine) : Prop where
  lends : s.lends = ∅
  quotas : QuotasValid s
  records : RecordsNonNeg s
  counters : ∀ x, (s.usageOf x).consumption.NonNeg ∧ (s.usageOf x).reserved.NonNeg ∧
    (s.usageOf x).lent.Valid

theorem NoLends.lentSum {s : Engine} (h : NoLends s) (x : TenantId) (d : ResourceDimension) :
    s.lentSum x d = 0 := by
  unfold Engine.lentSum
  rw [h.lends]; rfl

theorem NoLends.lendInv {s : Engine} (h : NoLends s) : LendInv s s where
  config := .refl s
  records := h.records
  capacity x := ⟨(h.counters x).1, (h.counters x).2.1⟩
  lent x := (h.counters x).2.2
  lends lid l hl := by rw [h.lends] at hl; cases hl
  covered x d := by
    rw [h.lentSum]
    exact ((h.counters x).2.2 d).1
  bounded x d := by
    rw [h.lentSum]
    exact lendable_nonneg h.quotas x d

theorem lendInv_of_run {s₀ s : Engine} {l : List (Env × Call)} (hstart : NoLends s₀)
    (hrun : Run Engine.after coreCall s₀ l s) : LendInv s₀ s :=
  hrun.invariant hstart.lendInv fun _ _ h hc =>
    exec_lendInv hstart.quotas hc.2.1.toFreshLoans hc.2.2 hc.1 h

/-- **Lending is bounded by what the lender marked borrowable**: in every state of every run of the
    core calls from an engine without lending records, the outstanding loans of a tenant are at
    most its effective borrowable amount and at most its effective guarantee. -/
theorem lending_bounded {s₀ s : Engine} {l : List (Env × Call)} (hstart : NoLends s₀)
    (hrun : Run Engine.after coreCall s₀ l s) (x : TenantId) (d : ResourceDimension) :
    s.lentSum x d ≤ min ((s.effectiveLattice x).borrowable.get d) ((s.effectiveLattice x).guaranteed.get d) := by
  have h := lendInv_of_run hstart hrun
  rw [h.config.effectiveLattice]
  exact h.bounded x d

theorem Configured.noLends {s : Engine} (h : Configured s) (hq : QuotasValid s) : NoLends s where
  lends := h.lends
  quotas := hq
  records :=
    ⟨fun rid r hr => (by rw [h.reservations] at hr; cases hr),
      fun aid a ha => (by rw [h.allocations] at ha; cases ha)⟩
  counters x := by
    rw [h.usageOf]
    exact ⟨fun _ => le_refl 0, fun _ => le_refl 0, ResourceVector.valid_empty⟩

theorem borrowerAndLender_quotasValid : QuotasValid borrowerAndLender := by decide +kernel

/-- The capped tenant reserves 20 and borrows the 10 above its limit. -/
def oneLoan : List (Env × Call) :=
  [(.numbered 1, .reserve cappedTenant (.fromScalar .acceleratorVRAM 20) firstAuthority)]

theorem lending_bounded_oneLoan :
    (oneLoan.foldl Engine.after borrowerAndLender).lentSum lendingTenant .acceleratorVRAM = 10 ∧
    (oneLoan.foldl Engine.after borrowerAndLender).lentSum lendingTenant .acceleratorVRAM ≤
      min (((oneLoan.foldl Engine.after borrowerAndLender).effectiveLattice lendingTenant).borrowable.get
          .acceleratorVRAM)
        (((oneLoan.foldl Engine.after borrowerAndLender).effectiveLattice lendingTenant).guaranteed.get
          .acceleratorVRAM) :=
  ⟨by decide +kernel,
    lending_bounded (borrowerAndLender_configured.noLends borrowerAndLender_quotasValid)
      (Run.of_check _ _ (by decide +kernel)) lendingTenant .acceleratorVRAM⟩

end Engine

end QuotaFabric
