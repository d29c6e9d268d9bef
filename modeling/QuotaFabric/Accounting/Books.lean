import QuotaFabric.Accounting.Checker
import QuotaFabric.Engine.Steps
import QuotaFabric.Limits.BurstBound
import QuotaFabric.Limits.Committed

/-!
# The invariant checker passes on every accounting run

`invariants_ok` recomputes every counter from the records and compares the vectors with their stored
zeros.  Over runs of the calls that neither allocate nor observe nor recall, the counters are the
exact vectors: some are rewritten by `sync_usage`, those of a lender grow with every loan.

* `Call.isAccounting` — these calls;
* `LatticesBounded` — no tenant's soft limit or guarantee is above its hard limit, and a hard limit
  does not stand alone;
* `borrowNeed_of_allowed` — an allowed request then stays below the hard limit: `reserve` draws no loan;
* `Books`, `Balanced` — what holds of the records, and of the counters of one tenant;
* `after_books`, `after_configSound` — each call keeps the books and the hierarchy;
* `invariants_ok_of_run` — the checker passes after every run.
-/

set_option autoImplicit false

namespace QuotaFabric

open AList

namespace Call

/-- Configuration, reservations without allocations, new loans, queries. -/
def isAccounting : Call → Bool
  | .setPolicy _ => true
  | .advanceEpoch => true
  | .createGroup .. => true
  | .createGroupAutoid .. => true
  | .createTenant .. => true
  | .createTenantAutoid .. => true
  | .setTenantQuota .. => true
  | .setGroupQuota .. => true
  | .reserve .. => true
  | .commitReservation .. => true
  | .release .. => true
  | .borrow .. => true
  | .lend .. => true
  | .query => true
  | _ => false

/-- The parent a call names for the group it creates. -/
def parent : Call → Option TenantGroupId
  | .createGroup _ _ parent => parent
  | .createGroupAutoid _ _ parent => parent
  | _ => none

/-- The quota a call brings holds non-negative 64-bit amounts. -/
def QuotaValid : Call → Prop
  | .setTenantQuota _ q => q.Valid
  | .setGroupQuota _ q => q.Valid
  | _ => True

instance (c : Call) : Decidable c.QuotaValid := by
  apply Call.casesOn (motive := fun c => Decidable c.QuotaValid) c <;> intros <;> unfold QuotaValid <;> infer_instance

end Call

/-- Where there is a hard limit there is a soft limit or a guarantee, and neither is above it. -/
def ResourceQuota.Bounded (eff : ResourceQuota) : Prop :=
  ∀ d, eff.hardLimit.present d = true →
    (eff.softLimit.present d = true ∨ eff.guaranteed.present d = true) ∧
    (eff.guaranteed.present d = true → eff.guaranteed.get d ≤ eff.hardLimit.get d) ∧
    (eff.softLimit.present d = true → eff.softLimit.get d ≤ eff.hardLimit.get d)

instance (eff : ResourceQuota) : Decidable eff.Bounded := inferInstanceAs (Decidable (∀ _, _))

namespace Engine

def LatticesBounded (s : Engine) : Prop :=
  ∀ t tn, s.tenants.lookup t = some tn → (s.effectiveLattice t).Bounded

instance (s : Engine) : Decidable s.LatticesBounded := inferInstanceAs (Decidable (∀ _ _, _ → _))

/-- An accounting call with new ids and non-negative amounts, made while the lattices are bounded. -/
structure AccountingCall (s : Engine) (c : Env × Call) : Prop where
  kind : c.2.isAccounting = true
  fresh : FreshIds c.1 s
  parent : c.2.parent ≠ some c.1.groupId
  amount : c.2.amount.NonNeg
  quota : c.2.QuotaValid
  bounded : s.LatticesBounded

instance (s : Engine) (c : Env × Call) : Decidable (AccountingCall s c) :=
  decidable_of_iff
    (c.2.isAccounting = true ∧ FreshIds c.1 s ∧ c.2.parent ≠ some c.1.groupId ∧ c.2.amount.NonNeg ∧
      c.2.QuotaValid ∧ s.LatticesBounded)
    ⟨fun ⟨h1, h2, h3, h4, h5, h6⟩ => ⟨h1, h2, h3, h4, h5, h6⟩,
      fun h => ⟨h.kind, h.fresh, h.parent, h.amount, h.quota, h.bounded⟩⟩

/-! ## `reserve` draws no loan -/

section Funding

variable {env : Env} {s : Engine} {t : TenantId} {req : ResourceVector}

/-- No lending record has anything to lend on. -/
def NothingOnOffer (s : Engine) : Prop := ∀ lid l, s.lends.lookup lid = some l → l.outstanding = l.amount

theorem borrowAvailable_eq_false (h : NothingOnOffer s) (d : ResourceDimension) :
    s.borrowAvailable env d = false := by
  unfold borrowAvailable
  rw [List.any_eq_false]
  intro e he hp
  have hsame := h e.1 e.2 (lookup_of_mem_entries (env.lendOrder.mem_run.mp he))
  simp [borrowerCanBorrowFrom, hsame] at hp

theorem softOf_le_hardOf {eff : ResourceQuota} (h : eff.Bounded) {d : ResourceDimension}
    (hp : eff.hardLimit.present d = true) : softOf eff d ≤ hardOf eff d := by
  obtain ⟨hone, hg, hs⟩ := h d hp
  unfold softOf hardOf
  rw [if_pos hp]
  cases hsoft : eff.softLimit.present d with
  | true => simpa using hs hsoft
  | false =>
    have hgp : eff.guaranteed.present d = true := by simpa [hsoft] using hone
    simpa [hgp] using hg hgp

theorem guaranteeOf_le_hardOf {eff : ResourceQuota} (h : eff.Bounded) (hnn : eff.hardLimit.NonNeg)
    {d : ResourceDimension} (hp : eff.hardLimit.present d = true) : guaranteeOf eff d ≤ hardOf eff d := by
  unfold guaranteeOf hardOf
  rw [if_pos hp]
  split
  · rename_i hg
    exact (h d hp).2.1 hg
  · exact hnn d

/-- **An allowed request stays below the hard limit**, so nothing has to be borrowed. -/
theorem borrowNeed_of_allowed (hq : QuotasValid s) (hoffer : NothingOnOffer s)
    (hb : (s.effectiveLattice t).Bounded)
    (hcb : ∀ d, (s.committed t).get d ≤ INT64_MAX) (hallowed : (s.classify env t req).allowed = true)
    (d : ResourceDimension) : borrowNeed (s.effectiveLattice t) (s.committed t) req d ≤ 0 := by
  unfold borrowNeed
  split
  · rename_i hd
    simp only [Bool.and_eq_true, Bool.not_eq_true'] at hd
    have hle : satAdd ((s.committed t).get d) (req.get d) ≤ hardOf (s.effectiveLattice t) d := by
      by_cases hp : (s.effectiveLattice t).hardLimit.present d = true
      · rcases (classify_allowed_iff env s t req).mp hallowed with hempty | ⟨-, hall⟩
        · have hno := ResourceVector.isEmpty_iff_eq_empty.mp hempty
          rw [hno] at hd
          cases hd.1
        · obtain ⟨-, -, hcode⟩ := dimensionCode_capacity hd.2 (hall d hd.1)
          have hok := hall d hd.1
          have hnc : s.newCommitted t req d = satAdd ((s.committed t).get d) (req.get d) := by
            unfold newCommitted currentCommittedScalar
            rw [if_neg (by simp [hd.2])]
          rw [hcode] at hok
          unfold capacityCode at hok
          simp only [hnc, borrowAvailable_eq_false hoffer] at hok
          split at hok
          · rename_i h1
            exact h1.1.trans (guaranteeOf_le_hardOf hb (effectiveLattice_valid hq t).2.2.1.nonNeg hp)
          split at hok
          · rename_i h1
            exact h1.trans (softOf_le_hardOf hb hp)
          split at hok
          · assumption
          · cases hok
      · unfold hardOf
        rw [if_neg hp]
        exact satAdd_le_max (hcb d)
    unfold borrowPart
    simp only
    omega
  · exact le_refl 0

/-- A funding loop without need only charges burst, on dimensions that are asked for. -/
theorem fundLoop_of_no_need {eff : ResourceQuota} {cb : ResourceVector}
    (hneed : ∀ d, borrowNeed eff cb req d ≤ 0) {ds : List ResourceDimension} {st st' : Draw}
    (h : fundLoop env eff cb t req ds st = .ok st') (hst : ∀ d, st.burst.present d = true → req.present d = true) :
    st'.engine = st.engine ∧ st'.borrowIds = st.borrowIds ∧
      ∀ d, st'.burst.present d = true → req.present d = true := by
  refine fundLoop_rule (P := fun _ x => x.engine = st.engine ∧ x.borrowIds = st.borrowIds ∧
    ∀ d, x.burst.present d = true → req.present d = true) ?_ ds st st' ⟨rfl, rfl, hst⟩ h
  rintro d ds x x' ⟨heng, hids, hburst⟩ hd
  rcases fundDimension_cases env eff cb t req x d with ⟨-, burst, hok, hb⟩ | ⟨hpos, -⟩
  · rw [hok] at hd
    cases hd
    refine ⟨heng, hids, fun e he => ?_⟩
    rcases hb with hsame | ⟨hp, y, -, hput⟩
    · exact hburst e (by rw [← hsame]; exact he)
    · by_cases hed : e = d
      · rw [hed]
        exact hp
      · refine hburst e ?_
        change burst.present e = true at he
        rw [hput] at he
        unfold SparseVec.present SparseVec.put at *
        simpa [hed] using he
  · have := hneed d
    omega

end Funding

/-! ## The books -/

/-- Total of all lending records. -/
def loanSum (s : Engine) (d : ResourceDimension) : Int := total s.lends fun _ l => l.outstanding.get d

/-- Total of all borrow records. -/
def owedSum (s : Engine) (d : ResourceDimension) : Int := total s.borrows fun _ b => b.consumed.get d

/-- What holds of the records: nothing is allocated, no loan was given back, no reservation was funded
    by one, and no total is above `bound`. -/
structure Books (bound : ResourceDimension → Int) (s : Engine) : Prop where
  idle : s.allocations = ∅
  resources : ∀ rid r, s.reservations.lookup rid = some r → r.resources.NonNeg
  recorded : ∀ d, s.recordedSum d ≤ bound d
  lends : ∀ lid l, s.lends.lookup lid = some l → l.outstanding = l.amount ∧ l.outstanding.NonNeg
  lentOut : ∀ d, s.loanSum d ≤ bound d
  borrows : ∀ bid b, s.borrows.lookup bid = some b → b.recalled = false ∧ b.consumed.NonNeg ∧
    ∃ l, s.lends.lookup b.lending = some l ∧ l.amount = b.amount
  owed : ∀ d, s.owedSum d ≤ bound d
  funding : ∀ rid f, s.funding.lookup rid = some f → f.borrows = [] ∧
    ∃ r, s.reservations.lookup rid = some r ∧ ∀ d, f.burst.present d = true → r.resources.present d = true

/-- The counters of `x` are the exact sums of its records. -/
structure Balanced (s : Engine) (x : TenantId) : Prop where
  consumption : (s.usageOf x).consumption = .empty
  reserved : (s.usageOf x).reserved = s.exactReserved x
  borrowed : (s.usageOf x).borrowedConsumed = s.exactBorrowed x
  lent : (s.usageOf x).lent = s.exactLent x
  burst : ∀ d, (s.usageOf x).burst.present d = true → (s.usageOf x).reserved.present d = true

section Books

variable {env : Env} {s e s' : Engine} {bound : ResourceDimension → Int} {x : TenantId}

theorem Books.noAllocation (h : Books bound s) : NoAllocation s := by
  intro aid a ha
  rw [h.idle] at ha
  cases ha

theorem Books.mono {bound' : ResourceDimension → Int} (h : Books bound s) (hle : ∀ d, bound d ≤ bound' d) :
    Books bound' s :=
  ⟨h.idle, h.resources, fun d => (h.recorded d).trans (hle d), h.lends, fun d => (h.lentOut d).trans (hle d),
    h.borrows, fun d => (h.owed d).trans (hle d), h.funding⟩

/-- The books are about the five record maps. -/
theorem Books.same (h : Books bound s) (hr : s'.reservations = s.reservations) (hf : s'.funding = s.funding)
    (ha : s'.allocations = s.allocations) (hb : s'.borrows = s.borrows) (hl : s'.lends = s.lends) :
    Books bound s' where
  idle := ha.trans h.idle
  resources := by rw [hr]; exact h.resources
  recorded := by unfold recordedSum; rw [hr]; exact h.recorded
  lends := by rw [hl]; exact h.lends
  lentOut := by unfold loanSum; rw [hl]; exact h.lentOut
  borrows := by rw [hb, hl]; exact h.borrows
  owed := by unfold owedSum; rw [hb]; exact h.owed
  funding := by rw [hf, hr]; exact h.funding

theorem Resynced.books {ts : List TenantId} (h : Resynced env e s' ts) (he : Books bound e) : Books bound s' :=
  he.same h.reservations h.funding h.allocations h.borrows h.lends

theorem Books.reservedSum_le (h : Books bound s) (x : TenantId) (d : ResourceDimension) :
    s.reservedSum x d ≤ bound d :=
  (reservedSum_le_recorded h.resources x d).trans (h.recorded d)

theorem Books.lentSum_le (h : Books bound s) (x : TenantId) (d : ResourceDimension) : s.lentSum x d ≤ bound d := by
  refine le_trans (total_le_total fun lid l hl => ?_) (h.lentOut d)
  split
  · exact le_refl _
  · exact (h.lends lid l hl).2 d

theorem Books.borrowedSum_le (h : Books bound s) (x : TenantId) (d : ResourceDimension) :
    s.borrowedSum x d ≤ bound d := by
  refine le_trans (total_le_total fun bid b hb => ?_) (h.owed d)
  split
  · exact le_refl _
  · exact (h.borrows bid b hb).2.1 d

/-- Burst is charged on reserved dimensions. -/
theorem Books.present_computedBurst (h : Books bound s) {d : ResourceDimension}
    (hp : (s.computedBurst env x).present d = true) : (s.exactReserved x).present d = true := by
  obtain ⟨v, hv, hpv⟩ := ResourceVector.present_sumOf hp
  obtain ⟨e, he, rfl⟩ := List.mem_map.mp hv
  obtain ⟨hmem, hcond⟩ := List.mem_filter.mp he
  obtain ⟨-, r, hr, hburst⟩ := h.funding e.1 e.2 (lookup_of_mem_entries (env.fundingOrder.mem_run.mp hmem))
  rw [hr] at hcond
  unfold exactReserved
  refine present_total hr ?_
  simp only at hcond
  rw [if_pos hcond]
  exact hburst d hpv

theorem SyncedAt.balanced (h : SyncedAt env s x) (hbooks : Books bound s) (hfit : ∀ d, bound d ≤ INT64_MAX) :
    Balanced s x := by
  have hreserved : (s.usageOf x).reserved = s.exactReserved x := by
    rw [h.reserved]
    exact recomputedReserved_eq hbooks.noAllocation hbooks.resources fun d =>
      (hbooks.reservedSum_le x d).trans (hfit d)
  refine ⟨?_, hreserved, ?_, ?_, fun d hd => ?_⟩
  · rw [h.consumption]
    exact computedConsumed_of_noAllocation hbooks.noAllocation x
  · rw [h.borrowed]
    exact computedBorrowed_eq (fun bid b hb => (hbooks.borrows bid b hb).2.1) fun d =>
      (hbooks.borrowedSum_le x d).trans (hfit d)
  · rw [h.lent]
    exact computedLent_eq (fun lid l hl => (hbooks.lends lid l hl).2) fun d =>
      (hbooks.lentSum_le x d).trans (hfit d)
  · rw [hreserved]
    rcases h.burst with hb | hb
    · rw [hb] at hd
      exact hbooks.present_computedBurst hd
    · rw [hb] at hd
      cases hd

/-- Counters and records of `x` are the same. -/
theorem Balanced.keep (h : Balanced s x) (hu : s'.usageOf x = s.usageOf x)
    (hr : s'.exactReserved x = s.exactReserved x) (hb : s'.borrows = s.borrows) (hl : s'.lends = s.lends) :
    Balanced s' x where
  consumption := by rw [hu]; exact h.consumption
  reserved := by rw [hu, hr]; exact h.reserved
  borrowed := by unfold exactBorrowed; rw [hu, hb]; exact h.borrowed
  lent := by unfold exactLent; rw [hu, hl]; exact h.lent
  burst := by rw [hu]; exact h.burst

/-- **After a resynchronisation** the tenants in `ts` are balanced; the others have to be before. -/
theorem Resynced.balanced {ts : List TenantId} (h : Resynced env e s' ts) (he : Books bound e)
    (hfit : ∀ d, bound d ≤ INT64_MAX) (hother : x ∉ ts → Balanced e x) : Balanced s' x := by
  by_cases hx : x ∈ ts
  · exact (h.synced x hx).balanced (h.books he) hfit
  · exact (hother hx).keep (h.other x hx) (exactReserved_same h.reservations x) h.borrows h.lends

end Books

/-! ## One call -/

section Step

variable {env : Env} {s s' : Engine} {bound : ResourceDimension → Int} {x : TenantId}

theorem exactLent_openLoan {k : ResourceDimension} (lender borrower : TenantId) (amount : ResourceVector)
    (hlid : env.lendingId k ∉ s.lends) (x : TenantId) :
    (s.openLoan env k lender borrower amount none).exactLent x =
      (if lender = x then amount else 0) + s.exactLent x := by
  unfold exactLent
  rw [openLoan_lends, emplace_of_notMem hlid, total_insert _ _ hlid]
  simp [newLending]

theorem exactBorrowed_openLoan {k : ResourceDimension} (lender borrower : TenantId) (amount : ResourceVector)
    (hbid : env.borrowId k ∉ s.borrows) (x : TenantId) :
    (s.openLoan env k lender borrower amount none).exactBorrowed x =
      (if borrower = x then amount else 0) + s.exactBorrowed x := by
  unfold exactBorrowed
  rw [openLoan_borrows, emplace_of_notMem hbid, total_insert _ _ hbid]
  simp [newBorrow]

/-- A new loan is entered on both sides. -/
theorem Books.openLoan (h : Books bound s) {k : ResourceDimension} (lender borrower : TenantId)
    {amount : ResourceVector} (hamount : amount.NonNeg) (hbid : env.borrowId k ∉ s.borrows)
    (hlid : env.lendingId k ∉ s.lends) :
    Books (fun d => bound d + amount.get d) (s.openLoan env k lender borrower amount none) := by
  have hframe := openLoan_frame env s k lender borrower amount none
  refine ⟨hframe.allocations.trans h.idle, ?_, fun d => ?_, ?_, fun d => ?_, ?_, fun d => ?_, ?_⟩
  · rw [hframe.reservations]
    exact h.resources
  · unfold recordedSum
    rw [hframe.reservations]
    have h1 := h.recorded d
    have h2 := hamount d
    unfold recordedSum at h1
    omega
  · rw [openLoan_lends, emplace_of_notMem hlid]
    exact forall_lookup_insert h.lends ⟨rfl, hamount⟩
  · unfold loanSum
    rw [openLoan_lends, emplace_of_notMem hlid, total_insert _ _ hlid]
    have h1 := h.lentOut d
    unfold loanSum at h1
    simp only [newLending]
    omega
  · rw [openLoan_borrows, emplace_of_notMem hbid, openLoan_lends, emplace_of_notMem hlid]
    refine forall_lookup_insert (fun bid b hb => ?_) ⟨rfl, hamount, _, lookup_insert _, rfl⟩
    obtain ⟨hrec, hnn, l, hl, heq⟩ := h.borrows bid b hb
    refine ⟨hrec, hnn, l, ?_, heq⟩
    have hne : b.lending ≠ env.lendingId k := by
      rintro heq
      exact hlid (heq ▸ mem_of_lookup hl)
    rw [lookup_insert_ne hne]
    exact hl
  · unfold owedSum
    rw [openLoan_borrows, emplace_of_notMem hbid, total_insert _ _ hbid]
    have h1 := h.owed d
    unfold owedSum at h1
    simp only [newBorrow]
    omega
  · rw [hframe.funding, hframe.reservations]
    exact h.funding

/-- Both parties of a new loan stay balanced: their counters grow by what their records do. -/
theorem Balanced.openLoan (hbal : Balanced s x) (h : Books bound s) {k : ResourceDimension}
    (lender borrower : TenantId) {amount : ResourceVector} (hbid : env.borrowId k ∉ s.borrows)
    (hlid : env.lendingId k ∉ s.lends) (hfit : ∀ d, bound d + amount.get d ≤ INT64_MAX) :
    Balanced (s.openLoan env k lender borrower amount none) x := by
  have hframe := openLoan_frame env s k lender borrower amount none
  have hcnt := hframe.counters x
  refine ⟨hcnt.1.trans hbal.consumption, ?_, ?_, ?_, ?_⟩
  · rw [hcnt.2.1, exactReserved_same hframe.reservations]
    exact hbal.reserved
  · rw [exactBorrowed_openLoan lender borrower amount hbid, usageOf_openLoan]
    simp only [hbal.borrowed]
    by_cases hx : x = borrower
    · subst hx
      rw [if_pos rfl, if_pos rfl, add_comm amount]
      refine ResourceVector.accum_of_fits fun d => ?_
      rw [get_exactBorrowed]
      have h1 := h.borrowedSum_le x d
      have h2 := hfit d
      omega
    · rw [if_neg hx, if_neg fun heq => hx heq.symm, zero_add]
  · rw [exactLent_openLoan lender borrower amount hlid, usageOf_openLoan]
    simp only [hbal.lent]
    by_cases hx : x = lender
    · subst hx
      rw [if_pos rfl, if_pos rfl, add_comm amount]
      refine ResourceVector.accum_of_fits fun d => ?_
      rw [get_exactLent]
      have h1 := h.lentSum_le x d
      have h2 := hfit d
      omega
    · rw [if_neg hx, if_neg fun heq => hx heq.symm, zero_add]
  · rw [hcnt.2.1, hcnt.2.2]
    exact hbal.burst

/-- A commit changes neither the amounts of a reservation nor whether it is active. -/
theorem Books.markCommitted (h : Books bound s) (rid : ReservationId) : Books bound (s.markCommitted rid) where
  idle := h.idle
  resources := forall_lookup_modify h.resources fun _ hr => hr
  recorded d := by
    have hsame : (s.markCommitted rid).recordedSum d = s.recordedSum d := by
      unfold recordedSum Engine.markCommitted
      simp only
      rw [total_modify_same]
      exact fun _ _ => rfl
    rw [hsame]
    exact h.recorded d
  lends := h.lends
  lentOut := h.lentOut
  borrows := h.borrows
  owed := h.owed
  funding rid' f hf := by
    obtain ⟨hno, r, hr, hburst⟩ := h.funding rid' f hf
    refine ⟨hno, ?_⟩
    by_cases hrid : rid' = rid
    · subst hrid
      exact ⟨{ r with status := .committed, quotaGeneration := s.quotaGeneration },
        by show (s.reservations.modify rid' _).lookup rid' = _; rw [lookup_modify_self, hr]; rfl, hburst⟩
    · exact ⟨r, by show (s.reservations.modify rid _).lookup rid' = _; rw [lookup_modify_ne _ _ hrid, hr], hburst⟩

/-- A reservation leaves the books with its funding. -/
theorem Books.dropReservation (h : Books bound s) {rid : ReservationId} {r : Reservation}
    (hr : s.reservations.lookup rid = some r) : Books bound (s.dropReservation rid) where
  idle := by
    unfold Engine.dropReservation
    rw [h.idle]
    rfl
  resources := forall_lookup_erase h.resources
  recorded d := by
    have h1 := h.recorded d
    have h2 := h.resources rid r hr d
    unfold recordedSum at h1 ⊢
    rw [total_erase _ hr] at h1
    show (total (s.reservations.erase rid) fun _ r => r.resources.get d) ≤ bound d
    omega
  lends := h.lends
  lentOut := h.lentOut
  borrows := h.borrows
  owed := h.owed
  funding rid' f hf := by
    change (s.funding.erase rid).lookup rid' = some f at hf
    have hne : rid' ≠ rid := by
      rintro rfl
      rw [lookup_erase] at hf
      cases hf
    rw [lookup_erase_ne hne] at hf
    obtain ⟨hno, r', hr', hburst⟩ := h.funding rid' f hf
    exact ⟨hno, r', by show (s.reservations.erase rid).lookup rid' = _; rw [lookup_erase_ne hne, hr'], hburst⟩

/-- The state a successful `reserve` enters before it resynchronises. -/
theorem Books.entered (h : Books bound s) {t : TenantId} {req : ResourceVector} {auth : Authority} {st : Draw}
    {e : Engine} (hent : Entered env t req auth st e) (heng : st.engine = s.modifyUsage t id)
    (hids : st.borrowIds = []) (hburst : ∀ d, st.burst.present d = true → req.present d = true)
    (hreq : req.NonNeg) (hrid : env.reservationId ∉ s.reservations) :
    Books (fun d => bound d + req.get d) e := by
  have hres : e.reservations = s.reservations.insert env.reservationId (st.engine.newReservation env t req auth) := by
    rw [hent.reservations, heng]
    exact emplace_of_notMem hrid
  have hfund : e.funding = s.funding.insert env.reservationId { burst := st.burst, borrows := [] } := by
    rw [hent.funding, heng, hids]
    rfl
  have hlends : e.lends = s.lends := by rw [hent.lends, heng]; rfl
  have hborrows : e.borrows = s.borrows := by rw [hent.borrows, heng]; rfl
  have hle : ∀ d, bound d ≤ bound d + req.get d := fun d => by have := hreq d; omega
  refine ⟨?_, ?_, fun d => ?_, by rw [hlends]; exact h.lends, fun d => ?_, ?_, fun d => ?_, ?_⟩
  · rw [hent.allocations, heng]
    exact h.idle
  · rw [hres]
    exact forall_lookup_insert h.resources hreq
  · have h1 := h.recorded d
    unfold recordedSum at h1 ⊢
    rw [hres, total_insert _ _ hrid]
    show req.get d + _ ≤ _
    omega
  · unfold loanSum
    rw [hlends]
    exact (h.lentOut d).trans (hle d)
  · rw [hborrows, hlends]
    exact h.borrows
  · unfold owedSum
    rw [hborrows]
    exact (h.owed d).trans (hle d)
  · rw [hfund, hres]
    refine forall_lookup_insert (fun rid f hf => ?_) ⟨rfl, _, lookup_insert _, hburst⟩
    obtain ⟨hno, r, hr, hb⟩ := h.funding rid f hf
    have hne : rid ≠ env.reservationId := by
      rintro rfl
      exact hrid (mem_of_lookup hr)
    exact ⟨hno, r, by rw [lookup_insert_ne hne]; exact hr, hb⟩

theorem Balanced.committed_le (h : Balanced s x) (hbooks : Books bound s) (hfit : ∀ d, bound d ≤ INT64_MAX)
    (d : ResourceDimension) : (s.committed x).get d ≤ INT64_MAX := by
  have hsum : (s.committed x).get d = s.reservedSum x d := by
    unfold committed
    rw [h.consumption, h.reserved, ResourceVector.accum_of_fits]
    · rw [SparseVec.get_add, SparseVec.get_empty, zero_add, get_exactReserved]
    · intro e
      rw [SparseVec.get_empty, zero_add, get_exactReserved]
      exact (hbooks.reservedSum_le x e).trans (hfit e)
  rw [hsum]
  exact (hbooks.reservedSum_le x d).trans (hfit d)

/-- An accepted request needs no loan. -/
theorem noNeed {c : Env × Call} (hc : AccountingCall s c) (hq : QuotasValid s) (hbooks : Books bound s)
    (hbal : ∀ x, Balanced s x) (hfit : ∀ d, bound d + c.2.amount.get d ≤ INT64_MAX) {t : TenantId}
    {req : ResourceVector} {auth : Authority} (hacc : Accepted env s t req auth) (d : ResourceDimension) :
    borrowNeed (s.effectiveLattice t) (s.committed t) req d ≤ 0 := by
  obtain ⟨tn, htn⟩ := Option.isSome_iff_exists.mp hacc.tenant
  refine borrowNeed_of_allowed hq (fun lid l hl => (hbooks.lends lid l hl).1) (hc.bounded t tn htn)
    ((hbal t).committed_le hbooks fun d => ?_) hacc.allowed d
  have h1 := hc.amount d
  have h2 := hfit d
  omega

/-- **What an accounting call does to the books.** -/
theorem after_books {c : Env × Call} (hc : AccountingCall s c) (hq : QuotasValid s) (hbooks : Books bound s)
    (hbal : ∀ x, Balanced s x) (hfit : ∀ d, bound d + c.2.amount.get d ≤ INT64_MAX) :
    Books (fun d => bound d + c.2.amount.get d) (s.after c) ∧ ∀ x, Balanced (s.after c) x := by
  have hle : ∀ d, bound d ≤ bound d + c.2.amount.get d := fun d => by have := hc.amount d; omega
  have hgrown : Books (fun d => bound d + c.2.amount.get d) s := hbooks.mono hle
  have hstep : CallStep c.1 s c.2 (s.after c) := exec_callStep hc.fresh.toFreshLoans hc.amount
  have hkind := hc.kind
  obtain ⟨env, c⟩ := c
  generalize s.after (env, c) = s' at hstep ⊢
  cases hstep with
  | kept c hkept =>
    have hr : s'.reservations = s.reservations := congrArg Ledger.reservations hkept.ledger
    exact ⟨hgrown.same hr (congrArg Ledger.funding hkept.ledger) (congrArg Ledger.allocations hkept.ledger)
        hkept.borrows hkept.lends,
      fun x => (hbal x).keep (hkept.usageOf x) (exactReserved_same hr x) hkept.borrows hkept.lends⟩
  | @rolledBack t req auth st s' hback =>
    -- the loop never needs a loan, so it cannot get stuck
    obtain ⟨pre, d, post, -, -, hneed, -⟩ := hback.stuck
    have hno := noNeed hc hq hbooks hbal hfit hback.accepted d
    omega
  | @admitted t req auth st s' hadm =>
    obtain ⟨e, hent, hsync⟩ := hadm.recorded
    obtain ⟨heng, hids, hburst⟩ := fundLoop_of_no_need (noNeed hc hq hbooks hbal hfit hadm.accepted) hadm.funded
      fun d hd => by cases hd
    have he := hbooks.entered hent heng hids hburst hc.amount hc.fresh.reservationId
    refine ⟨hsync.books he, fun x => hsync.balanced he hfit fun hx => ?_⟩
    have hxt : x ≠ t := by simpa using hx
    have hu : e.usageOf x = s.usageOf x := by
      rw [hent.other x hxt, heng, usageOf_modifyUsage_id]
    refine (hbal x).keep hu ?_ (by rw [hent.borrows, heng]; rfl) (by rw [hent.lends, heng]; rfl)
    have hres : e.reservations =
        s.reservations.insert env.reservationId (st.engine.newReservation env t req auth) := by
      rw [hent.reservations, heng]
      exact emplace_of_notMem hc.fresh.reservationId
    have htx : (t == x) = false := by simpa using fun heq : t = x => hxt heq.symm
    rw [exactReserved_insert hc.fresh.reservationId hres]
    simp [newReservation, htx]
  | @committed rid auth r s' hr hstatus hsync =>
    have he := hgrown.markCommitted rid
    exact ⟨hsync.books he, fun x => hsync.balanced he hfit fun _ =>
      (hbal x).keep rfl (exactReserved_markCommitted hr hstatus x) rfl rfl⟩
  | @released rid auth r mid s' hr hact hmid hsync =>
    have hlisted : s.listedBorrows rid = [] := by
      unfold listedBorrows
      split
      · rfl
      · rename_i f hf
        exact (hbooks.funding rid f hf).1
    have hmid' : mid.dropReservation rid = s.dropReservation rid := by
      rw [hmid, hlisted]
      show (s.setStatus rid .released).dropReservation rid = s.dropReservation rid
      unfold Engine.dropReservation setStatus
      simp only [erase_modify]
    rw [hmid'] at hsync
    have he := hgrown.dropReservation hr
    refine ⟨hsync.books he, fun x => hsync.balanced he hfit fun hx => (hbal x).keep rfl ?_ rfl rfl⟩
    have hxr : (r.tenant == x) = false := by
      simp only [List.mem_singleton] at hx
      simpa using fun heq : r.tenant = x => hx heq.symm
    have hsum : s.exactReserved x = (if r.tenant == x && activeRes r then r.resources else 0) +
        (s.dropReservation rid).exactReserved x := exactReserved_erase hr rfl x
    rw [hsum, hxr]
    simp
  | @borrowed borrower lender amount auth s' hlender hsync =>
    have hbid := hc.fresh.borrowId default
    have hlid := hc.fresh.lendingId default
    have he := hbooks.openLoan lender borrower hc.amount hbid hlid
    exact ⟨hsync.books he, fun x => hsync.balanced he hfit fun _ =>
      (hbal x).openLoan hbooks lender borrower hbid hlid hfit⟩
  | @lent named borrower lender amount auth s' hlender hsync =>
    have hbid := hc.fresh.borrowId default
    have hlid := hc.fresh.lendingId default
    have he := hbooks.openLoan lender borrower hc.amount hbid hlid
    exact ⟨hsync.books he, fun x => hsync.balanced he hfit fun _ =>
      (hbal x).openLoan hbooks lender borrower hbid hlid hfit⟩
  | started | resized | stopped | recalled | observed => cases hkind

/-! ### Configuration -/

theorem ParentsOlder.emplace (h : ParentsOlder s) {g : TenantGroupId} (gr : TenantGroup) (hg : g ∉ s.groups)
    (hunparented : ∀ g' gr', s.groups.lookup g' = some gr' → gr'.parent ≠ some g) (hparent : gr.parent ≠ some g)
    (hs' : s'.groups = s.groups.emplace g gr) : ParentsOlder s' := by
  have hentries : s'.groups.entries = ⟨g, gr⟩ :: s.groups.entries := by
    rw [hs', emplace_of_notMem hg, entries_insert_of_notMem hg]
  unfold ParentsOlder
  rw [hentries]
  refine ⟨List.pairwise_cons.mpr ⟨fun e he => ?_, h.1⟩, fun e he => ?_⟩
  · exact hunparented e.1 e.2 (lookup_of_mem_entries he)
  · rcases List.mem_cons.mp he with rfl | he
    · exact hparent
    · exact h.2 e he

theorem ParentsOlder.same (h : ParentsOlder s) (hg : s'.groups = s.groups) : ParentsOlder s' := by
  unfold ParentsOlder
  rw [hg]
  exact h

theorem QuotasValid.same (h : QuotasValid s) (hl : s'.localQuota = s.localQuota)
    (hg : s'.groupQuota = s.groupQuota) : QuotasValid s' :=
  ⟨by rw [hl]; exact h.localQuota, by rw [hg]; exact h.groupQuota⟩

/-- Parents are older than their groups, and no stored quota is negative. -/
structure ConfigSound (s : Engine) : Prop where
  parents : ParentsOlder s
  quotas : QuotasValid s

theorem ConfigSound.same (h : ConfigSound s) (hg : s'.groups = s.groups) (hl : s'.localQuota = s.localQuota)
    (hgq : s'.groupQuota = s.groupQuota) : ConfigSound s' :=
  ⟨h.parents.same hg, h.quotas.same hl hgq⟩

theorem createTenant_configSound (h : ConfigSound s) (id : TenantId) (name : Str) (group : Option TenantGroupId)
    (priority : UInt32) : ConfigSound (s.createTenant env id name group priority).2 := by
  unfold createTenant
  repeat' split
  all_goals exact h.same rfl rfl rfl

/-- **Each accounting call keeps the hierarchy acyclic and the quotas non-negative.** -/
theorem after_configSound {c : Env × Call} (hc : AccountingCall s c) (h : ConfigSound s) :
    ConfigSound (s.after c) := by
  obtain ⟨env, c⟩ := c
  have hcore : c.isCore = true → ConfigSound (s.after (env, c)) := fun hkind => by
    have hconf : SameConfig s (s.after (env, c)) := (exec_capacityStep hc.fresh hc.amount hkind).config
    exact h.same hconf.groups hconf.localQuota hconf.groupQuota
  cases c with
  | setPolicy policy =>
    show ConfigSound (s.setPolicy env policy).2
    unfold setPolicy
    split <;> exact h.same rfl rfl rfl
  | advanceEpoch => exact h.same rfl rfl rfl
  | createGroup name kind parent =>
    show ConfigSound (s.createGroup env name kind parent).2
    unfold createGroup
    split
    · exact h
    · exact ⟨h.parents.emplace (s.newGroup env name kind parent) hc.fresh.groupId hc.fresh.unparented
        hc.parent rfl, h.quotas.same rfl rfl⟩
  | createGroupAutoid name kind parent =>
    exact ⟨h.parents.emplace (s.newGroup env name kind parent) hc.fresh.groupId hc.fresh.unparented
      hc.parent rfl, h.quotas.same rfl rfl⟩
  | createTenant id name group priority => exact createTenant_configSound h id name group priority
  | createTenantAutoid name group priority => exact createTenant_configSound h env.tenantId name group priority
  | setTenantQuota t q =>
    have hq : q.Valid := hc.quota
    show ConfigSound (s.setTenantQuota env t q).2
    unfold setTenantQuota
    split
    · exact h
    split
    · exact h
    · exact ⟨h.parents.same rfl,
        forall_lookup_insert h.quotas.localQuota ⟨hq.guaranteed, hq.softLimit, hq.hardLimit, hq.burstLimit,
          hq.borrowable, hq.physicalCapacity⟩, h.quotas.groupQuota⟩
  | setGroupQuota g q =>
    have hq : q.Valid := hc.quota
    show ConfigSound (s.setGroupQuota env g q).2
    unfold setGroupQuota
    split
    · exact h
    · exact ⟨h.parents.same rfl, h.quotas.localQuota,
        forall_lookup_insert h.quotas.groupQuota ⟨hq.guaranteed, hq.softLimit, hq.hardLimit, hq.burstLimit,
          hq.borrowable, hq.physicalCapacity⟩⟩
  | reserve | commitReservation | release | borrow | lend => exact hcore rfl
  | query => exact h
  | _ => cases hc.kind

end Step

/-! ## The checker -/

section Checker

variable {s : Engine} {bound : ResourceDimension → Int}

/-- The checker's own sum of the lending records. -/
theorem recomputedLent_eq (hbooks : Books bound s) (hfit : ∀ d, bound d ≤ INT64_MAX) (env : Env) (x : TenantId) :
    s.recomputedLent env x = s.exactLent x :=
  sumOf_run_eq env.lendOrder (p := fun _ l => l.lender == x) (f := fun _ l => l.outstanding)
    (fun lid l hl _ => (hbooks.lends lid l hl).2) fun d => (hbooks.lentSum_le x d).trans (hfit d)

theorem counterError_eq_none (hbooks : Books bound s) (hfit : ∀ d, bound d ≤ INT64_MAX) (env : Env)
    {x : TenantId} (hbal : Balanced s x) : s.counterError env x (s.usageOf x) = none := by
  have hreserved : s.recomputedReserved env x = s.exactReserved x :=
    recomputedReserved_eq hbooks.noAllocation hbooks.resources fun d => (hbooks.reservedSum_le x d).trans (hfit d)
  have hborrowed : s.computedBorrowed env x = s.exactBorrowed x :=
    computedBorrowed_eq (fun bid b hb => (hbooks.borrows bid b hb).2.1) fun d =>
      (hbooks.borrowedSum_le x d).trans (hfit d)
  unfold counterError
  rw [hreserved, hbal.reserved, computedConsumed_of_noAllocation hbooks.noAllocation, hbal.consumption, hborrowed,
    hbal.borrowed, recomputedLent_eq hbooks hfit, hbal.lent]
  simp

theorem burstError_eq_none {x : TenantId} (hbal : Balanced s x) : burstError (s.usageOf x) = none := by
  unfold burstError
  rw [if_neg]
  intro hp
  simp only [Bool.and_eq_true, Bool.not_eq_true'] at hp
  obtain ⟨⟨⟨⟨⟨-, hreserved⟩, -⟩, -⟩, -⟩, hburst⟩ := hp
  have hnone : (s.usageOf x).burst.isEmpty = true := by
    rw [ResourceVector.isEmpty_iff] at hreserved ⊢
    intro d
    by_contra hpresent
    have hboth := hbal.burst d (by simpa using hpresent)
    rw [hreserved d] at hboth
    cases hboth
  rw [hnone] at hburst
  cases hburst

/-- **Balanced books pass the checker**, in whatever order its loops run. -/
theorem invariantsOk_of_books (hconf : ConfigSound s) (hbooks : Books bound s) (hbal : ∀ x, Balanced s x)
    (hfit : ∀ d, bound d ≤ INT64_MAX) (env : Env) : s.invariantsOk env = true := by
  have husage : ∀ t u, s.usage.lookup t = some u → u = s.usageOf t := fun t u hu => by
    unfold usageOf
    rw [hu]
    rfl
  refine (invariantsOk_iff env s).mpr ⟨fun g gr hg => cycleError_eq_none hconf.parents hg,
    fun t q hq => quotaError_of_valid (hconf.quotas.localQuota t q hq), fun t u hu => ?_, fun bid b hb => ?_,
    fun bid b hb => negAmount_of_nonNeg (hbooks.borrows bid b hb).2.1,
    fun rid r hr => negAmount_of_nonNeg (hbooks.resources rid r hr), fun aid a ha => ?_, fun t u hu => ?_⟩
  · rw [husage t u hu]
    exact counterError_eq_none hbooks hfit env (hbal t)
  · obtain ⟨-, -, l, hl, hamount⟩ := hbooks.borrows bid b hb
    unfold offerError
    rw [hl]
    simp [hamount, covers_self]
  · rw [hbooks.idle] at ha
    cases ha
  · rw [husage t u hu]
    exact burstError_eq_none (hbal t)

end Checker

/-! ## Runs -/

/-- What holds in every state of a run whose requests total `bound`. -/
structure BooksKept (bound : ResourceDimension → Int) (s : Engine) : Prop where
  config : ConfigSound s
  books : Books bound s
  balanced : ∀ x, Balanced s x

theorem booksKept_start (settings : EngineSettings) : BooksKept (totalRequested []) { settings := settings } where
  config := ⟨⟨List.Pairwise.nil, fun _ h => absurd h List.not_mem_nil⟩,
    ⟨fun _ _ h => (by cases h), fun _ _ h => (by cases h)⟩⟩
  books := ⟨rfl, fun _ _ h => (by cases h), fun _ => le_refl 0, fun _ _ h => (by cases h), fun _ => le_refl 0,
    fun _ _ h => (by cases h), fun _ => le_refl 0, fun _ _ h => (by cases h)⟩
  balanced _ := ⟨rfl, rfl, rfl, rfl, fun _ h => (by cases h)⟩

theorem run_booksKept {settings : EngineSettings} {l : List (Env × Call)} {s : Engine}
    (hrun : Run Engine.after AccountingCall { settings := settings } l s)
    (hfit : ∀ d, totalRequested l d ≤ INT64_MAX) : BooksKept (totalRequested l) s := by
  refine hrun.invariant_hist (I := fun l s => (∀ d, totalRequested l d ≤ INT64_MAX) →
    BooksKept (totalRequested l) s) (fun _ => booksKept_start settings) ?_ hfit
  intro l s c ih hc hfit
  have hsnoc : totalRequested (l ++ [c]) = fun d => totalRequested l d + c.2.amount.get d := by
    funext d
    exact totalRequested_snoc l c d
  rw [hsnoc] at hfit ⊢
  have hkept := ih fun d => by
    have h1 : totalRequested l d + c.2.amount.get d ≤ INT64_MAX := hfit d
    have h2 := hc.amount d
    omega
  obtain ⟨hbooks, hbal⟩ := after_books hc hkept.config.quotas hkept.books hkept.balanced hfit
  exact ⟨after_configSound hc hkept.config, hbooks, hbal⟩

/-- **The engine's own checker passes** after every run of accounting calls from a fresh engine. -/
theorem invariants_ok_of_run (settings : EngineSettings) {l : List (Env × Call)} {s : Engine}
    (hrun : Run Engine.after AccountingCall { settings := settings } l s)
    (hfit : ∀ d, totalRequested l d ≤ INT64_MAX) (env : Env) : s.invariantsOk env = true := by
  have hkept := run_booksKept hrun hfit
  exact invariantsOk_of_books hkept.config hkept.books hkept.balanced hfit env

/-- A team with two tenants.  The first reserves twice, gives one reservation back and borrows; the
    second lends a second time. -/
def teamBusiness : List (Env × Call) :=
  let auth : Authority := { epoch := .initial, quotaGeneration := .next (.next .initial) }
  [(.numbered 1, .createGroup (text "team") .team none),
   (.numbered 2, .createTenant ⟨0, 1⟩ (text "a") (some ⟨0, 1⟩) 100),
   (.numbered 3, .createTenant ⟨0, 2⟩ (text "b") (some ⟨0, 1⟩) 100),
   (.numbered 4, .setTenantQuota ⟨0, 1⟩
     { softLimit := .fromScalar .acceleratorVRAM 20, hardLimit := .fromScalar .acceleratorVRAM 30 }),
   (.numbered 5, .setTenantQuota ⟨0, 2⟩
     { guaranteed := .fromScalar .acceleratorVRAM 100, borrowable := .fromScalar .acceleratorVRAM 60
       hardLimit := .fromScalar .acceleratorVRAM 100 }),
   (.numbered 6, .reserve ⟨0, 1⟩ (.fromScalar .acceleratorVRAM 10) auth),
   (.numbered 7, .reserve ⟨0, 1⟩ (.fromScalar .acceleratorVRAM 5) auth),
   (.numbered 8, .release ⟨0, 6⟩ auth),
   (.numbered 9, .commitReservation ⟨0, 7⟩ auth),
   (.numbered 10, .borrow ⟨0, 1⟩ (.fromScalar .acceleratorVRAM 7) auth),
   (.numbered 11, .lend ⟨0, 2⟩ ⟨0, 1⟩ (.fromScalar .acceleratorVRAM 3) auth)]

theorem invariants_ok_of_run_teamBusiness :
    let s := teamBusiness.foldl Engine.after {}
    s.reservedSum ⟨0, 1⟩ .acceleratorVRAM = 5 ∧ s.lentSum ⟨0, 2⟩ .acceleratorVRAM = 10 ∧
    s.invariantsOk {} = true := by
  have hrun : Run Engine.after AccountingCall {} teamBusiness (teamBusiness.foldl Engine.after {}) :=
    Run.of_check _ _ (by decide +kernel)
  exact ⟨by decide +kernel, by decide +kernel, invariants_ok_of_run {} hrun (by decide +kernel) {}⟩

end Engine

end QuotaFabric
