import QuotaFabric.Limits.Committed
import QuotaFabric.Engine.Lattice

/-!
# The tenant ceiling over whole runs

`reserve` borrows what a request takes above the hard limit and lists the loans in the funding of
the reservation; `release` gives the listed loans back.

* `fundedSum` — what the unreturned loans listed by the active reservations of a tenant amount to;
* `FundedInv` — listed loans exist, no loan is listed twice, and a reservation is never smaller than
  the loans it lists;
* `Admitted.fundedSum`, `release_fundedSum` — how the sum moves when a reservation comes or goes;
* `tenant_ceiling` — active reservations stay within the hard limit and the listed loans.
-/

set_option autoImplicit false

namespace QuotaFabric

open AList

namespace Engine

/-! ## Active reservations and their loans -/

/-- Tenant and amounts of an active reservation. -/
def activeAt (s : Engine) (rid : ReservationId) : Option (TenantId × ResourceVector) :=
  match s.reservations.lookup rid with
  | none => none
  | some r => if activeRes r then some (r.tenant, r.resources) else none

/-- What is still lent under `bid`. -/
def onLoan (s : Engine) (bid : BorrowId) (d : ResourceDimension) : Int :=
  match s.borrows.lookup bid with
  | none => 0
  | some b => if b.recalled then 0 else b.consumed.get d

/-- What a reservation still has on loan. -/
def loaned (s : Engine) (rid : ReservationId) (d : ResourceDimension) : Int :=
  ∑ bid ∈ (s.listedBorrows rid).toFinset, s.onLoan bid d

/-- The loans listed in the funding of the active reservations of `t`. -/
def fundingLoans (s : Engine) (t : TenantId) : Finset BorrowId :=
  ((s.reservations.entries.filter fun e => e.2.tenant == t && activeRes e.2).flatMap fun e =>
    s.listedBorrows e.1).toFinset

/-- Sum of `consumed(d)` over the unreturned borrows listed in the funding of the active
    reservations of `t`. -/
def fundedSum (s : Engine) (t : TenantId) (d : ResourceDimension) : Int :=
  ∑ bid ∈ s.fundingLoans t, s.onLoan bid d

section Views

variable {s s' : Engine}

theorem activeAt_eq_some {rid : ReservationId} {t : TenantId} {v : ResourceVector} :
    s.activeAt rid = some (t, v) ↔
      ∃ r, s.reservations.lookup rid = some r ∧ activeRes r = true ∧ r.tenant = t ∧ r.resources = v := by
  unfold activeAt
  constructor
  · intro h
    split at h
    · cases h
    · rename_i r hr
      split at h
      · rename_i hact
        cases h
        exact ⟨r, hr, hact, rfl, rfl⟩
      · cases h
  · rintro ⟨r, hr, hact, rfl, rfl⟩
    rw [hr]
    simp only [hact, if_true]

theorem mem_fundingLoans {t : TenantId} {bid : BorrowId} :
    bid ∈ s.fundingLoans t ↔ ∃ rid v, s.activeAt rid = some (t, v) ∧ bid ∈ s.listedBorrows rid := by
  unfold fundingLoans
  rw [List.mem_toFinset, List.mem_flatMap]
  constructor
  · rintro ⟨e, he, hbid⟩
    obtain ⟨hmem, hp⟩ := List.mem_filter.mp he
    simp only [Bool.and_eq_true, beq_iff_eq] at hp
    exact ⟨e.1, e.2.resources,
      activeAt_eq_some.mpr ⟨e.2, lookup_of_mem_entries hmem, hp.2, hp.1, rfl⟩, hbid⟩
  · rintro ⟨rid, v, hact, hbid⟩
    obtain ⟨r, hr, hres, rfl, rfl⟩ := activeAt_eq_some.mp hact
    exact ⟨⟨rid, r⟩, List.mem_filter.mpr ⟨lookup_eq_some_iff.mp hr, by simp [hres]⟩, hbid⟩

theorem onLoan_congr {bid : BorrowId} (h : s'.borrows.lookup bid = s.borrows.lookup bid)
    (d : ResourceDimension) : s'.onLoan bid d = s.onLoan bid d := by
  unfold onLoan
  rw [h]

end Views

/-- Every listed loan exists, no two active reservations list the same one, and no reservation is
    smaller than its loans. -/
structure FundedInv (s : Engine) : Prop where
  listed : ∀ rid x bid, s.activeAt rid = some x → bid ∈ s.listedBorrows rid →
    ∃ b, s.borrows.lookup bid = some b ∧ b.consumed.NonNeg
  disjoint : ∀ rid x rid' x' bid, s.activeAt rid = some x → s.activeAt rid' = some x' →
    bid ∈ s.listedBorrows rid → bid ∈ s.listedBorrows rid' → rid = rid'
  covered : ∀ rid t v d, s.activeAt rid = some (t, v) → s.loaned rid d ≤ v.get d

section Kept

variable {s s' : Engine}

theorem FundedInv.onLoan_nonneg (h : FundedInv s) {rid : ReservationId}
    {x : TenantId × ResourceVector} {bid : BorrowId} (hact : s.activeAt rid = some x)
    (hbid : bid ∈ s.listedBorrows rid) (d : ResourceDimension) : 0 ≤ s.onLoan bid d := by
  obtain ⟨b, hb, hnn⟩ := h.listed rid x bid hact hbid
  unfold onLoan
  rw [hb]
  simp only
  split
  · exact le_refl 0
  · exact hnn d

/-- `s'` has no other active reservations than `s`, with the same loans listed, and kept the records
    of these. -/
structure Kept (s s' : Engine) : Prop where
  active : ∀ rid x, s'.activeAt rid = some x → s.activeAt rid = some x
  lists : ∀ rid x, s'.activeAt rid = some x → s'.listedBorrows rid = s.listedBorrows rid
  records : ∀ rid x bid b, s'.activeAt rid = some x → bid ∈ s.listedBorrows rid →
    s.borrows.lookup bid = some b → s'.borrows.lookup bid = some b

theorem Kept.onLoan (hk : Kept s s') (h : FundedInv s) {rid : ReservationId}
    {x : TenantId × ResourceVector} {bid : BorrowId} (hact : s'.activeAt rid = some x)
    (hbid : bid ∈ s.listedBorrows rid) (d : ResourceDimension) :
    s'.onLoan bid d = s.onLoan bid d := by
  obtain ⟨b, hb, -⟩ := h.listed rid x bid (hk.active rid x hact) hbid
  exact onLoan_congr ((hk.records rid x bid b hact hbid hb).trans hb.symm) d

theorem Kept.loaned (hk : Kept s s') (h : FundedInv s) {rid : ReservationId}
    {x : TenantId × ResourceVector} (hact : s'.activeAt rid = some x) (d : ResourceDimension) :
    s'.loaned rid d = s.loaned rid d := by
  unfold Engine.loaned
  rw [hk.lists rid x hact]
  apply Finset.sum_congr rfl
  intro bid hbid
  exact hk.onLoan h hact (List.mem_toFinset.mp hbid) d

theorem Kept.fundedInv (hk : Kept s s') (h : FundedInv s) : FundedInv s' where
  listed rid x bid hact hbid := by
    rw [hk.lists rid x hact] at hbid
    obtain ⟨b, hb, hnn⟩ := h.listed rid x bid (hk.active rid x hact) hbid
    exact ⟨b, hk.records rid x bid b hact hbid hb, hnn⟩
  disjoint rid x rid' x' bid hact hact' hbid hbid' := by
    rw [hk.lists rid x hact] at hbid
    rw [hk.lists rid' x' hact'] at hbid'
    exact h.disjoint rid x rid' x' bid (hk.active rid x hact) (hk.active rid' x' hact') hbid hbid'
  covered rid t v d hact := by
    rw [hk.loaned h hact]
    exact h.covered rid t v d (hk.active rid (t, v) hact)

/-- Where the active reservations are the same, so is what they have on loan. -/
theorem Kept.fundedSum (hk : Kept s s') (h : FundedInv s)
    (hsame : ∀ rid, s'.activeAt rid = s.activeAt rid) (t : TenantId) (d : ResourceDimension) :
    s'.fundedSum t d = s.fundedSum t d := by
  have hset : s'.fundingLoans t = s.fundingLoans t := by
    ext bid
    rw [mem_fundingLoans, mem_fundingLoans]
    constructor
    · rintro ⟨rid, v, hact, hbid⟩
      exact ⟨rid, v, hk.active rid _ hact, hk.lists rid _ hact ▸ hbid⟩
    · rintro ⟨rid, v, hact, hbid⟩
      have hact' : s'.activeAt rid = some (t, v) := (hsame rid).trans hact
      exact ⟨rid, v, hact', (hk.lists rid _ hact').symm ▸ hbid⟩
  unfold Engine.fundedSum
  rw [hset]
  apply Finset.sum_congr rfl
  intro bid hbid
  obtain ⟨rid, v, hact, hbid⟩ := mem_fundingLoans.mp hbid
  exact hk.onLoan h ((hsame rid).trans hact) hbid d

end Kept

/-! ## Reservations that stay -/

section Steps

variable {env : Env} {s s' : Engine}

theorem activeAt_congr (h : s'.reservations = s.reservations) (rid : ReservationId) :
    s'.activeAt rid = s.activeAt rid := by
  unfold activeAt
  rw [h]

theorem listedBorrows_congr (h : s'.funding = s.funding) (rid : ReservationId) :
    s'.listedBorrows rid = s.listedBorrows rid := by
  unfold listedBorrows
  rw [h]

/-- Calls that leave the listed loans alone. -/
theorem kept_of_records (hact : ∀ rid, s'.activeAt rid = s.activeAt rid) (hfund : s'.funding = s.funding)
    (hrec : ∀ rid x bid b, s.activeAt rid = some x → bid ∈ s.listedBorrows rid →
      s.borrows.lookup bid = some b → s'.borrows.lookup bid = some b) : Kept s s' where
  active rid _ h := (hact rid).symm.trans h
  lists rid _ _ := listedBorrows_congr hfund rid
  records rid x bid b h := hrec rid x bid b ((hact rid).symm.trans h)

theorem RolledBack.kept {t : TenantId} {req : ResourceVector} {auth : Authority} {st : Draw}
    (h : RolledBack env s t req auth st s') : Kept s s' := by
  refine kept_of_records (activeAt_congr h.frame.reservations) h.frame.funding ?_
  intro rid x bid b _ _ hb
  refine h.returned.lookup_borrow (h.loans.lookup_borrow hb not_false) fun hdrawn => ?_
  exact (h.drawn bid hdrawn).1 (mem_of_lookup hb)

theorem LoanStep.kept {B : BorrowId → Prop} {mid : Engine} {ts : List TenantId}
    (hstep : LoanStep env B s mid) (hsync : Resynced env mid s' ts)
    (hB : ∀ rid x bid, s.activeAt rid = some x → bid ∈ s.listedBorrows rid → ¬ B bid) : Kept s s' := by
  refine kept_of_records (activeAt_congr (hsync.reservations.trans hstep.frame.reservations))
    (hsync.funding.trans hstep.frame.funding) ?_
  intro rid x bid b hact hbid hb
  rw [hsync.borrows]
  exact hstep.lookup_borrow hb (hB rid x bid hact hbid)

theorem activeAt_markCommitted {rid : ReservationId} {r : Reservation}
    (hr : s.reservations.lookup rid = some r) (hprov : r.status = .provisional) (rid' : ReservationId) :
    (s.markCommitted rid).activeAt rid' = s.activeAt rid' := by
  unfold activeAt Engine.markCommitted
  simp only
  by_cases h : rid' = rid
  · subst h
    rw [lookup_modify_self, hr]
    simp [activeRes, hprov]
  · rw [lookup_modify_ne _ _ h]

/-! ## Released reservations -/

section Release

variable {rid : ReservationId} {r : Reservation} {mid : Engine} {ts : List TenantId}

theorem activeAt_released (hres : s'.reservations = s.reservations.erase rid) (rid' : ReservationId) :
    s'.activeAt rid' = if rid' = rid then none else s.activeAt rid' := by
  unfold activeAt
  rw [hres]
  by_cases h : rid' = rid
  · subst h
    rw [lookup_erase, if_pos rfl]
  · rw [lookup_erase_ne h, if_neg h]

theorem release_kept (h : FundedInv s) (hr : s.reservations.lookup rid = some r)
    (hact : activeRes r = true)
    (hret : LoanSteps env (fun bid => bid ∈ s.listedBorrows rid) (s.setStatus rid .released) mid)
    (hsync : Resynced env (mid.dropReservation rid) s' ts) : Kept s s' := by
  have hat := activeAt_released (hsync.reservations.trans (release_reservations hret))
  have hrid : s.activeAt rid = some (r.tenant, r.resources) :=
    activeAt_eq_some.mpr ⟨r, hr, hact, rfl, rfl⟩
  have hother : ∀ rid' x, s'.activeAt rid' = some x → rid' ≠ rid ∧ s.activeAt rid' = some x := by
    intro rid' x hx
    rw [hat] at hx
    split at hx
    · cases hx
    · rename_i hne
      exact ⟨hne, hx⟩
  refine ⟨fun rid' x hx => (hother rid' x hx).2, fun rid' x hx => ?_, fun rid' x bid b hx hbid hb => ?_⟩
  · have hfund : s'.funding.lookup rid' = s.funding.lookup rid' := by
      have herase : (mid.dropReservation rid).funding = mid.funding.erase rid := rfl
      rw [hsync.funding, herase, lookup_erase_ne (hother rid' x hx).1, hret.frame.funding]
      rfl
    unfold listedBorrows
    rw [hfund]
  · rw [hsync.borrows]
    refine hret.lookup_borrow (s := s.setStatus rid .released) hb fun hlisted => ?_
    obtain ⟨hne, hx'⟩ := hother rid' x hx
    exact hne (h.disjoint rid' x rid _ bid hx' hrid hbid hlisted)

/-- A release gives back at most what the reservation had on loan. -/
theorem release_fundedSum (h : FundedInv s) (hr : s.reservations.lookup rid = some r)
    (hact : activeRes r = true) (hk : Kept s s')
    (hat : ∀ rid', s'.activeAt rid' = if rid' = rid then none else s.activeAt rid') (t : TenantId)
    (d : ResourceDimension) :
    s.fundedSum t d ≤ (if t = r.tenant then s.loaned rid d else 0) + s'.fundedSum t d := by
  have hrid : s.activeAt rid = some (r.tenant, r.resources) :=
    activeAt_eq_some.mpr ⟨r, hr, hact, rfl, rfl⟩
  obtain ⟨own, hown⟩ : ∃ own : Finset BorrowId, own =
    if t = r.tenant then (s.listedBorrows rid).toFinset else ∅ := ⟨_, rfl⟩
  have hownsum : (∑ bid ∈ own, s.onLoan bid d) = if t = r.tenant then s.loaned rid d else 0 := by
    rw [hown]
    split <;> rfl
  have hownnn : ∀ bid ∈ own, 0 ≤ s.onLoan bid d := by
    intro bid hbid
    rw [hown] at hbid
    split at hbid
    · exact h.onLoan_nonneg hrid (List.mem_toFinset.mp hbid) d
    · exact absurd hbid (Finset.notMem_empty bid)
  have hrest : s'.fundedSum t d = ∑ bid ∈ s'.fundingLoans t, s.onLoan bid d := by
    apply Finset.sum_congr rfl
    intro bid hbid
    obtain ⟨rid', v, hx, hbid⟩ := mem_fundingLoans.mp hbid
    rw [hk.lists rid' _ hx] at hbid
    exact hk.onLoan h hx hbid d
  have hrestnn : ∀ bid ∈ s'.fundingLoans t, 0 ≤ s.onLoan bid d := by
    intro bid hbid
    obtain ⟨rid', v, hx, hbid⟩ := mem_fundingLoans.mp hbid
    rw [hk.lists rid' _ hx] at hbid
    exact h.onLoan_nonneg (hk.active rid' _ hx) hbid d
  -- a listed loan is listed by the released reservation or by one that stays
  have hsub : s.fundingLoans t ⊆ own ∪ s'.fundingLoans t := by
    intro bid hmem
    obtain ⟨rid', v, hx, hbid⟩ := mem_fundingLoans.mp hmem
    rw [Finset.mem_union]
    by_cases hne : rid' = rid
    · subst hne
      rw [hrid] at hx
      cases hx
      left
      rw [hown, if_pos rfl]
      exact List.mem_toFinset.mpr hbid
    · right
      have hx' : s'.activeAt rid' = some (t, v) := by rw [hat, if_neg hne]; exact hx
      exact mem_fundingLoans.mpr ⟨rid', v, hx', (hk.lists rid' _ hx').symm ▸ hbid⟩
  calc s.fundedSum t d
      ≤ ∑ bid ∈ own ∪ s'.fundingLoans t, s.onLoan bid d := by
        apply Finset.sum_le_sum_of_subset_of_nonneg hsub
        intro bid hbid _
        rcases Finset.mem_union.mp hbid with hbid | hbid
        · exact hownnn bid hbid
        · exact hrestnn bid hbid
    _ ≤ (∑ bid ∈ own, s.onLoan bid d) + ∑ bid ∈ s'.fundingLoans t, s.onLoan bid d := by
        rw [← Finset.sum_union_inter]
        have hinter : 0 ≤ ∑ bid ∈ own ∩ s'.fundingLoans t, s.onLoan bid d :=
          Finset.sum_nonneg fun bid hbid => hownnn bid (Finset.mem_of_mem_inter_left hbid)
        omega
    _ = (if t = r.tenant then s.loaned rid d else 0) + s'.fundedSum t d := by rw [hownsum, hrest]

end Release

/-! ## Admitted reservations -/

/-- What the funding loop has drawn, with the dimensions `ds` still to come. -/
structure DrawnLoans (env : Env) (need : ResourceDimension → Int) (ds : List ResourceDimension)
    (st : Draw) : Prop where
  drawn : ∀ bid ∈ st.borrowIds, ∃ k, k ∉ ds ∧ 0 < need k ∧ bid = env.borrowId k ∧
    ∃ b, st.engine.borrows.lookup bid = some b ∧ b.recalled = false ∧
      b.consumed = ResourceVector.fromScalar k (need k)
  complete : ∀ k, k ∉ ds → 0 < need k → env.borrowId k ∈ st.borrowIds

theorem drawnLoans_step (hfresh : FreshLoans env s) {eff : ResourceQuota} {cb : ResourceVector}
    {t : TenantId} {req : ResourceVector} {d : ResourceDimension} {ds : List ResourceDimension}
    {st st' : Draw} (hinv : FundInv env s (d :: ds) st)
    (h : DrawnLoans env (borrowNeed eff cb req) (d :: ds) st)
    (hd : fundDimension env eff cb t req st d = .ok st') :
    DrawnLoans env (borrowNeed eff cb req) ds st' := by
  have hmem : ∀ k, k ∉ ds → k ≠ d → k ∉ d :: ds := fun k hk hne hc => by
    rcases List.mem_cons.mp hc with hc | hc
    · exact hne hc
    · exact hk hc
  rcases fundDimension_cases env eff cb t req st d with
    ⟨hno, burst, hok, -⟩ | ⟨hpos, -, -, ⟨lender, burst, -, hok, -⟩ | ⟨-, q, herr⟩⟩
  · rw [hok] at hd
    cases hd
    refine ⟨fun bid hbid => ?_, fun k hk hneed => ?_⟩
    · obtain ⟨k, hk, hrest⟩ := h.drawn bid hbid
      exact ⟨k, fun hc => hk (List.mem_cons_of_mem d hc), hrest⟩
    · refine h.complete k (hmem k hk fun hc => ?_) hneed
      subst hc
      omega
  · rw [hok] at hd
    cases hd
    have hb := hinv.borrowId d List.mem_cons_self
    have hdnot : d ∉ ds := (List.nodup_cons.mp hinv.nodup).1
    refine ⟨fun bid hbid => ?_, fun k hk hneed => ?_⟩
    · rw [openLoan_borrows, emplace_of_notMem hb]
      rcases List.mem_append.mp hbid with hbid | hbid
      · obtain ⟨k, hk, hneed, rfl, b, hlook, hrest⟩ := h.drawn bid hbid
        refine ⟨k, fun hc => hk (List.mem_cons_of_mem d hc), hneed, rfl, b, ?_, hrest⟩
        rw [lookup_insert_ne]
        · exact hlook
        · intro hc
          rw [hfresh.borrowId_injective hc] at hk
          exact hk List.mem_cons_self
      · rw [List.mem_singleton.mp hbid]
        exact ⟨d, hdnot, hpos, rfl, _, lookup_insert _, rfl, rfl⟩
    · by_cases hc : k = d
      · subst hc
        exact List.mem_append_right _ List.mem_cons_self
      · exact List.mem_append_left _ (h.complete k (hmem k hk hc) hneed)
  · rw [herr] at hd; cases hd

section Admitted

variable {t : TenantId} {req : ResourceVector} {auth : Authority} {st : Draw}

/-- The amounts an admitted request borrows. -/
def excess (s : Engine) (t : TenantId) (req : ResourceVector) (d : ResourceDimension) : Int :=
  borrowNeed (s.effectiveLattice t) (s.committed t) req d

theorem Admitted.drawnLoans (h : Admitted env s t req auth st s') (hfresh : FreshLoans env s) :
    DrawnLoans env (s.excess t req) [] st := by
  have hrule := fundLoop_rule
    (P := fun ds st => FundInv env s ds st ∧ DrawnLoans env (s.excess t req) ds st)
    (fun d ds st st' hp hd => ⟨fundInv_step hfresh hp.1 hd, drawnLoans_step hfresh hp.1 hp.2 hd⟩)
    allResourceDimensions _ st ⟨fundInv_start hfresh t, ?_⟩ h.funded
  · exact hrule.2
  · refine ⟨fun bid hbid => absurd hbid List.not_mem_nil, fun k hk => ?_⟩
    exact absurd (mem_allResourceDimensions k) hk

theorem borrowNeed_nonneg (eff : ResourceQuota) (cb req : ResourceVector) (d : ResourceDimension) :
    0 ≤ borrowNeed eff cb req d := by
  unfold borrowNeed borrowPart
  split
  · exact le_max_left _ _
  · exact le_refl 0

theorem borrowNeed_le (eff : ResourceQuota) (cb : ResourceVector) {req : ResourceVector}
    (hreq : req.NonNeg) (d : ResourceDimension) : borrowNeed eff cb req d ≤ req.get d := by
  have hd := hreq d
  unfold borrowNeed borrowPart
  split
  · have hsat := satAdd_le_add (a := cb.get d) (b := req.get d)
    simp only
    omega
  · exact hd

/-- The drawn loans amount to the excess of the request. -/
theorem DrawnLoans.sum {need : ResourceDimension → Int} (h : DrawnLoans env need [] st)
    (hinj : Function.Injective env.borrowId) (hneed : ∀ d, 0 ≤ need d)
    (hborrows : s'.borrows = st.engine.borrows) (d : ResourceDimension) :
    ∑ bid ∈ st.borrowIds.toFinset, s'.onLoan bid d = need d := by
  have hval : ∀ bid ∈ st.borrowIds, ∃ k, bid = env.borrowId k ∧ 0 < need k ∧
      s'.onLoan bid d = if d = k then need k else 0 := by
    intro bid hbid
    obtain ⟨k, -, hpos, rfl, b, hb, hrec, hcons⟩ := h.drawn bid hbid
    refine ⟨k, rfl, hpos, ?_⟩
    unfold onLoan
    rw [hborrows, hb]
    simp only [hrec, hcons, Bool.false_eq_true, if_false]
    by_cases hdk : d = k
    · subst hdk
      rw [if_pos rfl, ResourceVector.get_fromScalar_self hpos.le]
    · rw [if_neg hdk, ResourceVector.get_fromScalar_ne hdk]
  by_cases hd : 0 < need d
  · have hmem := h.complete d List.not_mem_nil hd
    rw [Finset.sum_eq_single (env.borrowId d)]
    · obtain ⟨k, hkd, -, hk⟩ := hval _ hmem
      rw [hk, if_pos (hinj hkd), ← hinj hkd]
    · intro bid hbid hne
      obtain ⟨k, hkb, -, hk⟩ := hval bid (List.mem_toFinset.mp hbid)
      rw [hk, if_neg]
      rintro rfl
      exact hne hkb
    · exact fun hno => absurd (List.mem_toFinset.mpr hmem) hno
  · have hzero : need d = 0 := by have := hneed d; omega
    rw [hzero]
    apply Finset.sum_eq_zero
    intro bid hbid
    obtain ⟨k, -, hpos, hk⟩ := hval bid (List.mem_toFinset.mp hbid)
    rw [hk, if_neg]
    rintro rfl
    exact hd hpos

/-- The active reservations, their lists and the loan records after an admitted request. -/
theorem Admitted.views (h : Admitted env s t req auth st s') (hrid : env.reservationId ∉ s.reservations) :
    (∀ rid, s'.activeAt rid = if rid = env.reservationId then some (t, req) else s.activeAt rid) ∧
    (∀ rid, s'.listedBorrows rid =
      if rid = env.reservationId then st.borrowIds else s.listedBorrows rid) ∧
    s'.borrows = st.engine.borrows := by
  obtain ⟨e, hent, hsync⟩ := h.recorded
  have hres := hsync.reservations.trans hent.reservations
  rw [h.loans.frame.reservations, emplace_of_notMem hrid] at hres
  have hfund := hsync.funding.trans hent.funding
  rw [h.loans.frame.funding] at hfund
  refine ⟨fun rid => ?_, fun rid => ?_, hsync.borrows.trans hent.borrows⟩
  · unfold activeAt
    rw [hres]
    by_cases hr : rid = env.reservationId
    · subst hr
      rw [lookup_insert, if_pos rfl]; rfl
    · rw [lookup_insert_ne hr, if_neg hr]
  · unfold listedBorrows
    rw [hfund]
    by_cases hr : rid = env.reservationId
    · subst hr
      rw [lookup_insert, if_pos rfl]
    · rw [lookup_insert_ne hr, if_neg hr]

theorem Admitted.lookup_old (h : Admitted env s t req auth st s')
    (hrid : env.reservationId ∉ s.reservations) {bid : BorrowId} {b : BorrowRecord}
    (hb : s.borrows.lookup bid = some b) : s'.borrows.lookup bid = some b := by
  rw [(h.views hrid).2.2]
  exact h.loans.lookup_borrow hb not_false

theorem Admitted.fundedInv (h : Admitted env s t req auth st s') (hfresh : FreshIds env s)
    (hreq : req.NonNeg) (hinv : FundedInv s) : FundedInv s' := by
  obtain ⟨hact, hlist, hborrows⟩ := h.views hfresh.reservationId
  have hdrawn := h.drawnLoans hfresh.toFreshLoans
  -- a drawn loan is new, so no older reservation lists it
  have hnew : ∀ rid x bid, s.activeAt rid = some x → bid ∈ s.listedBorrows rid → bid ∉ st.borrowIds := by
    intro rid x bid hx hbid hc
    obtain ⟨b, hb, -⟩ := hinv.listed rid x bid hx hbid
    exact (h.drawn bid hc).1 (mem_of_lookup hb)
  refine ⟨fun rid x bid hx hbid => ?_, fun rid x rid' x' bid hx hx' hbid hbid' => ?_,
    fun rid t' v d hx => ?_⟩
  · rw [hact] at hx
    rw [hlist] at hbid
    by_cases hr : rid = env.reservationId
    · rw [if_pos hr] at hbid
      obtain ⟨k, -, hpos, rfl, b, hb, -, hcons⟩ := hdrawn.drawn bid hbid
      refine ⟨b, hborrows ▸ hb, ?_⟩
      rw [hcons, ResourceVector.fromScalar_of_nonneg hpos.le]
      intro e
      by_cases he : e = k
      · subst he; rw [SparseVec.get_put_self]; exact hpos.le
      · rw [SparseVec.get_put_ne _ _ he]; exact le_refl 0
    · rw [if_neg hr] at hx hbid
      obtain ⟨b, hb, hnn⟩ := hinv.listed rid x bid hx hbid
      exact ⟨b, h.lookup_old hfresh.reservationId hb, hnn⟩
  · rw [hact] at hx hx'
    rw [hlist] at hbid hbid'
    by_cases hr : rid = env.reservationId <;> by_cases hr' : rid' = env.reservationId
    · exact hr.trans hr'.symm
    · rw [if_pos hr] at hbid
      rw [if_neg hr'] at hx' hbid'
      exact absurd hbid (hnew rid' x' bid hx' hbid')
    · rw [if_neg hr] at hx hbid
      rw [if_pos hr'] at hbid'
      exact absurd hbid' (hnew rid x bid hx hbid)
    · rw [if_neg hr] at hx hbid
      rw [if_neg hr'] at hx' hbid'
      exact hinv.disjoint rid x rid' x' bid hx hx' hbid hbid'
  · rw [hact] at hx
    unfold loaned
    rw [hlist]
    by_cases hr : rid = env.reservationId
    · rw [if_pos hr] at hx ⊢
      cases hx
      rw [hdrawn.sum hfresh.borrowId_injective (borrowNeed_nonneg _ _ _) hborrows]
      exact borrowNeed_le _ _ hreq d
    · rw [if_neg hr] at hx ⊢
      refine le_trans (le_of_eq ?_) (hinv.covered rid t' v d hx)
      apply Finset.sum_congr rfl
      intro bid hbid
      obtain ⟨b, hb, -⟩ := hinv.listed rid _ bid hx (List.mem_toFinset.mp hbid)
      exact onLoan_congr ((h.lookup_old hfresh.reservationId hb).trans hb.symm) d

/-- An admitted request lists loans for its excess. -/
theorem Admitted.fundedSum (h : Admitted env s t req auth st s') (hfresh : FreshIds env s)
    (hinv : FundedInv s) (x : TenantId) (d : ResourceDimension) :
    s'.fundedSum x d = (if x = t then s.excess t req d else 0) + s.fundedSum x d := by
  obtain ⟨hact, hlist, hborrows⟩ := h.views hfresh.reservationId
  obtain ⟨own, hown⟩ : ∃ own : Finset BorrowId, own = if x = t then st.borrowIds.toFinset else ∅ :=
    ⟨_, rfl⟩
  have hnoact : s.activeAt env.reservationId = none := by
    unfold activeAt
    rw [lookup_eq_none.mpr hfresh.reservationId]
  have hset : s'.fundingLoans x = own ∪ s.fundingLoans x := by
    ext bid
    rw [Finset.mem_union, mem_fundingLoans, mem_fundingLoans, hown]
    constructor
    · rintro ⟨rid, v, hv, hbid⟩
      rw [hact] at hv
      rw [hlist] at hbid
      by_cases hr : rid = env.reservationId
      · rw [if_pos hr] at hv hbid
        cases hv
        left
        rw [if_pos rfl]
        exact List.mem_toFinset.mpr hbid
      · rw [if_neg hr] at hv hbid
        exact Or.inr ⟨rid, v, hv, hbid⟩
    · rintro (hbid | ⟨rid, v, hv, hbid⟩)
      · split at hbid
        · rename_i hx
          refine ⟨env.reservationId, req, ?_, ?_⟩
          · rw [hact, if_pos rfl, hx]
          · rw [hlist, if_pos rfl]
            exact List.mem_toFinset.mp hbid
        · exact absurd hbid (Finset.notMem_empty bid)
      · have hne : rid ≠ env.reservationId := by
          rintro rfl
          rw [hnoact] at hv; cases hv
        exact ⟨rid, v, by rw [hact, if_neg hne]; exact hv, by rw [hlist, if_neg hne]; exact hbid⟩
  have hdisj : Disjoint own (s.fundingLoans x) := by
    rw [Finset.disjoint_left]
    intro bid hbid hold
    obtain ⟨rid, v, hv, hmem⟩ := mem_fundingLoans.mp hold
    obtain ⟨b, hb, -⟩ := hinv.listed rid _ bid hv hmem
    rw [hown] at hbid
    split at hbid
    · exact (h.drawn bid (List.mem_toFinset.mp hbid)).1 (mem_of_lookup hb)
    · exact absurd hbid (Finset.notMem_empty bid)
  unfold Engine.fundedSum
  rw [hset, Finset.sum_union hdisj]
  congr 1
  · rw [hown]
    split
    · exact (h.drawnLoans hfresh.toFreshLoans).sum hfresh.borrowId_injective
        (borrowNeed_nonneg _ _ _) hborrows d
    · exact Finset.sum_empty
  · apply Finset.sum_congr rfl
    intro bid hbid
    obtain ⟨rid, v, hv, hmem⟩ := mem_fundingLoans.mp hbid
    obtain ⟨b, hb, -⟩ := hinv.listed rid _ bid hv hmem
    exact onLoan_congr ((h.lookup_old hfresh.reservationId hb).trans hb.symm) d

end Admitted

/-! ## One call -/

/-- The active reservations of `t` are within `hard` and the listed loans. -/
def UnderHard (hard : Int) (t : TenantId) (d : ResourceDimension) (s : Engine) : Prop :=
  s.reservedSum t d ≤ hard + s.fundedSum t d

/-- What `reserve` starts from is at least what is reserved, and the request still fits. -/
theorem CommitInv.base {s₀ : Engine} {bound : ResourceDimension → Int} {t : TenantId}
    {req : ResourceVector} (h : CommitInv s₀ bound s) (hreq : req.NonNeg)
    (hcnt : (s₀.usageOf t).consumption.NonNeg ∧ (s₀.usageOf t).reserved.NonNeg)
    (hfit : ∀ d, bound d + req.get d ≤
      INT64_MAX - ((s₀.usageOf t).consumption.get d + (s₀.usageOf t).reserved.get d))
    (d : ResourceDimension) :
    s.reservedSum t d ≤ (s.committed t).get d ∧ (s.committed t).get d + req.get d ≤ INT64_MAX := by
  have hle := fun d => h.reservedSum_le t d
  have hnn := fun d => reservedSum_nonneg h.nonNeg t d
  have hc := fun d => hcnt.1 d
  have hr := fun d => hcnt.2 d
  unfold committed
  rcases h.counters t with ⟨hcons, hres⟩ | ⟨hz, hcons, hres⟩
  · rw [hcons, hres, ResourceVector.accum_of_fits, SparseVec.get_add, SparseVec.get_empty,
      get_exactReserved]
    · have := hfit d; have := hle d; have := hc d; have := hr d
      omega
    · intro e
      rw [SparseVec.get_empty, get_exactReserved]
      have := hfit e; have := hle e; have := hc e; have := hr e; have := hreq e
      omega
  · have hsum : s.reservedSum t d = 0 := by rw [← get_exactReserved, hz]; rfl
    rw [hcons, hres, ResourceVector.accum_of_fits, SparseVec.get_add, hsum]
    · have := hfit d; have := hle d; have := hnn d; have := hc d; have := hr d
      omega
    · intro e
      have := hfit e; have := hle e; have := hnn e; have := hreq e
      omega

/-- What a request takes above the hard limit, and no less, is borrowed. -/
theorem excess_covers {t : TenantId} {req : ResourceVector} {d : ResourceDimension} (hreq : req.NonNeg)
    (hd : isConsumable d = false) (hhard : (s.effectiveLattice t).hardLimit.present d = true)
    (hfit : (s.committed t).get d + req.get d ≤ INT64_MAX) :
    (s.committed t).get d + req.get d ≤ (s.effectiveLattice t).hardLimit.get d + s.excess t req d ∨
      req.get d ≤ s.excess t req d := by
  have h0 := hreq d
  unfold excess borrowNeed
  cases hp : req.present d with
  | false =>
    right
    rw [SparseVec.get_of_not_present hp]
    simp
  | true =>
    simp only [hd, Bool.not_false, Bool.and_self, if_true]
    unfold borrowPart hardOf
    rw [satAdd_of_le hfit, if_pos hhard]
    simp only
    omega

theorem Admitted.underHard {s₀ : Engine} {bound : ResourceDimension → Int} {x t : TenantId}
    {req : ResourceVector} {auth : Authority} {st : Draw} {d : ResourceDimension} {hard : Int}
    (h : Admitted env s x req auth st s') (hfresh : FreshIds env s) (hreq : req.NonNeg)
    (hinv : CommitInv s₀ bound s) (hfunded : FundedInv s)
    (hcnt : (s₀.usageOf t).consumption.NonNeg ∧ (s₀.usageOf t).reserved.NonNeg)
    (hfit : ∀ d, bound d + req.get d ≤
      INT64_MAX - ((s₀.usageOf t).consumption.get d + (s₀.usageOf t).reserved.get d))
    (hd : isConsumable d = false) (hpres : (s.effectiveLattice t).hardLimit.present d = true)
    (hhard : hard = (s.effectiveLattice t).hardLimit.get d) (hunder : UnderHard hard t d s) :
    UnderHard hard t d s' := by
  unfold UnderHard at *
  rw [h.reservedSum hfresh.reservationId, h.fundedSum hfresh hfunded]
  by_cases hx : t = x
  · subst hx
    rw [if_pos rfl, if_pos rfl]
    obtain ⟨hbase, hroom⟩ := hinv.base hreq hcnt hfit d
    have hnn : 0 ≤ s.fundedSum t d := by
      apply Finset.sum_nonneg
      intro bid hbid
      obtain ⟨rid, v, hv, hmem⟩ := mem_fundingLoans.mp hbid
      exact hfunded.onLoan_nonneg hv hmem d
    rcases excess_covers hreq hd hpres hroom with hc | hc
    · omega
    · omega
  · rw [if_neg hx, if_neg hx]
    omega

theorem Kept.underHard (hk : Kept s s') (h : FundedInv s)
    (hsame : ∀ rid, s'.activeAt rid = s.activeAt rid) {hard : Int} {t : TenantId}
    {d : ResourceDimension} (hsum : s'.reservedSum t d = s.reservedSum t d)
    (hunder : UnderHard hard t d s) : UnderHard hard t d s' := by
  unfold UnderHard at *
  rw [hsum, hk.fundedSum h hsame]
  exact hunder

end Steps

/-! ## Whole runs -/

/-- The loan a call recalls. -/
def recalledLoan : Call → Option BorrowId
  | .recallBorrow bid _ => some bid
  | _ => none

/-- A recall names no loan that an active reservation lists. -/
def sparesFunding (s : Engine) (c : Call) : Prop :=
  ∀ bid ∈ recalledLoan c, ∀ rid r, s.reservations.lookup rid = some r → activeRes r = true →
    bid ∉ s.listedBorrows rid

instance (s : Engine) (c : Call) : Decidable (s.sparesFunding c) :=
  inferInstanceAs (Decidable (∀ bid ∈ recalledLoan c, ∀ rid r, s.reservations.lookup rid = some r →
    activeRes r = true → bid ∉ s.listedBorrows rid))

def ceilingCall (s : Engine) (c : Env × Call) : Prop := coreCall s c ∧ s.sparesFunding c.2

instance (s : Engine) (c : Env × Call) : Decidable (ceilingCall s c) :=
  inferInstanceAs (Decidable (_ ∧ _))

section Runs

variable {env : Env} {s₀ s : Engine} {bound : ResourceDimension → Int} {t : TenantId}
  {d : ResourceDimension} {hard : Int}

theorem exec_underHard {c : Call} (hc : ceilingCall s (env, c)) (hinv : CommitInv s₀ bound s)
    (hcnt : (s₀.usageOf t).consumption.NonNeg ∧ (s₀.usageOf t).reserved.NonNeg)
    (hfit : ∀ d, bound d + c.amount.get d ≤
      INT64_MAX - ((s₀.usageOf t).consumption.get d + (s₀.usageOf t).reserved.get d))
    (hd : isConsumable d = false) (hpres : (s.effectiveLattice t).hardLimit.present d = true)
    (hhard : hard = (s.effectiveLattice t).hardLimit.get d)
    (h : FundedInv s ∧ UnderHard hard t d s) :
    FundedInv (s.exec env c).2 ∧ UnderHard hard t d (s.exec env c).2 := by
  obtain ⟨⟨hcore, hfresh, hamount⟩, hspare⟩ := hc
  obtain ⟨hfunded, hunder⟩ := h
  have hnone : ∀ rid x bid, s.activeAt rid = some x → bid ∈ s.listedBorrows rid → ¬ False :=
    fun _ _ _ _ _ => not_false
  cases c with
  | reserve x req auth =>
    change FundedInv (s.reserve env x req auth).2 ∧ UnderHard hard t d (s.reserve env x req auth).2
    rcases reserve_cases hfresh.toFreshLoans x req auth with heq | ⟨st, hback⟩ | ⟨st, hadm⟩
    · rw [heq]; exact ⟨hfunded, hunder⟩
    · exact ⟨hback.kept.fundedInv hfunded, hback.kept.underHard hfunded
        (activeAt_congr hback.frame.reservations) (reservedSum_same hback.frame.reservations t d) hunder⟩
    · exact ⟨hadm.fundedInv hfresh hamount hfunded,
        hadm.underHard hfresh hamount hinv hfunded hcnt hfit hd hpres hhard hunder⟩
  | commitReservation rid auth =>
    change FundedInv (s.commitReservation env rid auth).2 ∧
      UnderHard hard t d (s.commitReservation env rid auth).2
    rcases commitReservation_cases env s rid auth with heq | ⟨r, hr, hprov, hres⟩
    · rw [heq]; exact ⟨hfunded, hunder⟩
    · have hsame : ∀ rid', (s.commitReservation env rid auth).2.activeAt rid' = s.activeAt rid' :=
        fun rid' => (activeAt_congr hres.reservations rid').trans (activeAt_markCommitted hr hprov rid')
      have hk := kept_of_records hsame hres.funding fun _ _ bid b _ _ hb => by
        rw [hres.borrows]; exact hb
      refine ⟨hk.fundedInv hfunded, hk.underHard hfunded hsame ?_ hunder⟩
      rw [reservedSum_same hres.reservations, reservedSum_markCommitted hr hprov]
  | release rid auth =>
    change FundedInv (s.release env rid auth).2 ∧ UnderHard hard t d (s.release env rid auth).2
    rcases release_cases env s rid auth with heq | ⟨r, mid, hr, hact, hret, hres⟩
    · rw [heq]; exact ⟨hfunded, hunder⟩
    · have hrest := hres.reservations.trans (release_reservations hret)
      have hk := release_kept hfunded hr hact hret hres
      refine ⟨hk.fundedInv hfunded, ?_⟩
      have hmove := release_fundedSum hfunded hr hact hk (activeAt_released hrest) t d
      have hsum := reservedSum_erase hr hact hrest t d
      have hcov := hfunded.covered rid r.tenant r.resources d
        (activeAt_eq_some.mpr ⟨r, hr, hact, rfl, rfl⟩)
      unfold UnderHard at *
      by_cases ht : t = r.tenant
      · rw [if_pos ht] at hmove hsum
        omega
      · rw [if_neg ht] at hmove hsum
        omega
  | borrow b amount auth =>
    change FundedInv (s.borrow env b amount auth).2 ∧ UnderHard hard t d (s.borrow env b amount auth).2
    rcases borrow_cases hfresh.toFreshLoans b amount hamount auth with heq | ⟨lender, -, hstep, hres⟩
    · rw [heq]; exact ⟨hfunded, hunder⟩
    · have hsame := hres.reservations.trans hstep.frame.reservations
      have hk := hstep.kept hres hnone
      exact ⟨hk.fundedInv hfunded,
        hk.underHard hfunded (activeAt_congr hsame) (reservedSum_same hsame t d) hunder⟩
  | lend l b amount auth =>
    change FundedInv (s.lend env l b amount auth).2 ∧ UnderHard hard t d (s.lend env l b amount auth).2
    rcases lend_cases hfresh.toFreshLoans l b amount hamount auth with heq | ⟨lender, -, hstep, hres⟩
    · rw [heq]; exact ⟨hfunded, hunder⟩
    · have hsame := hres.reservations.trans hstep.frame.reservations
      have hk := hstep.kept hres hnone
      exact ⟨hk.fundedInv hfunded,
        hk.underHard hfunded (activeAt_congr hsame) (reservedSum_same hsame t d) hunder⟩
  | recallBorrow bid auth =>
    change FundedInv (s.recallBorrow env bid auth).2 ∧
      UnderHard hard t d (s.recallBorrow env bid auth).2
    rcases recallBorrow_cases env s bid auth with heq | ⟨b, -, -, hstep, hres⟩
    · rw [heq]; exact ⟨hfunded, hunder⟩
    · have hsame := hres.reservations.trans hstep.frame.reservations
      have hk := hstep.kept hres fun rid x bid' hx hbid' heq => by
        obtain ⟨r, hr, hact, -, -⟩ := activeAt_eq_some.mp (show s.activeAt rid = some (x.1, x.2) from hx)
        exact hspare bid rfl rid r hr hact (heq ▸ hbid')
      exact ⟨hk.fundedInv hfunded,
        hk.underHard hfunded (activeAt_congr hsame) (reservedSum_same hsame t d) hunder⟩
  | _ => cases hcore

/-- **The tenant ceiling holds in every state of every run of the core calls**: the active
    reservations of a tenant are within its hard limit and the unreturned loans they list, as long
    as no listed loan is recalled while it is listed.  What the tenant had counted at the start,
    with everything asked for in the run, must fit into 64 bits. -/
theorem tenant_ceiling {l : List (Env × Call)} (hstart : NothingReserved s₀)
    (hcnt : (s₀.usageOf t).consumption.NonNeg ∧ (s₀.usageOf t).reserved.NonNeg)
    (hrun : Run Engine.after ceilingCall s₀ l s)
    (hfit : ∀ d, (s₀.usageOf t).consumption.get d + (s₀.usageOf t).reserved.get d +
      totalRequested l d ≤ INT64_MAX)
    (hd : isConsumable d = false) (hhard : (s.effectiveLattice t).hardLimit.present d = true) :
    s.reservedSum t d ≤ (s.effectiveLattice t).hardLimit.get d + s.fundedSum t d := by
  have hnoact : ∀ rid, s₀.activeAt rid = none := fun rid => by
    unfold activeAt
    rw [hstart.reservations]; rfl
  have hroom : ∀ d, totalRequested l d ≤
      INT64_MAX - ((s₀.usageOf t).consumption.get d + (s₀.usageOf t).reserved.get d) := fun d => by
    have := hfit d; omega
  have hgoal := commit_run_rule (I := fun s => (s.effectiveLattice t).hardLimit.present d = true →
    FundedInv s ∧ UnderHard ((s.effectiveLattice t).hardLimit.get d) t d s)
    (fun _ _ h => h.1) hrun hroom (fun d => by have := hcnt.1 d; have := hcnt.2 d; omega) hstart ?_ ?_
  · exact (hgoal.2 hhard).2
  · intro _
    refine ⟨⟨fun rid x bid hx => ?_, fun rid x rid' x' bid hx => ?_, fun rid x v e hx => ?_⟩, ?_⟩
    · rw [hnoact] at hx; cases hx
    · rw [hnoact] at hx; cases hx
    · rw [hnoact] at hx; cases hx
    · unfold UnderHard
      have hempty : s₀.fundingLoans t = ∅ := by
        unfold fundingLoans
        rw [hstart.reservations]; rfl
      have hnn : 0 ≤ (s₀.effectiveLattice t).hardLimit.get d := by
        rw [effectiveLattice_hardLimit]
        exact mergeMin_nonNeg _ d
      unfold fundedSum
      rw [hstart.reservedSum, hempty, Finset.sum_empty]
      omega
  · intro s c bound hc hfit hinv hI hpres
    obtain ⟨hcore, hfresh, hamount⟩ := hc.1
    have hconf : SameConfig s (s.after c) :=
      (exec_capacityStep hfresh hamount hcore).config
    rw [hconf.effectiveLattice] at hpres ⊢
    exact exec_underHard hc hinv hcnt hfit hd hpres rfl (hI hpres)

/-- The capped tenant reserves 20 and borrows 10 for it, then borrows 5 more and gives those back. -/
def fundedAndFree : List (Env × Call) :=
  [(.numbered 1, .reserve cappedTenant (.fromScalar .acceleratorVRAM 20) firstAuthority),
    (.numbered 2, .borrow cappedTenant (.fromScalar .acceleratorVRAM 5) firstAuthority),
    (.numbered 3, .recallBorrow ⟨2, 0⟩ firstAuthority)]

theorem tenant_ceiling_fundedAndFree :
    (fundedAndFree.foldl Engine.after borrowerAndLender).reservedSum cappedTenant .acceleratorVRAM = 20 ∧
    (fundedAndFree.foldl Engine.after borrowerAndLender).fundedSum cappedTenant .acceleratorVRAM = 10 ∧
    (fundedAndFree.foldl Engine.after borrowerAndLender).reservedSum cappedTenant .acceleratorVRAM ≤
      ((fundedAndFree.foldl Engine.after borrowerAndLender).effectiveLattice cappedTenant).hardLimit.get
          .acceleratorVRAM +
        (fundedAndFree.foldl Engine.after borrowerAndLender).fundedSum cappedTenant .acceleratorVRAM :=
  ⟨by decide +kernel, by decide +kernel,
    tenant_ceiling ⟨rfl, fun aid a ha => by cases ha⟩ ⟨fun _ => le_refl 0, fun _ => le_refl 0⟩
      (Run.of_check fundedAndFree borrowerAndLender (by decide +kernel)) (by decide +kernel) rfl
      (by decide +kernel)⟩

end Runs

end Engine

end QuotaFabric
