import QuotaFabric.Engine.Lattice
import QuotaFabric.Engine.Recompute
import QuotaFabric.Persistence.RoundTrip

/-!
# Reachable states can be saved

Every public call except `load_from` keeps `Encodable`: each record it makes stands under its own id
and holds values that fit its encoding.

* `plainCall` — a call with new ids whose arguments are machine words: non-negative 64-bit amounts,
  64-bit instants.  Signed overflow and `std::clamp` with crossed bounds have no defined result; an
  observation is asked not to overflow, a clamp to return one of its three arguments, as its type says;
* `Sound` — `Encodable`, and the capacity counters fit 64 bits;
* `exec_sound`, `run_sound` — one call, and every run, keeps it.

Main result: `persisted_state_round_trips`.
-/

set_option autoImplicit false

namespace QuotaFabric

open AList LogParser

/-! ## Arguments -/

/-- The clocks are 64-bit, and `std::clamp` returns a reference to one of its arguments. -/
structure Env.InRange (env : Env) : Prop where
  now : IsInt64 env.now
  borrowAt : ∀ d, IsInt64 (env.borrowAt d)
  clampUndef : ∀ v lo hi, env.clampUndef v lo hi = v ∨ env.clampUndef v lo hi = lo ∨
    env.clampUndef v lo hi = hi

/-- The sum an observation stores does not overflow. -/
def Observation.Fits (s : Engine) (obs : Observation) : Prop :=
  match obs.kind with
  | .modelResidencyAdded =>
    (s.usageOf obs.tenant).consumption.get .modelResidencyBytes + obs.amount ≤ INT64_MAX
  | .modelResidencyRemoved =>
    (s.usageOf obs.tenant).consumption.get .modelResidencyBytes - obs.amount ≤ INT64_MAX
  | .kvUsageChange | .tensorUsageChange | .usageDelta =>
    (s.usageOf obs.tenant).consumption.get obs.dimension + obs.amount ≤ INT64_MAX
  | _ => True

/-- The arguments of a call are machine words. -/
def Call.InRange (s : Engine) : Call → Prop
  | .setTenantQuota _ q => q.Storable
  | .setGroupQuota _ q => q.Storable
  | .applyObservation obs => obs.Fits s
  | c => c.amount.Valid

namespace Engine

/-- A call with new ids and arguments in range. -/
def plainCall (s : Engine) (c : Env × Call) : Prop :=
  FreshIds c.1 s ∧ c.1.InRange ∧ c.2.InRange s

/-- Records that can be saved, and capacity counters within 64 bits. -/
structure Sound (keyed : Prop) (cap : Nat) (s : Engine) : Prop extends Encodable keyed cap s where
  counters : ∀ t, (s.usageOf t).consumption.Valid ∧ (s.usageOf t).reserved.Valid

section Keeping

variable {keyed : Prop} {cap : Nat} {env : Env} {s s' : Engine}

/-- A map with more keys has more entries. -/
theorem length_le_of_subset {K V V' : Type} [DecidableEq K] {m : UMap K V} {m' : UMap K V'}
    (h : ∀ k, k ∈ m → k ∈ m') : m.entries.length ≤ m'.entries.length := by
  have hle := (List.subperm_of_subset m.keys_nodup fun k hk => h k hk).length_le
  have hkeys : m.keys.length = m.entries.length := List.length_map _
  have hkeys' : m'.keys.length = m'.entries.length := List.length_map _
  omega

theorem Encodable.quotasValid (h : Encodable keyed cap s) : QuotasValid s :=
  ⟨fun t q hq => (h.localQuota t q hq).2.toValid, fun g q hq => (h.groupQuota g q hq).toValid⟩

theorem Encodable.recordsNonNeg (h : Encodable keyed cap s) : RecordsNonNeg s :=
  ⟨fun rid r hr => (h.reservations rid r hr).2.resources.nonNeg,
    fun aid a ha => (h.allocations aid a ha).2.used.nonNeg⟩

theorem Sound.emit (h : Sound keyed cap s) (type : EventType) (t : TenantId) (detail : Str) :
    Sound keyed cap (s.emitEvent env type t detail) :=
  ⟨⟨h.depth, h.groups, h.tenants, h.localQuota, h.groupQuota, h.reservations, h.funding, h.allocations,
    h.borrows, h.lends⟩, h.counters⟩

/-- Resynchronisation keeps the records and recomputes counters that fit. -/
theorem Resynced.sound {ts : List TenantId} (hr : Resynced env s s' ts) (h : Encodable keyed cap s)
    (hc : ∀ t, (s.usageOf t).consumption.Valid ∧ (s.usageOf t).reserved.Valid) : Sound keyed cap s' := by
  have henc : Encodable keyed cap s' := by
    constructor
    · rw [hr.config.policy]; exact h.depth
    · rw [hr.config.groups]; exact h.groups
    · rw [hr.config.tenants]; exact h.tenants
    · rw [hr.config.localQuota]; exact h.localQuota
    · rw [hr.config.groupQuota]; exact h.groupQuota
    · rw [hr.reservations]; exact h.reservations
    · rw [hr.funding, hr.reservations, hr.borrows]; exact h.funding
    · rw [hr.allocations]; exact h.allocations
    · rw [hr.borrows]; exact h.borrows
    · rw [hr.lends]; exact h.lends
  refine ⟨henc, fun t => ?_⟩
  by_cases ht : t ∈ ts
  · have hsync := hr.synced t ht
    rw [hsync.consumption, hsync.reserved]
    exact ⟨fun d => ⟨computedConsumed_nonNeg henc.recordsNonNeg t d, ResourceVector.sumOf_le_max _ d⟩,
      fun d => ⟨recomputedReserved_nonNeg henc.recordsNonNeg t d, ResourceVector.sumOf_le_max _ d⟩⟩
  · rw [hr.other t ht]
    exact hc t

/-- A change of the loan book, seen from its records. -/
theorem Sound.of_frame (h : Sound keyed cap s) (hf : LoanFrame s s')
    (hborrows : ∀ bid b, s'.borrows.lookup bid = some b → (keyed → b.id = bid) ∧ b.Storable)
    (hlends : ∀ lid l, s'.lends.lookup lid = some l → (keyed → l.id = lid) ∧ l.Storable)
    (hkept : ∀ bid, bid ∈ s.borrows → bid ∈ s'.borrows) : Sound keyed cap s' := by
  refine ⟨⟨?_, ?_, ?_, ?_, ?_, ?_, ?_, ?_, hborrows, hlends⟩, fun t => ?_⟩
  · rw [hf.config.policy]; exact h.depth
  · rw [hf.config.groups]; exact h.groups
  · rw [hf.config.tenants]; exact h.tenants
  · rw [hf.config.localQuota]; exact h.localQuota
  · rw [hf.config.groupQuota]; exact h.groupQuota
  · rw [hf.reservations]; exact h.reservations
  · rw [hf.funding, hf.reservations]
    intro rid f hrid
    obtain ⟨h1, h2, h3⟩ := h.funding rid f hrid
    have hcount := length_le_of_subset hkept
    exact ⟨fun hk => ⟨(h1 hk).1, fun bid hbid => hkept bid ((h1 hk).2 bid hbid)⟩, h2, by omega⟩
  · rw [hf.allocations]; exact h.allocations
  · obtain ⟨h1, h2, -⟩ := hf.counters t
    rw [h1, h2]
    exact h.counters t

/-! ## Loans -/

theorem openLoan_sound (h : Sound keyed cap s) (henv : env.InRange) (k : ResourceDimension)
    (lender borrower : TenantId) {amount : ResourceVector} (hamount : amount.Valid) :
    Sound keyed cap (s.openLoan env k lender borrower amount none) := by
  have hzero : IsInt64 0 := by decide
  refine h.of_frame (openLoan_frame env s k lender borrower amount none) ?_ ?_ ?_
  · rw [openLoan_borrows]
    exact forall_lookup_emplace h.borrows
      ⟨fun _ => rfl, rfl, hamount, hamount, henv.borrowAt k, hzero, hamount⟩
  · rw [openLoan_lends]
    exact forall_lookup_emplace h.lends ⟨fun _ => rfl, hamount, hamount, henv.borrowAt k, hzero⟩
  · intro bid hbid
    rw [openLoan_borrows]
    unfold emplace
    split
    · exact hbid
    · rw [mem_insert]; exact Or.inr hbid

theorem closeLoan_sound (h : Sound keyed cap s) {bid : BorrowId} {b : BorrowRecord}
    (hb : s.borrows.lookup bid = some b) (env : Env) :
    Sound keyed cap (s.closeLoan env bid b (ResourceVector.min b.consumed b.consumed)) := by
  have hret : (ResourceVector.min b.consumed b.consumed).NonNeg := ResourceVector.min_nonNeg _ _
  refine h.of_frame (closeLoan_frame ..) ?_ ?_ ?_
  · rw [closeLoan_borrows]
    refine forall_lookup_modify h.borrows fun x ⟨hid, hx⟩ => ⟨hid, ?_⟩
    exact ⟨hx.resourceClass, hx.amount, ResourceVector.subSat_valid (h.borrows bid b hb).2.consumed hret,
      hx.startedAt, hx.expiresAt, hx.debt⟩
  · rw [closeLoan_lends]
    refine forall_lookup_modify h.lends fun x ⟨hid, hx⟩ => ⟨hid, ?_⟩
    exact ⟨hx.amount, ResourceVector.subSat_valid hx.outstanding hret, hx.startedAt, hx.expiresAt⟩
  · intro x hx
    rw [closeLoan_borrows, mem_modify]
    exact hx

theorem returnBorrow_sound (h : Sound keyed cap s) {bid : BorrowId} {b : BorrowRecord}
    (hb : s.borrows.lookup bid = some b) : Sound keyed cap (s.returnBorrow env bid b.consumed).2 := by
  unfold returnBorrow
  rw [hb]
  simp only
  split
  · exact h
  · exact closeLoan_sound h hb env

/-- `borrows_[bid]` makes a record when `bid` is missing; where records stand under their ids, a
    listed loan is never missing. -/
theorem returnListed_sound (h : Sound keyed cap s) {bid : BorrowId} (hbid : keyed → bid ∈ s.borrows) :
    Sound keyed cap (s.returnListed env bid) := by
  have hzero : IsInt64 0 := by decide
  have hmade : Sound keyed cap { s with borrows := s.borrows.emplace bid {} } := by
    by_cases hm : bid ∈ s.borrows
    · have hsame : s.borrows.emplace bid {} = s.borrows := if_pos hm
      rw [hsame]
      exact h
    · refine h.of_frame ⟨⟨rfl, rfl, rfl, rfl, rfl, rfl, rfl⟩, rfl, rfl, rfl, fun _ => rfl⟩ ?_ h.lends ?_
      · exact forall_lookup_emplace h.borrows ⟨fun hk => absurd (hbid hk) hm, rfl,
          ResourceVector.valid_empty, ResourceVector.valid_empty, hzero, hzero, ResourceVector.valid_empty⟩
      · intro x hx
        rw [emplace_of_notMem hm, mem_insert]
        exact Or.inr hx
  obtain ⟨b, hb⟩ : ∃ b, (s.borrows.emplace bid {}).lookup bid = some b := by
    by_cases hm : bid ∈ s.borrows
    · have hsame : s.borrows.emplace bid {} = s.borrows := if_pos hm
      rw [hsame]
      exact exists_lookup_of_mem hm
    · exact ⟨{}, by rw [emplace_of_notMem hm, lookup_insert]⟩
  unfold returnListed
  simp only [hb, Option.getD_some]
  exact returnBorrow_sound hmade hb

theorem returnAll_sound : ∀ (bids : List BorrowId) {s : Engine}, Sound keyed cap s →
    (keyed → ∀ bid ∈ bids, bid ∈ s.borrows) → Sound keyed cap (s.returnAll env bids)
  | [], _, h, _ => h
  | bid :: bids, s, h, hall => by
    refine returnAll_sound bids (returnListed_sound h fun hk => hall hk bid List.mem_cons_self)
      fun hk x hx => ?_
    exact (returnListed_loanSteps (B := fun _ => True) s trivial).mem_borrows
      (hall hk x (List.mem_cons_of_mem bid hx))

end Keeping

/-! ## Reservations -/

theorem clamp_mem {env : Env} (henv : env.InRange) (v lo hi : Int) :
    clamp env.clampUndef v lo hi = v ∨ clamp env.clampUndef v lo hi = lo ∨
      clamp env.clampUndef v lo hi = hi := by
  unfold clamp
  split
  · exact henv.clampUndef v lo hi
  split
  · exact Or.inr (Or.inl rfl)
  split
  · exact Or.inr (Or.inr rfl)
  · exact Or.inl rfl

theorem softOf_range {eff : ResourceQuota} (hsoft : eff.softLimit.Valid) (hguar : eff.guaranteed.Valid)
    (d : ResourceDimension) : 0 ≤ softOf eff d ∧ softOf eff d ≤ INT64_MAX := by
  unfold softOf
  split
  · exact hsoft d
  split
  · exact hguar d
  · exact ⟨by decide, le_refl _⟩

theorem hardOf_range {eff : ResourceQuota} (hhard : eff.hardLimit.Valid) (d : ResourceDimension) :
    0 ≤ hardOf eff d ∧ hardOf eff d ≤ INT64_MAX := by
  unfold hardOf
  split
  · exact hhard d
  · exact ⟨by decide, le_refl _⟩

theorem satAdd_range {a b : Int} (ha : 0 ≤ a ∧ a ≤ INT64_MAX) (hb : 0 ≤ b) :
    0 ≤ satAdd a b ∧ satAdd a b ≤ INT64_MAX := by
  unfold satAdd
  split
  · exact ⟨by decide, le_refl _⟩
  · omega

section Funding

variable {keyed : Prop} {cap : Nat} {env : Env} {s : Engine} {t : TenantId} {req : ResourceVector}

/-- Whatever an undefined clamp returns, the burst part is a 64-bit amount. -/
theorem burstPart_le (henv : env.InRange) {eff : ResourceQuota} {d : ResourceDimension} {base nc : Int}
    (hsoft : 0 ≤ softOf eff d ∧ softOf eff d ≤ INT64_MAX)
    (hhard : 0 ≤ hardOf eff d ∧ hardOf eff d ≤ INT64_MAX) (hbase : 0 ≤ base ∧ base ≤ INT64_MAX)
    (hnc : 0 ≤ nc ∧ nc ≤ INT64_MAX) : burstPart env eff d base nc ≤ INT64_MAX := by
  have h1 := clamp_mem henv (nc - softOf eff d) 0 (hardOf eff d - softOf eff d)
  have h2 := clamp_mem henv (base - softOf eff d) 0 (hardOf eff d - softOf eff d)
  unfold burstPart
  simp only
  omega

theorem borrowNeed_le_max {eff : ResourceQuota} {cb : ResourceVector} (hhard : eff.hardLimit.Valid)
    (hcb : cb.Valid) (hreq : req.Valid) (d : ResourceDimension) : borrowNeed eff cb req d ≤ INT64_MAX := by
  have hh := hardOf_range hhard d
  have hnc := satAdd_range (hcb d) (hreq d).1
  have hmax : (0 : Int) ≤ INT64_MAX := by decide
  unfold borrowNeed borrowPart
  simp only
  split <;> omega

/-- What the funding loop adds to the burst amounts. -/
theorem fundDimension_burst {eff : ResourceQuota} {cb : ResourceVector} {st st' : Draw}
    {d : ResourceDimension} (h : fundDimension env eff cb t req st d = .ok st') :
    st'.burst = st.burst ∨
      st'.burst = (st.burst.set d (burstPart env eff d (cb.get d) (satAdd (cb.get d) (req.get d)))).2 := by
  unfold fundDimension at h
  split at h
  · cases h
    exact Or.inl rfl
  · simp only at h
    have hburst : ∀ x : Draw, x.burst =
        (if burstPart env eff d (cb.get d) (satAdd (cb.get d) (req.get d)) > 0 then
          (st.burst.set d (burstPart env eff d (cb.get d) (satAdd (cb.get d) (req.get d)))).2
        else st.burst) →
        x.burst = st.burst ∨ x.burst =
          (st.burst.set d (burstPart env eff d (cb.get d) (satAdd (cb.get d) (req.get d)))).2 := by
      intro x hx
      rw [hx]
      split
      · exact Or.inr rfl
      · exact Or.inl rfl
    split at h
    · split at h
      · cases h
      · cases h
        exact hburst _ rfl
    · cases h
      exact hburst _ rfl

/-- What the funding loop keeps. -/
structure SoundDraw (keyed : Prop) (cap : Nat) (env : Env) (s : Engine) (ds : List ResourceDimension)
    (st : Draw) : Prop where
  fund : FundInv env s ds st
  engine : Sound keyed cap st.engine
  burst : st.burst.Valid
  nodup : st.borrowIds.Nodup

theorem SoundDraw.step (hfresh : FreshLoans env s) (henv : env.InRange) (hs : Sound keyed cap s) (hreq : req.Valid)
    {d : ResourceDimension} {ds : List ResourceDimension} {st st' : Draw} (h : SoundDraw keyed cap env s (d :: ds) st)
    (hd : fundDimension env (s.effectiveLattice t) (s.committed t) t req st d = .ok st') :
    SoundDraw keyed cap env s ds st' := by
  obtain ⟨hguar, hsoft, hhard, -⟩ := effectiveLattice_valid hs.quotasValid t
  have hcb : (s.committed t).Valid := ResourceVector.accum_valid (hs.counters t).1 (hs.counters t).2
  have hnc := satAdd_range (hcb d) (hreq d).1
  have hburst : st'.burst.Valid := by
    rcases fundDimension_burst hd with hb | hb
    · rw [hb]; exact h.burst
    · rw [hb]
      exact ResourceVector.set_valid h.burst d
        (burstPart_le henv (softOf_range hsoft hguar d) (hardOf_range hhard d) (hcb d) hnc)
  have hfund := fundInv_step hfresh h.fund hd
  rcases fundDimension_cases env (s.effectiveLattice t) (s.committed t) t req st d with
    ⟨-, burst, hok, -⟩ | ⟨hpos, -, -, ⟨lender, burst, hl, hok, -⟩ | ⟨-, q, herr⟩⟩
  · rw [hok] at hd
    cases hd
    exact ⟨hfund, h.engine, hburst, h.nodup⟩
  · rw [hok] at hd
    cases hd
    refine ⟨hfund, openLoan_sound h.engine henv d lender t (ResourceVector.fromScalar_valid d
      (borrowNeed_le_max hhard hcb hreq d)), hburst, ?_⟩
    -- the new id was not on record, those drawn before are
    rw [List.nodup_append]
    refine ⟨h.nodup, List.nodup_singleton _, fun x hx y hy => ?_⟩
    rw [List.mem_singleton] at hy
    rintro rfl
    rw [hy] at hx
    exact h.fund.borrowId d List.mem_cons_self (h.fund.drawn _ hx).2
  · rw [herr] at hd
    cases hd

theorem SoundDraw.loop (hfresh : FreshLoans env s) (henv : env.InRange) (hs : Sound keyed cap s) (hreq : req.Valid)
    {ds post : List ResourceDimension} {st st' : Draw} (h : SoundDraw keyed cap env s (ds ++ post) st)
    (hok : fundLoop env (s.effectiveLattice t) (s.committed t) t req ds st = .ok st') :
    SoundDraw keyed cap env s post st' :=
  fundLoop_rule (P := fun ds st => SoundDraw keyed cap env s (ds ++ post) st)
    (fun _ _ _ _ h hd => h.step hfresh henv hs hreq hd) ds st st' h hok

theorem Sound.startDraw (hs : Sound keyed cap s) (hfresh : FreshLoans env s) (t : TenantId) :
    SoundDraw keyed cap env s allResourceDimensions { engine := s.modifyUsage t id } where
  fund := fundInv_start hfresh t
  engine :=
    ⟨⟨hs.depth, hs.groups, hs.tenants, hs.localQuota, hs.groupQuota, hs.reservations, hs.funding,
      hs.allocations, hs.borrows, hs.lends⟩, fun x => by rw [usageOf_modifyUsage_id]; exact hs.counters x⟩
  burst := ResourceVector.valid_empty
  nodup := List.nodup_nil

/-- The reservation and its funding are entered. -/
theorem Entered.encodable {auth : Authority} {st : Draw} {e : Engine} (he : Entered env t req auth st e)
    (henv : env.InRange) (hreq : req.Valid) (hst : SoundDraw keyed cap env s [] st) : Encodable keyed cap e := by
  have hs := hst.engine
  have hzero : IsInt64 0 := by decide
  constructor
  · rw [he.config.policy]; exact hs.depth
  · rw [he.config.groups]; exact hs.groups
  · rw [he.config.tenants]; exact hs.tenants
  · rw [he.config.localQuota]; exact hs.localQuota
  · rw [he.config.groupQuota]; exact hs.groupQuota
  · rw [he.reservations]
    exact forall_lookup_emplace hs.reservations
      ⟨fun _ => rfl, hreq, ResourceVector.valid_empty, henv.now, hzero, Nat.zero_le _⟩
  · rw [he.funding, he.reservations, he.borrows]
    have hmem : ∀ rid, rid ∈ st.engine.reservations → rid ∈
        st.engine.reservations.emplace env.reservationId (st.engine.newReservation env t req auth) := by
      intro rid hrid
      unfold emplace
      split
      · exact hrid
      · rw [mem_insert]; exact Or.inr hrid
    have hlisted : st.borrowIds.length ≤ st.engine.borrows.entries.length := by
      have hle := (List.subperm_of_subset hst.nodup fun bid hbid => (hst.fund.drawn bid hbid).2).length_le
      have hkeys : st.engine.borrows.keys.length = st.engine.borrows.entries.length := List.length_map _
      omega
    refine forall_lookup_insert (fun rid f hf => ?_) ⟨fun _ => ⟨?_, fun bid hbid =>
      (hst.fund.drawn bid hbid).2⟩, hst.burst, hlisted.trans (le_max_right _ _)⟩
    · obtain ⟨h1, h2⟩ := hs.funding rid f hf
      exact ⟨fun hk => ⟨hmem rid (h1 hk).1, (h1 hk).2⟩, h2⟩
    · unfold emplace
      split
      · assumption
      · rw [mem_insert]; exact Or.inl rfl
  · rw [he.allocations]; exact hs.allocations
  · rw [he.borrows]; exact hs.borrows
  · rw [he.lends]; exact hs.lends

theorem reserve_sound (hs : Sound keyed cap s) (hfresh : FreshLoans env s) (henv : env.InRange) (t : TenantId)
    (hreq : req.Valid) (auth : Authority) : Sound keyed cap (s.reserve env t req auth).2 := by
  have hstart := hs.startDraw hfresh t
  rcases reserve_cases hfresh t req auth with h | ⟨st, h⟩ | ⟨st, h⟩
  · rw [h]; exact hs
  · obtain ⟨pre, d, post, hds, hpre, -⟩ := h.stuck
    rw [hds] at hstart
    have hst := hstart.loop hfresh henv hs hreq hpre
    rw [h.result]
    exact returnAll_sound st.borrowIds hst.engine fun _ bid hbid => (h.drawn bid hbid).2
  · rw [← List.append_nil allResourceDimensions] at hstart
    have hst := hstart.loop hfresh henv hs hreq h.funded
    obtain ⟨e, he, hsync⟩ := h.recorded
    refine hsync.sound (he.encodable henv hreq hst) fun x => ?_
    obtain ⟨h1, h2, -⟩ := he.counters x
    rw [h1, h2]
    exact hst.engine.counters x

end Funding

/-! ## The other calls -/

section Calls

variable {keyed : Prop} {cap : Nat} {env : Env} {s : Engine}

theorem commitReservation_sound (hs : Sound keyed cap s) (rid : ReservationId) (auth : Authority) :
    Sound keyed cap (s.commitReservation env rid auth).2 := by
  rcases commitReservation_cases env s rid auth with h | ⟨r, -, -, h⟩
  · rw [h]; exact hs
  · refine h.sound ⟨hs.depth, hs.groups, hs.tenants, hs.localQuota, hs.groupQuota, ?_, ?_, hs.allocations,
      hs.borrows, hs.lends⟩ hs.counters
    · exact forall_lookup_modify hs.reservations fun x ⟨hid, hx⟩ =>
        ⟨hid, hx.resources, hx.consumed, hx.createdAt, hx.expiresAt, hx.label⟩
    · intro rid' f hf
      obtain ⟨h1, h2⟩ := hs.funding rid' f hf
      exact ⟨fun hk => ⟨mem_modify.mpr (h1 hk).1, (h1 hk).2⟩, h2⟩

theorem setStatus_sound (hs : Sound keyed cap s) (rid : ReservationId) (status : ReservationStatus) :
    Sound keyed cap (s.setStatus rid status) := by
  refine ⟨⟨hs.depth, hs.groups, hs.tenants, hs.localQuota, hs.groupQuota, ?_, ?_, hs.allocations,
    hs.borrows, hs.lends⟩, hs.counters⟩
  · exact forall_lookup_modify hs.reservations fun x ⟨hid, hx⟩ =>
      ⟨hid, hx.resources, hx.consumed, hx.createdAt, hx.expiresAt, hx.label⟩
  · intro rid' f hf
    obtain ⟨h1, h2⟩ := hs.funding rid' f hf
    exact ⟨fun hk => ⟨mem_modify.mpr (h1 hk).1, (h1 hk).2⟩, h2⟩

theorem startAllocation_sound (hs : Sound keyed cap s) (henv : env.InRange) (rid : ReservationId)
    {req : ResourceVector} (hreq : req.Valid) (auth : Authority) :
    Sound keyed cap (s.startAllocation env rid req auth).2 := by
  have hzero : IsInt64 0 := by decide
  rcases startAllocation_cases env s rid req auth with h | ⟨r, -, -, h⟩
  · rw [h]; exact hs
  · have hmid := setStatus_sound (s := { s with
        allocations := s.allocations.emplace env.allocationId (s.newAllocation env r rid req auth) })
      ⟨⟨hs.depth, hs.groups, hs.tenants, hs.localQuota, hs.groupQuota, hs.reservations, hs.funding,
        forall_lookup_emplace hs.allocations
          ⟨fun _ => rfl, hreq, ResourceVector.valid_empty, henv.now, hzero, Nat.zero_le _⟩,
        hs.borrows, hs.lends⟩, hs.counters⟩ rid .consumed
    exact h.sound hmid.toEncodable hmid.counters

/-- An update of one allocation that keeps its id. -/
theorem Encodable.modifyAllocation (hs : Encodable keyed cap s) (aid : AllocationId) {f : Allocation → Allocation}
    (hf : ∀ a, (keyed → a.id = aid) ∧ a.Storable → (keyed → (f a).id = aid) ∧ (f a).Storable) :
    Encodable keyed cap { s with allocations := s.allocations.modify aid f } := by
  exact ⟨hs.depth, hs.groups, hs.tenants, hs.localQuota, hs.groupQuota, hs.reservations, hs.funding,
    forall_lookup_modify hs.allocations hf, hs.borrows, hs.lends⟩

theorem resizeAllocation_sound (hs : Sound keyed cap s) (aid : AllocationId) {delta : ResourceVector}
    (hdelta : delta.Valid) (auth : Authority) : Sound keyed cap (s.resizeAllocation env aid delta auth).2 := by
  rcases resizeAllocation_cases env s aid delta auth with h | ⟨a, ha, -, ts, -, h⟩
  · rw [h]; exact hs
  · obtain ⟨-, hst⟩ := hs.allocations aid a ha
    have huse : (resizedUse a delta).Valid :=
      ResourceVector.min_valid (ResourceVector.add_valid hst.used hdelta.nonNeg) hst.resources
    refine h.sound (hs.toEncodable.modifyAllocation aid fun x ⟨hid, hx⟩ => ?_) hs.counters
    exact ⟨hid, hx.resources, huse, hx.startedAt, hx.endedAt, hx.label⟩

theorem releaseAllocation_sound (hs : Sound keyed cap s) (henv : env.InRange) (aid : AllocationId)
    (auth : Authority) : Sound keyed cap (s.releaseAllocation env aid auth).2 := by
  rcases releaseAllocation_cases env s aid auth with h | ⟨a, -, -, h⟩
  · rw [h]; exact hs
  · refine h.sound (hs.toEncodable.modifyAllocation aid fun x ⟨hid, hx⟩ => ?_) hs.counters
    exact ⟨hid, hx.resources, hx.used, hx.startedAt, henv.now, hx.label⟩

theorem dropReservation_sound (hs : Sound keyed cap s) (rid : ReservationId) : Sound keyed cap (s.dropReservation rid) := by
  refine ⟨⟨hs.depth, hs.groups, hs.tenants, hs.localQuota, hs.groupQuota,
    forall_lookup_erase hs.reservations, ?_, ?_, hs.borrows, hs.lends⟩, hs.counters⟩
  · intro rid' f hf
    have hne : rid' ≠ rid := by
      rintro rfl
      have hnone : (s.funding.erase rid').lookup rid' = none := lookup_erase rid' s.funding
      rw [show (s.dropReservation rid').funding = s.funding.erase rid' from rfl, hnone] at hf
      cases hf
    have hf' : s.funding.lookup rid' = some f := by
      rw [← lookup_erase_ne hne]
      exact hf
    obtain ⟨h1, h2⟩ := hs.funding rid' f hf'
    exact ⟨fun hk => ⟨mem_erase.mpr ⟨hne, (h1 hk).1⟩, (h1 hk).2⟩, h2⟩
  · refine forall_lookup_mapVals hs.allocations fun aid a ⟨hid, ha⟩ => ?_
    split
    · exact ⟨hid, ha.resources, ha.used, ha.startedAt, ha.endedAt, ha.label⟩
    · exact ⟨hid, ha⟩

theorem release_sound (hs : Sound keyed cap s) (rid : ReservationId) (auth : Authority) :
    Sound keyed cap (s.release env rid auth).2 := by
  unfold release
  split
  · exact hs
  split
  · exact hs
  rename_i r hr
  split
  · exact hs
  have hmark := setStatus_sound hs rid .released
  have hreturn : Sound keyed cap ((s.setStatus rid .released).returnAll env
      ((s.setStatus rid .released).listedBorrows rid)) := by
    refine returnAll_sound _ hmark fun hk bid hbid => ?_
    unfold listedBorrows at hbid
    split at hbid
    · exact absurd hbid List.not_mem_nil
    · rename_i f hf
      exact ((hmark.funding rid f hf).1 hk).2 bid hbid
  have hdrop := dropReservation_sound hreturn rid
  exact (((Resynced.refl env _).sync 0 r.tenant).emit _ _ _).sound hdrop.toEncodable hdrop.counters

theorem borrow_sound (hs : Sound keyed cap s) (hfresh : FreshLoans env s) (henv : env.InRange) (borrower : TenantId)
    {amount : ResourceVector} (hamount : amount.Valid) (auth : Authority) :
    Sound keyed cap (s.borrow env borrower amount auth).2 := by
  rcases borrow_cases hfresh borrower amount hamount.nonNeg auth with h | ⟨lender, -, -, h⟩
  · rw [h]; exact hs
  · have hmid := openLoan_sound hs henv default lender borrower hamount
    exact h.sound hmid.toEncodable hmid.counters

theorem lend_sound (hs : Sound keyed cap s) (hfresh : FreshLoans env s) (henv : env.InRange)
    (named borrower : TenantId) {amount : ResourceVector} (hamount : amount.Valid) (auth : Authority) :
    Sound keyed cap (s.lend env named borrower amount auth).2 := by
  rcases lend_cases hfresh named borrower amount hamount.nonNeg auth with h | ⟨lender, -, -, h⟩
  · rw [h]; exact hs
  · have hmid := openLoan_sound hs henv default lender borrower hamount
    exact h.sound hmid.toEncodable hmid.counters

theorem recallBorrow_sound (hs : Sound keyed cap s) (bid : BorrowId) (auth : Authority) :
    Sound keyed cap (s.recallBorrow env bid auth).2 := by
  rcases recallBorrow_cases env s bid auth with h | ⟨b, hb, -, -, h⟩
  · rw [h]; exact hs
  · have hmid := closeLoan_sound hs hb env
    exact h.sound hmid.toEncodable hmid.counters

/-- A change of one tenant's counters that keeps its capacity counters in range. -/
theorem Sound.modifyUsage (hs : Sound keyed cap s) (t : TenantId) {f : Usage → Usage}
    (hf : (f (s.usageOf t)).consumption.Valid ∧ (f (s.usageOf t)).reserved.Valid) :
    Sound keyed cap (s.modifyUsage t f) := by
  refine ⟨⟨hs.depth, hs.groups, hs.tenants, hs.localQuota, hs.groupQuota, hs.reservations, hs.funding,
    hs.allocations, hs.borrows, hs.lends⟩, fun x => ?_⟩
  rw [usageOf_modifyUsage]
  split
  · exact hf
  · exact hs.counters x

theorem applyObservation_sound (hs : Sound keyed cap s) {obs : Observation} (hobs : obs.Fits s) :
    Sound keyed cap (s.applyObservation env obs).2 := by
  have hcount := hs.counters obs.tenant
  have htouch : Sound keyed cap (s.modifyUsage obs.tenant id) := hs.modifyUsage obs.tenant hcount
  have husage : (s.modifyUsage obs.tenant id).usageOf obs.tenant = s.usageOf obs.tenant := by simp
  unfold applyObservation
  split
  · exact hs
  unfold Observation.Fits at hobs
  cases hk : obs.kind
  all_goals rw [hk] at hobs
  all_goals simp only at hobs ⊢
  case computeInterval | transferConsumed =>
    split
    · exact htouch
    · refine (htouch.modifyUsage obs.tenant ?_).emit _ _ _
      rw [husage]
      exact hcount
  case usageDelta | kvUsageChange | tensorUsageChange =>
    refine (htouch.modifyUsage obs.tenant ?_).emit _ _ _
    rw [husage]
    exact ⟨ResourceVector.set_valid hcount.1 _ hobs, hcount.2⟩
  case modelResidencyRemoved =>
    refine (htouch.modifyUsage obs.tenant ?_).emit _ _ _
    rw [husage]
    exact ⟨ResourceVector.set_valid hcount.1 _ (max_le (by decide) hobs), hcount.2⟩
  case modelResidencyAdded =>
    rw [husage]
    have halloc : Sound keyed cap { s.modifyUsage obs.tenant id with
        allocations := (s.modifyUsage obs.tenant id).allocations.modify obs.allocation fun a =>
          { a with used := (a.used.set .modelResidencyBytes
              ((s.usageOf obs.tenant).consumption.get .modelResidencyBytes + obs.amount)).2 } } := by
      refine ⟨htouch.toEncodable.modifyAllocation obs.allocation fun a ⟨hid, ha⟩ => ?_, htouch.counters⟩
      exact ⟨hid, ha.resources, ResourceVector.set_valid ha.used _ hobs, ha.startedAt, ha.endedAt, ha.label⟩
    refine (halloc.modifyUsage obs.tenant ?_).emit _ _ _
    have hsame : ({ s.modifyUsage obs.tenant id with
        allocations := (s.modifyUsage obs.tenant id).allocations.modify obs.allocation fun a =>
          { a with used := (a.used.set .modelResidencyBytes
              ((s.usageOf obs.tenant).consumption.get .modelResidencyBytes + obs.amount)).2 } } :
          Engine).usageOf obs.tenant = s.usageOf obs.tenant := husage
    rw [hsame]
    exact ⟨ResourceVector.set_valid hcount.1 _ hobs, hcount.2⟩
  all_goals exact htouch.emit _ _ _

/-- An accepted policy is at most 4096 levels deep. -/
theorem validate_depth {p : QuotaPolicy} (h : p.validate = none) : p.maxHierarchyDepth.toNat ≤ 4096 := by
  by_contra hdeep
  have hgt : p.maxHierarchyDepth > 4096 := by
    rw [gt_iff_lt, UInt32.lt_iff_toNat_lt]
    have h4096 : (4096 : UInt32).toNat = 4096 := rfl
    omega
  unfold QuotaPolicy.validate at h
  extract_lets zero one at h
  by_cases hname : p.name.isEmpty = true
  · rw [if_pos hname] at h
    cases h
  · rw [if_neg hname, if_pos (Or.inr hgt)] at h
    cases h

theorem storable_default : ({} : ResourceQuota).Storable := by decide

theorem addGroup_sound (hs : Sound keyed cap s) (name : Str) (kind : TenantGroupKind)
    (parent : Option TenantGroupId) :
    Sound keyed cap { s with groups := s.groups.emplace env.groupId (s.newGroup env name kind parent) } :=
  ⟨⟨hs.depth, forall_lookup_emplace hs.groups ⟨fun _ => rfl, storable_default⟩, hs.tenants, hs.localQuota,
    hs.groupQuota, hs.reservations, hs.funding, hs.allocations, hs.borrows, hs.lends⟩, hs.counters⟩

theorem createTenant_sound (hs : Sound keyed cap s) (id : TenantId) (name : Str) (group : Option TenantGroupId)
    (priority : UInt32) : Sound keyed cap (s.createTenant env id name group priority).2 := by
  unfold createTenant
  split
  · exact hs
  split
  · exact hs
  split
  · exact hs
  apply Sound.emit
  exact ⟨⟨hs.depth, hs.groups, forall_lookup_emplace hs.tenants ⟨fun _ => rfl, Nat.zero_le _⟩, hs.localQuota, hs.groupQuota,
    hs.reservations, hs.funding, hs.allocations, hs.borrows, hs.lends⟩, hs.counters⟩

/-- Stamping a quota with its tenant and the generations changes nothing that is encoded narrowly. -/
theorem storable_stamped {q : ResourceQuota} (h : q.Storable) (t : TenantId) (g : QuotaGeneration)
    (p : PolicyGeneration) : { q with tenant := t, generation := g, policyGeneration := p }.Storable :=
  ⟨⟨h.guaranteed, h.softLimit, h.hardLimit, h.burstLimit, h.borrowable, h.physicalCapacity⟩, h.sharedPool,
    h.absoluteBurst, h.window, h.cooldown, h.maxBorrowDuration⟩

/-- **Every call keeps the records encodable.** -/
theorem exec_sound {c : Env × Call} (hs : Sound keyed cap s) (hc : plainCall s c) : Sound keyed cap (s.after c) := by
  obtain ⟨env, c⟩ := c
  obtain ⟨hfresh, henv, hrange⟩ := hc
  have hloans := hfresh.toFreshLoans
  show Sound keyed cap (s.exec env c).2
  cases c with
  | setPolicy policy =>
    show Sound keyed cap (s.setPolicy env policy).2
    unfold setPolicy
    split
    · exact hs
    · rename_i hval
      have hdepth := validate_depth hval
      apply Sound.emit
      exact ⟨⟨by show policy.maxHierarchyDepth.toNat < 2 ^ 16; omega, hs.groups, hs.tenants,
        hs.localQuota, hs.groupQuota, hs.reservations, hs.funding, hs.allocations, hs.borrows, hs.lends⟩,
        hs.counters⟩
  | advanceEpoch =>
    apply Sound.emit
    exact ⟨⟨hs.depth, hs.groups, hs.tenants, hs.localQuota, hs.groupQuota, hs.reservations, hs.funding,
      hs.allocations, hs.borrows, hs.lends⟩, hs.counters⟩
  | createGroup name kind parent =>
    show Sound keyed cap (s.createGroup env name kind parent).2
    unfold createGroup
    split
    · exact hs
    · exact (addGroup_sound hs name kind parent).emit _ _ _
  | createGroupAutoid name kind parent => exact addGroup_sound hs name kind parent
  | createTenant id name group priority => exact createTenant_sound hs id name group priority
  | createTenantAutoid name group priority => exact createTenant_sound hs env.tenantId name group priority
  | setTenantQuota t q =>
    show Sound keyed cap (s.setTenantQuota env t q).2
    unfold setTenantQuota
    split
    · exact hs
    split
    · exact hs
    apply Sound.emit
    exact ⟨⟨hs.depth, hs.groups, hs.tenants,
      forall_lookup_insert hs.localQuota ⟨fun _ => rfl, storable_stamped hrange t _ _⟩, hs.groupQuota,
      hs.reservations, hs.funding, hs.allocations, hs.borrows, hs.lends⟩, hs.counters⟩
  | setGroupQuota g q =>
    show Sound keyed cap (s.setGroupQuota env g q).2
    unfold setGroupQuota
    split
    · exact hs
    apply Sound.emit
    exact ⟨⟨hs.depth, hs.groups, hs.tenants, hs.localQuota,
      forall_lookup_insert hs.groupQuota (storable_stamped hrange {} _ _), hs.reservations, hs.funding,
      hs.allocations, hs.borrows, hs.lends⟩, hs.counters⟩
  | reserve t req auth => exact reserve_sound hs hloans henv t hrange auth
  | commitReservation rid auth => exact commitReservation_sound hs rid auth
  | startAllocation rid req auth => exact startAllocation_sound hs henv rid hrange auth
  | resizeAllocation aid delta auth => exact resizeAllocation_sound hs aid hrange auth
  | release rid auth => exact release_sound hs rid auth
  | releaseAllocation aid auth => exact releaseAllocation_sound hs henv aid auth
  | borrow borrower amount auth => exact borrow_sound hs hloans henv borrower hrange auth
  | lend lender borrower amount auth => exact lend_sound hs hloans henv lender borrower hrange auth
  | recallBorrow bid auth => exact recallBorrow_sound hs bid auth
  | applyObservation obs => exact applyObservation_sound hs hrange
  | snapshot =>
    exact ⟨⟨hs.depth, hs.groups, hs.tenants, hs.localQuota, hs.groupQuota, hs.reservations, hs.funding,
      hs.allocations, hs.borrows, hs.lends⟩, hs.counters⟩
  | saveTo path =>
    show Sound keyed cap (s.saveTo env path).2
    unfold saveTo
    split
    · apply Sound.emit
      exact ⟨⟨hs.depth, hs.groups, hs.tenants, hs.localQuota, hs.groupQuota, hs.reservations, hs.funding,
        hs.allocations, hs.borrows, hs.lends⟩, hs.counters⟩
    · exact hs
  | query => exact hs

end Calls

/-! ## Runs -/

/-- A new engine has no records. -/
theorem fresh_sound (keyed : Prop) (cap : Nat) (settings : EngineSettings) : Sound keyed cap { settings := settings } where
  depth := by show (32 : UInt32).toNat < 2 ^ 16; decide
  groups _ _ h := by cases h
  tenants _ _ h := by cases h
  localQuota _ _ h := by cases h
  groupQuota _ _ h := by cases h
  reservations _ _ h := by cases h
  funding _ _ h := by cases h
  allocations _ _ h := by cases h
  borrows _ _ h := by cases h
  lends _ _ h := by cases h
  counters _ := ⟨ResourceVector.valid_empty, ResourceVector.valid_empty⟩

theorem run_sound {settings : EngineSettings} {l : List (Env × Call)} {s : Engine}
    (hrun : Run Engine.after plainCall { settings := settings } l s) : Sound True 0 s :=
  hrun.invariant (fresh_sound True 0 settings) fun _ _ h hc => exec_sound h hc

/-- **Persisted state round-trips**: from every reachable state within the loader's bounds, a fresh
    engine reads the serialisation to its last byte, holds the same in every slot, recomputes every
    tenant's counters from the records, and serialises to the same bytes. -/
theorem persisted_state_round_trips {settings loader : EngineSettings} {l : List (Env × Call)} {s : Engine}
    (hrun : Run Engine.after plainCall { settings := settings } l s) (hbounds : WithinBounds loader s)
    (hstrings : StringsFit s) (hret : s.settings.maxEventRetention.toNat < 65536) (env : Env) :
    ((loadState loader).run s.serializeState).2 = .ok ((), []) ∧
    ∃ s', ({ settings := loader } : Engine).deserializeState env s.serializeState = (.success, s') ∧
      Restored s s' ∧ (∀ t, s'.tenantExists t = true → Recomputed env s' t) ∧
      s'.serializeState = s.serializeState := by
  have hs := run_sound hrun
  obtain ⟨hread, s', hload, -, hsame, hsync⟩ :=
    load_serializeState hs.toEncodable hstrings hbounds (by omega) env
  refine ⟨?_, s', hload, hsame, hsync, serializeState_congr hsame⟩
  rw [hread]

theorem numbered_inRange (n : UInt64) : (Env.numbered n).InRange :=
  ⟨by show IsInt64 0; decide, fun _ => by show IsInt64 0; decide, fun _ _ _ => Or.inl rfl⟩

/-- A tenant with a hard limit of 10 is created and reserves 4. -/
def reserveFour : List (Env × Call) :=
  [(.numbered 1, .createTenant cappedTenant (text "capped") none 100),
    (.numbered 2, .setTenantQuota cappedTenant { hardLimit := .fromScalar .acceleratorVRAM 10 }),
    (.numbered 3, .reserve cappedTenant (.fromScalar .acceleratorVRAM 4)
      { epoch := .initial, quotaGeneration := ⟨2⟩ })]

theorem reserveFour_run :
    Run Engine.after plainCall {} reserveFour (reserveFour.foldl Engine.after {}) := by
  refine .cons ⟨by decide +kernel, numbered_inRange 1, by show ResourceVector.Valid _; decide⟩
    (.cons ⟨by decide +kernel, numbered_inRange 2, by show ResourceQuota.Storable _; decide⟩
      (.cons ⟨by decide +kernel, numbered_inRange 3, by show ResourceVector.Valid _; decide⟩ (.nil _)))

theorem persisted_state_round_trips_reserved :
    (reserveFour.foldl Engine.after {}).reservations.entries.length = 1 ∧
    ∃ s', ({} : Engine).deserializeState {} (reserveFour.foldl Engine.after {}).serializeState =
        (.success, s') ∧ Restored (reserveFour.foldl Engine.after {}) s' := by
  refine ⟨by decide +kernel, ?_⟩
  have hsaved := @persisted_state_round_trips {} {} reserveFour _ reserveFour_run (by decide +kernel)
    (by decide +kernel) (by decide +kernel) {}
  obtain ⟨-, s', hload, hsame, -⟩ := hsaved
  exact ⟨s', hload, hsame⟩

end Engine

end QuotaFabric
