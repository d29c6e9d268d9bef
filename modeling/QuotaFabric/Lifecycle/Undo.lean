import QuotaFabric.Decisions.Admission
import QuotaFabric.Lifecycle.Closing
import QuotaFabric.Persistence.Reload

/-!
# Releasing what was just reserved

Both `reserve` and `release` rebuild the counters of the tenant by folds over hash maps, in whatever
order these are iterated at the time.

* `CountersKept`, `AsBefore` — the counters, and the records with them, are as they were;
* `countersKept_of_synced` — two resynchronisations over the same records agree, entry by entry and
  whatever the orders, while the totals fit;
* `reserve_admitted` — what a successful `reserve` did;
* `release_undoes_reserve` — after a `reserve` without a loan, `release` restores the state.
-/

set_option autoImplicit false

namespace QuotaFabric

open AList

namespace Engine

/-- The counters of `x` are the same, stored zeros included. -/
structure CountersKept (s s' : Engine) (x : TenantId) : Prop where
  consumption : (s'.usageOf x).consumption = (s.usageOf x).consumption
  reserved : (s'.usageOf x).reserved = (s.usageOf x).reserved
  borrowed : (s'.usageOf x).borrowedConsumed = (s.usageOf x).borrowedConsumed
  lent : (s'.usageOf x).lent = (s.usageOf x).lent
  debt : (s'.usageOf x).debt = (s.usageOf x).debt

/-- The records and the counters of all tenants are as they were. -/
structure AsBefore (s s' : Engine) : Prop where
  reservations : s'.reservations = s.reservations
  funding : s'.funding = s.funding
  allocations : s'.allocations = s.allocations
  borrows : s'.borrows = s.borrows
  lends : s'.lends = s.lends
  counters : ∀ x, CountersKept s s' x

/-- Per-dimension totals of the records of `x` are below `2 ^ 63`. -/
structure RecordTotalsFit (s : Engine) (x : TenantId) : Prop where
  used : ∀ d, s.usedSum x d < 2 ^ 63
  reserved : ∀ d, s.reservedSum x d < 2 ^ 63
  borrowed : ∀ d, s.borrowedSum x d < 2 ^ 63
  lent : ∀ d, s.lentSum x d < 2 ^ 63
  debt : ∀ d, s.debtSum x d < 2 ^ 63

/-! ## Two resynchronisations -/

section Counters

variable {env env' : Env} {s s' : Engine} {x : TenantId}

theorem le_max_of_lt {n : Int} (h : n < 2 ^ 63) : n ≤ INT64_MAX := by
  unfold INT64_MAX
  omega

/-- The sums over the records of `x` do not depend on the order. -/
structure Summable (s : Engine) (x : TenantId) : Prop extends RecordTotalsFit s x where
  records : RecordsNonNeg s
  consumed : ∀ bid b, s.borrows.lookup bid = some b → b.consumed.NonNeg
  owed : ∀ bid b, s.borrows.lookup bid = some b → b.debt.NonNeg
  outstanding : ∀ lid l, s.lends.lookup lid = some l → l.outstanding.NonNeg

theorem Encodable.summable {keyed : Prop} {cap : Nat} (h : Encodable keyed cap s)
    (hfit : RecordTotalsFit s x) : Summable s x where
  toRecordTotalsFit := hfit
  records := h.recordsNonNeg
  consumed bid b hb := (h.borrows bid b hb).2.consumed.nonNeg
  owed bid b hb := (h.borrows bid b hb).2.debt.nonNeg
  outstanding lid l hl := (h.lends lid l hl).2.outstanding.nonNeg

/-- The counters of a resynchronised tenant are the exact sums. -/
theorem SyncedAt.exactSums (h : SyncedAt env s x) (hdebt : (s.usageOf x).debt = s.computedDebt env x)
    (hsum : Summable s x) :
    (s.usageOf x).consumption = s.exactUsed x ∧ (s.usageOf x).reserved = s.exactRemainder x ∧
      (s.usageOf x).borrowedConsumed = s.exactBorrowed x ∧ (s.usageOf x).lent = s.exactLent x ∧
      (s.usageOf x).debt = s.exactDebt x := by
  have hused := fun d => le_max_of_lt (hsum.used d)
  refine ⟨?_, ?_, ?_, ?_, ?_⟩
  · rw [h.consumption, computedConsumed_eq hsum.records.allocations hused]
  · rw [h.reserved, recomputedReserved_eq_remaining hsum.records hused fun d => le_max_of_lt (hsum.reserved d)]
  · rw [h.borrowed, computedBorrowed_eq hsum.consumed fun d => le_max_of_lt (hsum.borrowed d)]
  · rw [h.lent, computedLent_eq hsum.outstanding fun d => le_max_of_lt (hsum.lent d)]
  · rw [hdebt, computedDebt_eq (fun bid b hb _ => hsum.owed bid b hb) fun d => le_max_of_lt (hsum.debt d)]

/-- **Two resynchronisations over the same records agree**, in whatever orders these are iterated. -/
theorem countersKept_of_synced (h : SyncedAt env s x) (hdebt : (s.usageOf x).debt = s.computedDebt env x)
    (h' : SyncedAt env' s' x) (hdebt' : (s'.usageOf x).debt = s'.computedDebt env' x)
    (hsum : Summable s x) (hres : s'.reservations = s.reservations)
    (halloc : s'.allocations = s.allocations) (hborrows : s'.borrows = s.borrows)
    (hlends : s'.lends = s.lends) : CountersKept s s' x := by
  have hsum' : Summable s' x := by
    refine ⟨⟨fun d => ?_, fun d => ?_, fun d => ?_, fun d => ?_, fun d => ?_⟩, ⟨?_, ?_⟩, ?_, ?_, ?_⟩
    · unfold usedSum; rw [halloc]; exact hsum.used d
    · unfold reservedSum; rw [hres]; exact hsum.reserved d
    · unfold borrowedSum; rw [hborrows]; exact hsum.borrowed d
    · unfold lentSum; rw [hlends]; exact hsum.lent d
    · unfold debtSum; rw [hborrows]; exact hsum.debt d
    · rw [hres]; exact hsum.records.reservations
    · rw [halloc]; exact hsum.records.allocations
    · rw [hborrows]; exact hsum.consumed
    · rw [hborrows]; exact hsum.owed
    · rw [hlends]; exact hsum.outstanding
  obtain ⟨hc, hr, hb, hl, hd⟩ := h.exactSums hdebt hsum
  obtain ⟨hc', hr', hb', hl', hd'⟩ := h'.exactSums hdebt' hsum'
  refine ⟨?_, ?_, ?_, ?_, ?_⟩
  · rw [hc, hc']
    unfold exactUsed
    rw [halloc]
  · rw [hr, hr']
    unfold exactRemainder exactRemaining exactAllocUsed
    rw [hres, halloc]
  · rw [hb, hb']
    unfold exactBorrowed
    rw [hborrows]
  · rw [hl, hl']
    unfold exactLent
    rw [hlends]
  · rw [hd, hd']
    unfold exactDebt
    rw [hborrows]

end Counters

/-! ## A successful reserve -/

section Reserve

variable {env : Env} {s s' : Engine} {t : TenantId} {req : ResourceVector} {auth : Authority} {st : Draw}

theorem reserve_admitted {res : Reservation} (hfresh : FreshLoans env s)
    (hok : (s.reserve env t req auth).1 = .ok res) :
    ∃ st, Admitted env s t req auth st (s.reserve env t req auth).2 ∧ res.id = env.reservationId ∧
      (st.borrowIds = [] → ∃ x, st.engine = s.modifyUsage x id) := by
  have hacc : Accepted env s t req auth := by
    by_contra hno
    have hfail := reserve_fails_of_refused hno
    rw [hok] at hfail
    cases hfail
  rw [reserve_of_accepted hacc] at hok ⊢
  cases hloop : fundLoop env (s.effectiveLattice t) (s.committed t) t req allResourceDimensions
      { engine := s.modifyUsage t id } with
  | error err =>
    rw [hloop] at hok
    cases hok
  | ok st =>
    rw [hloop] at hok
    have hstart := fundInv_start hfresh t
    rw [← List.append_nil allResourceDimensions] at hstart
    have hinv := fundInv_ok hfresh hstart hloop
    have hid : res = (recordReservation env (s.effectiveLattice t) t req auth st).1 :=
      (Except.ok.inj hok).symm
    refine ⟨st, ⟨hacc, hloop, hinv.loans, hinv.drawn, _,
      entered_startBurst env (s.effectiveLattice t) t req auth st, ?_⟩, by rw [hid]; rfl, hinv.undrawn⟩
    unfold recordReservation
    simp only [newReservation_startBurst]
    exact ((Resynced.refl env _).sync 0 t).emit _ _ _

/-- Without a loan only the reservation, its funding and the counters of `t` are new. -/
theorem Admitted.unborrowed (h : Admitted env s t req auth st s')
    (hsame : ∃ x, st.engine = s.modifyUsage x id) :
    s'.borrows = s.borrows ∧ s'.lends = s.lends ∧ s'.epoch = s.epoch ∧
      ∀ x, x ≠ t → s'.usageOf x = s.usageOf x := by
  obtain ⟨y, hy⟩ := hsame
  obtain ⟨e, hent, hres⟩ := h.recorded
  have hborrows : st.engine.borrows = s.borrows := by rw [hy]; rfl
  have hlends : st.engine.lends = s.lends := by rw [hy]; rfl
  refine ⟨hres.borrows.trans (hent.borrows.trans hborrows), hres.lends.trans (hent.lends.trans hlends), ?_,
    fun x hx => ?_⟩
  · rw [hres.config.epoch, hent.config.epoch, hy]
    rfl
  · rw [hres.other x (by simpa using hx), hent.other x hx, hy, usageOf_modifyUsage_id]

end Reserve

/-! ## Main result -/

section Main

variable {env env' : Env} {s s₁ s₂ : Engine} {t : TenantId} {req : ResourceVector} {auth : Authority}
  {st : Draw}

/-- Dropping the new reservation gives the old ledger back. -/
theorem Admitted.ledger_dropped (h : Admitted env s t req auth st s₁) (hfresh : FreshIds env s) :
    (s₁.dropReservation env.reservationId).ledger = s.ledger := by
  have hledger := h.ledger
  unfold Engine.ledger dropReservation at *
  simp only [Ledger.mk.injEq] at hledger ⊢
  obtain ⟨hres, hfund, halloc⟩ := hledger
  refine ⟨?_, ?_, ?_⟩
  · rw [hres, emplace_of_notMem hfresh.reservationId, erase_insert_of_notMem hfresh.reservationId]
  · rw [hfund, erase_insert_of_notMem hfresh.fundingId]
  · -- no allocation was made under the new reservation
    rw [halloc]
    apply AList.ext
    change s.allocations.entries.map _ = s.allocations.entries
    conv_rhs => rw [← List.map_id s.allocations.entries]
    refine List.map_congr_left fun e he => ?_
    have hne := hfresh.unreferenced e.1 e.2 (lookup_of_mem_entries he)
    simp [hne]

/-- Releasing the reservation of a `reserve` without loans. -/
theorem Admitted.restored {env₀ : Env} {r : Reservation} (h : Admitted env s t req auth st s₁)
    (hfresh : FreshIds env s) (hnil : st.borrowIds = []) (hsame : ∃ x, st.engine = s.modifyUsage x id)
    (hrt : r.tenant = t) (hrel : Released env' s₁ env.reservationId r s₂) (hsync : SyncedAt env₀ s t)
    (hdebt : (s.usageOf t).debt = s.computedDebt env₀ t) (hsum : Summable s t) : AsBefore s s₂ := by
  obtain ⟨hborrows, hlends, -, hother⟩ := h.unborrowed hsame
  have hledger : s₂.ledger = s.ledger := hrel.ledger.trans (h.ledger_dropped hfresh)
  have hlisted : s₁.listedBorrows env.reservationId = [] := by
    have hfund : s₁.funding = _ := congrArg Ledger.funding h.ledger
    unfold listedBorrows
    rw [hfund, lookup_insert]
    exact hnil
  unfold Released at hrel
  rw [hlisted, hrt] at hrel
  have hres : s₂.reservations = s.reservations := congrArg Ledger.reservations hledger
  have halloc : s₂.allocations = s.allocations := congrArg Ledger.allocations hledger
  have hb : s₂.borrows = s.borrows := hrel.borrows.trans hborrows
  have hl : s₂.lends = s.lends := hrel.lends.trans hlends
  refine ⟨hres, congrArg Ledger.funding hledger, halloc, hb, hl, fun x => ?_⟩
  by_cases hx : x = t
  · subst hx
    have hmem : x ∈ [x] := List.mem_singleton_self x
    exact countersKept_of_synced hsync hdebt (hrel.synced x hmem) (hrel.debts x hmem) hsum hres halloc hb hl
  · have hu : s₂.usageOf x = s.usageOf x :=
      (hrel.other x (by simpa using hx)).trans (hother x hx)
    exact ⟨by rw [hu], by rw [hu], by rw [hu], by rw [hu], by rw [hu]⟩

/-- **Release undoes reserve**: in a reachable state where the counters of `t` are what `sync_usage`
    computes, a reservation made without a loan can be released at once, and all records and counters
    are as before. -/
theorem release_undoes_reserve (settings : EngineSettings) {l : List Action}
    (hrun : Run act plainAction { settings := settings } l s) {env₀ : Env} (hsync : SyncedAt env₀ s t)
    (hdebt : (s.usageOf t).debt = s.computedDebt env₀ t) (hfit : RecordTotalsFit s t)
    (hfresh : FreshIds env s) {res : Reservation} (hok : (s.reserve env t req auth).1 = .ok res)
    (hloans : (s.reserve env t req auth).2.borrows = s.borrows) {auth' : Authority}
    (hauth : auth'.epoch = s.epoch) :
    ((s.reserve env t req auth).2.release env' res.id auth').1.ok = true ∧
      AsBefore s ((s.reserve env t req auth).2.release env' res.id auth').2 := by
  obtain ⟨st, hadm, hid, hundrawn⟩ := reserve_admitted hfresh.toFreshLoans hok
  obtain ⟨s₁, hs₁⟩ : ∃ x, x = (s.reserve env t req auth).2 := ⟨_, rfl⟩
  rw [← hs₁] at hadm hloans ⊢
  -- a loan that was drawn would be on record now, and was not before
  have hnil : st.borrowIds = [] := by
    refine List.eq_nil_iff_forall_not_mem.mpr fun bid hbid => ?_
    obtain ⟨hnew, hin⟩ := hadm.drawn bid hbid
    obtain ⟨e, hent, hres⟩ := hadm.recorded
    rw [← hent.borrows, ← hres.borrows, hloans] at hin
    exact hnew hin
  have hsame := hundrawn hnil
  obtain ⟨-, -, hepoch, -⟩ := hadm.unborrowed hsame
  have hlookup : s₁.reservations.lookup env.reservationId = some (s.newReservation env t req auth) := by
    have hres : s₁.reservations = _ := congrArg Ledger.reservations hadm.ledger
    rw [hres, emplace_of_notMem hfresh.reservationId, lookup_insert]
  have hstale : s₁.staleEpoch auth' = false := by
    unfold staleEpoch
    rw [hepoch, hauth]
    exact bne_self_eq_false _
  obtain ⟨hrelok, hrel⟩ := release_succeeds env' hstale hlookup rfl
  rw [hid]
  exact ⟨hrelok, hadm.restored hfresh hnil hsame rfl hrel hsync hdebt
    ((run_reloadInv hrun).sound.toEncodable.summable hfit)⟩

end Main

/-! ## A run -/

/-- The engine after a reservation of 4 units. -/
def reservedFour : Engine := reserveFour.foldl Engine.after {}

/-- The authority after one quota change. -/
def secondGeneration : Authority := { epoch := .initial, quotaGeneration := ⟨2⟩ }

theorem reservedFour_reachable :
    Run act plainAction {} (reserveFour.map Action.call) reservedFour := by
  refine .cons ⟨by decide +kernel, numbered_inRange 1, by show ResourceVector.Valid _; decide⟩
    (.cons ⟨by decide +kernel, numbered_inRange 2, by show ResourceQuota.Storable _; decide⟩
      (.cons ⟨by decide +kernel, numbered_inRange 3, by show ResourceVector.Valid _; decide⟩ (.nil _)))

theorem reservedFour_synced :
    SyncedAt {} reservedFour cappedTenant ∧
      (reservedFour.usageOf cappedTenant).debt = reservedFour.computedDebt {} cappedTenant :=
  ⟨⟨by decide +kernel, by decide +kernel, by decide +kernel, by decide +kernel, .inr (by decide +kernel)⟩,
    by decide +kernel⟩

theorem reservedFour_fits : RecordTotalsFit reservedFour cappedTenant :=
  ⟨by decide +kernel, by decide +kernel, by decide +kernel, by decide +kernel, by decide +kernel⟩

/-- Another reservation of 3 units, without a loan. -/
theorem reserveThree_ok :
    (∃ res, (reservedFour.reserve (.numbered 4) cappedTenant (.fromScalar .acceleratorVRAM 3)
      secondGeneration).1 = .ok res) ∧
    (reservedFour.reserve (.numbered 4) cappedTenant (.fromScalar .acceleratorVRAM 3)
      secondGeneration).2.borrows = reservedFour.borrows := by
  constructor
  · have hsome : (reservedFour.reserve (.numbered 4) cappedTenant (.fromScalar .acceleratorVRAM 3)
        secondGeneration).1.toOption.isSome = true := by decide +kernel
    revert hsome
    cases (reservedFour.reserve (.numbered 4) cappedTenant (.fromScalar .acceleratorVRAM 3)
        secondGeneration).1 with
    | error e => exact fun h => by cases h
    | ok res => exact fun _ => ⟨res, rfl⟩
  · have hnil : (reservedFour.reserve (.numbered 4) cappedTenant (.fromScalar .acceleratorVRAM 3)
        secondGeneration).2.borrows.entries.length = 0 := by decide +kernel
    have hnil' : reservedFour.borrows.entries.length = 0 := by decide +kernel
    apply AList.ext
    rw [List.length_eq_zero_iff.mp hnil, List.length_eq_zero_iff.mp hnil']

theorem release_undoes_reserve_three :
    ∃ res, (reservedFour.reserve (.numbered 4) cappedTenant (.fromScalar .acceleratorVRAM 3)
        secondGeneration).1 = .ok res ∧
      ((reservedFour.reserve (.numbered 4) cappedTenant (.fromScalar .acceleratorVRAM 3)
        secondGeneration).2.release {} res.id secondGeneration).1.ok = true ∧
      AsBefore reservedFour ((reservedFour.reserve (.numbered 4) cappedTenant
        (.fromScalar .acceleratorVRAM 3) secondGeneration).2.release {} res.id secondGeneration).2 := by
  obtain ⟨⟨res, hok⟩, hloans⟩ := reserveThree_ok
  have hepoch : secondGeneration.epoch = reservedFour.epoch := by decide +kernel
  have hfresh : FreshIds (.numbered 4) reservedFour := by decide +kernel
  exact ⟨res, hok, release_undoes_reserve {} reservedFour_reachable reservedFour_synced.1
    reservedFour_synced.2 reservedFour_fits hfresh hok hloans hepoch⟩

end Engine

end QuotaFabric
