import QuotaFabric.Engine.Trace
import QuotaFabric.Engine.Recompute

/-!
# The committed counters follow the reservations

While no allocation is active, `sync_usage` counts every active reservation in full.  Over a run of
the core calls the counters `consumption` and `reserved` of a tenant are either what they were at
the start, for a tenant that holds no reservation, or nothing and the exact sum of its active
reservations.

* `CapacityStep`, `exec_capacityStep` — what a core call does to reservations and counters: a tenant
  is resynchronised, or its counters and its active reservations stay;
* `CommitInv` — counters follow the reservations, with the bound on everything reserved that keeps
  the sums from overflowing;
* `exec_commitInv` — each core call keeps it;
* `exec_reservedSum` — an admitted request adds its amounts to the sum of its tenant; no other call
  raises any sum.
-/

set_option autoImplicit false

namespace QuotaFabric

open AList

namespace Engine

/-- All of what is recorded as reserved on `d`, whatever its status. -/
def recordedSum (s : Engine) (d : ResourceDimension) : Int :=
  total s.reservations fun _ r => r.resources.get d

/-- The counters of `x` are nothing and the exact sum of its active reservations. -/
def CommittedExactly (s : Engine) (x : TenantId) : Prop :=
  (s.usageOf x).consumption = .empty ∧ (s.usageOf x).reserved = s.exactReserved x

/-- `x` holds no reservation and its counters are those of `s₀`. -/
def Untouched (s₀ s : Engine) (x : TenantId) : Prop :=
  s.exactReserved x = 0 ∧ (s.usageOf x).consumption = (s₀.usageOf x).consumption ∧
    (s.usageOf x).reserved = (s₀.usageOf x).reserved

/-- The counters follow the reservations.  `bound` limits what is recorded. -/
structure CommitInv (s₀ : Engine) (bound : ResourceDimension → Int) (s : Engine) : Prop where
  nonNeg : ∀ rid r, s.reservations.lookup rid = some r → r.resources.NonNeg
  noAllocation : NoAllocation s
  recorded : ∀ d, s.recordedSum d ≤ bound d
  counters : ∀ x, CommittedExactly s x ∨ Untouched s₀ s x

/-! ## Sums of changed reservations -/

section Sums

variable {s s' : Engine} {rid : ReservationId} {r : Reservation}

theorem exactReserved_insert (hrid : rid ∉ s.reservations)
    (h : s'.reservations = s.reservations.insert rid r) (x : TenantId) :
    s'.exactReserved x = (if r.tenant == x && activeRes r then r.resources else 0) + s.exactReserved x := by
  unfold exactReserved
  rw [h, total_insert _ _ hrid]

theorem exactReserved_erase (hr : s.reservations.lookup rid = some r)
    (h : s'.reservations = s.reservations.erase rid) (x : TenantId) :
    s.exactReserved x = (if r.tenant == x && activeRes r then r.resources else 0) + s'.exactReserved x := by
  unfold exactReserved
  rw [h, total_erase _ hr]

theorem exactReserved_same (h : s'.reservations = s.reservations) (x : TenantId) :
    s'.exactReserved x = s.exactReserved x := by
  unfold exactReserved
  rw [h]

/-- A change of one reservation that keeps its tenant, its amounts and its being active. -/
theorem exactReserved_modify {f : Reservation → Reservation} (hr : s.reservations.lookup rid = some r)
    (hf : (f r).tenant = r.tenant ∧ (f r).resources = r.resources ∧ activeRes (f r) = activeRes r)
    (h : s'.reservations = s.reservations.modify rid f) (x : TenantId) :
    s'.exactReserved x = s.exactReserved x := by
  unfold exactReserved
  rw [h]
  apply total_modify_same
  intro b hb
  rw [hr] at hb
  cases hb
  rw [hf.1, hf.2.1, hf.2.2]

theorem reservedSum_nonneg (hnn : ∀ rid r, s.reservations.lookup rid = some r → r.resources.NonNeg)
    (x : TenantId) (d : ResourceDimension) : 0 ≤ s.reservedSum x d := by
  unfold reservedSum
  apply total_nonneg
  intro rid r hr
  split
  · exact hnn rid r hr d
  · exact le_refl 0

theorem reservedSum_le_recorded (hnn : ∀ rid r, s.reservations.lookup rid = some r → r.resources.NonNeg)
    (x : TenantId) (d : ResourceDimension) : s.reservedSum x d ≤ s.recordedSum d := by
  unfold reservedSum recordedSum
  apply total_le_total
  intro rid r hr
  split
  · exact le_refl _
  · exact hnn rid r hr d

end Sums

/-! ## Steps -/

/-- The capacity counters and the active reservations of `x` are the same. -/
def SameCapacity (s s' : Engine) (x : TenantId) : Prop :=
  (s'.usageOf x).consumption = (s.usageOf x).consumption ∧
    (s'.usageOf x).reserved = (s.usageOf x).reserved ∧
    (s'.usageOf x).burst = (s.usageOf x).burst ∧ s'.exactReserved x = s.exactReserved x

/-- What a core call that asks for `amount` does to reservations and capacity counters. -/
structure CapacityStep (env : Env) (amount : ResourceVector) (s s' : Engine) : Prop where
  config : SameConfig s s'
  nonNeg : (∀ rid r, s.reservations.lookup rid = some r → r.resources.NonNeg) →
    ∀ rid r, s'.reservations.lookup rid = some r → r.resources.NonNeg
  noAllocation : NoAllocation s → NoAllocation s'
  recorded : (∀ rid r, s.reservations.lookup rid = some r → r.resources.NonNeg) →
    ∀ d, s'.recordedSum d ≤ s.recordedSum d + amount.get d
  counters : ∀ x, SyncedAt env s' x ∨ SameCapacity s s' x

section Steps

variable {env : Env} {s₀ s mid s' : Engine} {amount : ResourceVector}

theorem CapacityStep.of_frame (hamount : amount.NonNeg) (hf : LoanFrame s s') :
    CapacityStep env amount s s' where
  config := hf.config
  nonNeg h := by rw [hf.reservations]; exact h
  noAllocation h := by unfold NoAllocation; rw [hf.allocations]; exact h
  recorded _ d := by
    have hd := hamount d
    unfold recordedSum
    rw [hf.reservations]
    omega
  counters x := Or.inr ⟨(hf.counters x).1, (hf.counters x).2.1, (hf.counters x).2.2,
    exactReserved_same hf.reservations x⟩

/-- A change of the records that leaves the counters alone, seen from one tenant. -/
theorem Resynced.counters {ts : List TenantId} (hsync : Resynced env mid s' ts)
    (hcnt : ∀ x, (mid.usageOf x).consumption = (s.usageOf x).consumption ∧
      (mid.usageOf x).reserved = (s.usageOf x).reserved ∧ (mid.usageOf x).burst = (s.usageOf x).burst)
    (hex : ∀ x, x ∉ ts → mid.exactReserved x = s.exactReserved x) (x : TenantId) :
    SyncedAt env s' x ∨ SameCapacity s s' x := by
  by_cases hx : x ∈ ts
  · exact Or.inl (hsync.synced x hx)
  · right
    unfold SameCapacity
    rw [hsync.other x hx, exactReserved_same hsync.reservations]
    exact ⟨(hcnt x).1, (hcnt x).2.1, (hcnt x).2.2, hex x hx⟩

/-- A change of the records that leaves the counters alone, followed by the resynchronisation of
    every tenant whose reservations changed. -/
theorem Resynced.capacityStep {ts : List TenantId} (hsync : Resynced env mid s' ts)
    (hconf : SameConfig s mid)
    (hnn : (∀ rid r, s.reservations.lookup rid = some r → r.resources.NonNeg) →
      ∀ rid r, mid.reservations.lookup rid = some r → r.resources.NonNeg)
    (hna : NoAllocation s → NoAllocation mid)
    (hrec : (∀ rid r, s.reservations.lookup rid = some r → r.resources.NonNeg) →
      ∀ d, mid.recordedSum d ≤ s.recordedSum d + amount.get d)
    (hcnt : ∀ x, (mid.usageOf x).consumption = (s.usageOf x).consumption ∧
      (mid.usageOf x).reserved = (s.usageOf x).reserved ∧ (mid.usageOf x).burst = (s.usageOf x).burst)
    (hex : ∀ x, x ∉ ts → mid.exactReserved x = s.exactReserved x) : CapacityStep env amount s s' where
  config := hconf.trans hsync.config
  nonNeg h := by rw [hsync.reservations]; exact hnn h
  noAllocation h := by unfold NoAllocation; rw [hsync.allocations]; exact hna h
  recorded h d := by unfold recordedSum; rw [hsync.reservations]; exact hrec h d
  counters := hsync.counters hcnt hex

theorem Resynced.capacityStep_of_frame {ts : List TenantId} (hsync : Resynced env mid s' ts)
    (hamount : amount.NonNeg) (hf : LoanFrame s mid) : CapacityStep env amount s s' := by
  have h : CapacityStep env amount s mid := .of_frame hamount hf
  exact hsync.capacityStep h.config h.nonNeg h.noAllocation h.recorded
    hf.counters fun x _ => exactReserved_same hf.reservations x

theorem Admitted.capacityStep {t : TenantId} {req : ResourceVector} {auth : Authority} {st : Draw}
    (h : Admitted env s t req auth st s') (hrid : env.reservationId ∉ s.reservations)
    (hreq : req.NonNeg) : CapacityStep env req s s' := by
  obtain ⟨e, hent, hsync⟩ := h.recorded
  have hf := h.loans.frame
  have hres : e.reservations =
      s.reservations.insert env.reservationId (st.engine.newReservation env t req auth) := by
    rw [hent.reservations, hf.reservations, emplace_of_notMem hrid]
  refine hsync.capacityStep (hf.config.trans hent.config) (fun hnn => ?_) (fun hna => ?_)
    (fun _ d => ?_) (fun x => ?_) (fun x hx => ?_)
  · rw [hres]
    exact forall_lookup_insert hnn hreq
  · unfold NoAllocation
    rw [hent.allocations, hf.allocations]
    exact hna
  · unfold recordedSum
    rw [hres, total_insert _ _ hrid, add_comm]
    exact le_refl _
  · exact ⟨(hent.counters x).1.trans (hf.counters x).1, (hent.counters x).2.1.trans (hf.counters x).2.1,
      (hent.counters x).2.2.2.2.trans (hf.counters x).2.2⟩
  · have hxt : (t == x) = false := by
      simp only [List.mem_singleton] at hx
      simpa using fun heq : t = x => hx heq.symm
    rw [exactReserved_insert hrid hres]
    simp [newReservation, hxt]

/-- Committing keeps the amounts of a reservation and keeps it active. -/
theorem exactReserved_markCommitted {rid : ReservationId} {r : Reservation}
    (hr : s.reservations.lookup rid = some r) (hprov : r.status = .provisional) (x : TenantId) :
    (s.markCommitted rid).exactReserved x = s.exactReserved x := by
  refine exactReserved_modify hr (f := fun x =>
    { x with status := .committed, quotaGeneration := s.quotaGeneration }) ⟨rfl, rfl, ?_⟩ rfl x
  unfold activeRes
  rw [hprov]; rfl

theorem Resynced.capacityStep_of_commit {rid : ReservationId} {r : Reservation} {ts : List TenantId}
    (hsync : Resynced env (s.markCommitted rid) s' ts) (hr : s.reservations.lookup rid = some r)
    (hprov : r.status = .provisional) (hamount : amount.NonNeg) : CapacityStep env amount s s' := by
  refine hsync.capacityStep ⟨rfl, rfl, rfl, rfl, rfl, rfl, rfl⟩ (fun hnn => ?_) (fun hna => hna)
    (fun _ d => ?_) (fun _ => ⟨rfl, rfl, rfl⟩) fun x _ => exactReserved_markCommitted hr hprov x
  · exact forall_lookup_modify hnn fun _ hn => hn
  · have hsame : (s.markCommitted rid).recordedSum d = s.recordedSum d := by
      unfold recordedSum Engine.markCommitted
      simp only
      rw [total_modify_same]
      exact fun _ _ => rfl
    have hd := hamount d
    omega

/-- The reservations after a release, up to the loans it gave back. -/
theorem release_reservations {rid : ReservationId} {B : BorrowId → Prop}
    (hret : LoanSteps env B (s.setStatus rid .released) mid) :
    (mid.dropReservation rid).reservations = s.reservations.erase rid := by
  change mid.reservations.erase rid = _
  rw [hret.frame.reservations]
  exact erase_modify rid _ s.reservations

theorem Resynced.capacityStep_of_release {rid : ReservationId} {r : Reservation}
    {B : BorrowId → Prop} (hsync : Resynced env (mid.dropReservation rid) s' [r.tenant])
    (hr : s.reservations.lookup rid = some r)
    (hret : LoanSteps env B (s.setStatus rid .released) mid) (hamount : amount.NonNeg) :
    CapacityStep env amount s s' := by
  have hres := release_reservations hret
  have hconf : SameConfig s (s.setStatus rid .released) := ⟨rfl, rfl, rfl, rfl, rfl, rfl, rfl⟩
  refine hsync.capacityStep
    ((hconf.trans hret.frame.config).trans ⟨rfl, rfl, rfl, rfl, rfl, rfl, rfl⟩)
    (fun hnn => ?_) (fun hna => ?_) (fun hnn d => ?_) (fun x => ?_) (fun x hx => ?_)
  · rw [hres]
    exact forall_lookup_erase hnn
  · have hmid : NoAllocation mid := by
      unfold NoAllocation; rw [hret.frame.allocations]; exact hna
    refine forall_lookup_mapVals hmid fun _ a ha => ?_
    split
    · rfl
    · exact ha
  · have hpos := hnn rid r hr d
    have hd := hamount d
    unfold recordedSum
    rw [hres, total_erase _ hr]
    omega
  · exact hret.frame.counters x
  · have hxr : (r.tenant == x) = false := by
      simp only [List.mem_singleton] at hx
      simpa using fun heq : r.tenant = x => hx heq.symm
    rw [exactReserved_erase hr hres]
    simp [hxr]

/-- **Every core call resynchronises a tenant or leaves its capacity alone.** -/
theorem exec_capacityStep {c : Call} (hfresh : FreshIds env s) (hamount : c.amount.NonNeg)
    (hc : c.isCore = true) : CapacityStep env c.amount s (s.exec env c).2 := by
  cases c with
  | reserve t req auth =>
    change CapacityStep env req s (s.reserve env t req auth).2
    rcases reserve_cases hfresh.toFreshLoans t req auth with heq | ⟨st, hback⟩ | ⟨st, hadm⟩
    · rw [heq]; exact .of_frame hamount (.refl s)
    · exact .of_frame hamount hback.frame
    · exact hadm.capacityStep hfresh.reservationId hamount
  | commitReservation rid auth =>
    change CapacityStep env .empty s (s.commitReservation env rid auth).2
    rcases commitReservation_cases env s rid auth with heq | ⟨r, hr, hprov, hres⟩
    · rw [heq]; exact .of_frame hamount (.refl s)
    · exact hres.capacityStep_of_commit hr hprov hamount
  | release rid auth =>
    change CapacityStep env .empty s (s.release env rid auth).2
    rcases release_cases env s rid auth with heq | ⟨r, mid, hr, hact, hret, hres⟩
    · rw [heq]; exact .of_frame hamount (.refl s)
    · exact hres.capacityStep_of_release hr hret hamount
  | borrow b amount auth =>
    change CapacityStep env amount s (s.borrow env b amount auth).2
    rcases borrow_cases hfresh.toFreshLoans b amount hamount auth with heq | ⟨lender, -, hstep, hres⟩
    · rw [heq]; exact .of_frame hamount (.refl s)
    · exact hres.capacityStep_of_frame hamount hstep.frame
  | lend l b amount auth =>
    change CapacityStep env amount s (s.lend env l b amount auth).2
    rcases lend_cases hfresh.toFreshLoans l b amount hamount auth with heq | ⟨lender, -, hstep, hres⟩
    · rw [heq]; exact .of_frame hamount (.refl s)
    · exact hres.capacityStep_of_frame hamount hstep.frame
  | recallBorrow bid auth =>
    change CapacityStep env .empty s (s.recallBorrow env bid auth).2
    rcases recallBorrow_cases env s bid auth with heq | ⟨b, -, -, hstep, hres⟩
    · rw [heq]; exact .of_frame hamount (.refl s)
    · exact hres.capacityStep_of_frame hamount hstep.frame
  | _ => cases hc

/-! ## Exact counters -/

variable {bound : ResourceDimension → Int}

theorem CommitInv.reservedSum_le (h : CommitInv s₀ bound s) (x : TenantId) (d : ResourceDimension) :
    s.reservedSum x d ≤ bound d :=
  (reservedSum_le_recorded h.nonNeg x d).trans (h.recorded d)

/-- **The counters follow the reservations through every core call.** -/
theorem exec_commitInv {c : Call} (hfresh : FreshIds env s) (hamount : c.amount.NonNeg)
    (hc : c.isCore = true) (hfit : ∀ d, bound d + c.amount.get d ≤ INT64_MAX)
    (h : CommitInv s₀ bound s) :
    CommitInv s₀ (fun d => bound d + c.amount.get d) (s.exec env c).2 := by
  have hstep := exec_capacityStep hfresh hamount hc
  have hnn := hstep.nonNeg h.nonNeg
  have hna := hstep.noAllocation h.noAllocation
  have hrec : ∀ d, (s.exec env c).2.recordedSum d ≤ bound d + c.amount.get d := fun d => by
    have h1 := hstep.recorded h.nonNeg d
    have h2 := h.recorded d
    omega
  refine ⟨hnn, hna, hrec, fun x => ?_⟩
  rcases hstep.counters x with hsync | ⟨hcons, hres, -, hex⟩
  · left
    refine ⟨?_, ?_⟩
    · rw [hsync.consumption, computedConsumed_of_noAllocation hna]
    · rw [hsync.reserved, recomputedReserved_eq hna hnn]
      exact fun d => (reservedSum_le_recorded hnn x d).trans ((hrec d).trans (hfit d))
  · have hold := h.counters x
    unfold CommittedExactly Untouched at *
    rw [hex, hcons, hres]
    exact hold

/-! ## How the sums change -/

/-- An admitted request adds its amounts to the sum of its tenant. -/
theorem Admitted.reservedSum {t : TenantId} {req : ResourceVector} {auth : Authority} {st : Draw}
    (h : Admitted env s t req auth st s') (hrid : env.reservationId ∉ s.reservations) (x : TenantId)
    (d : ResourceDimension) :
    s'.reservedSum x d = (if x = t then req.get d else 0) + s.reservedSum x d := by
  obtain ⟨e, hent, hres⟩ := h.recorded
  have hrid' : env.reservationId ∉ st.engine.reservations := by
    rw [h.loans.frame.reservations]; exact hrid
  have hins := hent.reservations
  rw [emplace_of_notMem hrid'] at hins
  rw [← get_exactReserved, ← get_exactReserved, exactReserved_same hres.reservations,
    exactReserved_insert hrid' hins, SparseVec.get_add, exactReserved_same h.loans.frame.reservations]
  by_cases hx : x = t
  · subst hx
    simp [newReservation, activeRes]
  · have hxt : (t == x) = false := by simpa using fun heq : t = x => hx heq.symm
    simp [newReservation, hxt, hx]

theorem reservedSum_same (h : s'.reservations = s.reservations) (x : TenantId) (d : ResourceDimension) :
    s'.reservedSum x d = s.reservedSum x d := by
  rw [← get_exactReserved, ← get_exactReserved, exactReserved_same h]

/-- A released reservation takes its amounts off the sum of its tenant. -/
theorem reservedSum_erase {rid : ReservationId} {r : Reservation}
    (hr : s.reservations.lookup rid = some r) (hact : activeRes r = true)
    (h : s'.reservations = s.reservations.erase rid) (x : TenantId) (d : ResourceDimension) :
    s.reservedSum x d = (if x = r.tenant then r.resources.get d else 0) + s'.reservedSum x d := by
  rw [← get_exactReserved, ← get_exactReserved, exactReserved_erase hr h, SparseVec.get_add]
  by_cases hx : x = r.tenant
  · subst hx
    simp [hact]
  · have hxt : (r.tenant == x) = false := by simpa using fun heq : r.tenant = x => hx heq.symm
    simp [hxt, hx]

theorem reservedSum_markCommitted {rid : ReservationId} {r : Reservation}
    (hr : s.reservations.lookup rid = some r) (hprov : r.status = .provisional) (x : TenantId)
    (d : ResourceDimension) : (s.markCommitted rid).reservedSum x d = s.reservedSum x d := by
  rw [← get_exactReserved, ← get_exactReserved, exactReserved_markCommitted hr hprov]

/-- **Only an admitted request raises a sum of active reservations.** -/
theorem exec_reservedSum {c : Call} (hfresh : FreshIds env s) (hamount : c.amount.NonNeg)
    (hc : c.isCore = true)
    (hnn : ∀ rid r, s.reservations.lookup rid = some r → r.resources.NonNeg) :
    (∃ t req auth st, c = .reserve t req auth ∧ Admitted env s t req auth st (s.exec env c).2) ∨
    ∀ x d, (s.exec env c).2.reservedSum x d ≤ s.reservedSum x d := by
  cases c with
  | reserve t req auth =>
    rcases reserve_cases hfresh.toFreshLoans t req auth with heq | ⟨st, hback⟩ | ⟨st, hadm⟩
    · right
      intro x d
      change (s.reserve env t req auth).2.reservedSum x d ≤ _
      rw [heq]
    · exact Or.inr fun x d => (reservedSum_same hback.frame.reservations x d).le
    · exact Or.inl ⟨t, req, auth, st, rfl, hadm⟩
  | commitReservation rid auth =>
    right
    intro x d
    change (s.commitReservation env rid auth).2.reservedSum x d ≤ _
    rcases commitReservation_cases env s rid auth with heq | ⟨r, hr, hprov, hres⟩
    · rw [heq]
    · rw [reservedSum_same hres.reservations, reservedSum_markCommitted hr hprov]
  | release rid auth =>
    right
    intro x d
    change (s.release env rid auth).2.reservedSum x d ≤ _
    rcases release_cases env s rid auth with heq | ⟨r, mid, hr, hact, hret, hres⟩
    · rw [heq]
    · rw [reservedSum_same hres.reservations, reservedSum_erase hr hact (release_reservations hret)]
      have hpos := hnn rid r hr d
      split <;> omega
  | borrow b amount auth =>
    right
    intro x d
    change (s.borrow env b amount auth).2.reservedSum x d ≤ _
    rcases borrow_cases hfresh.toFreshLoans b amount hamount auth with heq | ⟨lender, -, hstep, hres⟩
    · rw [heq]
    · exact (reservedSum_same (hres.reservations.trans hstep.frame.reservations) x d).le
  | lend l b amount auth =>
    right
    intro x d
    change (s.lend env l b amount auth).2.reservedSum x d ≤ _
    rcases lend_cases hfresh.toFreshLoans l b amount hamount auth with heq | ⟨lender, -, hstep, hres⟩
    · rw [heq]
    · exact (reservedSum_same (hres.reservations.trans hstep.frame.reservations) x d).le
  | recallBorrow bid auth =>
    right
    intro x d
    change (s.recallBorrow env bid auth).2.reservedSum x d ≤ _
    rcases recallBorrow_cases env s bid auth with heq | ⟨b, -, -, hstep, hres⟩
    · rw [heq]
    · exact (reservedSum_same (hres.reservations.trans hstep.frame.reservations) x d).le
  | _ => cases hc

end Steps

/-! ## Whole runs -/

/-- Nothing is reserved and nothing is allocated. -/
structure NothingReserved (s : Engine) : Prop where
  reservations : s.reservations = ∅
  noAllocation : NoAllocation s

theorem NothingReserved.commitInv {s : Engine} (h : NothingReserved s) :
    CommitInv s (totalRequested []) s := by
  refine ⟨?_, h.noAllocation, ?_, fun x => Or.inr ⟨?_, rfl, rfl⟩⟩
  · intro rid r hr
    rw [h.reservations] at hr; cases hr
  · intro d
    unfold recordedSum
    rw [h.reservations]
    exact le_refl 0
  · unfold exactReserved
    rw [h.reservations]; rfl

theorem NothingReserved.reservedSum {s : Engine} (h : NothingReserved s) (x : TenantId)
    (d : ResourceDimension) : s.reservedSum x d = 0 := by
  unfold Engine.reservedSum
  rw [h.reservations]; rfl

/-- Invariant rule for runs of core calls whose requests stay within `lim` in total, and so within 64
    bits: a step lemma may assume that the counters follow the reservations. -/
theorem commit_run_rule {ok : Engine → Env × Call → Prop} {I : Engine → Prop} {s₀ s : Engine}
    {lim : ResourceDimension → Int} {l : List (Env × Call)} (hok : ∀ s c, ok s c → coreCall s c)
    (hrun : Run Engine.after ok s₀ l s) (hfit : ∀ d, totalRequested l d ≤ lim d)
    (hlim : ∀ d, lim d ≤ INT64_MAX) (hstart : NothingReserved s₀) (h0 : I s₀)
    (hstep : ∀ s c bound, ok s c → (∀ d, bound d + c.2.amount.get d ≤ lim d) →
      CommitInv s₀ bound s → I s → I (s.after c)) :
    CommitInv s₀ (totalRequested l) s ∧ I s := by
  refine hrun.invariant_hist (I := fun l s => (∀ d, totalRequested l d ≤ lim d) →
    CommitInv s₀ (totalRequested l) s ∧ I s) (fun _ => ⟨hstart.commitInv, h0⟩) ?_ hfit
  intro l s c ih hc hfit
  obtain ⟨hcore, hfresh, hamount⟩ := hok s c hc
  have hsnoc : (fun d => totalRequested l d + c.2.amount.get d) = totalRequested (l ++ [c]) := by
    funext d
    rw [totalRequested_snoc]
  have hfit' : ∀ d, totalRequested l d + c.2.amount.get d ≤ lim d := fun d => by
    rw [← totalRequested_snoc]; exact hfit d
  obtain ⟨hinv, hI⟩ := ih fun d => by
    have h1 := hfit' d
    have h2 := hamount d
    omega
  refine ⟨?_, hstep s c _ hc hfit' hinv hI⟩
  rw [← hsnoc]
  exact exec_commitInv hfresh hamount hcore (fun d => (hfit' d).trans (hlim d)) hinv

end Engine

end QuotaFabric
