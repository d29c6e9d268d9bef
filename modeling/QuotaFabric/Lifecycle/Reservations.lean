import QuotaFabric.Engine.Steps
import QuotaFabric.Loans.Pairing

/-!
# The life of a reservation

A reservation is entered by `reserve` and stays until `release` removes it with its funding and stops
its allocations.  No call ever leaves a reservation behind that is not active.

* `Lifecycle` — reservations are active, active allocations have one of their own tenant, funding
  belongs to a reservation; `CallStep.lifecycle` — every call keeps this;
* `reservationIds` — the ids handed out in a run;
* `reservation_lifecycle` — after a release the id is dead for the rest of the run.
-/

set_option autoImplicit false

namespace QuotaFabric

open AList

structure Lifecycle (b : Ledger) : Prop where
  active : ∀ rid r, b.reservations.lookup rid = some r → activeRes r = true
  backed : ∀ aid a, b.allocations.lookup aid = some a → a.active = true →
    ∃ r, b.reservations.lookup a.reservation = some r ∧ r.tenant = a.tenant
  funded : ∀ rid, rid ∈ b.funding → rid ∈ b.reservations

namespace Lifecycle

variable {b : Ledger}

theorem empty : Lifecycle ⟨∅, ∅, ∅⟩ :=
  ⟨fun _ _ h => absurd h (by simp), fun _ _ h => absurd h (by simp), fun _ h => absurd h (notMem_empty _)⟩

/-- A change of one reservation that keeps its tenant and leaves it active. -/
theorem modifyReservation (h : Lifecycle b) (rid : ReservationId) (f : Reservation → Reservation)
    (htenant : ∀ r, (f r).tenant = r.tenant) (hactive : ∀ r, activeRes (f r) = true) :
    Lifecycle { b with reservations := b.reservations.modify rid f } where
  active := forall_lookup_modify h.active fun r _ => hactive r
  backed aid a ha hact := by
    obtain ⟨r, hr, ht⟩ := h.backed aid a ha hact
    by_cases hrid : a.reservation = rid
    · refine ⟨f r, ?_, (htenant r).trans ht⟩
      show (b.reservations.modify rid f).lookup a.reservation = _
      rw [hrid] at hr ⊢
      rw [lookup_modify_self, hr]; rfl
    · refine ⟨r, ?_, ht⟩
      show (b.reservations.modify rid f).lookup a.reservation = _
      rw [lookup_modify_ne f _ hrid]
      exact hr
  funded rid' hrid' := mem_modify.mpr (h.funded rid' hrid')

/-- A change of allocations that keeps where they belong and starts none. -/
theorem mapAllocations (h : Lifecycle b) {f : AllocationId → Allocation → Allocation}
    (htenant : ∀ aid a, (f aid a).tenant = a.tenant)
    (hreservation : ∀ aid a, (f aid a).reservation = a.reservation)
    (hactive : ∀ aid a, (f aid a).active = true → a.active = true) :
    Lifecycle { b with allocations := b.allocations.mapVals f } where
  active := h.active
  backed aid a ha hact := by
    change (b.allocations.mapVals f).lookup aid = _ at ha
    rw [lookup_mapVals] at ha
    obtain ⟨a₀, ha₀, rfl⟩ := Option.map_eq_some_iff.mp ha
    rw [hreservation, htenant]
    exact h.backed aid a₀ ha₀ (hactive aid a₀ hact)
  funded := h.funded

/-- An allocation started under a reservation of its tenant. -/
theorem addAllocation (h : Lifecycle b) (aid : AllocationId) {a : Allocation} {r : Reservation}
    (hr : b.reservations.lookup a.reservation = some r) (ht : r.tenant = a.tenant) :
    Lifecycle { b with allocations := b.allocations.emplace aid a } where
  active := h.active
  backed := forall_lookup_emplace h.backed fun _ => ⟨r, hr, ht⟩
  funded := h.funded

/-- An active reservation entered under a new id with its funding. -/
theorem addReservation (h : Lifecycle b) {rid : ReservationId} {r : Reservation} (f : Funding)
    (hrid : rid ∉ b.reservations) (hr : activeRes r = true) :
    Lifecycle { b with
      reservations := b.reservations.emplace rid r, funding := b.funding.insert rid f } where
  active := forall_lookup_emplace h.active hr
  backed aid a ha hact := by
    obtain ⟨r', hr', ht⟩ := h.backed aid a ha hact
    have hne : a.reservation ≠ rid := by
      rintro rfl
      exact hrid (mem_of_lookup hr')
    refine ⟨r', ?_, ht⟩
    show (b.reservations.emplace rid r).lookup a.reservation = _
    rw [emplace_of_notMem hrid, lookup_insert_ne hne]
    exact hr'
  funded rid' hrid' := by
    show rid' ∈ b.reservations.emplace rid r
    rw [emplace_of_notMem hrid, mem_insert]
    rcases (mem_insert _).mp hrid' with rfl | hmem
    · exact Or.inl rfl
    · exact Or.inr (h.funded rid' hmem)

/-- A reservation dropped once its allocations are stopped. -/
theorem drop (h : Lifecycle b) (rid : ReservationId)
    (hstopped : ∀ aid a, b.allocations.lookup aid = some a → a.reservation = rid → a.active = false) :
    Lifecycle { b with reservations := b.reservations.erase rid, funding := b.funding.erase rid } where
  active := forall_lookup_erase h.active
  backed aid a ha hact := by
    obtain ⟨r, hr, ht⟩ := h.backed aid a ha hact
    have hne : a.reservation ≠ rid := by
      intro heq
      rw [hstopped aid a ha heq] at hact
      cases hact
    refine ⟨r, ?_, ht⟩
    show (b.reservations.erase rid).lookup a.reservation = _
    rw [lookup_erase_ne hne]
    exact hr
  funded rid' hrid' := by
    obtain ⟨hne, hmem⟩ := mem_erase.mp hrid'
    exact mem_erase.mpr ⟨hne, h.funded rid' hmem⟩

end Lifecycle

/-- The reservation ids handed out by a sequence of calls. -/
def reservationIds (l : List (Env × Call)) : List ReservationId :=
  l.filterMap fun c =>
    match c.2 with
    | .reserve .. => some c.1.reservationId
    | _ => none

namespace Engine

section Step

variable {env : Env} {s s' : Engine} {c : Call}

/-- Changing one allocation in place, without moving or starting it. -/
theorem lifecycle_withModified (hl : Lifecycle s.ledger) (aid : AllocationId) {f : Allocation → Allocation}
    (htenant : ∀ a, (f a).tenant = a.tenant) (hreservation : ∀ a, (f a).reservation = a.reservation)
    (hactive : ∀ a, (f a).active = true → a.active = true) : Lifecycle (s.withModified aid f).ledger := by
  show Lifecycle { s.ledger with
    allocations := s.allocations.mapVals fun aid' a => if aid' = aid then f a else a }
  refine hl.mapAllocations (fun aid' a => ?_) (fun aid' a => ?_) fun aid' a ha => ?_
  · split
    · exact htenant a
    · rfl
  · split
    · exact hreservation a
    · rfl
  · split at ha
    · exact hactive a ha
    · exact ha

theorem lifecycle_dropReservation (rid : ReservationId) (hl : Lifecycle s.ledger) :
    Lifecycle (s.dropReservation rid).ledger := by
  have hstop : Lifecycle { s.ledger with
      allocations := s.allocations.mapVals fun _ a =>
        if a.reservation = rid then { a with active := false } else a } := by
    refine hl.mapAllocations (fun aid' a => ?_) (fun aid' a => ?_) fun aid' a ha => ?_
    · split <;> rfl
    · split <;> rfl
    · split at ha
      · cases ha
      · exact ha
  refine hstop.drop rid fun aid a ha heq => ?_
  change (s.allocations.mapVals _).lookup aid = _ at ha
  rw [lookup_mapVals] at ha
  obtain ⟨a₀, -, rfl⟩ := Option.map_eq_some_iff.mp ha
  split at heq
  · rw [if_pos (by assumption)]
  · exact absurd heq (by assumption)

/-- **Every call keeps the lifecycle.** -/
theorem CallStep.lifecycle (h : CallStep env s c s') (hrid : env.reservationId ∉ s.reservations)
    (hl : Lifecycle s.ledger) : Lifecycle s'.ledger := by
  cases h with
  | kept c h => rw [h.ledger]; exact hl
  | rolledBack h => rw [h.frame.ledger]; exact hl
  | admitted h =>
    rw [h.ledger]
    exact hl.addReservation _ hrid rfl
  | @committed rid auth r s' hr hstatus h =>
    rw [h.ledger]
    exact hl.modifyReservation rid
      (fun x => { x with status := .committed, quotaGeneration := s.quotaGeneration }) (fun _ => rfl)
      fun _ => rfl
  | @started rid req auth r s' hr hact h =>
    rw [h.ledger]
    have hadd := hl.addAllocation env.allocationId (a := s.newAllocation env r rid req auth) hr rfl
    exact hadd.modifyReservation rid (fun x => { x with status := .consumed }) (fun _ => rfl) fun _ => rfl
  | resized hgen ha hact hts h =>
    rw [h.ledger]
    exact lifecycle_withModified hl _ (fun _ => rfl) (fun _ => rfl) fun _ => id
  | stopped ha hact h =>
    rw [h.ledger]
    exact lifecycle_withModified hl _ (fun _ => rfl) (fun _ => rfl) fun _ hne => by cases hne
  | @released rid auth r mid s' hr hact hmid h =>
    rw [h.ledger, hmid, release_ledger]
    exact lifecycle_dropReservation rid hl
  | borrowed hlender h => rw [h.ledger, (openLoan_frame ..).ledger]; exact hl
  | lent hlender h => rw [h.ledger, (openLoan_frame ..).ledger]; exact hl
  | recalled hb hrec h => rw [h.ledger, (closeLoan_frame ..).ledger]; exact hl
  | observed h =>
    unfold ledger
    rw [h.reservations, h.funding]
    rcases h.allocations with ha | ⟨aid, u, -, ha⟩
    · rw [ha]; exact hl
    · rw [ha]
      exact lifecycle_withModified hl aid (f := fun a => { a with used := u a }) (fun _ => rfl)
        (fun _ => rfl) fun _ => id

/-- A reservation id enters the map only when it is handed out. -/
theorem CallStep.mem_reservations (h : CallStep env s c s') {rid : ReservationId}
    (hrid : rid ∈ s'.reservations) : rid ∈ s.reservations ∨ rid ∈ reservationIds [(env, c)] := by
  cases h with
  | kept c h =>
    have hres : s'.reservations = s.reservations := congrArg Ledger.reservations h.ledger
    exact Or.inl (hres ▸ hrid)
  | rolledBack h => exact Or.inl (h.frame.reservations ▸ hrid)
  | admitted h =>
    have hres := congrArg Ledger.reservations h.ledger
    change s'.reservations = _ at hres
    rw [hres] at hrid
    unfold emplace at hrid
    split at hrid
    · exact Or.inl hrid
    · rcases (mem_insert _).mp hrid with rfl | hmem
      · exact Or.inr List.mem_cons_self
      · exact Or.inl hmem
  | committed hr hstatus h => exact Or.inl (mem_modify.mp (h.reservations ▸ hrid))
  | started hr hact h => exact Or.inl (mem_modify.mp (h.reservations ▸ hrid))
  | resized hgen ha hact hts h => exact Or.inl (h.reservations ▸ hrid)
  | stopped ha hact h => exact Or.inl (h.reservations ▸ hrid)
  | released hr hact hmid h =>
    rw [hmid] at h
    have hres := congrArg Ledger.reservations (h.ledger.trans (release_ledger ..))
    change s'.reservations = _ at hres
    rw [hres] at hrid
    exact Or.inl (mem_erase.mp hrid).2
  | borrowed hlender h => exact Or.inl ((h.reservations.trans (openLoan_frame ..).reservations) ▸ hrid)
  | lent hlender h => exact Or.inl ((h.reservations.trans (openLoan_frame ..).reservations) ▸ hrid)
  | recalled hb hrec h => exact Or.inl ((h.reservations.trans (closeLoan_frame ..).reservations) ▸ hrid)
  | observed h => exact Or.inl (h.reservations ▸ hrid)

end Step

/-! ## Whole runs -/

theorem reservationIds_append (l l' : List (Env × Call)) :
    reservationIds (l ++ l') = reservationIds l ++ reservationIds l' :=
  List.filterMap_append

theorem after_lifecycle {s : Engine} {c : Env × Call} (hc : anyCall s c) (h : Lifecycle s.ledger) :
    Lifecycle (s.after c).ledger :=
  (exec_callStep hc.1.toFreshLoans hc.2).lifecycle hc.1.reservationId h

theorem run_lifecycle {settings : EngineSettings} {l : List (Env × Call)} {s : Engine}
    (hrun : Run Engine.after anyCall { settings := settings } l s) : Lifecycle s.ledger :=
  hrun.invariant (I := fun s => Lifecycle s.ledger) Lifecycle.empty fun _ _ h hc => after_lifecycle hc h

/-- An id in the map was there at the start or was handed out in the run. -/
theorem run_reservationIds {s₀ s : Engine} {l : List (Env × Call)}
    (hrun : Run Engine.after anyCall s₀ l s) :
    ∀ rid, rid ∈ s.reservations → rid ∈ s₀.reservations ∨ rid ∈ reservationIds l := by
  refine hrun.invariant_hist (I := fun l s => ∀ rid, rid ∈ s.reservations →
    rid ∈ s₀.reservations ∨ rid ∈ reservationIds l) (fun _ h => Or.inl h) ?_
  intro l s c ih hc rid hrid
  rw [reservationIds_append, List.mem_append]
  rcases (exec_callStep hc.1.toFreshLoans hc.2).mem_reservations hrid with h | h
  · exact (ih rid h).imp id Or.inl
  · exact Or.inr (Or.inr h)

section Dead

variable {s : Engine} {rid : ReservationId} (hrid : rid ∉ s.reservations) (env : Env) (auth : Authority)
include hrid

theorem commitReservation_dead : (s.commitReservation env rid auth).1.ok = false := by
  unfold commitReservation
  rw [lookup_eq_none.mpr hrid]
  split
  · rfl
  split <;> rfl

theorem startAllocation_dead (req : ResourceVector) :
    (s.startAllocation env rid req auth).1.status.ok = false := by
  unfold startAllocation
  rw [lookup_eq_none.mpr hrid]
  split <;> rfl

theorem release_dead : (s.release env rid auth).1.ok = false := by
  unfold release
  rw [lookup_eq_none.mpr hrid]
  split <;> rfl

end Dead

section Stopped

variable {s : Engine} {aid : AllocationId} {a : Allocation} (ha : s.allocations.lookup aid = some a)
  (hact : a.active = false) (env : Env) (auth : Authority)
include ha hact

theorem resizeAllocation_stopped (delta : ResourceVector) :
    (s.resizeAllocation env aid delta auth).1.ok = false := by
  unfold resizeAllocation
  rw [ha]
  split
  · rfl
  · simp only [hact, Bool.not_false, if_true]
    rfl

theorem releaseAllocation_stopped : (s.releaseAllocation env aid auth).1.ok = false := by
  unfold releaseAllocation
  rw [ha]
  split
  · rfl
  · simp only [hact, Bool.not_false, if_true]
    rfl

end Stopped

theorem release_ok {env : Env} {s : Engine} {rid : ReservationId} {auth : Authority}
    (h : (s.release env rid auth).1.ok = true) :
    rid ∈ s.reservations ∧ (s.release env rid auth).2.ledger = (s.dropReservation rid).ledger := by
  unfold release at *
  split at h
  · cases h
  rename_i hepoch
  split at h
  · cases h
  rename_i r hr
  split at h
  · cases h
  rename_i hact
  refine ⟨mem_of_lookup hr, ?_⟩
  rw [if_neg hepoch, if_neg hact]
  exact release_ledger env s rid _

/-- **Reservation lifecycle**: active allocations refer to an active reservation of their tenant, and
    a released reservation never comes back. -/
theorem reservation_lifecycle (settings : EngineSettings) {l₁ : List (Env × Call)} {s₁ : Engine}
    (h₁ : Run Engine.after anyCall { settings := settings } l₁ s₁) :
    (∀ aid a, s₁.allocations.lookup aid = some a → a.active = true →
      ∃ r, s₁.reservations.lookup a.reservation = some r ∧ activeRes r = true ∧ r.tenant = a.tenant) ∧
    ∀ env rid auth, anyCall s₁ (env, .release rid auth) → (s₁.release env rid auth).1.ok = true →
      ∀ l₂ s₂, Run Engine.after anyCall (s₁.release env rid auth).2 l₂ s₂ →
        (reservationIds (l₁ ++ l₂)).Nodup →
        rid ∉ s₂.reservations ∧ rid ∉ s₂.funding ∧
        (∀ env' auth', (s₂.commitReservation env' rid auth').1.ok = false) ∧
        (∀ env' req auth', (s₂.startAllocation env' rid req auth').1.status.ok = false) ∧
        (∀ env' auth', (s₂.release env' rid auth').1.ok = false) ∧
        ∀ aid a, s₂.allocations.lookup aid = some a → a.reservation = rid →
          (∀ env' delta auth', (s₂.resizeAllocation env' aid delta auth').1.ok = false) ∧
          ∀ env' auth', (s₂.releaseAllocation env' aid auth').1.ok = false := by
  have hl₁ := run_lifecycle h₁
  refine ⟨fun aid a ha hact => ?_, fun env rid auth hc hok l₂ s₂ h₂ hids => ?_⟩
  · obtain ⟨r, hr, ht⟩ := hl₁.backed aid a ha hact
    exact ⟨r, hr, hl₁.active _ r hr, ht⟩
  · obtain ⟨hmem, hdrop⟩ := release_ok hok
    have hl₂ : Lifecycle s₂.ledger :=
      h₂.invariant (I := fun s => Lifecycle s.ledger) (after_lifecycle hc hl₁)
        fun _ _ h hc => after_lifecycle hc h
    -- `rid` was handed out before the release, so it is not handed out after it
    have hhanded : rid ∈ reservationIds l₁ :=
      (run_reservationIds h₁ rid hmem).resolve_left (notMem_empty _)
    have hgone : rid ∉ s₂.reservations := by
      intro hrid
      rcases run_reservationIds h₂ rid hrid with h | h
      · have hres : (s₁.release env rid auth).2.reservations = s₁.reservations.erase rid :=
          congrArg Ledger.reservations hdrop
        rw [hres] at h
        exact (mem_erase.mp h).1 rfl
      · rw [reservationIds_append, List.nodup_append] at hids
        exact hids.2.2 rid hhanded rid h rfl
    refine ⟨hgone, fun h => hgone (hl₂.funded rid h), fun env' auth' => commitReservation_dead hgone env' auth',
      fun env' req auth' => startAllocation_dead hgone env' auth' req,
      fun env' auth' => release_dead hgone env' auth', fun aid a ha hrid => ?_⟩
    have hact : a.active = false := by
      by_contra hne
      obtain ⟨r, hr, -⟩ := hl₂.backed aid a ha (by simpa using hne)
      rw [hrid] at hr
      exact hgone (mem_of_lookup hr)
    exact ⟨fun env' delta auth' => resizeAllocation_stopped ha hact env' auth' delta,
      fun env' auth' => releaseAllocation_stopped ha hact env' auth'⟩

/-- A tenant with a quota, a reservation, and an allocation started under it. -/
def reserveAndStart : List (Env × Call) :=
  let auth : Authority := { epoch := .initial, quotaGeneration := .next .initial }
  [(.numbered 1, .createTenant ⟨0, 1⟩ [] none 100),
   (.numbered 2, .setTenantQuota ⟨0, 1⟩ { guaranteed := .fromScalar .acceleratorVRAM 100 }),
   (.numbered 3, .reserve ⟨0, 1⟩ (.fromScalar .acceleratorVRAM 10) auth),
   (.numbered 4, .startAllocation ⟨0, 3⟩ (.fromScalar .acceleratorVRAM 10) auth)]

/-- What follows the release: the next reservation. -/
def reserveAgain : List (Env × Call) :=
  [(.numbered 6, .reserve ⟨0, 1⟩ (.fromScalar .acceleratorVRAM 10)
    { epoch := .initial, quotaGeneration := .next .initial })]

theorem reservation_lifecycle_reserveAndStart :
    let s₁ := reserveAndStart.foldl Engine.after {}
    let s₂ := reserveAgain.foldl Engine.after (s₁.release (.numbered 5) ⟨0, 3⟩ firstAuthority).2
    (s₁.release (.numbered 5) ⟨0, 3⟩ firstAuthority).1.ok = true ∧
      s₂.allocations.entries.length = 1 ∧ ⟨0, 3⟩ ∉ s₂.reservations := by
  have h₁ : Run Engine.after anyCall {} reserveAndStart (reserveAndStart.foldl Engine.after {}) :=
    Run.of_check _ _ (by decide +kernel)
  have h₂ : Run Engine.after anyCall
      ((reserveAndStart.foldl Engine.after {}).release (.numbered 5) ⟨0, 3⟩ firstAuthority).2 reserveAgain
      (reserveAgain.foldl Engine.after
        ((reserveAndStart.foldl Engine.after {}).release (.numbered 5) ⟨0, 3⟩ firstAuthority).2) :=
    Run.of_check _ _ (by decide +kernel)
  exact ⟨by decide +kernel, by decide +kernel,
    ((reservation_lifecycle {} h₁).2 _ _ _ (by decide +kernel) (by decide +kernel) _ _ h₂
      (by decide +kernel)).1⟩

end Engine

end QuotaFabric
