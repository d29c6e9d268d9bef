import QuotaFabric.Lifecycle.Reservations

/-!
# Use under a reservation

`start_allocation` takes any amount, `resize_allocation` caps the use by that amount, and neither looks
at the reservation.  The active allocations of a reservation stay within it as long as every resize
leaves room for the others.

* `allocatedUse` — what the active allocations of a reservation use;
* `resizedUse_le` — what a resize stores, dimension by dimension;
* `ResizeFits` — the room a resize has to leave;
* `allocations_within_reservation` — the run statement; `oversized_allocation` — a run in which a
  resize leaves no room.
-/

set_option autoImplicit false

namespace QuotaFabric

open AList

namespace ResourceVector

/-- The saturating loop never stops early, so every cell is written once. -/
theorem addLoop_saturated (o : ResourceVector) : ∀ (ds : List ResourceDimension) (v : ResourceVector),
    ds.Nodup → ∀ d, (addLoop o true ds v).2.cell d =
      if d ∈ ds then (o.cell d).elim (v.cell d) fun b => some (satAdd (v.get d) b) else v.cell d
  | [], v, _, d => by simp [addLoop]
  | e :: ds, v, hnd, d => by
    obtain ⟨hne, hnd'⟩ := List.nodup_cons.mp hnd
    unfold addLoop
    split
    · rename_i hcell
      rw [addLoop_saturated o ds v hnd' d]
      by_cases hde : d = e
      · subst hde
        rw [if_neg hne, if_pos List.mem_cons_self, hcell]
        rfl
      · simp [List.mem_cons, hde]
    · rename_i b hcell
      have hloop : (if b > 0 ∧ v.get e > INT64_MAX - b then
          if true = true then addLoop o true ds (v.put e INT64_MAX) else (.overflow, v)
          else addLoop o true ds (v.put e (v.get e + b))) =
          addLoop o true ds (v.put e (satAdd (v.get e) b)) := by
        unfold satAdd
        split <;> rfl
      rw [hloop, addLoop_saturated o ds _ hnd' d]
      by_cases hde : d = e
      · subst hde
        rw [if_neg hne, if_pos List.mem_cons_self, hcell]
        simp [SparseVec.put]
      · rw [SparseVec.get_put_ne _ _ hde]
        simp [List.mem_cons, hde, SparseVec.put]

theorem add_saturated (v o : ResourceVector) (d : ResourceDimension) :
    (add v o true).2.cell d = (o.cell d).elim (v.cell d) fun b => some (satAdd (v.get d) b) := by
  unfold add
  rw [addLoop_saturated o _ v allResourceDimensions_nodup d, if_pos (mem_allResourceDimensions d)]

end ResourceVector

namespace Engine

/-- What the active allocations of a reservation use on `d`. -/
def allocatedUse (s : Engine) (rid : ReservationId) (d : ResourceDimension) : Int :=
  total s.allocations fun _ a => if a.active && a.reservation == rid then a.used.get d else 0

/-- The same without the allocation `aid`. -/
def otherUse (s : Engine) (aid : AllocationId) (rid : ReservationId) (d : ResourceDimension) : Int :=
  total (s.allocations.erase aid) fun _ a =>
    if a.active && a.reservation == rid then a.used.get d else 0

/-- What a resize can store on `d`: the allocation's own size where it has one, the grown use where
    the allocation uses or gains anything there. -/
theorem resizedUse_le {a : Allocation} {delta : ResourceVector} (hused : a.used.NonNeg)
    (hres : a.resources.NonNeg) (hdelta : delta.NonNeg) (d : ResourceDimension) :
    (a.resources.present d = true → (resizedUse a delta).get d ≤ a.resources.get d) ∧
    (a.resources.present d = false ∨ a.used.present d = true ∨ delta.present d = true →
      (resizedUse a delta).get d ≤ a.used.get d + delta.get d) := by
  have hu := hused d
  have hr := hres d
  have hd := hdelta d
  have hsat : satAdd (a.used.get d) (delta.get d) ≤ a.used.get d + delta.get d := satAdd_le_add
  have hstored : ∀ x : Int, (ResourceVector.stored x).getD 0 ≤ max 0 x := by
    intro x
    unfold ResourceVector.stored
    split <;> simp only [Option.getD_none, Option.getD_some] <;> omega
  unfold SparseVec.present
  unfold SparseVec.get at *
  unfold resizedUse ResourceVector.min
  simp only [ResourceVector.add_saturated, SparseVec.get]
  cases hcu : a.used.cell d <;> cases hcd : delta.cell d <;> cases hcr : a.resources.cell d
  all_goals
    simp only [hcu, hcd, hcr, Option.getD_none, Option.getD_some, Option.elim_none, Option.elim_some,
      Option.isSome_none, Option.isSome_some] at hu hr hd hsat ⊢
    refine ⟨fun h1 => ?_, fun h2 => ?_⟩
  all_goals first
    | (exact absurd h1 (by decide))
    | (exact absurd h2 (by decide))
    | (refine (hstored _).trans ?_; omega)
    | omega

/-! ## One call -/

/-- Every reservation covers the use of its active allocations. -/
structure Within (s : Engine) : Prop where
  nonNeg : ∀ aid a, s.allocations.lookup aid = some a → a.used.NonNeg ∧ a.resources.NonNeg
  bounded : ∀ rid r, s.reservations.lookup rid = some r → ∀ d, s.allocatedUse rid d ≤ r.resources.get d

/-- A resize leaves room for the other allocations of its reservation: on each dimension, either the
    allocation's own size or its use grown by the delta fits beside them. -/
def ResizeFits (s : Engine) : Call → Prop
  | .resizeAllocation aid delta auth => s.staleQuotaGen auth = false →
      ∀ a ∈ s.allocations.lookup aid, a.active = true → ∀ r ∈ s.reservations.lookup a.reservation, ∀ d,
        (a.resources.present d = true ∧
          a.resources.get d + s.otherUse aid a.reservation d ≤ r.resources.get d) ∨
        ((a.resources.present d = false ∨ a.used.present d = true ∨ delta.present d = true) ∧
          a.used.get d + delta.get d + s.otherUse aid a.reservation d ≤ r.resources.get d)
  | _ => True

instance (s : Engine) (c : Call) : Decidable (s.ResizeFits c) := by
  apply Call.casesOn (motive := fun c => Decidable (s.ResizeFits c)) c <;> intros <;> unfold ResizeFits <;> infer_instance

section Step

variable {env : Env} {s s' : Engine} {c : Call}

theorem allocatedUse_congr (h : s'.allocations = s.allocations) (rid : ReservationId)
    (d : ResourceDimension) : s'.allocatedUse rid d = s.allocatedUse rid d := by
  unfold allocatedUse
  rw [h]

/-- Reservations that keep their resources, and allocations that do not grow. -/
theorem Within.shrink (h : Within s)
    (hnn : ∀ aid a, s'.allocations.lookup aid = some a → a.used.NonNeg ∧ a.resources.NonNeg)
    (hr : ∀ rid r', s'.reservations.lookup rid = some r' →
      ∃ r, s.reservations.lookup rid = some r ∧ r.resources = r'.resources)
    (hle : ∀ rid d, s'.allocatedUse rid d ≤ s.allocatedUse rid d) : Within s' := by
  refine ⟨hnn, fun rid r' hr' d => ?_⟩
  obtain ⟨r, hlook, hsame⟩ := hr rid r' hr'
  rw [← hsame]
  exact (hle rid d).trans (h.bounded rid r hlook d)

theorem Within.keep (h : Within s) (hr : s'.reservations = s.reservations)
    (ha : s'.allocations = s.allocations) : Within s' :=
  h.shrink (by rw [ha]; exact h.nonNeg) (fun rid r' hr' => ⟨r', hr ▸ hr', rfl⟩)
    fun rid d => (allocatedUse_congr ha rid d).le

/-- An entry of a map is active under one reservation and weighs its use. -/
theorem allocatedUse_modify {aid : AllocationId} {a : Allocation} (ha : s.allocations.lookup aid = some a)
    (f : Allocation → Allocation) (rid : ReservationId) (d : ResourceDimension) :
    (s.withModified aid f).allocatedUse rid d =
      (if (f a).active && (f a).reservation == rid then (f a).used.get d else 0) +
        s.otherUse aid rid d := by
  have hmod := total_modify f (fun _ x => if x.active && x.reservation == rid then x.used.get d else 0) ha
  have herase := total_erase (fun _ x => if x.active && x.reservation == rid then x.used.get d else 0) ha
  unfold allocatedUse otherUse withModified
  simp only at hmod herase ⊢
  omega

theorem allocatedUse_eq {aid : AllocationId} {a : Allocation} (ha : s.allocations.lookup aid = some a)
    (rid : ReservationId) (d : ResourceDimension) :
    s.allocatedUse rid d =
      (if a.active && a.reservation == rid then a.used.get d else 0) + s.otherUse aid rid d :=
  total_erase _ ha

theorem Within.resize {aid : AllocationId} {delta : ResourceVector} {auth : Authority} {a : Allocation}
    {ts : List TenantId} (h : Within s) (hdelta : delta.NonNeg) (ha : s.allocations.lookup aid = some a)
    (hact : a.active = true) (hgen : s.staleQuotaGen auth = false)
    (hfits : s.ResizeFits (.resizeAllocation aid delta auth))
    (hsync : Resynced env (s.withModified aid fun x => { x with used := resizedUse a delta }) s' ts) :
    Within s' := by
  refine Within.keep (s := s.withModified aid fun x => { x with used := resizedUse a delta })
    ⟨?_, fun rid r hr d => ?_⟩ hsync.reservations hsync.allocations
  · refine forall_lookup_modify h.nonNeg fun x hx => ⟨?_, hx.2⟩
    exact ResourceVector.min_nonNeg _ _
  · rw [allocatedUse_modify ha]
    simp only [hact, Bool.true_and]
    by_cases hrid : a.reservation = rid
    · subst hrid
      simp only [beq_self_eq_true, if_true]
      obtain ⟨hcap, hgrow⟩ := resizedUse_le (h.nonNeg aid a ha).1 (h.nonNeg aid a ha).2 hdelta d
      rcases hfits hgen a ha hact r hr d with ⟨hp, hroom⟩ | ⟨hp, hroom⟩
      · have hle := hcap hp
        omega
      · have hle := hgrow hp
        omega
    · have hold := h.bounded rid r hr d
      rw [allocatedUse_eq ha] at hold
      simpa [hrid] using hold

theorem Within.stop {aid : AllocationId} {a : Allocation} {ts : List TenantId} (h : Within s)
    (ha : s.allocations.lookup aid = some a)
    (hsync : Resynced env (s.withModified aid fun x => { x with active := false, endedAt := env.now }) s'
      ts) : Within s' := by
  refine Within.keep (s := s.withModified aid fun x => { x with active := false, endedAt := env.now })
    ?_ hsync.reservations hsync.allocations
  refine h.shrink (forall_lookup_modify h.nonNeg fun x hx => hx) (fun rid r' hr' => ⟨r', hr', rfl⟩) ?_
  intro rid d
  have hused := (h.nonNeg aid a ha).1 d
  rw [allocatedUse_modify ha, allocatedUse_eq ha]
  simp only [Bool.false_and, Bool.false_eq_true, if_false]
  split <;> omega

theorem Within.start {rid : ReservationId} {req : ResourceVector} {auth : Authority} {r : Reservation}
    {ts : List TenantId} (h : Within s) (hfresh : FreshIds env s) (hreq : req.NonNeg)
    (hsync : Resynced env (s.withAllocation env r rid req auth) s' ts) : Within s' := by
  have halloc : (s.withAllocation env r rid req auth).allocations =
      s.allocations.insert env.allocationId (s.newAllocation env r rid req auth) :=
    emplace_of_notMem hfresh.allocationId
  refine Within.keep (s := s.withAllocation env r rid req auth) ?_ hsync.reservations hsync.allocations
  refine h.shrink ?_ (fun rid' r' hr' => ?_) fun rid' d => ?_
  · rw [halloc]
    exact forall_lookup_insert h.nonNeg ⟨fun _ => le_refl _, hreq⟩
  · change (s.reservations.modify rid _).lookup rid' = _ at hr'
    by_cases heq : rid' = rid
    · subst heq
      rw [lookup_modify_self] at hr'
      obtain ⟨r₀, hr₀, rfl⟩ := Option.map_eq_some_iff.mp hr'
      exact ⟨r₀, hr₀, rfl⟩
    · rw [lookup_modify_ne _ _ heq] at hr'
      exact ⟨r', hr', rfl⟩
  · -- it uses nothing yet
    unfold allocatedUse
    rw [halloc, total_insert _ _ hfresh.allocationId]
    have hzero : (s.newAllocation env r rid req auth).used.get d = 0 := rfl
    rw [hzero]
    simp

theorem Within.drop {rid : ReservationId} {bids : List BorrowId} {ts : List TenantId} (h : Within s)
    (hsync : Resynced env (((s.setStatus rid .released).returnAll env bids).dropReservation rid) s' ts) :
    Within s' := by
  have hledger := hsync.ledger.trans (release_ledger env s rid bids)
  have hres : s'.reservations = s.reservations.erase rid := congrArg Ledger.reservations hledger
  have halloc : s'.allocations = s.allocations.mapVals fun _ a =>
      if a.reservation = rid then { a with active := false } else a := congrArg Ledger.allocations hledger
  refine h.shrink ?_ (fun rid' r' hr' => ?_) fun rid' d => ?_
  · rw [halloc]
    refine forall_lookup_mapVals h.nonNeg fun aid a ha => ?_
    split <;> exact ha
  · rw [hres] at hr'
    by_cases heq : rid' = rid
    · subst heq
      rw [lookup_erase] at hr'
      cases hr'
    · rw [lookup_erase_ne heq] at hr'
      exact ⟨r', hr', rfl⟩
  · unfold allocatedUse
    rw [halloc, total_mapVals]
    refine total_le_total fun aid a ha => ?_
    have hused := (h.nonNeg aid a ha).1 d
    by_cases heq : a.reservation = rid
    · rw [if_pos heq]
      simp only [Bool.false_and, Bool.false_eq_true, if_false]
      split <;> omega
    · rw [if_neg heq]

theorem Within.admit {t : TenantId} {req : ResourceVector} {auth : Authority} {st : Draw} (h : Within s)
    (hfresh : FreshIds env s) (hreq : req.NonNeg) (hadm : Admitted env s t req auth st s') : Within s' := by
  have hres : s'.reservations =
      s.reservations.emplace env.reservationId (s.newReservation env t req auth) :=
    congrArg Ledger.reservations hadm.ledger
  have halloc : s'.allocations = s.allocations := congrArg Ledger.allocations hadm.ledger
  rw [emplace_of_notMem hfresh.reservationId] at hres
  refine ⟨by rw [halloc]; exact h.nonNeg, fun rid r hr d => ?_⟩
  rw [allocatedUse_congr halloc]
  rw [hres] at hr
  by_cases heq : rid = env.reservationId
  · -- no allocation refers to a new id
    subst heq
    rw [lookup_insert] at hr
    cases hr
    have hnone : s.allocatedUse env.reservationId d = 0 :=
      total_eq_zero fun aid a ha => by simp [hfresh.unreferenced aid a ha]
    rw [hnone]
    exact hreq d
  · rw [lookup_insert_ne heq] at hr
    exact h.bounded rid r hr d

end Step

/-! ## Whole runs -/

/-- The calls that make, use and end reservations and allocations. -/
def isAllocating : Call → Bool
  | .reserve .. => true
  | .startAllocation .. => true
  | .resizeAllocation .. => true
  | .releaseAllocation .. => true
  | .release .. => true
  | _ => false

def allocatingCall (s : Engine) (c : Env × Call) : Prop :=
  isAllocating c.2 = true ∧ FreshIds c.1 s ∧ c.2.amount.NonNeg

instance (s : Engine) (c : Env × Call) : Decidable (allocatingCall s c) :=
  inferInstanceAs (Decidable (_ ∧ _ ∧ _))

theorem after_within {s : Engine} {c : Env × Call} (hc : allocatingCall s c ∧ s.ResizeFits c.2)
    (h : Within s) : Within (s.after c) := by
  obtain ⟨env, c⟩ := c
  obtain ⟨⟨hkind, hfresh, hamount⟩, hfits⟩ := hc
  have hstep : CallStep env s c (s.after (env, c)) := exec_callStep hfresh.toFreshLoans hamount
  generalize s.after (env, c) = s' at hstep ⊢
  cases hstep with
  | kept c hsame =>
    exact h.keep (congrArg Ledger.reservations hsame.ledger) (congrArg Ledger.allocations hsame.ledger)
  | rolledBack hback => exact h.keep hback.frame.reservations hback.frame.allocations
  | admitted hadm => exact h.admit hfresh hamount hadm
  | started hr hact hsync => exact h.start hfresh hamount hsync
  | resized hgen ha hact hts hsync => exact h.resize hamount ha hact hgen hfits hsync
  | stopped ha hact hsync => exact h.stop ha hsync
  | released hr hact hmid hsync =>
    rw [hmid] at hsync
    exact h.drop hsync
  | committed => cases hkind
  | borrowed => cases hkind
  | lent => cases hkind
  | recalled => cases hkind
  | observed => cases hkind

/-- **Allocations stay within their reservation**, in runs whose resizes leave room. -/
theorem allocations_within_reservation {s₀ s : Engine} {l : List (Env × Call)} (hstart : Configured s₀)
    (hrun : Run Engine.after (fun s c => allocatingCall s c ∧ s.ResizeFits c.2) s₀ l s) :
    ∀ rid r, s.reservations.lookup rid = some r → activeRes r = true →
      ∀ d, s.allocatedUse rid d ≤ r.resources.get d := by
  have hwithin : Within s := by
    refine hrun.invariant ⟨?_, ?_⟩ fun _ _ h hc => after_within hc h
    · rw [hstart.allocations]
      exact fun aid a ha => by cases ha
    · rw [hstart.reservations]
      exact fun rid r hr => by cases hr
  exact fun rid r hr _ => hwithin.bounded rid r hr

/-- Reserve 10, start an allocation of some size, and grow its use by 20. -/
def startAndGrow (size : Int) : List (Env × Call) :=
  [(.numbered 1, .reserve lendingTenant (.fromScalar .acceleratorVRAM 10) firstAuthority),
   (.numbered 2, .startAllocation ⟨0, 1⟩ (.fromScalar .acceleratorVRAM size) firstAuthority),
   (.numbered 3, .resizeAllocation ⟨0, 2⟩ (.fromScalar .acceleratorVRAM 20) firstAuthority)]

theorem allocations_within_reservation_startAndGrow :
    ((startAndGrow 10).foldl Engine.after borrowerAndLender).allocatedUse ⟨0, 1⟩ .acceleratorVRAM = 10 ∧
    ∀ rid r, ((startAndGrow 10).foldl Engine.after borrowerAndLender).reservations.lookup rid = some r →
      activeRes r = true → ∀ d,
        ((startAndGrow 10).foldl Engine.after borrowerAndLender).allocatedUse rid d ≤ r.resources.get d :=
  ⟨by decide +kernel,
    allocations_within_reservation borrowerAndLender_configured (Run.of_check _ _ (by decide +kernel))⟩

/-- **An allocation larger than its reservation**: the reservation holds 10, the allocation uses 20. -/
theorem oversized_allocation :
    Run Engine.after allocatingCall borrowerAndLender (startAndGrow 20)
        ((startAndGrow 20).foldl Engine.after borrowerAndLender) ∧
    ∃ r, ((startAndGrow 20).foldl Engine.after borrowerAndLender).reservations.lookup ⟨0, 1⟩ = some r ∧
      activeRes r = true ∧
      ¬ ((startAndGrow 20).foldl Engine.after borrowerAndLender).allocatedUse ⟨0, 1⟩ .acceleratorVRAM ≤
        r.resources.get .acceleratorVRAM := by
  refine ⟨Run.of_check _ _ (by decide +kernel), ?_⟩
  have hfound : (((startAndGrow 20).foldl Engine.after borrowerAndLender).reservations.lookup ⟨0, 1⟩).any
      (fun r => activeRes r && decide (¬ ((startAndGrow 20).foldl Engine.after borrowerAndLender).allocatedUse
        ⟨0, 1⟩ .acceleratorVRAM ≤ r.resources.get .acceleratorVRAM)) = true := by decide +kernel
  obtain ⟨r, hr, hp⟩ := (Option.any_eq_true _ _).mp hfound
  rw [Bool.and_eq_true, decide_eq_true_iff] at hp
  exact ⟨r, hr, hp⟩

end Engine

end QuotaFabric
