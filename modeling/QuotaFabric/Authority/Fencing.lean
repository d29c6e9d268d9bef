import QuotaFabric.Engine.Trace
import QuotaFabric.Engine.Lattice

/-!
# Which stale authorities are fenced off

An `Authority` carries the epoch, the quota generation and the policy generation its sender knew.
Nine calls take one.  Four check all three components; the other five check one or two of them.

* `Fenced` — the call fails and changes nothing;
* `Checks` — the condition, call by call, under which a stale authority is stopped: a component
  that the call compares is stale, or the call is refused for another reason;
* `fenced_iff` — a call with a stale authority is fenced exactly under that condition;
* `stale_release_succeeds` — a release under an outdated quota generation goes through.
-/

set_option autoImplicit false

namespace QuotaFabric

open AList

/-- The authority a call carries. -/
def Call.authority : Call → Option Authority
  | .reserve _ _ auth => some auth
  | .commitReservation _ auth => some auth
  | .startAllocation _ _ auth => some auth
  | .resizeAllocation _ _ auth => some auth
  | .release _ auth => some auth
  | .releaseAllocation _ auth => some auth
  | .borrow _ _ auth => some auth
  | .lend _ _ _ auth => some auth
  | .recallBorrow _ auth => some auth
  | _ => none

namespace Engine

/-- The call fails and the state stays as it is. -/
def Fenced (env : Env) (s : Engine) (c : Call) : Prop :=
  (s.exec env c).1.ok = false ∧ (s.exec env c).2 = s

/-- A resize that is denied, and that leaves neither a trace in the allocation nor in the log. -/
def DeniedSilently (env : Env) (s : Engine) (delta : ResourceVector) (a : Allocation) : Prop :=
  resizeDenied (s.classify env a.tenant a.resources).code = true ∧ resizedUse a delta = a.used ∧
    (s.emitEvent env .violation a.tenant (text "allocation resize would violate quota")).events = s.events

/-- Why a call with a stale authority is stopped, if it is. -/
def Checks (env : Env) (s : Engine) : Call → Prop
  | .commitReservation rid auth =>
    s.staleEpoch auth = true ∨ s.staleQuotaGen auth = true ∨
      ∀ r, s.reservations.lookup rid = some r → r.status ≠ .committed ∧ r.status ≠ .provisional
  | .resizeAllocation aid delta auth =>
    s.staleQuotaGen auth = true ∨
      ∀ a, s.allocations.lookup aid = some a → a.active = true → DeniedSilently env s delta a
  | .release rid auth =>
    s.staleEpoch auth = true ∨ ∀ r, s.reservations.lookup rid = some r → activeRes r = false
  | .releaseAllocation aid auth =>
    s.staleQuotaGen auth = true ∨ ∀ a, s.allocations.lookup aid = some a → a.active = false
  | .recallBorrow bid auth =>
    s.staleEpoch auth = true ∨ ∀ b, s.borrows.lookup bid = some b → b.recalled = true
  | _ => True

/-! ## Calls that compare every component -/

section All

variable (env : Env) {s : Engine} {auth : Authority} (h : s.validAuthority auth = false)

include h

theorem reserve_fenced (t : TenantId) (req : ResourceVector) : Fenced env s (.reserve t req auth) := by
  unfold Fenced exec reserve
  simp only
  by_cases h1 : s.staleEpoch auth = true
  · simp [h1, QuotaResult.status, QuotaStatus.failure]
  · by_cases h2 : s.staleQuotaGen auth = true
    · simp [h1, h2, QuotaResult.status, QuotaStatus.failure]
    · simp [h1, h2, h, QuotaResult.status, QuotaStatus.failure]

theorem startAllocation_fenced (rid : ReservationId) (req : ResourceVector) :
    Fenced env s (.startAllocation rid req auth) := by
  unfold Fenced exec startAllocation
  simp [h, QuotaResult.status, QuotaStatus.failure]

theorem borrow_fenced (b : TenantId) (amount : ResourceVector) :
    Fenced env s (.borrow b amount auth) := by
  unfold Fenced exec borrow
  simp [h, QuotaResult.status, QuotaStatus.failure]

theorem lend_fenced (l b : TenantId) (amount : ResourceVector) :
    Fenced env s (.lend l b amount auth) := by
  unfold Fenced exec lend
  simp [h, QuotaResult.status, QuotaStatus.failure]

end All

/-! ## Calls that compare some components -/

section Some

variable (env : Env) (s : Engine) (auth : Authority)

theorem commitReservation_fenced_iff (rid : ReservationId) :
    Fenced env s (.commitReservation rid auth) ↔ Checks env s (.commitReservation rid auth) := by
  unfold Fenced exec commitReservation Checks
  simp only
  by_cases h1 : s.staleEpoch auth = true
  · simp [h1, QuotaStatus.failure]
  by_cases h2 : s.staleQuotaGen auth = true
  · simp [h1, h2, QuotaStatus.failure]
  cases hr : s.reservations.lookup rid with
  | none => simp [h1, h2, QuotaStatus.failure]
  | some r =>
    by_cases hc : r.status = .committed
    · simp [h1, h2, hc, QuotaStatus.success]
    · by_cases hp : r.status = .provisional
      · simp [h1, h2, hp, QuotaStatus.success]
      · simp [h1, h2, hc, hp, QuotaStatus.failure]

theorem release_fenced_iff (rid : ReservationId) :
    Fenced env s (.release rid auth) ↔ Checks env s (.release rid auth) := by
  unfold Fenced exec release Checks
  simp only
  by_cases h1 : s.staleEpoch auth = true
  · simp [h1, QuotaStatus.failure]
  cases hr : s.reservations.lookup rid with
  | none => simp [h1, QuotaStatus.failure]
  | some r =>
    cases ha : activeRes r with
    | false => simp [h1, ha, QuotaStatus.failure]
    | true => simp [h1, ha, QuotaStatus.success]

theorem releaseAllocation_fenced_iff (aid : AllocationId) :
    Fenced env s (.releaseAllocation aid auth) ↔ Checks env s (.releaseAllocation aid auth) := by
  unfold Fenced exec releaseAllocation Checks
  simp only
  by_cases h1 : s.staleQuotaGen auth = true
  · simp [h1, QuotaStatus.failure]
  cases hr : s.allocations.lookup aid with
  | none => simp [h1, QuotaStatus.failure]
  | some a =>
    cases ha : a.active with
    | false => simp [h1, ha, QuotaStatus.failure]
    | true => simp [h1, ha, QuotaStatus.success]

theorem recallBorrow_fenced_iff (bid : BorrowId) :
    Fenced env s (.recallBorrow bid auth) ↔ Checks env s (.recallBorrow bid auth) := by
  unfold Fenced exec recallBorrow Checks
  simp only
  by_cases h1 : s.staleEpoch auth = true
  · simp [h1, QuotaStatus.failure]
  cases hr : s.borrows.lookup bid with
  | none => simp [h1, QuotaStatus.failure]
  | some b =>
    unfold returnBorrow
    cases hb : b.recalled with
    | true => simp [h1, hr, hb, QuotaStatus.failure]
    | false => simp [h1, hr, hb, QuotaStatus.success]

theorem resizeAllocation_fenced_iff (aid : AllocationId) (delta : ResourceVector) :
    Fenced env s (.resizeAllocation aid delta auth) ↔
      Checks env s (.resizeAllocation aid delta auth) := by
  change (s.resizeAllocation env aid delta auth).1.ok = false ∧
    (s.resizeAllocation env aid delta auth).2 = s ↔ _
  unfold resizeAllocation Checks
  simp only
  by_cases h1 : s.staleQuotaGen auth = true
  · simp [h1, QuotaStatus.failure]
  cases hr : s.allocations.lookup aid with
  | none => simp [h1, QuotaStatus.failure]
  | some a =>
    cases ha : a.active with
    | false => simp [h1, ha, QuotaStatus.failure]
    | true =>
      obtain ⟨m, hm⟩ : ∃ m, m = s.allocations.modify aid fun x => { x with used := resizedUse a delta } :=
        ⟨_, rfl⟩
      have hconf : SameConfig s { s with allocations := m } := ⟨rfl, rfl, rfl, rfl, rfl, rfl, rfl⟩
      have hread : ({ s with allocations := m } : Engine).classify env a.tenant a.resources =
          s.classify env a.tenant a.resources :=
        classify_congr hconf (fun _ => rfl) rfl a.tenant a.resources
      simp only [h1, Bool.false_eq_true, if_false, ha, Bool.not_true, ← hm, hread, false_or,
        Option.some.injEq, forall_eq', forall_const]
      cases hd : resizeDenied (s.classify env a.tenant a.resources).code with
      | false => simp [DeniedSilently, hd, QuotaStatus.success]
      | true =>
        simp only [if_true, DeniedSilently, hd, true_and, QuotaStatus.failure]
        -- the map stays as it is exactly when the stored use does
        have hmap : m = s.allocations ↔ resizedUse a delta = a.used := by
          constructor
          · intro heq
            have hlook := lookup_modify_self aid
              (fun x : Allocation => { x with used := resizedUse a delta }) s.allocations
            rw [← hm, heq, hr, Option.map_some, Option.some.injEq] at hlook
            exact (congrArg Allocation.used hlook).symm
          · intro heq
            rw [hm]
            apply modify_eq_self
            intro b hb
            rw [hr] at hb
            cases hb
            rw [heq]
        rw [← hmap]
        constructor
        · intro heq
          have hev := congrArg Engine.events heq
          exact ⟨congrArg Engine.allocations heq, hev⟩
        · rintro ⟨halloc, hev⟩
          rw [halloc]
          unfold emitEvent at *
          simp only at *
          rw [hev]

end Some

/-- **A call with a stale authority is fenced off exactly when a component it compares is stale, or
    it is refused anyway.** -/
theorem fenced_iff (env : Env) (s : Engine) (c : Call) (auth : Authority)
    (hauth : c.authority = some auth) (hstale : s.validAuthority auth = false) :
    Fenced env s c ↔ Checks env s c := by
  cases c with
  | reserve t req auth' =>
    cases hauth
    exact iff_of_true (reserve_fenced env hstale t req) trivial
  | commitReservation rid auth' => exact commitReservation_fenced_iff env s auth' rid
  | startAllocation rid req auth' =>
    cases hauth
    exact iff_of_true (startAllocation_fenced env hstale rid req) trivial
  | resizeAllocation aid delta auth' => exact resizeAllocation_fenced_iff env s auth' aid delta
  | release rid auth' => exact release_fenced_iff env s auth' rid
  | releaseAllocation aid auth' => exact releaseAllocation_fenced_iff env s auth' aid
  | borrow b amount auth' =>
    cases hauth
    exact iff_of_true (borrow_fenced env hstale b amount) trivial
  | lend l b amount auth' =>
    cases hauth
    exact iff_of_true (lend_fenced env hstale l b amount) trivial
  | recallBorrow bid auth' => exact recallBorrow_fenced_iff env s auth' bid
  | _ => cases hauth

/-- A tenant guaranteed 100. -/
def oneTenant : Engine :=
  { tenants := (∅ : UMap TenantId Tenant).insert ⟨0, 1⟩ { id := ⟨0, 1⟩ }
    localQuota := (∅ : UMap TenantId ResourceQuota).insert ⟨0, 1⟩
      { guaranteed := .fromScalar .acceleratorVRAM 100 } }

/-- The epoch is current, the quota and the policy generation are not. -/
def outdatedAuthority : Authority :=
  { epoch := .initial, quotaGeneration := .next .initial, policyGeneration := .next .initial }

theorem fenced_iff_outdated_reserve :
    oneTenant.validAuthority outdatedAuthority = false ∧
      Fenced (.numbered 1) oneTenant
        (.reserve ⟨0, 1⟩ (.fromScalar .acceleratorVRAM 5) outdatedAuthority) :=
  ⟨by decide,
    (fenced_iff (.numbered 1) oneTenant
      (.reserve ⟨0, 1⟩ (.fromScalar .acceleratorVRAM 5) outdatedAuthority) outdatedAuthority rfl
      (by decide)).mpr trivial⟩

/-- The first reservation of `oneTenant`. -/
def oneReservation : List (Env × Call) :=
  [(.numbered 1, .reserve ⟨0, 1⟩ (.fromScalar .acceleratorVRAM 5)
    { epoch := .initial, quotaGeneration := .initial })]

/-- In a reachable state, a release under an outdated quota and policy generation succeeds and
    drops the reservation. -/
theorem stale_release_succeeds :
    Run Engine.after coreCall oneTenant oneReservation (oneReservation.foldl Engine.after oneTenant) ∧
    (oneReservation.foldl Engine.after oneTenant).validAuthority outdatedAuthority = false ∧
    ((oneReservation.foldl Engine.after oneTenant).exec (.numbered 2)
      (.release ⟨0, 1⟩ outdatedAuthority)).1.ok = true ∧
    (oneReservation.foldl Engine.after oneTenant).reservations.entries.length = 1 ∧
    ((oneReservation.foldl Engine.after oneTenant).exec (.numbered 2)
      (.release ⟨0, 1⟩ outdatedAuthority)).2.reservations.entries.length = 0 ∧
    ¬ Fenced (.numbered 2) (oneReservation.foldl Engine.after oneTenant)
      (.release ⟨0, 1⟩ outdatedAuthority) := by
  have hok : ((oneReservation.foldl Engine.after oneTenant).exec (.numbered 2)
      (.release ⟨0, 1⟩ outdatedAuthority)).1.ok = true := by decide +kernel
  refine ⟨Run.of_check _ _ (by decide +kernel), by decide +kernel, hok, by decide +kernel,
    by decide +kernel, fun h => ?_⟩
  rw [h.1] at hok
  cases hok

end Engine

end QuotaFabric
