import QuotaFabric.Loans.Rollback

/-!
# Evaluation and reservation

`evaluate_reservation` and `reserve` share one verdict, but look for lenders differently.  `classify`
asks for an open lending record and any headroom behind it, and only when the amount is over both
the soft and the hard limit.  `reserve` computes the excess over the hard limit on each dimension and
needs one other tenant with headroom for all of it; where there is none it rolls back.

* `OfferedBy`, `LoansOffered` — the offers `reserve` needs, read in the state before the call;
* `lenderFor_isSome_iff` — the search of `borrow_impl` finds a lender exactly when there is an offer;
* `fundLoop_ok_iff` — the funding loop gets through exactly when every loan is offered;
* `reserve_succeeds_iff` — `reserve` succeeds exactly when the evaluation allows the request and every
  loan is offered;
* `allowed_not_reservable` — a request that is allowed above the hard limit, and refused.
-/

set_option autoImplicit false

namespace QuotaFabric

open AList

namespace Engine

/-- `lender` is another tenant with headroom for `x` on `d`. -/
structure OfferedBy (s : Engine) (t : TenantId) (d : ResourceDimension) (x : Int) (lender : TenantId) :
    Prop where
  known : lender ∈ s.tenants
  other : lender ≠ t
  borrowable : (s.effectiveLattice lender).borrowable.present d = true
  headroom : x ≤ s.availableToLend lender d

/-- Every dimension `reserve` has to borrow on is offered in full by one other tenant. -/
def LoansOffered (s : Engine) (t : TenantId) (req : ResourceVector) : Prop :=
  ∀ d, 0 < s.loanNeeded t req d → ∃ lender, s.OfferedBy t d (s.loanNeeded t req d) lender

section Decidable

variable {s : Engine} {t lender : TenantId} {d : ResourceDimension} {x : Int}

theorem offeredBy_iff : s.OfferedBy t d x lender ↔ lender ∈ s.tenants ∧ lender ≠ t ∧
    (s.effectiveLattice lender).borrowable.present d = true ∧ x ≤ s.availableToLend lender d :=
  ⟨fun h => ⟨h.known, h.other, h.borrowable, h.headroom⟩, fun ⟨h₁, h₂, h₃, h₄⟩ => ⟨h₁, h₂, h₃, h₄⟩⟩

instance : Decidable (s.OfferedBy t d x lender) := decidable_of_iff' _ offeredBy_iff

instance (req : ResourceVector) : Decidable (s.LoansOffered t req) :=
  decidable_of_iff (∀ d, 0 < s.loanNeeded t req d →
      ∃ lender ∈ s.tenants.keys, s.OfferedBy t d (s.loanNeeded t req d) lender)
    (forall_congr' fun _ => imp_congr_right fun _ =>
      ⟨fun ⟨lender, _, h⟩ => ⟨lender, h⟩, fun ⟨lender, h⟩ => ⟨lender, h.known, h⟩⟩)

end Decidable

/-! ## Finding a lender -/

/-- A loan on one dimension is granted by the headroom on that dimension alone. -/
theorem canLend_fromScalar_iff {s : Engine} {lender : TenantId} {d : ResourceDimension} {x : Int}
    (hx : 0 < x) :
    s.canLend lender (.fromScalar d x) = true ↔
      (s.effectiveLattice lender).borrowable.present d = true ∧ x ≤ s.availableToLend lender d := by
  have hpd : (ResourceVector.fromScalar d x).present d = true := by
    rw [ResourceVector.present_fromScalar hx.le]
    exact decide_eq_true rfl
  have hget : (ResourceVector.fromScalar d x).get d = x := ResourceVector.get_fromScalar_self hx.le
  constructor
  · intro h
    have hd := canLend_apply h hpd
    rw [hget] at hd
    exact hd
  · rintro ⟨hb, hle⟩
    unfold canLend
    refine List.all_eq_true.mpr fun e _ => ?_
    by_cases he : e = d
    · subst he
      simp [hb, hget, hle]
    · -- no other dimension is asked for
      have habs : (ResourceVector.fromScalar d x).present e = false := by
        rw [ResourceVector.present_fromScalar hx.le]
        exact decide_eq_false he
      simp [habs]

theorem chooseLender_isSome_iff {env : Env} {s : Engine} {t : TenantId} {amount : ResourceVector} :
    (s.chooseLender env t amount).isSome = true ↔
      ∃ lender, lender ∈ s.tenants ∧ lender ≠ t ∧ s.canLend lender amount = true := by
  unfold chooseLender
  rw [Option.isSome_map, List.find?_isSome]
  constructor
  · rintro ⟨e, he, hp⟩
    simp only [Bool.and_eq_true, Bool.not_eq_true', beq_eq_false_iff_ne] at hp
    have hl := lookup_of_mem_entries (env.tenantOrder.mem_run.mp he)
    exact ⟨e.1, mem_of_lookup hl, hp.1, hp.2⟩
  · rintro ⟨lender, hmem, hne, hcan⟩
    obtain ⟨tn, htn⟩ := exists_lookup_of_mem hmem
    refine ⟨⟨lender, tn⟩, env.tenantOrder.mem_run.mpr (lookup_eq_some_iff.mp htn), ?_⟩
    simp [hne, hcan]

theorem lenderFor_isSome_iff {env : Env} {s : Engine} {t : TenantId} {req : ResourceVector}
    {d : ResourceDimension} (hd : 0 < s.loanNeeded t req d) :
    (s.lenderFor env t req d).isSome = true ↔
      ∃ lender, s.OfferedBy t d (s.loanNeeded t req d) lender := by
  unfold lenderFor
  rw [chooseLender_isSome_iff]
  constructor
  · rintro ⟨lender, hmem, hne, hcan⟩
    obtain ⟨hb, hle⟩ := (canLend_fromScalar_iff hd).mp hcan
    exact ⟨lender, hmem, hne, hb, hle⟩
  · rintro ⟨lender, h⟩
    exact ⟨lender, h.known, h.other, (canLend_fromScalar_iff hd).mpr ⟨h.borrowable, h.headroom⟩⟩

/-! ## Main result -/

section Main

variable {env : Env} {s : Engine} {t : TenantId} {req : ResourceVector} {auth : Authority}

/-- The funding loop gets through exactly when every loan is offered. -/
theorem fundLoop_ok_iff (env : Env) :
    (∃ st, fundLoop env (s.effectiveLattice t) (s.committed t) t req allResourceDimensions
        { engine := s.modifyUsage t id } = .ok st) ↔ LoansOffered s t req := by
  constructor
  · rintro ⟨st, hloop⟩ d hd
    have hnd := allResourceDimensions_nodup
    have hstart := sameOffers_start (s := s) (t := t)
    rw [← List.append_nil allResourceDimensions] at hnd hstart
    obtain ⟨-, hall, -⟩ := fundLoop_drawn _ [] _ st hnd hstart hloop
    exact (lenderFor_isSome_iff hd).mp (hall d (mem_allResourceDimensions d) hd)
  · intro hoffers
    cases hloop : fundLoop env (s.effectiveLattice t) (s.committed t) t req allResourceDimensions
        { engine := s.modifyUsage t id } with
    | ok st => exact ⟨st, rfl⟩
    | error err =>
      obtain ⟨-, d, -, -, -, -, hd, hnone, -⟩ := fundLoop_stuck hloop
      have hsome : (s.lenderFor env t req d).isSome = true := (lenderFor_isSome_iff hd).mpr (hoffers d hd)
      rw [hnone] at hsome
      cases hsome

/-- The loans of an admitted reservation were offered. -/
theorem Admitted.offered {st : Draw} {s' : Engine} (h : Admitted env s t req auth st s') : s.LoansOffered t req :=
  (fundLoop_ok_iff env).mp ⟨st, h.funded⟩

/-- A `reserve` that is refused before it draws anything fails. -/
theorem reserve_fails_of_refused (h : ¬ Accepted env s t req auth) :
    (s.reserve env t req auth).1.status.ok = false := by
  unfold reserve
  split
  · rfl
  split
  · rfl
  split
  · rfl
  rename_i hauth
  split
  · rfl
  rename_i hten
  simp only
  split
  · rfl
  rename_i hall
  exact absurd ⟨by simpa using hauth, by simpa using hten, by simpa using hall⟩ h

theorem reserve_ok_of_accepted (h : Accepted env s t req auth) :
    (s.reserve env t req auth).1.status.ok = true ↔ LoansOffered s t req := by
  rw [reserve_of_accepted h, ← fundLoop_ok_iff env]
  cases hloop : fundLoop env (s.effectiveLattice t) (s.committed t) t req allResourceDimensions
      { engine := s.modifyUsage t id } with
  | ok st => exact ⟨fun _ => ⟨st, rfl⟩, fun _ => rfl⟩
  | error err =>
    obtain ⟨-, -, -, -, -, -, -, -, -, -, -, hfail⟩ := fundLoop_stuck hloop
    constructor
    · intro hok
      rw [show err.1.ok = true from hok] at hfail
      cases hfail
    · rintro ⟨st, hst⟩
      cases hst

/-- **With the current authority `reserve` succeeds exactly when the evaluation allows the request
    and every loan it needs is offered.** -/
theorem reserve_succeeds_iff (hauth : s.validAuthority auth = true) (ht : t ∈ s.tenants) :
    (s.reserve env t req auth).1.status.ok = true ↔
      (s.evaluateReservation env t req).allowed = true ∧ LoansOffered s t req := by
  have hten : s.tenantExists t = true := lookup_isSome.mpr ht
  by_cases hall : (s.classify env t req).allowed = true
  · rw [reserve_ok_of_accepted ⟨hauth, hten, hall⟩]
    exact ⟨fun h => ⟨hall, h⟩, fun h => h.2⟩
  · constructor
    · intro hok
      rw [reserve_fails_of_refused fun hacc => hall hacc.allowed] at hok
      cases hok
    · exact fun h => absurd h.1 hall

end Main

/-! ## Runs -/

/-- A reservation that needs no loan, in the state after four calls. -/
theorem reserve_succeeds_below_limits :
    (limitedEngine.reserve (.numbered 5) cappedTenant (.fromScalar .pageableHostRAM 10)
        thirdGeneration).1.status.ok = true ↔
      (limitedEngine.evaluateReservation (.numbered 5) cappedTenant
        (.fromScalar .pageableHostRAM 10)).allowed = true ∧
      LoansOffered limitedEngine cappedTenant (.fromScalar .pageableHostRAM 10) :=
  reserve_succeeds_iff (by decide +kernel) (by decide +kernel)

/-- **In that state a request is evaluated as allowed and cannot be reserved.**  The evaluation lets 15 through
    at the soft ceiling, without a look at the hard limit of 10; the reservation needs a loan for the 5
    above it, and nobody lends on one of the dimensions. -/
theorem allowed_not_reservable :
    Run Engine.after (fun s c => FreshIds c.1 s) {} limitedAndLender limitedEngine ∧
      cappedTenant ∈ limitedEngine.tenants ∧ limitedEngine.validAuthority thirdGeneration = true ∧
      ¬ ((limitedEngine.reserve (.numbered 5) cappedTenant overBothLimits
            thirdGeneration).1.status.ok = true ↔
          (limitedEngine.evaluateReservation (.numbered 5) cappedTenant
            overBothLimits).allowed = true) := by
  have hrun : Run Engine.after (fun s c => FreshIds c.1 s) {} limitedAndLender
      (limitedAndLender.foldl Engine.after {}) := Run.of_check _ _ (by decide +kernel)
  have hfail : (limitedEngine.reserve (.numbered 5) cappedTenant overBothLimits
      thirdGeneration).1.status.ok = false := by decide +kernel
  have hallowed : (limitedEngine.evaluateReservation (.numbered 5) cappedTenant
      overBothLimits).allowed = true := by decide +kernel
  refine ⟨hrun, by decide +kernel, by decide +kernel, fun h => ?_⟩
  rw [h.mpr hallowed] at hfail
  cases hfail

end Engine

end QuotaFabric
