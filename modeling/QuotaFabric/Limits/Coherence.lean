import QuotaFabric.Engine.Controls
import QuotaFabric.Loans.Lending

/-!
# Coherent lattices

A lattice is coherent when, on every dimension, guaranteed ≤ soft ≤ hard wherever two of them are set.
`effective_lattice` merges each of the three kinds by its own minimum over the levels that set it, and
`set_tenant_quota` checks a quota only where the tenant has one already.  Neither keeps lattices coherent
on its own.

* `AtMost`, `latticeCoherent_iff` — coherence as three comparisons of vectors;
* `mergeMin_atMost_iff` — when a merged vector is at most another;
* `KeepsOrder` — no level lowers an upper limit below every lower limit of the chain;
* `effective_coherent_iff` — the effective lattice is coherent exactly there;
* `StoresCoherent` — a tenant's first quota is coherent;
* `stored_quotas_coherent` — the run statement, and what the other calls break.
-/

set_option autoImplicit false

namespace QuotaFabric

namespace ResourceVector

/-- `v` is at most `w` on every dimension that both set. -/
def AtMost (v w : ResourceVector) : Prop :=
  ∀ d, v.present d = true → w.present d = true → v.get d ≤ w.get d

instance (v w : ResourceVector) : Decidable (v.AtMost w) :=
  inferInstanceAs (Decidable (∀ d, v.present d = true → w.present d = true → v.get d ≤ w.get d))

end ResourceVector

theorem latticeCoherent_iff (q : ResourceQuota) :
    latticeCoherent q = true ↔
      q.guaranteed.AtMost q.hardLimit ∧ q.softLimit.AtMost q.hardLimit ∧ q.guaranteed.AtMost q.softLimit := by
  have hpair : ∀ (p r : Bool) (x y : Int),
      (!(p && r && decide (x > y))) = true ↔ (p = true → r = true → x ≤ y) := by
    intro p r x y
    cases p <;> cases r <;> simp
  unfold latticeCoherent ResourceVector.AtMost
  simp only [List.all_eq_true, Bool.and_eq_true, hpair]
  constructor
  · intro h
    exact ⟨fun d => (h d (mem_allResourceDimensions d)).1.1, fun d => (h d (mem_allResourceDimensions d)).1.2,
      fun d => (h d (mem_allResourceDimensions d)).2⟩
  · rintro ⟨h1, h2, h3⟩ d -
    exact ⟨⟨h1 d, h2 d⟩, h3 d⟩

/-! ## Merged vectors -/

/-- A merged limit is one of those it is merged from. -/
theorem mergeMin_attained {chain : List ResourceVector} {d : ResourceDimension}
    (h : (mergeMin chain).present d = true) :
    ∃ v ∈ chain, v.present d = true ∧ v.get d = (mergeMin chain).get d := by
  obtain ⟨-, v, hv, hcell⟩ := mergeMin_cell (SparseVec.cell_of_present h)
  refine ⟨v, hv, ?_, ?_⟩
  · unfold SparseVec.present
    rw [hcell]; rfl
  · unfold SparseVec.get at hcell ⊢
    rw [hcell]; rfl

/-- **A merged vector is at most another** exactly when each limit of the second chain has one of the
    first at most it, wherever the first sets the dimension at all. -/
theorem mergeMin_atMost_iff {lower upper : List ResourceVector} (hlower : ∀ v ∈ lower, v.NonNeg)
    (hupper : ∀ w ∈ upper, w.NonNeg) :
    (mergeMin lower).AtMost (mergeMin upper) ↔
      ∀ d, ∀ v ∈ lower, v.present d = true → ∀ w ∈ upper, w.present d = true →
        ∃ u ∈ lower, u.present d = true ∧ u.get d ≤ w.get d := by
  constructor
  · intro h d v hv hpv w hw hpw
    have hlow := mergeMin_le hlower hv hpv
    have hup := mergeMin_le hupper hw hpw
    obtain ⟨u, hu, hpu, heq⟩ := mergeMin_attained hlow.1
    refine ⟨u, hu, hpu, ?_⟩
    rw [heq]
    exact (h d hlow.1 hup.1).trans hup.2
  · intro h d hpl hpu
    obtain ⟨v, hv, hpv, -⟩ := mergeMin_attained hpl
    obtain ⟨w, hw, hpw, heq⟩ := mergeMin_attained hpu
    obtain ⟨u, hu, hpresent, hle⟩ := h d v hv hpv w hw hpw
    rw [← heq]
    exact (mergeMin_le hlower hu hpresent).2.trans hle

/-! ## The effective lattice -/

/-- On every dimension on which some level sets the lower kind, each level that sets the upper kind
    leaves it at or above one of them. -/
def KeepsOrder (chain : List ResourceQuota) (lower upper : ResourceQuota → ResourceVector) : Prop :=
  ∀ d, ∀ p ∈ chain, (lower p).present d = true → ∀ q ∈ chain, (upper q).present d = true →
    ∃ r ∈ chain, (lower r).present d = true ∧ (lower r).get d ≤ (upper q).get d

instance (chain : List ResourceQuota) (lower upper : ResourceQuota → ResourceVector) :
    Decidable (KeepsOrder chain lower upper) := by
  unfold KeepsOrder
  infer_instance

/-- The levels of a chain keep the three kinds in order. -/
def ChainCoherent (chain : List ResourceQuota) : Prop :=
  KeepsOrder chain (·.guaranteed) (·.hardLimit) ∧ KeepsOrder chain (·.softLimit) (·.hardLimit) ∧
    KeepsOrder chain (·.guaranteed) (·.softLimit)

instance (chain : List ResourceQuota) : Decidable (ChainCoherent chain) :=
  inferInstanceAs (Decidable (_ ∧ _ ∧ _))

theorem mergeMin_map_atMost_iff {chain : List ResourceQuota} {lower upper : ResourceQuota → ResourceVector}
    (hlower : ∀ q ∈ chain, (lower q).NonNeg) (hupper : ∀ q ∈ chain, (upper q).NonNeg) :
    (mergeMin (chain.map lower)).AtMost (mergeMin (chain.map upper)) ↔ KeepsOrder chain lower upper := by
  rw [mergeMin_atMost_iff (by simpa using hlower) (by simpa using hupper)]
  unfold KeepsOrder
  simp only [List.mem_map, forall_exists_index, and_imp, forall_apply_eq_imp_iff₂, exists_exists_and_eq_and]

namespace Engine

/-- **Where inheritance keeps lattices coherent**, and with them the bounds of the burst clamp. -/
theorem effective_coherent_iff {s : Engine} (hq : QuotasValid s) (t : TenantId) :
    (latticeCoherent (s.effectiveLattice t) = true ∧
      ∀ d, (s.effectiveLattice t).softLimit.present d = true →
        (s.effectiveLattice t).hardLimit.present d = true →
        0 ≤ hardOf (s.effectiveLattice t) d - softOf (s.effectiveLattice t) d) ↔
      ChainCoherent (s.quotaChain t) := by
  have hvalid := quotaChain_valid hq t
  have hnonneg : ∀ {f : ResourceQuota → ResourceVector}, (∀ q : ResourceQuota, q.Valid → (f q).Valid) →
      ∀ q ∈ s.quotaChain t, (f q).NonNeg := fun hf q hmem d => (hf q (hvalid q hmem) d).1
  have hguaranteed := hnonneg fun _ h => h.guaranteed
  have hsoft := hnonneg fun _ h => h.softLimit
  have hhard := hnonneg fun _ h => h.hardLimit
  have hcoherent : latticeCoherent (s.effectiveLattice t) = true ↔ ChainCoherent (s.quotaChain t) := by
    rw [latticeCoherent_iff, effectiveLattice_guaranteed, effectiveLattice_softLimit,
      effectiveLattice_hardLimit, mergeMin_map_atMost_iff hguaranteed hhard,
      mergeMin_map_atMost_iff hsoft hhard, mergeMin_map_atMost_iff hguaranteed hsoft]
    rfl
  rw [hcoherent]
  refine ⟨fun h => h.1, fun h => ⟨h, fun d hps hph => ?_⟩⟩
  have horder := ((latticeCoherent_iff _).mp (hcoherent.mpr h)).2.1 d hps hph
  unfold hardOf softOf
  rw [if_pos hph, if_pos hps]
  omega

/-- A group that grants 5 units, and a tenant in it that is guaranteed 10. -/
def narrowGroup : List (Env × Call) :=
  [(.numbered 1, .createGroup [] .team none),
   (.numbered 2, .setGroupQuota ⟨0, 1⟩ { hardLimit := .fromScalar .acceleratorVRAM 5 }),
   (.numbered 3, .createTenant ⟨0, 1⟩ [] (some ⟨0, 1⟩) 100),
   (.numbered 4, .setTenantQuota ⟨0, 1⟩
     { guaranteed := .fromScalar .acceleratorVRAM 10, softLimit := .fromScalar .acceleratorVRAM 10 })]

theorem effective_coherent_two_tenants :
    latticeCoherent (borrowerAndLender.effectiveLattice lendingTenant) = true ∧
    ∀ d, (borrowerAndLender.effectiveLattice lendingTenant).softLimit.present d = true →
      (borrowerAndLender.effectiveLattice lendingTenant).hardLimit.present d = true →
      0 ≤ hardOf (borrowerAndLender.effectiveLattice lendingTenant) d -
        softOf (borrowerAndLender.effectiveLattice lendingTenant) d :=
  (effective_coherent_iff borrowerAndLender_quotasValid lendingTenant).mpr (by decide +kernel)

/-- **Two coherent levels, one incoherent lattice**: the hard limit of the group undercuts the soft limit
    and the guarantee of its tenant. -/
theorem effective_incoherent :
    (∀ q ∈ (narrowGroup.foldl Engine.after {}).quotaChain ⟨0, 1⟩, latticeCoherent q = true) ∧
    latticeCoherent ((narrowGroup.foldl Engine.after {}).effectiveLattice ⟨0, 1⟩) = false ∧
    ((narrowGroup.foldl Engine.after {}).effectiveLattice ⟨0, 1⟩).softLimit.present .acceleratorVRAM = true ∧
    ((narrowGroup.foldl Engine.after {}).effectiveLattice ⟨0, 1⟩).hardLimit.present .acceleratorVRAM = true ∧
    hardOf ((narrowGroup.foldl Engine.after {}).effectiveLattice ⟨0, 1⟩) .acceleratorVRAM -
      softOf ((narrowGroup.foldl Engine.after {}).effectiveLattice ⟨0, 1⟩) .acceleratorVRAM = -5 :=
  ⟨by decide +kernel, by decide +kernel, by decide +kernel, by decide +kernel, by decide +kernel⟩

/-! ## Stored quotas -/

/-- Every tenant quota is coherent. -/
def AllCoherent (s : Engine) : Prop := ∀ t q, s.localQuota.lookup t = some q → latticeCoherent q = true

instance (s : Engine) : Decidable s.AllCoherent :=
  inferInstanceAs (Decidable (∀ t q, s.localQuota.lookup t = some q → latticeCoherent q = true))

/-- The first quota of a known tenant is coherent. -/
def StoresCoherent (s : Engine) : Call → Prop
  | .setTenantQuota t q => s.tenantExists t = true → s.localQuota.lookup t = none → latticeCoherent q = true
  | _ => True

instance (s : Engine) (c : Call) : Decidable (s.StoresCoherent c) := by
  apply Call.casesOn (motive := fun c => Decidable (s.StoresCoherent c)) c <;> intros <;> unfold StoresCoherent <;>
    infer_instance

/-- An incoherent quota is refused without effect. -/
def RejectsIncoherent (env : Env) (s : Engine) (c : Call) : Prop :=
  ∀ t q, c = .setTenantQuota t q → latticeCoherent q = false →
    (s.setTenantQuota env t q).1.ok = false ∧ (s.setTenantQuota env t q).2 = s

section Stored

variable {env : Env} {s : Engine}

/-- **`set_tenant_quota`** refuses and changes nothing, or stores the limits it is given. -/
theorem setTenantQuota_cases (env : Env) (s : Engine) (t : TenantId) (q : ResourceQuota) :
    ((s.setTenantQuota env t q).1.ok = false ∧ (s.setTenantQuota env t q).2 = s ∧
      (s.tenantExists t = true → (s.localQuota.lookup t).isSome = true ∧ latticeCoherent q = false)) ∨
    (s.tenantExists t = true ∧ ((s.localQuota.lookup t).isSome = true → latticeCoherent q = true) ∧
      ∃ q', latticeCoherent q' = latticeCoherent q ∧
        (s.setTenantQuota env t q).2.localQuota = s.localQuota.insert t q') := by
  unfold setTenantQuota
  split
  · rename_i hmissing
    exact .inl ⟨rfl, rfl, fun h => (by rw [h] at hmissing; cases hmissing)⟩
  · rename_i hexists
    split
    · rename_i hguard
      exact .inl ⟨rfl, rfl, fun _ => by simpa using hguard⟩
    · rename_i hguard
      refine .inr ⟨by simpa using hexists, fun hsome => ?_, _, ?_, rfl⟩
      · simpa [hsome] using hguard
      · rfl

/-- **A call keeps all quotas coherent, and refuses an incoherent one,** exactly when it does not bring a
    tenant's first quota in an incoherent form. -/
theorem exec_allCoherent_iff (env : Env) (h : s.AllCoherent) (c : Call) :
    (s.exec env c).2.AllCoherent ∧ RejectsIncoherent env s c ↔ s.StoresCoherent c := by
  by_cases hset : ∃ t q, c = .setTenantQuota t q
  · obtain ⟨t, q, rfl⟩ := hset
    show (s.setTenantQuota env t q).2.AllCoherent ∧ _ ↔ _
    rcases setTenantQuota_cases env s t q with ⟨hfail, hsame, hwhy⟩ | ⟨hexists, hguard, q', hq', hstore⟩
    · constructor
      · intro _ hexists hnone
        have hsome := (hwhy hexists).1
        rw [hnone] at hsome
        cases hsome
      · intro _
        refine ⟨by rw [hsame]; exact h, ?_⟩
        rintro _ _ ⟨⟩ -
        exact ⟨hfail, hsame⟩
    · constructor
      · intro hall _ _
        have hnew := hall.1 t q' (by rw [hstore, AList.lookup_insert])
        rw [← hq', hnew]
      · intro hfirst
        have hcoherent : latticeCoherent q = true := by
          cases hl : s.localQuota.lookup t with
          | none => exact hfirst hexists hl
          | some old => exact hguard (by rw [hl]; rfl)
        constructor
        · intro x old hold
          rw [hstore] at hold
          by_cases hx : x = t
          · subst hx
            rw [AList.lookup_insert] at hold
            cases hold
            rw [hq', hcoherent]
          · rw [AList.lookup_insert_ne hx] at hold
            exact h x old hold
        · rintro _ _ ⟨⟩ hno
          rw [hcoherent] at hno
          cases hno
  · have hne : ∀ t q, c ≠ .setTenantQuota t q := fun t q heq => hset ⟨t, q, heq⟩
    have hkeep : (s.exec env c).2.AllCoherent := by
      unfold AllCoherent
      rw [exec_localQuota env s hne]
      exact h
    have hfree : s.StoresCoherent c := by
      cases c with
      | setTenantQuota t q => exact absurd rfl (hne t q)
      | _ => trivial
    exact ⟨fun _ => hfree, fun _ => ⟨hkeep, fun t q heq => absurd heq (hne t q)⟩⟩

end Stored

/-- **Stored quotas are coherent** in every run in which no tenant's first quota is incoherent; in each
    state of it, another such call keeps them so and refuses what is incoherent, and any other does not. -/
theorem stored_quotas_coherent (settings : EngineSettings) {l : List (Env × Call)} {s : Engine}
    (hrun : Run Engine.after (fun s c => s.StoresCoherent c.2) { settings := settings } l s) :
    s.AllCoherent ∧
    ∀ env c, (s.exec env c).2.AllCoherent ∧ RejectsIncoherent env s c ↔ s.StoresCoherent c := by
  have hall : s.AllCoherent :=
    hrun.invariant (I := AllCoherent) (fun t q hq => by cases hq)
      fun x c hx hc => ((exec_allCoherent_iff c.1 hx c.2).mpr hc).1
  exact ⟨hall, fun env c => exec_allCoherent_iff env hall c⟩

/-- A tenant gets a quota and keeps it when an incoherent one is sent. -/
def secondQuota : List (Env × Call) :=
  [(.numbered 1, .createTenant ⟨0, 1⟩ [] none 100),
   (.numbered 2, .setTenantQuota ⟨0, 1⟩ { hardLimit := .fromScalar .acceleratorVRAM 10 }),
   (.numbered 3, .setTenantQuota ⟨0, 1⟩
     { softLimit := .fromScalar .acceleratorVRAM 20, hardLimit := .fromScalar .acceleratorVRAM 10 })]

theorem stored_quotas_coherent_second :
    (secondQuota.foldl Engine.after {}).localQuota.entries.length = 1 ∧
    (secondQuota.foldl Engine.after {}).AllCoherent :=
  ⟨by decide +kernel, (stored_quotas_coherent {} (Run.of_check _ _ (by decide +kernel))).1⟩

/-- A tenant whose first quota has its soft limit above the hard limit. -/
def incoherentFirst : List (Env × Call) :=
  [(.numbered 1, .createTenant ⟨0, 1⟩ [] none 100),
   (.numbered 2, .setTenantQuota ⟨0, 1⟩
     { softLimit := .fromScalar .acceleratorVRAM 20, hardLimit := .fromScalar .acceleratorVRAM 10 })]

/-- **The first quota is not checked.** -/
theorem first_quota_unchecked :
    Run Engine.after anyCall {} incoherentFirst (incoherentFirst.foldl Engine.after {}) ∧
    (∃ q ∈ (incoherentFirst.foldl Engine.after {}).localQuota.lookup ⟨0, 1⟩, latticeCoherent q = false) ∧
    ¬ (incoherentFirst.foldl Engine.after {}).AllCoherent :=
  ⟨Run.of_check _ _ (by decide +kernel), by decide +kernel, by decide +kernel⟩

end Engine

end QuotaFabric
