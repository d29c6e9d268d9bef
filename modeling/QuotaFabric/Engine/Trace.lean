import QuotaFabric.Engine.Calls
import QuotaFabric.Lib.Runs

/-!
# Runs of calls

The vocabulary every property of whole runs is stated in: the amount a call asks for, the total
asked for in a run, the freshness of the ids a call makes, and the engines runs start from.

`exec_sameLoans` says which calls leave the loan records alone.
-/

set_option autoImplicit false

namespace QuotaFabric

open AList

/-- The resource vector a call brings with it. -/
def Call.amount : Call → ResourceVector
  | .reserve _ req _ => req
  | .startAllocation _ req _ => req
  | .resizeAllocation _ delta _ => delta
  | .borrow _ amount _ => amount
  | .lend _ _ amount _ => amount
  | _ => .empty

/-- Ids as counters would hand them out to the `n`-th call. -/
def Env.numbered (n : UInt64) : Env :=
  { tenantId := ⟨0, n⟩, groupId := ⟨0, n⟩, reservationId := ⟨0, n⟩, allocationId := ⟨0, n⟩
    borrowId := fun d => ⟨n, UInt64.ofNat (allResourceDimensions.idxOf d)⟩
    lendingId := fun d => ⟨n, UInt64.ofNat (allResourceDimensions.idxOf d)⟩ }

/-- What a sequence of calls asks for on `d`. -/
def totalRequested (l : List (Env × Call)) (d : ResourceDimension) : Int :=
  (l.map fun c => c.2.amount.get d).sum

theorem totalRequested_snoc (l : List (Env × Call)) (c : Env × Call) (d : ResourceDimension) :
    totalRequested (l ++ [c]) d = totalRequested l d + c.2.amount.get d := by
  unfold totalRequested
  simp

/-- The calls that reserve, commit, release and move loans. -/
def Call.isCore : Call → Bool
  | .reserve .. => true
  | .commitReservation .. => true
  | .release .. => true
  | .borrow .. => true
  | .lend .. => true
  | .recallBorrow .. => true
  | _ => false

namespace Engine

/-- The ids a call makes are new, in every map they are used in. -/
structure FreshIds (env : Env) (s : Engine) : Prop extends FreshLoans env s where
  reservationId : env.reservationId ∉ s.reservations
  fundingId : env.reservationId ∉ s.funding
  unreferenced : ∀ aid a, s.allocations.lookup aid = some a → a.reservation ≠ env.reservationId
  allocationId : env.allocationId ∉ s.allocations
  groupId : env.groupId ∉ s.groups
  unparented : ∀ g gr, s.groups.lookup g = some gr → gr.parent ≠ some env.groupId

instance (env : Env) (s : Engine) : Decidable (FreshIds env s) :=
  decidable_of_iff
    (((∀ d, env.borrowId d ∉ s.borrows) ∧ (∀ d, env.lendingId d ∉ s.lends) ∧
        Function.Injective env.borrowId ∧ Function.Injective env.lendingId) ∧
      env.reservationId ∉ s.reservations ∧ env.reservationId ∉ s.funding ∧
      (∀ aid a, s.allocations.lookup aid = some a → a.reservation ≠ env.reservationId) ∧
      env.allocationId ∉ s.allocations ∧ env.groupId ∉ s.groups ∧
      ∀ g gr, s.groups.lookup g = some gr → gr.parent ≠ some env.groupId)
    ⟨fun ⟨⟨h1, h2, h3, h4⟩, h5, h6, h7, h8, h9, h10⟩ => ⟨⟨h1, h2, h3, h4⟩, h5, h6, h7, h8, h9, h10⟩,
      fun h => ⟨⟨h.borrowId, h.lendingId, h.borrowId_injective, h.lendingId_injective⟩,
        h.reservationId, h.fundingId, h.unreferenced, h.allocationId, h.groupId, h.unparented⟩⟩

/-- A core call with new ids and a non-negative amount. -/
def coreCall (s : Engine) (c : Env × Call) : Prop :=
  c.2.isCore = true ∧ FreshIds c.1 s ∧ c.2.amount.NonNeg

instance (s : Engine) (c : Env × Call) : Decidable (coreCall s c) :=
  inferInstanceAs (Decidable (_ ∧ _ ∧ _))

/-- Only the configuration is there: no records, no counters. -/
structure Configured (s : Engine) : Prop where
  usage : s.usage = ∅
  reservations : s.reservations = ∅
  funding : s.funding = ∅
  allocations : s.allocations = ∅
  borrows : s.borrows = ∅
  lends : s.lends = ∅

theorem Configured.usageOf {s : Engine} (h : Configured s) (x : TenantId) : s.usageOf x = {} := by
  unfold Engine.usageOf
  rw [h.usage]; rfl

/-- An engine starts in the first epoch and quota generation, and with no policy. -/
def firstAuthority : Authority := { epoch := .initial, quotaGeneration := .initial }

def cappedTenant : TenantId := ⟨0, 1⟩

def lendingTenant : TenantId := ⟨0, 2⟩

/-- A tenant with a hard limit of 10 and nothing else, and a tenant guaranteed 100 that offers 60. -/
def borrowerAndLender : Engine :=
  { tenants := ((∅ : UMap TenantId Tenant).insert cappedTenant { id := cappedTenant }).insert
      lendingTenant { id := lendingTenant }
    localQuota := ((∅ : UMap TenantId ResourceQuota).insert cappedTenant
        { hardLimit := .fromScalar .acceleratorVRAM 10 }).insert lendingTenant
          { guaranteed := .fromScalar .acceleratorVRAM 100
            borrowable := .fromScalar .acceleratorVRAM 60 } }

theorem borrowerAndLender_configured : Configured borrowerAndLender := ⟨rfl, rfl, rfl, rfl, rfl, rfl⟩

/-- The loan records, and which reservation lists which loan, are the same. -/
structure SameLoans (s s' : Engine) : Prop where
  borrows : s'.borrows = s.borrows
  lends : s'.lends = s.lends
  funding : s'.funding = s.funding

theorem SameLoans.refl (s : Engine) : SameLoans s s := ⟨rfl, rfl, rfl⟩

theorem Resynced.sameLoans {env : Env} {s₀ s s' : Engine} {ts : List TenantId}
    (h : Resynced env s s' ts) (h₀ : SameLoans s₀ s) : SameLoans s₀ s' :=
  ⟨h.borrows.trans h₀.borrows, h.lends.trans h₀.lends, h.funding.trans h₀.funding⟩

theorem createTenant_sameLoans (env : Env) (s : Engine) (id : TenantId) (name : Str)
    (group : Option TenantGroupId) (priority : UInt32) :
    SameLoans s (s.createTenant env id name group priority).2 := by
  unfold createTenant
  repeat' split
  all_goals exact ⟨rfl, rfl, rfl⟩

theorem applyObservation_sameLoans (env : Env) (s : Engine) (obs : Observation) :
    SameLoans s (s.applyObservation env obs).2 := by
  unfold applyObservation
  split
  · exact .refl s
  · cases obs.kind
    all_goals simp only
    all_goals try split
    all_goals exact ⟨rfl, rfl, rfl⟩

/-- Only the core calls touch loans or funding. -/
theorem exec_sameLoans (env : Env) (s : Engine) {c : Call} (hc : c.isCore = false) :
    SameLoans s (s.exec env c).2 := by
  cases c with
  | reserve t req auth => cases hc
  | commitReservation rid auth => cases hc
  | release rid auth => cases hc
  | borrow b amount auth => cases hc
  | lend l b amount auth => cases hc
  | recallBorrow bid auth => cases hc
  | setPolicy policy =>
    change SameLoans s (s.setPolicy env policy).2
    unfold setPolicy
    split <;> exact ⟨rfl, rfl, rfl⟩
  | advanceEpoch => exact ⟨rfl, rfl, rfl⟩
  | createGroup name kind parent =>
    change SameLoans s (s.createGroup env name kind parent).2
    unfold createGroup
    split <;> exact ⟨rfl, rfl, rfl⟩
  | createGroupAutoid name kind parent => exact ⟨rfl, rfl, rfl⟩
  | createTenant id name group priority => exact createTenant_sameLoans ..
  | createTenantAutoid name group priority => exact createTenant_sameLoans ..
  | setTenantQuota t q =>
    change SameLoans s (s.setTenantQuota env t q).2
    unfold setTenantQuota
    repeat' split
    all_goals exact ⟨rfl, rfl, rfl⟩
  | setGroupQuota g q =>
    change SameLoans s (s.setGroupQuota env g q).2
    unfold setGroupQuota
    split <;> exact ⟨rfl, rfl, rfl⟩
  | startAllocation rid req auth =>
    change SameLoans s (s.startAllocation env rid req auth).2
    rcases startAllocation_cases env s rid req auth with h | ⟨r, -, -, h⟩
    · rw [h]; exact .refl s
    · exact h.sameLoans ⟨rfl, rfl, rfl⟩
  | resizeAllocation aid delta auth =>
    change SameLoans s (s.resizeAllocation env aid delta auth).2
    rcases resizeAllocation_cases env s aid delta auth with h | ⟨a, -, -, ts, -, h⟩
    · rw [h]; exact .refl s
    · exact h.sameLoans ⟨rfl, rfl, rfl⟩
  | releaseAllocation aid auth =>
    change SameLoans s (s.releaseAllocation env aid auth).2
    rcases releaseAllocation_cases env s aid auth with h | ⟨a, -, -, h⟩
    · rw [h]; exact .refl s
    · exact h.sameLoans ⟨rfl, rfl, rfl⟩
  | applyObservation obs => exact applyObservation_sameLoans env s obs
  | snapshot => exact ⟨rfl, rfl, rfl⟩
  | saveTo path =>
    change SameLoans s (s.saveTo env path).2
    unfold saveTo
    split <;> exact ⟨rfl, rfl, rfl⟩
  | query => exact .refl s

end Engine

end QuotaFabric
