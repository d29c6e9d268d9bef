import QuotaFabric.Core.Records
import QuotaFabric.Lib.MapTotals

/-!
# The engine state and its read-only helpers

Model of `QuotaFabric::Impl` (`src/accounting/engine.cpp`): the record maps, the usage counters,
the rolling windows, and the pure helpers that decisions are made of.

* `Env` — everything one call reads from outside the state: clock readings, freshly made ids,
  the iteration order of every hash map, and what the two undefined conversions return;
* `parentChain`, `hasAncestor` — the parent walks.  Both loops get `groups_.size() + 1`
  iterations, more than a forest can use;
* `effectiveLattice` — limits merged along the ancestor chain by minimum;
* `subtreeCommitted`, `poolUsed` — aggregates over the tenants below a group;
* `availableToLend`, `burstOk`, `borrowAvailable`, `physicalAllowance`.

The mutex is not modelled: every public call runs under it from start to end.
-/

set_option autoImplicit false

namespace QuotaFabric

/-! ## Rolling windows -/

structure RollingWindow where
  windowNs : Nanos := 0
  samples : List (Nanos × Int) := []
  total : Int := 0
  deriving Inhabited

namespace RollingWindow

/-- The expiry loop: drop samples from the front while they are not after the cutoff. -/
def expireLoop (cutoff : Nanos) : List (Nanos × Int) → Int → List (Nanos × Int) × Int
  | [], total => ([], total)
  | x :: xs, total => if x.1 ≤ cutoff then expireLoop cutoff xs (total - x.2) else (x :: xs, total)

def expire (w : RollingWindow) (now : Nanos) : RollingWindow :=
  let r := expireLoop (now - w.windowNs) w.samples w.total
  { w with samples := r.1, total := r.2 }

def add (w : RollingWindow) (at_ : Nanos) (amount : Int) : RollingWindow :=
  if amount < 0 then w
  else expire { w with samples := w.samples ++ [(at_, amount)], total := satAdd w.total amount } at_

/-- `usage` ignores the instant it is given. -/
def usage (w : RollingWindow) : Int := w.total

end RollingWindow

/-! ## State -/

/-- Counters of one tenant. -/
structure Usage where
  consumption : ResourceVector := .empty
  reserved : ResourceVector := .empty
  borrowedConsumed : ResourceVector := .empty
  burst : ResourceVector := .empty
  lent : ResourceVector := .empty
  debt : ResourceVector := .empty
  windows : ResourceDimension → RollingWindow := fun _ => {}
  burstStarted : Nanos := 0
  burstExpires : Nanos := 0
  cooldownUntil : Nanos := 0
  burstActive : Bool := false
  deriving Inhabited

/-- Per-reservation funding metadata. -/
structure Funding where
  burst : ResourceVector := .empty
  borrows : List BorrowId := []
  deriving Inhabited

structure Engine where
  settings : EngineSettings := {}
  policy : QuotaPolicy := {}
  epoch : CoordinatorEpoch := .initial
  quotaGeneration : QuotaGeneration := .initial
  sequence : UInt64 := 0
  persistPath : Str := []
  groups : UMap TenantGroupId TenantGroup := ∅
  tenants : UMap TenantId Tenant := ∅
  localQuota : UMap TenantId ResourceQuota := ∅
  groupQuota : UMap TenantGroupId ResourceQuota := ∅
  usage : UMap TenantId Usage := ∅
  reservations : UMap ReservationId Reservation := ∅
  funding : UMap ReservationId Funding := ∅
  allocations : UMap AllocationId Allocation := ∅
  borrows : UMap BorrowId BorrowRecord := ∅
  lends : UMap LendingId LendingRecord := ∅
  events : List QuotaEvent := []

/-- What a call reads from outside the state.  `borrowId d`, `lendingId d` and `borrowAt d` belong
    to the `borrow_impl` that `reserve` runs for dimension `d` (`borrow` and `lend` run one, and use
    those of the first dimension); `syncAt k` is the reading of the `k`-th `sync_usage`;
    `clampUndef` and `castUndef` are the results of `std::clamp` with crossed bounds and of an
    out-of-range conversion from double, which the language leaves undefined. -/
structure Env where
  groupOrder : IterOrder (Σ _ : TenantGroupId, TenantGroup) := default
  quotaOrder : IterOrder (Σ _ : TenantId, ResourceQuota) := default
  usageOrder : IterOrder (Σ _ : TenantId, Usage) := default
  tenantOrder : IterOrder (Σ _ : TenantId, Tenant) := default
  reservationOrder : IterOrder (Σ _ : ReservationId, Reservation) := default
  fundingOrder : IterOrder (Σ _ : ReservationId, Funding) := default
  allocationOrder : IterOrder (Σ _ : AllocationId, Allocation) := default
  borrowOrder : IterOrder (Σ _ : BorrowId, BorrowRecord) := default
  lendOrder : IterOrder (Σ _ : LendingId, LendingRecord) := default
  now : Nanos := 0
  burstAt : ResourceDimension → Nanos := fun _ => 0
  borrowAt : ResourceDimension → Nanos := fun _ => 0
  syncAt : Nat → Nanos := fun _ => 0
  eventAt : Nanos := 0
  tenantId : TenantId := {}
  groupId : TenantGroupId := {}
  reservationId : ReservationId := {}
  allocationId : AllocationId := {}
  borrowId : ResourceDimension → BorrowId := fun _ => {}
  lendingId : ResourceDimension → LendingId := fun _ => {}
  clampUndef : Int → Int → Int → Int := fun v _ _ => v
  castUndef : Int := 0
  fileOk : Bool := true

namespace Engine

def usageOf (s : Engine) (t : TenantId) : Usage := (s.usage.lookup t).getD {}

/-- Write through `usage_mut(t)`: the entry is created when it is missing. -/
def modifyUsage (s : Engine) (t : TenantId) (f : Usage → Usage) : Engine :=
  { s with usage := s.usage.insert t (f (s.usageOf t)) }

def tenantExists (s : Engine) (t : TenantId) : Bool := (s.tenants.lookup t).isSome

def groupExists (s : Engine) (g : TenantGroupId) : Bool := (s.groups.lookup g).isSome

def validAuthority (s : Engine) (a : Authority) : Bool :=
  a.epoch == s.epoch && a.quotaGeneration == s.quotaGeneration &&
    a.policyGeneration == s.policy.generation

def staleEpoch (s : Engine) (a : Authority) : Bool := a.epoch != s.epoch

def staleQuotaGen (s : Engine) (a : Authority) : Bool := a.quotaGeneration != s.quotaGeneration

/-- `emit_event`: append, then drop from the front down to the retention bound. -/
def emitEvent (env : Env) (s : Engine) (type : EventType) (tenant : TenantId) (detail : Str) : Engine :=
  let e : QuotaEvent :=
    { type := type, at_ := env.eventAt, tenant := tenant, quotaGeneration := s.quotaGeneration,
      policyGeneration := s.policy.generation, epoch := s.epoch, detail := detail }
  let events := s.events ++ [e]
  { s with events := events.drop (events.length - s.settings.maxEventRetention.toNat) }

end Engine

/-- `active_res`. -/
def activeRes (r : Reservation) : Bool :=
  r.status == .provisional || r.status == .committed || r.status == .consumed

/-! ## Hierarchy -/

namespace Engine

/-- Existing groups met by following parent links from `cur`, innermost first. -/
def parentChain (s : Engine) : Nat → Option TenantGroupId → List TenantGroupId
  | 0, _ => []
  | _ + 1, none => []
  | n + 1, some g =>
    match s.groups.lookup g with
    | none => []
    | some gr => g :: s.parentChain n gr.parent

/-- The walk of `has_ancestor`. -/
def reachesGroup (s : Engine) (g : TenantGroupId) : Nat → Option TenantGroupId → Bool
  | 0, _ => false
  | _ + 1, none => false
  | n + 1, some c =>
    if c = g then true
    else
      match s.groups.lookup c with
      | none => false
      | some gr => s.reachesGroup g n gr.parent

/-- Iterations granted to a parent walk. -/
def walkFuel (s : Engine) : Nat := s.groups.entries.length + 1

/-- `ancestor_groups`: outermost first. -/
def ancestorGroups (s : Engine) (t : TenantId) : List TenantGroupId :=
  match s.tenants.lookup t with
  | none => []
  | some tn => (s.parentChain s.walkFuel tn.group).reverse

def hasAncestor (s : Engine) (tn : Tenant) (g : TenantGroupId) : Bool :=
  s.reachesGroup g s.walkFuel tn.group

end Engine

/-- One dimension of `merge_min`: whether a value was seen, and the cell written so far. -/
def mergeStep (d : ResourceDimension) (st : Bool × Option Int) (v : ResourceVector) : Bool × Option Int :=
  match v.cell d with
  | none => st
  | some x =>
    if !st.1 || decide (x < st.2.getD 0) then (true, if x < 0 then st.2 else some x) else st

/-- `merge_min`: the smallest present value of each dimension along the chain. -/
def mergeMin (chain : List ResourceVector) : ResourceVector :=
  ⟨fun d => (chain.foldl (mergeStep d) (false, none)).2⟩

namespace Engine

/-- The quotas that govern a tenant: its ancestors' from the outermost in, then its own. -/
def quotaChain (s : Engine) (t : TenantId) : List ResourceQuota :=
  (s.ancestorGroups t).filterMap (fun g => s.groupQuota.lookup g) ++ (s.localQuota.lookup t).toList

def effectiveLattice (s : Engine) (t : TenantId) : ResourceQuota :=
  let chain := s.quotaChain t
  let eff : ResourceQuota :=
    { tenant := t
      guaranteed := mergeMin (chain.map (·.guaranteed))
      softLimit := mergeMin (chain.map (·.softLimit))
      hardLimit := mergeMin (chain.map (·.hardLimit))
      burstLimit := mergeMin (chain.map (·.burstLimit))
      borrowable := mergeMin (chain.map (·.borrowable))
      physicalCapacity := mergeMin (chain.map (·.physicalCapacity))
      generation := s.quotaGeneration
      policyGeneration := s.policy.generation }
  match chain.getLast? with
  | none => eff
  | some q =>
    { eff with
      burstRule := q.burstRule, borrowRule := q.borrowRule
      overcommit := q.overcommit, overcommitFactor := q.overcommitFactor }

/-- Consumption plus reserved, as every reader computes it. -/
def committed (s : Engine) (t : TenantId) : ResourceVector :=
  ResourceVector.accum (s.usageOf t).consumption (s.usageOf t).reserved

def subtreeCommitted (env : Env) (s : Engine) (g : TenantGroupId) : ResourceVector :=
  ResourceVector.sumOf
    (((env.tenantOrder s.tenants.entries).filter fun e => s.hasAncestor e.2 g).flatMap fun e =>
      [(s.usageOf e.1).consumption, (s.usageOf e.1).reserved])

def poolUsed (env : Env) (s : Engine) (g : TenantGroupId) : ResourceVector :=
  ResourceVector.sumOf
    (((env.tenantOrder s.tenants.entries).filter fun e => s.hasAncestor e.2 g).flatMap fun e =>
      let eff := s.effectiveLattice e.1
      (allResourceDimensions.filter fun d =>
          eff.guaranteed.present d &&
            decide (min ((s.committed e.1).get d) (eff.guaranteed.get d) > 0)).map fun d =>
        ResourceVector.fromScalar d (min ((s.committed e.1).get d) (eff.guaranteed.get d)))

end Engine

/-! ## Limits -/

def hasEntitlement (eff : ResourceQuota) : Bool :=
  eff.guaranteed.presentCount != 0 || eff.softLimit.presentCount != 0 ||
    eff.hardLimit.presentCount != 0 || eff.burstLimit.presentCount != 0 ||
    eff.borrowable.presentCount != 0

/-- Dimensions budgeted over rolling windows. -/
def isConsumable (d : ResourceDimension) : Bool :=
  d == .acceleratorComputeTime || d == .transferBytes || d == .storageBandwidth ||
    d == .transferBandwidth

/-- `guaranteed`, `0` when unset. -/
def guaranteeOf (eff : ResourceQuota) (d : ResourceDimension) : Int :=
  if eff.guaranteed.present d then eff.guaranteed.get d else 0

/-- The soft ceiling used by every check: the soft limit, else the guarantee, else no bound. -/
def softOf (eff : ResourceQuota) (d : ResourceDimension) : Int :=
  if eff.softLimit.present d then eff.softLimit.get d
  else if eff.guaranteed.present d then eff.guaranteed.get d else INT64_MAX

def hardOf (eff : ResourceQuota) (d : ResourceDimension) : Int :=
  if eff.hardLimit.present d then eff.hardLimit.get d else INT64_MAX

/-- Physical allowance after overcommit. -/
def physicalAllowance (env : Env) (d : ResourceDimension) (eff : ResourceQuota) : Int :=
  if !eff.physicalCapacity.present d then INT64_MAX
  else
    let one := Binary64.one.val
    let factor := eff.overcommitFactor.val
    let cap := Float.Model.ofInt (eff.physicalCapacity.get d)
    let cap :=
      if eff.overcommit = .logical ∨ eff.overcommit = .predictionAware then
        cap * maxDouble one (if Binary64.zero.val < factor then factor else one)
      else cap
    if Float.Model.ofInt INT64_MAX < cap then INT64_MAX else toInt64 env.castUndef cap

namespace Engine

def currentCommittedScalar (s : Engine) (t : TenantId) (d : ResourceDimension)
    (committed : ResourceVector) : Int :=
  if isConsumable d then ((s.usageOf t).windows d).usage else committed.get d

def burstOk (env : Env) (s : Engine) (d : ResourceDimension) (t : TenantId) (eff : ResourceQuota) :
    Bool :=
  let u := s.usageOf t
  let burstLimit := if eff.burstLimit.present d then eff.burstLimit.get d else 0
  if u.burstActive then
    if env.burstAt d ≥ u.burstExpires then false else decide (u.burst.get d < burstLimit)
  else if env.burstAt d < u.cooldownUntil then false
  else if burstLimit ≤ 0 then false
  else decide (eff.burstRule.window > 0)

def availableToLend (s : Engine) (lender : TenantId) (d : ResourceDimension) : Int :=
  let eff := s.effectiveLattice lender
  let guarantee :=
    if eff.borrowable.present d then
      min (eff.borrowable.get d) (if eff.guaranteed.present d then eff.guaranteed.get d else 0)
    else 0
  let headroom := max 0 (guarantee - (s.committed lender).get d)
  max 0 (headroom - (s.usageOf lender).lent.get d)

def borrowerCanBorrowFrom (rec : LendingRecord) (d : ResourceDimension) : Bool :=
  rec.revocable && decide (rec.outstanding.get d < rec.amount.get d)

def borrowAvailable (env : Env) (s : Engine) (d : ResourceDimension) : Bool :=
  (env.lendOrder s.lends.entries).any fun e =>
    borrowerCanBorrowFrom e.2 d && decide (s.availableToLend e.2.lender d > 0)

/-! ## Recomputation from records -/

def computedConsumed (env : Env) (s : Engine) (t : TenantId) : ResourceVector :=
  ResourceVector.sumOf
    (((env.allocationOrder s.allocations.entries).filter fun e => e.2.tenant == t && e.2.active).map
      fun e => e.2.used)

def computedBorrowed (env : Env) (s : Engine) (t : TenantId) : ResourceVector :=
  ResourceVector.sumOf
    (((env.borrowOrder s.borrows.entries).filter fun e => e.2.borrower == t && !e.2.recalled).map
      fun e => e.2.consumed)

def computedLent (env : Env) (s : Engine) (t : TenantId) : ResourceVector :=
  ResourceVector.sumOf
    (((env.lendOrder s.lends.entries).filter fun e =>
        e.2.lender == t && e.2.outstanding.presentCount != 0).map
      fun e => e.2.outstanding)

/-- `alloc_used`: what the active allocations of a tenant use under one reservation, if any. -/
def allocUsed (env : Env) (s : Engine) (t : TenantId) (rid : ReservationId) : Option ResourceVector :=
  let as := (env.allocationOrder s.allocations.entries).filter fun e =>
    e.2.active && e.2.tenant == t && e.2.reservation == rid
  if as.isEmpty then none else some (ResourceVector.sumOf (as.map fun e => e.2.used))

/-- What `sync_usage` still counts as reserved for one reservation. -/
def remaining (env : Env) (s : Engine) (t : TenantId) (r : Reservation) : ResourceVector :=
  match s.allocUsed env t r.id with
  | none => r.resources
  | some used => r.resources.subSat (ResourceVector.min used r.resources)

def recomputedReserved (env : Env) (s : Engine) (t : TenantId) : ResourceVector :=
  ResourceVector.sumOf
    (((env.reservationOrder s.reservations.entries).filter fun e =>
        e.2.tenant == t && activeRes e.2).map
      fun e => s.remaining env t e.2)

/-- Burst funding of the tenant's live reservations. -/
def computedBurst (env : Env) (s : Engine) (t : TenantId) : ResourceVector :=
  ResourceVector.sumOf
    (((env.fundingOrder s.funding.entries).filter fun e =>
        match s.reservations.lookup e.1 with
        | none => false
        | some r => r.tenant == t && activeRes r).map
      fun e => e.2.burst)

def computedDebt (env : Env) (s : Engine) (t : TenantId) : ResourceVector :=
  ResourceVector.sumOf
    (((env.borrowOrder s.borrows.entries).filter fun e => e.2.borrower == t && !e.2.recalled).map
      fun e => e.2.debt)

end Engine

end QuotaFabric
