import QuotaFabric.Core.Resource

/-!
# Identities, enumerations and records

Model of `core/ids.hpp`, `core/identity.hpp`, `core/enums.hpp`, `core/status.hpp`,
`core/quota.hpp`, `core/hierarchy.hpp`, `core/reservation.hpp`, `core/allocation.hpp`,
`core/borrow.hpp`, `core/event.hpp`, `core/explanation.hpp`, `core/decision.hpp`,
`core/envelope.hpp`, `core/agent.hpp` and `policy/policy.hpp`.

Identifiers and generations are tagged: the phantom index keeps a tenant id from being used
where a reservation id is expected, as the empty tag structs do.  A default-constructed id is
the null id, a default-constructed generation is `0`.
-/

set_option autoImplicit false

namespace QuotaFabric

/-- Monotonic nanoseconds. -/
abbrev Nanos := Int

/-! ## Identities -/

inductive IdTag where
  | tenant
  | tenantGroup
  | resourceClass
  | reservation
  | allocation
  | agent
  | agentBoot
  | borrow
  | lending
  | node
  deriving DecidableEq

/-- An opaque 128-bit token. -/
structure StrongId (tag : IdTag) where
  hi : UInt64 := 0
  lo : UInt64 := 0
  deriving DecidableEq, Repr, Inhabited

/-- `to_hex`: sixteen digits for each half, highest first. -/
def StrongId.toHex {tag : IdTag} (id : StrongId tag) : Str :=
  let digit (half : UInt64) (k : Nat) : UInt8 :=
    (text "0123456789abcdef").getD ((half >>> UInt64.ofNat (k * 4)) &&& 0xF).toNat 0
  (List.range 16).map (fun j => digit id.hi (15 - j)) ++ (List.range 16).map fun j => digit id.lo (15 - j)

abbrev TenantId := StrongId .tenant
abbrev TenantGroupId := StrongId .tenantGroup
abbrev ResourceClassId := StrongId .resourceClass
abbrev ReservationId := StrongId .reservation
abbrev AllocationId := StrongId .allocation
abbrev AgentId := StrongId .agent
abbrev AgentBootId := StrongId .agentBoot
abbrev BorrowId := StrongId .borrow
abbrev LendingId := StrongId .lending
abbrev NodeId := StrongId .node

inductive GenerationTag where
  | quota
  | policy
  | epoch
  | resource
  | nodeBoot
  | snapshot
  deriving DecidableEq

/-- A tagged 64-bit counter. -/
structure Generation (tag : GenerationTag) where
  value : UInt64 := 0
  deriving DecidableEq, Repr, Inhabited

namespace Generation

variable {tag : GenerationTag}

def next (prev : Generation tag) : Generation tag := ⟨prev.value + 1⟩

def initial : Generation tag := ⟨1⟩

end Generation

abbrev QuotaGeneration := Generation .quota
abbrev PolicyGeneration := Generation .policy
abbrev CoordinatorEpoch := Generation .epoch
abbrev ResourceGeneration := Generation .resource
abbrev NodeBootGeneration := Generation .nodeBoot
abbrev ResourceSnapshotGeneration := Generation .snapshot

/-! ## Enumerations -/

/-- A byte beyond the last declared value of an enumeration.  An `enum class` over a byte can hold
    it: a value read from a file is stored as it comes. -/
abbrev Undeclared (last : UInt8) := { b : UInt8 // last < b }

inductive OvercommitMode where
  | none
  | logical
  | predictionAware
  | undeclared (b : Undeclared 2)
  deriving DecidableEq, Repr, Inhabited

inductive DecisionCode where
  | allow
  | allowGuaranteed
  | allowBurst
  | allowBorrow
  | defer
  | denySoft
  | denyHard
  | denyParent
  | denyPhysical
  | recallRequired
  | reclaimRequired
  deriving DecidableEq, Repr, Inhabited

inductive ViolationCode where
  | none
  | softLimitExceeded
  | hardLimitExceeded
  | parentLimitExceeded
  | expiredBurst
  | expiredBorrow
  | staleReservation
  | invalidSharedAttribution
  | physicalCapacityMismatch
  | stalePolicy
  | staleQuotaGeneration
  | staleAuthority
  | duplicateReservation
  | duplicateRelease
  | wrongTenant
  | invalidHierarchy
  | impossibleDebt
  | attributionMismatch
  | resourceOverflow
  deriving DecidableEq, Repr, Inhabited

/-- `to_string(ViolationCode)`. -/
def ViolationCode.name : ViolationCode → Str
  | .none => text "NONE"
  | .softLimitExceeded => text "SOFT_LIMIT_EXCEEDED"
  | .hardLimitExceeded => text "HARD_LIMIT_EXCEEDED"
  | .parentLimitExceeded => text "PARENT_LIMIT_EXCEEDED"
  | .expiredBurst => text "EXPIRED_BURST"
  | .expiredBorrow => text "EXPIRED_BORROW"
  | .staleReservation => text "STALE_RESERVATION"
  | .invalidSharedAttribution => text "INVALID_SHARED_ATTRIBUTION"
  | .physicalCapacityMismatch => text "PHYSICAL_CAPACITY_MISMATCH"
  | .stalePolicy => text "STALE_POLICY"
  | .staleQuotaGeneration => text "STALE_QUOTA_GENERATION"
  | .staleAuthority => text "STALE_AUTHORITY"
  | .duplicateReservation => text "DUPLICATE_RESERVATION"
  | .duplicateRelease => text "DUPLICATE_RELEASE"
  | .wrongTenant => text "WRONG_TENANT"
  | .invalidHierarchy => text "INVALID_HIERARCHY"
  | .impossibleDebt => text "IMPOSSIBLE_DEBT"
  | .attributionMismatch => text "ATTRIBUTION_MISMATCH"
  | .resourceOverflow => text "RESOURCE_OVERFLOW"

inductive RecallAction where
  | noAction
  | stopNewBorrowing
  | recallBorrowedCapacity
  | reduceBurst
  | requestReclaim
  | requestDemotion
  | requestPreemption
  | denyNewReservations
  deriving DecidableEq, Repr, Inhabited

inductive ReservationStatus where
  | provisional
  | committed
  | consumed
  | released
  | expired
  | rolledBack
  | undeclared (b : Undeclared 5)
  deriving DecidableEq, Repr, Inhabited

inductive ComplianceState where
  | compliant
  | overSoft
  | overHard
  | recallRequired
  | reclaimRequired
  deriving DecidableEq, Repr, Inhabited

inductive EventType where
  | quotaUpdate
  | reservation
  | release
  | burst
  | borrow
  | lend
  | recall
  | violation
  | staleAuthorityRejection
  | nodeLoss
  | recovery
  | agentRegistration
  deriving DecidableEq, Repr, Inhabited

inductive TenantGroupKind where
  | organization
  | businessUnit
  | team
  | project
  | environment
  | serviceClass
  | undeclared (b : Undeclared 5)
  deriving DecidableEq, Repr, Inhabited

inductive ObservationKind where
  | usageDelta
  | computeInterval
  | transferConsumed
  | modelResidencyAdded
  | modelResidencyRemoved
  | kvUsageChange
  | tensorUsageChange
  | allocationStart
  | allocationResize
  | allocationRelease
  | reservationCommitted
  deriving DecidableEq, Repr, Inhabited

inductive AgentState where
  | registered
  | active
  | lost
  deriving DecidableEq, Repr, Inhabited

/-! ## Status -/

structure QuotaStatus where
  ok : Bool := true
  code : ViolationCode := .none
  message : Str := []
  deriving DecidableEq

namespace QuotaStatus

def success : QuotaStatus := {}

def failure (c : ViolationCode) (msg : Str) : QuotaStatus := ⟨false, c, msg⟩

end QuotaStatus

/-- `QuotaResult<T>`: the value, or the status of the failure. -/
abbrev QuotaResult (T : Type) := Except QuotaStatus T

/-- The status of a result. -/
def QuotaResult.status {T : Type} : QuotaResult T → QuotaStatus
  | .ok _ => QuotaStatus.success
  | .error st => st

structure ReasonLine where
  code : ViolationCode := .none
  detail : Str := []
  deriving DecidableEq

abbrev Explanation := List ReasonLine

/-- `Explanation::human`. -/
def Explanation.human (lines : Explanation) : Str :=
  lines.flatMap fun l =>
    text "  * " ++ l.code.name ++ (if l.detail.isEmpty then [] else text ": " ++ l.detail) ++ text "\n"

/-! ## Quotas and the hierarchy -/

structure BurstRule where
  percentAboveSoft : Binary64 := .zero
  absoluteBurst : ResourceVector := .empty
  window : Nanos := 0
  maxSimultaneous : UInt32 := 0
  cooldown : Nanos := 0
  allowDebt : Bool := false
  deriving Inhabited

structure BorrowRule where
  borrowEnabled : Bool := false
  lendEnabled : Bool := false
  recallBeforeNewLend : Bool := true
  maxBorrowDuration : Nanos := 0
  preservesGuarantee : Bool := true
  maxBorrows : UInt32 := 0
  deriving Inhabited

/-- A quota lattice: one vector for each kind of limit. -/
structure ResourceQuota where
  tenant : TenantId := {}
  resourceClass : ResourceClassId := {}
  guaranteed : ResourceVector := .empty
  softLimit : ResourceVector := .empty
  hardLimit : ResourceVector := .empty
  burstLimit : ResourceVector := .empty
  borrowable : ResourceVector := .empty
  physicalCapacity : ResourceVector := .empty
  burstRule : BurstRule := {}
  borrowRule : BorrowRule := {}
  overcommit : OvercommitMode := .none
  overcommitFactor : Binary64 := .one
  sharedPool : ResourceVector := .empty
  generation : QuotaGeneration := {}
  policyGeneration : PolicyGeneration := {}
  deriving Inhabited

/-- The limits of a quota are amounts the setters can store. -/
structure ResourceQuota.Valid (q : ResourceQuota) : Prop where
  guaranteed : q.guaranteed.Valid
  softLimit : q.softLimit.Valid
  hardLimit : q.hardLimit.Valid
  burstLimit : q.burstLimit.Valid
  borrowable : q.borrowable.Valid
  physicalCapacity : q.physicalCapacity.Valid

instance (q : ResourceQuota) : Decidable q.Valid :=
  decidable_of_iff
    (q.guaranteed.Valid ∧ q.softLimit.Valid ∧ q.hardLimit.Valid ∧ q.burstLimit.Valid ∧
      q.borrowable.Valid ∧ q.physicalCapacity.Valid)
    ⟨fun ⟨h1, h2, h3, h4, h5, h6⟩ => ⟨h1, h2, h3, h4, h5, h6⟩,
      fun h => ⟨h.guaranteed, h.softLimit, h.hardLimit, h.burstLimit, h.borrowable, h.physicalCapacity⟩⟩

/-- `lattice_coherent`: guaranteed ≤ soft ≤ hard wherever both are present. -/
def latticeCoherent (q : ResourceQuota) : Bool :=
  allResourceDimensions.all fun d =>
    !(q.guaranteed.present d && q.hardLimit.present d &&
        decide (q.guaranteed.get d > q.hardLimit.get d)) &&
    !(q.softLimit.present d && q.hardLimit.present d &&
        decide (q.softLimit.get d > q.hardLimit.get d)) &&
    !(q.guaranteed.present d && q.softLimit.present d &&
        decide (q.guaranteed.get d > q.softLimit.get d))

structure TenantGroup where
  id : TenantGroupId := {}
  kind : TenantGroupKind := .team
  parent : Option TenantGroupId := none
  name : Str := []
  quota : ResourceQuota := {}
  policyGeneration : PolicyGeneration := {}
  deriving Inhabited

structure Tenant where
  id : TenantId := {}
  group : Option TenantGroupId := none
  name : Str := []
  priority : UInt32 := 100
  serviceClass : Str := []
  deriving Inhabited

/-! ## Reservations, allocations, loans -/

structure Reservation where
  id : ReservationId := {}
  tenant : TenantId := {}
  resourceClass : ResourceClassId := {}
  resources : ResourceVector := .empty
  consumed : ResourceVector := .empty
  status : ReservationStatus := .provisional
  createdAt : Nanos := 0
  expiresAt : Nanos := 0
  quotaGeneration : QuotaGeneration := {}
  policyGeneration : PolicyGeneration := {}
  epoch : CoordinatorEpoch := {}
  ownerAgent : AgentId := {}
  ownerBoot : AgentBootId := {}
  label : Str := []
  resourceGeneration : ResourceGeneration := {}
  deriving Inhabited

structure Allocation where
  id : AllocationId := {}
  tenant : TenantId := {}
  reservation : ReservationId := {}
  resourceClass : ResourceClassId := {}
  resources : ResourceVector := .empty
  used : ResourceVector := .empty
  startedAt : Nanos := 0
  endedAt : Nanos := 0
  active : Bool := false
  quotaGeneration : QuotaGeneration := {}
  policyGeneration : PolicyGeneration := {}
  epoch : CoordinatorEpoch := {}
  ownerAgent : AgentId := {}
  ownerBoot : AgentBootId := {}
  label : Str := []
  deriving Inhabited

structure BorrowRecord where
  id : BorrowId := {}
  borrower : TenantId := {}
  lender : TenantId := {}
  lending : LendingId := {}
  reservation : Option ReservationId := none
  resourceClass : ResourceClassId := {}
  amount : ResourceVector := .empty
  consumed : ResourceVector := .empty
  startedAt : Nanos := 0
  expiresAt : Nanos := 0
  recallPriority : UInt32 := 0
  debt : ResourceVector := .empty
  policyGeneration : PolicyGeneration := {}
  quotaGeneration : QuotaGeneration := {}
  epoch : CoordinatorEpoch := {}
  recalled : Bool := false
  deriving Inhabited

structure LendingRecord where
  id : LendingId := {}
  lender : TenantId := {}
  borrower : TenantId := {}
  resourceClass : ResourceClassId := {}
  amount : ResourceVector := .empty
  outstanding : ResourceVector := .empty
  startedAt : Nanos := 0
  expiresAt : Nanos := 0
  recallPriority : UInt32 := 0
  revocable : Bool := true
  policyGeneration : PolicyGeneration := {}
  quotaGeneration : QuotaGeneration := {}
  epoch : CoordinatorEpoch := {}
  deriving Inhabited

/-- The fields of `QuotaEvent` that `emit_event` sets; the others keep their defaults. -/
structure QuotaEvent where
  type : EventType := .quotaUpdate
  at_ : Nanos := 0
  tenant : TenantId := {}
  quotaGeneration : QuotaGeneration := {}
  policyGeneration : PolicyGeneration := {}
  epoch : CoordinatorEpoch := {}
  detail : Str := []
  deriving DecidableEq

structure Observation where
  tenant : TenantId := {}
  allocation : AllocationId := {}
  dimension : ResourceDimension
  amount : Int
  kind : ObservationKind := .usageDelta
  at_ : Nanos := 0
  resourceGeneration : ResourceGeneration := {}
  agent : AgentId := {}
  boot : AgentBootId := {}
  source : Str := []

/-- The authority a state-mutating message carries. -/
structure Authority where
  epoch : CoordinatorEpoch := {}
  agent : AgentId := {}
  boot : AgentBootId := {}
  quotaGeneration : QuotaGeneration := {}
  policyGeneration : PolicyGeneration := {}
  resourceGeneration : ResourceGeneration := {}

/-- Registration and identity of a governing agent. -/
structure AgentDescriptor where
  agentId : AgentId := {}
  bootId : AgentBootId := {}
  nodeId : NodeId := {}
  nodeBootGeneration : NodeBootGeneration := {}
  protocolVersion : UInt32 := 1
  inventory : ResourceVector := .empty
  snapshotGeneration : ResourceSnapshotGeneration := {}
  backend : Str := []
  deviceIdentity : Str := []
  state : AgentState := .registered
  epoch : CoordinatorEpoch := {}
  host : Str := []
  port : UInt16 := 0

/-! ## Policy -/

structure FairnessPolicy where
  starvationWeight : Binary64 := .one
  debtWeight : Binary64 := .one
  useWeight : Binary64 := .one
  priorityWeight : Binary64 := .one

structure OvercommitPolicy where
  mode : OvercommitMode := .none
  factor : Binary64 := .one

/-- The fields of `QuotaPolicy` that the engine reads, `validate` included. -/
structure QuotaPolicy where
  generation : PolicyGeneration := {}
  name : Str := []
  description : Str := []
  createdAt : UInt64 := 0
  fairness : FairnessPolicy := {}
  overcommit : OvercommitPolicy := {}
  defaultBurst : BurstRule := {}
  tenantOverrides : List (TenantId × ResourceQuota) := []
  maxHierarchyDepth : UInt32 := 32
  maxTenants : UInt32 := 1000000
  maxReservations : UInt32 := 1000000
  maxWindowsSample : UInt64 := 4096

/-- `QuotaPolicy::validate`: the reason for refusing the policy, if any.  The test
    `recall_grace_nanos < 0` compares an unsigned field and never fires. -/
def QuotaPolicy.validate (p : QuotaPolicy) : Option Str :=
  let zero := Binary64.zero.val
  let one := Binary64.one.val
  if p.name.isEmpty then some (text "policy must have a name")
  else if p.maxHierarchyDepth < 1 ∨ p.maxHierarchyDepth > 4096 then
    some (text "max_hierarchy_depth out of range")
  else if p.maxTenants = 0 ∨ p.maxTenants > 100000000 then some (text "max_tenants out of range")
  else if p.maxReservations = 0 then some (text "max_reservations must be positive")
  else if p.maxWindowsSample = 0 then some (text "max_windows_sample must be positive")
  else if p.overcommit.mode ≠ .none ∧ p.overcommit.factor.val < one then
    some (text "overcommit factor must be >= 1")
  else if p.overcommit.mode = .none ∧ !(p.overcommit.factor.val == one) then
    some (text "overcommit factor must be 1.0 when mode is NONE")
  else if p.fairness.starvationWeight.val < zero ∨ p.fairness.debtWeight.val < zero ∨
      p.fairness.useWeight.val < zero then
    some (text "fairness weights must be non-negative")
  else if p.defaultBurst.window < 0 ∨ p.defaultBurst.cooldown < 0 then
    some (text "burst window/cooldown must be non-negative")
  else if p.defaultBurst.percentAboveSoft.val < zero then
    some (text "burst percent must be non-negative")
  else
    (p.tenantOverrides.flatMap fun o => allResourceDimensions.map fun d => (o.2, d)).findSome? fun e =>
      if e.1.guaranteed.present e.2 && e.1.hardLimit.present e.2 &&
          decide (e.1.guaranteed.get e.2 > e.1.hardLimit.get e.2) then
        some (text "tenant override guarantee > hard")
      else if e.1.softLimit.present e.2 && e.1.hardLimit.present e.2 &&
          decide (e.1.softLimit.get e.2 > e.1.hardLimit.get e.2) then
        some (text "tenant override soft > hard")
      else none

/-! ## Decisions and envelopes -/

structure QuotaDecision where
  code : DecisionCode := .allow
  tenant : TenantId := {}
  requested : ResourceVector := .empty
  currentUsage : ResourceVector := .empty
  reservedUsage : ResourceVector := .empty
  guarantee : ResourceVector := .empty
  softLimit : ResourceVector := .empty
  hardLimit : ResourceVector := .empty
  burst : ResourceVector := .empty
  borrowed : ResourceVector := .empty
  debt : ResourceVector := .empty
  parentAvailable : ResourceVector := .empty
  limitingDimension : Option ResourceDimension := none
  generation : QuotaGeneration := {}
  policyGeneration : PolicyGeneration := {}
  epoch : CoordinatorEpoch := {}
  explanation : Explanation := []

def DecisionCode.allowed (c : DecisionCode) : Bool :=
  c == .allow || c == .allowGuaranteed || c == .allowBurst || c == .allowBorrow

def QuotaDecision.allowed (dec : QuotaDecision) : Bool := dec.code.allowed

structure QuotaEnvelope where
  tenant : TenantId := {}
  guaranteed : ResourceVector := .empty
  softLimit : ResourceVector := .empty
  hardLimit : ResourceVector := .empty
  burstLimit : ResourceVector := .empty
  currentConsumption : ResourceVector := .empty
  reserved : ResourceVector := .empty
  committedUsage : ResourceVector := .empty
  borrowed : ResourceVector := .empty
  burstUsage : ResourceVector := .empty
  lent : ResourceVector := .empty
  debt : ResourceVector := .empty
  availableGuaranteed : ResourceDimension → Int := fun _ => 0
  availableSoft : ResourceDimension → Int := fun _ => 0
  availableBurst : ResourceDimension → Int := fun _ => 0
  compliance : ComplianceState := .compliant
  generation : QuotaGeneration := {}
  policyGeneration : PolicyGeneration := {}
  epoch : CoordinatorEpoch := {}
  burstExpiresAt : Nanos := 0
  burstActive : Bool := false

/-! ## Settings -/

structure EngineSettings where
  maxHierarchyDepth : UInt32 := 32
  maxTenants : UInt32 := 1000000
  maxGroups : UInt32 := 100000
  maxReservations : UInt32 := 1000000
  maxEventRetention : UInt32 := 4096
  maxBorrows : UInt32 := 100000

end QuotaFabric
