import QuotaFabric.Engine.Decision

/-!
# The public operations

Model of `sync_usage`, `borrow_impl`, `return_borrow` and of every public method of
`QuotaFabric` that changes the state, except `load_from`.

A method takes the environment of the call, the state, and its arguments, and returns its status
or result with the new state.  `exec` runs one `Call`.

* `syncUsage` — recompute a tenant's counters from the records;
* `borrowImpl` — take the first lender, in iteration order, with room on every dimension;
* `returnBorrow` — give a borrow back, once;
* `reserve` — decide, draw burst and loans dimension by dimension (`fundLoop`, which rolls its
  loans back when a later dimension cannot be funded), then record the reservation.
-/

set_option autoImplicit false

namespace QuotaFabric

namespace Engine

/-! ## Usage synchronisation -/

def syncUsage (env : Env) (k : Nat) (s : Engine) (t : TenantId) : Engine :=
  s.modifyUsage t fun u =>
    let u' :=
      { u with
        consumption := s.computedConsumed env t
        reserved := s.recomputedReserved env t
        borrowedConsumed := s.computedBorrowed env t
        lent := s.computedLent env t
        burst := s.computedBurst env t
        debt := s.computedDebt env t }
    -- burst window expiry cleanup
    if u.burstActive && decide (env.syncAt k ≥ u.burstExpires) then
      { u' with burstActive := false, burst := .empty }
    else u'

/-! ## Borrowing and returning -/

/-- The lender offers enough borrowable headroom on every requested dimension. -/
def canLend (s : Engine) (lender : TenantId) (amount : ResourceVector) : Bool :=
  allResourceDimensions.all fun d =>
    !amount.present d ||
      ((s.effectiveLattice lender).borrowable.present d &&
        !decide (s.availableToLend lender d < amount.get d))

/-- The first tenant, in iteration order, that can lend. -/
def chooseLender (env : Env) (s : Engine) (borrower : TenantId) (amount : ResourceVector) :
    Option TenantId :=
  ((env.tenantOrder s.tenants.entries).find? fun e =>
    !(e.1 == borrower) && s.canLend e.1 amount).map fun e => e.1

def borrowerPriority (s : Engine) (t : TenantId) : UInt32 :=
  match s.tenants.lookup t with
  | none => 100
  | some tn => tn.priority

/-- The lending record `borrow_impl` creates. -/
def newLending (env : Env) (s : Engine) (k : ResourceDimension) (lender borrower : TenantId)
    (amount : ResourceVector) : LendingRecord :=
  { id := env.lendingId k, lender := lender, borrower := borrower, amount := amount
    outstanding := amount, startedAt := env.borrowAt k, expiresAt := 0, revocable := true
    policyGeneration := s.policy.generation, quotaGeneration := s.quotaGeneration
    epoch := s.epoch }

/-- The borrow record `borrow_impl` creates. -/
def newBorrow (env : Env) (s : Engine) (k : ResourceDimension) (lender borrower : TenantId)
    (amount : ResourceVector) (reservation : Option ReservationId) : BorrowRecord :=
  { id := env.borrowId k, borrower := borrower, lender := lender, lending := env.lendingId k
    amount := amount, consumed := amount, startedAt := env.borrowAt k, expiresAt := 0
    recallPriority := s.borrowerPriority borrower, policyGeneration := s.policy.generation
    quotaGeneration := s.quotaGeneration, epoch := s.epoch, recalled := false
    reservation := reservation, debt := amount }

/-- `borrow_impl` once a lender is found: both records, the three counters, two events. -/
def openLoan (env : Env) (s : Engine) (k : ResourceDimension) (lender borrower : TenantId)
    (amount : ResourceVector) (reservation : Option ReservationId) : Engine :=
  let l := s.newLending env k lender borrower amount
  let b := s.newBorrow env k lender borrower amount reservation
  let s₁ := { s with lends := s.lends.emplace l.id l, borrows := s.borrows.emplace b.id b }
  let s₂ := s₁.modifyUsage lender fun u => { u with lent := u.lent.accum amount }
  let s₃ := s₂.modifyUsage borrower fun u =>
    { u with
      borrowedConsumed := u.borrowedConsumed.accum amount
      debt := u.debt.accum amount }
  let s₄ := s₃.emitEvent env .borrow borrower
    (text "borrowed " ++ amount.toStr ++ text " from lender")
  s₄.emitEvent env .lend lender (text "lent " ++ amount.toStr ++ text " to borrower")

def borrowImpl (env : Env) (s : Engine) (k : ResourceDimension) (borrower : TenantId)
    (amount : ResourceVector) (reservation : Option ReservationId) :
    QuotaResult BorrowRecord × Engine :=
  match s.chooseLender env borrower amount with
  | none =>
    (.error (.failure .hardLimitExceeded (text "no lender with borrowable capacity")), s)
  | some lender =>
    (.ok (s.newBorrow env k lender borrower amount reservation),
      s.openLoan env k lender borrower amount reservation)

/-- The borrow side of a return: the record and the borrower's counters. -/
def closeBorrow (s : Engine) (bid : BorrowId) (b : BorrowRecord) (ret : ResourceVector) : Engine :=
  let s₁ := { s with
    borrows := s.borrows.modify bid fun x =>
      { x with consumed := b.consumed.subSat ret, recalled := true } }
  s₁.modifyUsage b.borrower fun u =>
    { u with
      borrowedConsumed := u.borrowedConsumed.subSat ret
      debt := u.debt.subSat ret }

/-- The lending side of a return.  The lender's counter is touched only when the lending record
    has no dimension left at all. -/
def closeLending (s : Engine) (lid : LendingId) (ret : ResourceVector) : Engine :=
  match s.lends.lookup lid with
  | none => s
  | some l =>
    let outstanding := l.outstanding.subSat ret
    let s₁ := { s with lends := s.lends.modify lid fun x => { x with outstanding := outstanding } }
    if outstanding.isEmpty && l.amount.presentCount != 0 then
      s₁.modifyUsage l.lender fun u => { u with lent := u.lent.subSat l.amount }
    else s₁

/-- `return_borrow` on an unreturned borrow `b`. -/
def closeLoan (env : Env) (s : Engine) (bid : BorrowId) (b : BorrowRecord) (ret : ResourceVector) :
    Engine :=
  ((s.closeBorrow bid b ret).closeLending b.lending ret).emitEvent env .recall b.borrower
    (text "borrow returned")

def returnBorrow (env : Env) (s : Engine) (bid : BorrowId) (amount : ResourceVector) :
    QuotaStatus × Engine :=
  match s.borrows.lookup bid with
  | none => (.failure .staleReservation (text "unknown borrow"), s)
  | some b =>
    if b.recalled then (.failure .duplicateRelease (text "borrow already returned"), s)
    else (.success, s.closeLoan env bid b (ResourceVector.min amount b.consumed))

/-- `return_borrow(bid, borrows_[bid].consumed)`: the subscript creates a missing record. -/
def returnListed (env : Env) (s : Engine) (bid : BorrowId) : Engine :=
  let s' := { s with borrows := s.borrows.emplace bid {} }
  (s'.returnBorrow env bid ((s'.borrows.lookup bid).getD {}).consumed).2

def returnAll (env : Env) (s : Engine) (bids : List BorrowId) : Engine :=
  bids.foldl (returnListed env) s

/-! ## Policy, hierarchy, quotas -/

def setPolicy (env : Env) (s : Engine) (policy : QuotaPolicy) : QuotaStatus × Engine :=
  match policy.validate with
  | some err => (.failure .invalidHierarchy (text "invalid policy: " ++ err), s)
  | none =>
    (.success, ({ s with policy := policy }).emitEvent env .quotaUpdate {} (text "policy replaced"))

def advanceEpoch (env : Env) (s : Engine) : QuotaStatus × Engine :=
  (.success,
    ({ s with epoch := s.epoch.next }).emitEvent env .quotaUpdate {}
      (text "coordinator epoch advanced"))

/-- The group record both group constructors make. -/
def newGroup (env : Env) (s : Engine) (name : Str) (kind : TenantGroupKind)
    (parent : Option TenantGroupId) : TenantGroup :=
  { id := env.groupId, name := name, kind := kind, parent := parent
    policyGeneration := s.policy.generation }

def createGroupAutoid (env : Env) (s : Engine) (name : Str) (kind : TenantGroupKind)
    (parent : Option TenantGroupId) : TenantGroupId × Engine :=
  (env.groupId, { s with groups := s.groups.emplace env.groupId (s.newGroup env name kind parent) })

def createGroup (env : Env) (s : Engine) (name : Str) (kind : TenantGroupKind)
    (parent : Option TenantGroupId) : QuotaStatus × Engine :=
  if parent.any fun p => !s.groupExists p then
    (.failure .invalidHierarchy (text "parent group missing"), s)
  else
    (.success,
      ({ s with groups := s.groups.emplace env.groupId (s.newGroup env name kind parent) }).emitEvent
        env .quotaUpdate {} (text "group created"))

def createTenant (env : Env) (s : Engine) (id : TenantId) (name : Str)
    (group : Option TenantGroupId) (priority : UInt32) : QuotaStatus × Engine :=
  if s.tenants.entries.length ≥ s.settings.maxTenants.toNat then
    (.failure .resourceOverflow (text "tenant limit reached"), s)
  else if s.tenantExists id then
    (.failure .duplicateReservation (text "tenant id already exists"), s)
  else if group.any fun g => !s.groupExists g then
    (.failure .invalidHierarchy (text "group missing"), s)
  else
    let tn : Tenant := { id := id, name := name, group := group, priority := priority }
    (.success,
      ({ s with tenants := s.tenants.emplace id tn }).emitEvent env .quotaUpdate id
        (text "tenant created"))

def setTenantQuota (env : Env) (s : Engine) (t : TenantId) (q : ResourceQuota) :
    QuotaStatus × Engine :=
  if !s.tenantExists t then (.failure .wrongTenant (text "tenant missing"), s)
  else if (s.localQuota.lookup t).isSome && !latticeCoherent q then
    (.failure .invalidHierarchy (text "incoherent lattice (guarantee>soft>hard)"), s)
  else
    let q' := { q with
      tenant := t, generation := s.quotaGeneration, policyGeneration := s.policy.generation }
    (.success,
      ({ s with localQuota := s.localQuota.insert t q', quotaGeneration := s.quotaGeneration.next }
        ).emitEvent env .quotaUpdate t (text "tenant quota updated"))

def setGroupQuota (env : Env) (s : Engine) (g : TenantGroupId) (q : ResourceQuota) :
    QuotaStatus × Engine :=
  if !s.groupExists g then (.failure .invalidHierarchy (text "group missing"), s)
  else
    let q' := { q with
      tenant := {}, generation := s.quotaGeneration, policyGeneration := s.policy.generation }
    (.success,
      ({ s with groupQuota := s.groupQuota.insert g q', quotaGeneration := s.quotaGeneration.next }
        ).emitEvent env .quotaUpdate {} (text "group quota updated"))

/-! ## Reservation lifecycle -/

/-- Burst part of a request that takes the committed amount from `base` to `nc`. -/
def burstPart (env : Env) (eff : ResourceQuota) (d : ResourceDimension) (base nc : Int) : Int :=
  let soft := softOf eff d
  let hard := hardOf eff d
  max 0 (clamp env.clampUndef (nc - soft) 0 (hard - soft) -
    clamp env.clampUndef (base - soft) 0 (hard - soft))

/-- Part of the request above the hard limit, to be borrowed. -/
def borrowPart (eff : ResourceQuota) (d : ResourceDimension) (base nc : Int) : Int :=
  let hard := hardOf eff d
  max 0 (max 0 (nc - hard) - max 0 (base - hard))

/-- Loop state of the funding loop of `reserve`. -/
structure Draw where
  engine : Engine
  burst : ResourceVector := .empty
  borrowIds : List BorrowId := []

/-- One dimension of the funding loop. -/
def fundDimension (env : Env) (eff : ResourceQuota) (cb : ResourceVector) (t : TenantId)
    (req : ResourceVector) (st : Draw) (d : ResourceDimension) : Except (QuotaStatus × Engine) Draw :=
  if !req.present d || isConsumable d then .ok st
  else
    let base := cb.get d
    let nc := satAdd base (req.get d)
    let bp := burstPart env eff d base nc
    let burst := if bp > 0 then (st.burst.set d bp).2 else st.burst
    let borr := borrowPart eff d base nc
    if borr > 0 then
      match st.engine.borrowImpl env d t (ResourceVector.fromScalar d borr) none with
      | (.error e, s') =>
        -- rollback any prior borrows
        .error (.failure e.code (text "borrow failed: " ++ e.message), s'.returnAll env st.borrowIds)
      | (.ok b, s') => .ok { engine := s', burst := burst, borrowIds := st.borrowIds ++ [b.id] }
    else .ok { st with burst := burst }

def fundLoop (env : Env) (eff : ResourceQuota) (cb : ResourceVector) (t : TenantId)
    (req : ResourceVector) : List ResourceDimension → Draw → Except (QuotaStatus × Engine) Draw
  | [], st => .ok st
  | d :: ds, st =>
    match fundDimension env eff cb t req st d with
    | .error e => .error e
    | .ok st' => fundLoop env eff cb t req ds st'

/-- Violation reported for a refused decision. -/
def denialCode : DecisionCode → ViolationCode
  | .denyHard => .hardLimitExceeded
  | .denySoft => .softLimitExceeded
  | .denyParent => .parentLimitExceeded
  | _ => .physicalCapacityMismatch

/-- The reservation `reserve` records. -/
def newReservation (env : Env) (s : Engine) (t : TenantId) (req : ResourceVector) (auth : Authority) :
    Reservation :=
  { id := env.reservationId, tenant := t, resources := req, status := .committed
    createdAt := env.now, expiresAt := 0, quotaGeneration := s.quotaGeneration
    policyGeneration := s.policy.generation, epoch := s.epoch, ownerAgent := auth.agent
    ownerBoot := auth.boot, resourceGeneration := auth.resourceGeneration }

/-- Burst window activation. -/
def startBurst (env : Env) (eff : ResourceQuota) (s : Engine) (t : TenantId) (burst : ResourceVector) :
    Engine :=
  if burst.isEmpty then s
  else
    s.modifyUsage t fun u =>
      { u with
        burstActive := true, burstStarted := env.now
        burstExpires := env.now + eff.burstRule.window, cooldownUntil := 0 }

/-- Enter a reservation and its funding. -/
def addReservation (s : Engine) (res : Reservation) (f : Funding) : Engine :=
  { s with
    funding := s.funding.insert res.id f
    reservations := s.reservations.emplace res.id res }

/-- The end of `reserve`, once every dimension is funded. -/
def recordReservation (env : Env) (eff : ResourceQuota) (t : TenantId) (req : ResourceVector)
    (auth : Authority) (st : Draw) : Reservation × Engine :=
  let s₁ := startBurst env eff st.engine t st.burst
  let res := s₁.newReservation env t req auth
  let s₂ := s₁.addReservation res { burst := st.burst, borrows := st.borrowIds }
  let s₃ := s₂.syncUsage env 0 t
  (res, s₃.emitEvent env .reservation t (text "reservation committed (" ++ req.toStr ++ text ")"))

def reserve (env : Env) (s : Engine) (t : TenantId) (req : ResourceVector) (auth : Authority) :
    QuotaResult Reservation × Engine :=
  if s.staleEpoch auth then
    (.error (.failure .staleAuthority (text "stale coordinator epoch")), s)
  else if s.staleQuotaGen auth then
    (.error (.failure .staleQuotaGeneration (text "stale quota generation")), s)
  else if !s.validAuthority auth then
    (.error (.failure .staleAuthority (text "stale authority")), s)
  else if !s.tenantExists t then
    (.error (.failure .wrongTenant (text "unknown tenant")), s)
  else
    let dec := s.classify env t req
    if !dec.allowed then
      (.error (.failure (denialCode dec.code) dec.explanation.human), s)
    else
      let eff := s.effectiveLattice t
      let s₁ := s.modifyUsage t id
      match fundLoop env eff (s₁.committed t) t req allResourceDimensions { engine := s₁ } with
      | .error (st, s₂) => (.error st, s₂)
      | .ok st =>
        let r := recordReservation env eff t req auth st
        (.ok r.1, r.2)

/-- Commit a reservation under the current quota generation. -/
def markCommitted (s : Engine) (rid : ReservationId) : Engine :=
  { s with
    reservations := s.reservations.modify rid fun x =>
      { x with status := .committed, quotaGeneration := s.quotaGeneration } }

def commitReservation (env : Env) (s : Engine) (rid : ReservationId) (auth : Authority) :
    QuotaStatus × Engine :=
  if s.staleEpoch auth then (.failure .staleAuthority (text "stale epoch"), s)
  else if s.staleQuotaGen auth then
    (.failure .staleQuotaGeneration (text "stale quota generation"), s)
  else
    match s.reservations.lookup rid with
    | none => (.failure .staleReservation (text "unknown reservation"), s)
    | some r =>
      if r.status = .committed then (.success, s)
      else if r.status ≠ .provisional then
        (.failure .staleReservation (text "reservation not provisional"), s)
      else
        let s₁ := s.markCommitted rid
        let s₂ := s₁.syncUsage env 0 r.tenant
        (.success, s₂.emitEvent env .reservation r.tenant (text "reservation committed"))

/-- Store a new status. -/
def setStatus (s : Engine) (rid : ReservationId) (status : ReservationStatus) : Engine :=
  { s with reservations := s.reservations.modify rid fun x => { x with status := status } }

/-- The allocation `start_allocation` enters. -/
def newAllocation (env : Env) (s : Engine) (r : Reservation) (rid : ReservationId)
    (req : ResourceVector) (auth : Authority) : Allocation :=
  { id := env.allocationId, tenant := r.tenant, reservation := rid, resources := req
    startedAt := env.now, active := true, quotaGeneration := s.quotaGeneration
    policyGeneration := s.policy.generation, epoch := s.epoch
    ownerAgent := auth.agent, ownerBoot := auth.boot }

def startAllocation (env : Env) (s : Engine) (rid : ReservationId) (req : ResourceVector)
    (auth : Authority) : QuotaResult Allocation × Engine :=
  if !s.validAuthority auth then
    (.error (.failure .staleAuthority (text "stale authority")), s)
  else
    match s.reservations.lookup rid with
    | none => (.error (.failure .staleReservation (text "unknown reservation")), s)
    | some r =>
      if !activeRes r then
        (.error (.failure .staleReservation (text "reservation not active")), s)
      else
        let al := s.newAllocation env r rid req auth
        let s₁ := ({ s with allocations := s.allocations.emplace al.id al }).setStatus rid .consumed
        let s₂ := s₁.syncUsage env 0 r.tenant
        (.ok al, s₂.emitEvent env .reservation r.tenant (text "allocation started"))

/-- The decision codes that make a resize fail. -/
def resizeDenied : DecisionCode → Bool
  | .denyHard => true
  | .denyParent => true
  | .denyPhysical => true
  | _ => false

/-- What `resize_allocation` stores in `used`. -/
def resizedUse (a : Allocation) (delta : ResourceVector) : ResourceVector :=
  ResourceVector.min (a.used.add delta true).2 a.resources

/-- `resize_allocation`: the use is written before the quota check. -/
def resizeAllocation (env : Env) (s : Engine) (aid : AllocationId) (delta : ResourceVector)
    (auth : Authority) : QuotaStatus × Engine :=
  if s.staleQuotaGen auth then
    (.failure .staleQuotaGeneration (text "stale quota generation"), s)
  else
    match s.allocations.lookup aid with
    | none => (.failure .staleReservation (text "unknown allocation"), s)
    | some a =>
      if !a.active then (.failure .staleReservation (text "allocation not active"), s)
      else
        let s₁ := { s with
          allocations := s.allocations.modify aid fun x => { x with used := resizedUse a delta } }
        let dec := s₁.classify env a.tenant a.resources
        if resizeDenied dec.code then
          (.failure (if dec.code = .denyParent then .parentLimitExceeded else .hardLimitExceeded)
              dec.explanation.human,
            s₁.emitEvent env .violation a.tenant (text "allocation resize would violate quota"))
        else
          let s₂ := s₁.syncUsage env 0 a.tenant
          (.success, s₂.emitEvent env .reservation a.tenant (text "allocation resized"))

/-- The loans listed in the funding of a reservation. -/
def listedBorrows (s : Engine) (rid : ReservationId) : List BorrowId :=
  match s.funding.lookup rid with
  | none => []
  | some f => f.borrows

/-- Stop the allocations of a reservation and prune it with its funding. -/
def dropReservation (s : Engine) (rid : ReservationId) : Engine :=
  { s with
    allocations := s.allocations.mapVals fun _ a =>
      if a.reservation = rid then { a with active := false } else a
    reservations := s.reservations.erase rid
    funding := s.funding.erase rid }

/-- `release`: mark the reservation, return its loans, prune it, then sync. -/
def release (env : Env) (s : Engine) (rid : ReservationId) (auth : Authority) : QuotaStatus × Engine :=
  if s.staleEpoch auth then (.failure .staleAuthority (text "stale epoch"), s)
  else
    match s.reservations.lookup rid with
    | none => (.failure .staleReservation (text "unknown reservation"), s)
    | some r =>
      if !activeRes r then
        (.failure .duplicateRelease (text "reservation already released"), s)
      else
        let s₁ := s.setStatus rid .released
        let s₂ := s₁.returnAll env (s₁.listedBorrows rid)
        let s₃ := s₂.dropReservation rid
        let s₄ := s₃.syncUsage env 0 r.tenant
        (.success, s₄.emitEvent env .release r.tenant (text "reservation released"))

def releaseAllocation (env : Env) (s : Engine) (aid : AllocationId) (auth : Authority) :
    QuotaStatus × Engine :=
  if s.staleQuotaGen auth then
    (.failure .staleQuotaGeneration (text "stale quota generation"), s)
  else
    match s.allocations.lookup aid with
    | none => (.failure .staleReservation (text "unknown allocation"), s)
    | some a =>
      if !a.active then (.failure .duplicateRelease (text "allocation already released"), s)
      else
        let s₁ := { s with
          allocations := s.allocations.modify aid fun x =>
            { x with active := false, endedAt := env.now } }
        let s₂ := s₁.syncUsage env 0 a.tenant
        (.success, s₂.emitEvent env .release a.tenant (text "allocation released"))

/-! ## Borrow, lend, recall -/

def borrow (env : Env) (s : Engine) (borrower : TenantId) (amount : ResourceVector)
    (auth : Authority) : QuotaResult BorrowRecord × Engine :=
  if s.staleEpoch auth || !s.validAuthority auth then
    (.error (.failure .staleAuthority (text "stale authority")), s)
  else if !s.tenantExists borrower then
    (.error (.failure .wrongTenant (text "unknown borrower")), s)
  else
    match s.borrowImpl env default borrower amount none with
    | (.error e, s₁) => (.error e, s₁)
    | (.ok b, s₁) => (.ok b, s₁.syncUsage env 0 borrower)

/-- `lend`: the named lender is checked, then `borrow_impl` picks a lender by itself. -/
def lend (env : Env) (s : Engine) (lender borrower : TenantId) (amount : ResourceVector)
    (auth : Authority) : QuotaResult LendingRecord × Engine :=
  if !s.validAuthority auth || s.staleEpoch auth then
    (.error (.failure .staleAuthority (text "stale authority")), s)
  else if !s.tenantExists lender then
    (.error (.failure .wrongTenant (text "unknown lender")), s)
  else if !s.canLend lender amount then
    (.error (.failure .hardLimitExceeded (text "lender lacks borrowable headroom")), s)
  else
    match s.borrowImpl env default borrower amount none with
    | (.error e, s₁) => (.error (.failure e.code e.message), s₁)
    | (.ok b, s₁) =>
      let s₂ := (s₁.syncUsage env 0 lender).syncUsage env 1 borrower
      match s₂.lends.lookup b.lending with
      | none => (.error (.failure .invalidHierarchy (text "lend record missing")), s₂)
      | some l => (.ok l, s₂)

def recallBorrow (env : Env) (s : Engine) (bid : BorrowId) (auth : Authority) :
    QuotaStatus × Engine :=
  if s.staleEpoch auth then (.failure .staleAuthority (text "stale epoch"), s)
  else
    match s.borrows.lookup bid with
    | none => (.failure .staleReservation (text "unknown borrow"), s)
    | some b =>
      match s.returnBorrow env bid b.consumed with
      | (st, s₁) =>
        if st.ok then
          let s₂ := (s₁.syncUsage env 0 b.borrower).syncUsage env 1 b.lender
          (st, s₂.emitEvent env .recall b.borrower (text "borrow recalled"))
        else (st, s₁)

/-! ## Observations, snapshots, persistence -/

/-- Default one-hour rolling window. -/
def defaultWindowNs : Nanos := 3600000000000

/-- Add a sample to the window of one dimension. -/
def addSample (d : ResourceDimension) (at_ : Nanos) (amount : Int) (u : Usage) : Usage :=
  let w := u.windows d
  let w := if w.windowNs ≤ 0 then { w with windowNs := defaultWindowNs } else w
  { u with windows := Function.update u.windows d (w.add at_ amount) }

/-- `u.consumption.set(d, u.consumption.get(d) + amount)`. -/
def shiftConsumption (d : ResourceDimension) (amount : Int) (u : Usage) : Usage :=
  { u with consumption := (u.consumption.set d (u.consumption.get d + amount)).2 }

def applyObservation (env : Env) (s : Engine) (obs : Observation) : QuotaStatus × Engine :=
  if !s.tenantExists obs.tenant then
    (.failure .wrongTenant (text "unknown tenant for observation"), s)
  else
    let now := if obs.at_ > 0 then obs.at_ else env.now
    let s₀ := s.modifyUsage obs.tenant id
    let done (s' : Engine) : QuotaStatus × Engine :=
      (.success,
        s'.emitEvent env .violation obs.tenant
          (text "observation " ++ resourceDimensionName obs.dimension))
    match obs.kind with
    | .computeInterval =>
      if obs.dimension ≠ .acceleratorComputeTime then
        (.failure .invalidSharedAttribution (text "compute interval on wrong dimension"), s₀)
      else done (s₀.modifyUsage obs.tenant (addSample obs.dimension now obs.amount))
    | .transferConsumed =>
      if obs.dimension ≠ .transferBytes then
        (.failure .invalidSharedAttribution (text "transfer consumed on wrong dimension"), s₀)
      else done (s₀.modifyUsage obs.tenant (addSample .transferBytes now obs.amount))
    | .modelResidencyAdded =>
      let d := ResourceDimension.modelResidencyBytes
      let x := (s₀.usageOf obs.tenant).consumption.get d + obs.amount
      let s₁ := { s₀ with
        allocations := s₀.allocations.modify obs.allocation fun a =>
          { a with used := (a.used.set d x).2 } }
      done (s₁.modifyUsage obs.tenant (shiftConsumption d obs.amount))
    | .modelResidencyRemoved =>
      let d := ResourceDimension.modelResidencyBytes
      done (s₀.modifyUsage obs.tenant fun u =>
        { u with consumption := (u.consumption.set d (max 0 (u.consumption.get d - obs.amount))).2 })
    | .kvUsageChange => done (s₀.modifyUsage obs.tenant (shiftConsumption obs.dimension obs.amount))
    | .tensorUsageChange =>
      done (s₀.modifyUsage obs.tenant (shiftConsumption obs.dimension obs.amount))
    | .usageDelta => done (s₀.modifyUsage obs.tenant (shiftConsumption obs.dimension obs.amount))
    | .allocationStart => done s₀
    | .allocationResize => done s₀
    | .allocationRelease => done s₀
    | .reservationCommitted => done s₀

/-- The effect of `snapshot` on the state. -/
def snapshotStep (s : Engine) : Engine := { s with sequence := s.sequence + 1 }

/-- The effect of `save_to` on the state; `fileOk` tells whether the file was written and renamed. -/
def saveTo (env : Env) (s : Engine) (path : Str) : QuotaStatus × Engine :=
  if env.fileOk then
    (.success,
      ({ s with persistPath := path }).emitEvent env .recovery {} (text "state persisted"))
  else (.failure .resourceOverflow (text "write failed"), s)

end Engine

/-! ## Calls -/

/-- A public call that may change the state, other than `load_from`.  `query` stands for every read-only
    method. -/
inductive Call where
  | setPolicy (policy : QuotaPolicy)
  | advanceEpoch
  | createGroup (name : Str) (kind : TenantGroupKind) (parent : Option TenantGroupId)
  | createGroupAutoid (name : Str) (kind : TenantGroupKind) (parent : Option TenantGroupId)
  | createTenant (id : TenantId) (name : Str) (group : Option TenantGroupId) (priority : UInt32)
  | createTenantAutoid (name : Str) (group : Option TenantGroupId) (priority : UInt32)
  | setTenantQuota (t : TenantId) (q : ResourceQuota)
  | setGroupQuota (g : TenantGroupId) (q : ResourceQuota)
  | reserve (t : TenantId) (req : ResourceVector) (auth : Authority)
  | commitReservation (rid : ReservationId) (auth : Authority)
  | startAllocation (rid : ReservationId) (req : ResourceVector) (auth : Authority)
  | resizeAllocation (aid : AllocationId) (delta : ResourceVector) (auth : Authority)
  | release (rid : ReservationId) (auth : Authority)
  | releaseAllocation (aid : AllocationId) (auth : Authority)
  | borrow (borrower : TenantId) (amount : ResourceVector) (auth : Authority)
  | lend (lender borrower : TenantId) (amount : ResourceVector) (auth : Authority)
  | recallBorrow (bid : BorrowId) (auth : Authority)
  | applyObservation (obs : Observation)
  | snapshot
  | saveTo (path : Str)
  | query

namespace Engine

/-- Run one call. -/
def exec (env : Env) (s : Engine) : Call → QuotaStatus × Engine
  | .setPolicy policy => s.setPolicy env policy
  | .advanceEpoch => s.advanceEpoch env
  | .createGroup name kind parent => s.createGroup env name kind parent
  | .createGroupAutoid name kind parent => (.success, (s.createGroupAutoid env name kind parent).2)
  | .createTenant id name group priority => s.createTenant env id name group priority
  | .createTenantAutoid name group priority => s.createTenant env env.tenantId name group priority
  | .setTenantQuota t q => s.setTenantQuota env t q
  | .setGroupQuota g q => s.setGroupQuota env g q
  | .reserve t req auth => let r := s.reserve env t req auth; (r.1.status, r.2)
  | .commitReservation rid auth => s.commitReservation env rid auth
  | .startAllocation rid req auth =>
    let r := s.startAllocation env rid req auth; (r.1.status, r.2)
  | .resizeAllocation aid delta auth => s.resizeAllocation env aid delta auth
  | .release rid auth => s.release env rid auth
  | .releaseAllocation aid auth => s.releaseAllocation env aid auth
  | .borrow borrower amount auth => let r := s.borrow env borrower amount auth; (r.1.status, r.2)
  | .lend lender borrower amount auth =>
    let r := s.lend env lender borrower amount auth; (r.1.status, r.2)
  | .recallBorrow bid auth => s.recallBorrow env bid auth
  | .applyObservation obs => s.applyObservation env obs
  | .snapshot => (.success, s.snapshotStep)
  | .saveTo path => s.saveTo env path
  | .query => (.success, s)

/-- The state after one call, for runs. -/
def after (s : Engine) (c : Env × Call) : Engine := (s.exec c.1 c.2).2

end Engine

end QuotaFabric
