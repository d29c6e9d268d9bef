import QuotaFabric.Engine.Operations
import QuotaFabric.Protocol.Frame

/-!
# The coordinator

Every connection has a thread that receives requests and serves them one at a time.  All threads share
the engine, whose calls are atomic, and the map of registered agents.

A request is served in up to three steps between which other threads may act: the authority check, for
an observation the lookup of the agent's boot identity, and the engine call.

* `WireRequest` — what arrives on the wire, as far as `handle_session` reads it;
* `WireRequest.call` — the engine call of each served type;
* `Session`, `Coordinator`, `Coordinator.next` — one step of one thread;
* `checkAuthority` — the check in front of every served type.
-/

set_option autoImplicit false

namespace QuotaFabric

structure WireRequest where
  type : MessageType := .ping
  auth : Authority := {}
  tenant : TenantId := {}
  tenant2 : TenantId := {}
  group : TenantGroupId := {}
  kind : TenantGroupKind := .team
  reservation : ReservationId := {}
  allocation : AllocationId := {}
  borrow : BorrowId := {}
  agentId : AgentId := {}
  agentBoot : AgentBootId := {}
  name : Str := []
  priority : UInt32 := 100
  req : ResourceVector := .empty
  quota : ResourceQuota := {}
  observation : Observation := { dimension := .acceleratorVRAM, amount := 0 }

namespace WireRequest

/-- A null group id stands for no group. -/
def optionalGroup (q : WireRequest) : Option TenantGroupId := if q.group = {} then none else some q.group

/-- The engine call that serves a request once its checks are passed. -/
def call (q : WireRequest) : Option Call :=
  match q.type with
  | .createGroup => some (.createGroup q.name q.kind q.optionalGroup)
  | .createTenant => some (.createTenantAutoid q.name q.optionalGroup q.priority)
  | .setTenantQuota => some (.setTenantQuota q.tenant q.quota)
  | .setGroupQuota => some (.setGroupQuota q.group q.quota)
  | .evaluate => some .query
  | .reserve => some (.reserve q.tenant q.req q.auth)
  | .commitReservation => some (.commitReservation q.reservation q.auth)
  | .release => some (.release q.reservation q.auth)
  | .startAllocation => some (.startAllocation q.reservation q.req q.auth)
  | .releaseAllocation => some (.releaseAllocation q.allocation q.auth)
  | .borrow => some (.borrow q.tenant q.req q.auth)
  | .lend => some (.lend q.tenant q.tenant2 q.req q.auth)
  | .recallBorrow => some (.recallBorrow q.borrow q.auth)
  | .recallDecision => some .query
  | .observe => some (.applyObservation q.observation)
  | .envelope => some .query
  | .snapshot => some .snapshot
  | _ => none

end WireRequest

/-- Validate authority for a mutating/query request coming from the wire. -/
def Engine.checkAuthority (s : Engine) (q : WireRequest) : QuotaStatus :=
  if q.auth.epoch ≠ s.epoch then .failure .staleAuthority (text "stale coordinator epoch")
  else if q.auth.quotaGeneration ≠ s.quotaGeneration then
    .failure .staleQuotaGeneration (text "stale quota generation")
  else if q.auth.policyGeneration ≠ s.policy.generation then
    .failure .stalePolicy (text "stale policy generation")
  else .success

/-- How far a thread is with its request. -/
inductive Session where
  | received (q : WireRequest)
  | checked (q : WireRequest)
  | identified (q : WireRequest)

/-- The engine, the registered agents and the threads that hold a request. -/
structure Coordinator where
  engine : Engine := {}
  agents : UMap AgentId AgentBootId := ∅
  sessions : UMap Nat Session := ∅

inductive Action where
  | receive (q : WireRequest)
  | proceed (env : Env)

namespace Coordinator

def enter (c : Coordinator) (i : Nat) (s : Session) : Coordinator := { c with sessions := c.sessions.insert i s }

/-- The reply is sent; the thread waits for its next request. -/
def finish (c : Coordinator) (i : Nat) : Coordinator := { c with sessions := c.sessions.erase i }

/-- First step of a request: what needs no check is done at once. -/
def begin (env : Env) (c : Coordinator) (i : Nat) (q : WireRequest) : Coordinator :=
  match q.type with
  | .hello => { c with agents := c.agents.insert q.agentId q.agentBoot }.finish i
  | .advanceEpoch => { c with engine := (c.engine.advanceEpoch env).2 }.finish i
  | _ =>
    -- `PING` and the types that are not served have no call
    if q.call.isSome && (c.engine.checkAuthority q).ok then c.enter i (.checked q) else c.finish i

/-- The boot identity of an observation must be the registered one. -/
def identify (c : Coordinator) (i : Nat) (q : WireRequest) : Coordinator :=
  if c.agents.lookup q.observation.agent = some q.observation.boot then c.enter i (.identified q)
  else c.finish i

/-- The engine call. -/
def serve (env : Env) (c : Coordinator) (i : Nat) (q : WireRequest) : Coordinator :=
  match q.call with
  | none => c.finish i
  | some call => { c with engine := (c.engine.exec env call).2 }.finish i

/-- One step of thread `m.1`. -/
def next (c : Coordinator) (m : Nat × Action) : Coordinator :=
  match c.sessions.lookup m.1, m.2 with
  | none, .receive q => c.enter m.1 (.received q)
  | some (.received q), .proceed env => c.begin env m.1 q
  | some (.checked q), .proceed env =>
    if q.type = .observe then c.identify m.1 q else c.serve env m.1 q
  | some (.identified q), .proceed env => c.serve env m.1 q
  | _, _ => c

/-- The request whose engine call is the thread's next step. -/
def due (c : Coordinator) (i : Nat) : Option WireRequest :=
  match c.sessions.lookup i with
  | some (.checked q) => if q.type = .observe then none else some q
  | some (.identified q) => some q
  | _ => none

end Coordinator

end QuotaFabric
