import QuotaFabric.Accounting.Snapshot
import QuotaFabric.Coordinator.Interleaving
import QuotaFabric.Protocol.Acceptance
import QuotaFabric.Protocol.Response

/-!
# What the coordinator answers

Model of the bodies of `handle_session` and of `snapshot_text`.

* `Protocol.WireEnvelope.of`, `Protocol.WireDecision.of` — the engine's answers as a response carries them;
* `arrival` — what a frame brings: a request, or the text of what `decode_request` throws;
* `answer` — the engine call of a served type and the response made from its result;
* `serveAlone` — a request from its check to its response, with nobody in between.
-/

set_option autoImplicit false

namespace QuotaFabric

open ResourceVector

/-! ## Texts -/

/-- `to_string(ComplianceState)`. -/
def ComplianceState.name : ComplianceState → Str
  | .compliant => text "COMPLIANT"
  | .overSoft => text "OVER_SOFT"
  | .overHard => text "OVER_HARD"
  | .recallRequired => text "RECALL_REQUIRED"
  | .reclaimRequired => text "RECLAIM_REQUIRED"

def showCount (n : Nat) : Str := showAmount n

def ReadError.what : ReadError → Str
  | .decode w => w
  | .refused m => m

namespace QuotaSnapshot

def tenantLine (t : Tenant) : Str :=
  text "  tenant " ++ t.id.toHex ++ text " [" ++ t.name ++ text "] group=" ++
    (match t.group with | some g => g.toHex | none => text "-") ++
    text " prio=" ++ showCount t.priority.toNat ++ text "\n"

def envelopeLine (e : QuotaEnvelope) : Str :=
  text "  " ++ e.tenant.toHex ++ text " committed=" ++ e.committedUsage.toStr ++
    text " compliance=" ++ e.compliance.name ++ text "\n"

/-- `snapshot_text`. -/
def toText (s : QuotaSnapshot) : Str :=
  text "snapshot epoch=" ++ showCount s.epoch.value.toNat ++
    text " quota_gen=" ++ showCount s.quotaGeneration.value.toNat ++
    text " policy_gen=" ++ showCount s.policyGeneration.value.toNat ++ text "\n" ++
  text "  groups=" ++ showCount s.groups.length ++ text " tenants=" ++ showCount s.tenants.length ++ text "\n" ++
  text "  quotas=" ++ showCount s.quotas.length ++ text " envelopes=" ++ showCount s.envelopes.length ++ text "\n" ++
  text "  reservations=" ++ showCount s.reservations.length ++
    text " allocations=" ++ showCount s.allocations.length ++ text "\n" ++
  text "  borrows=" ++ showCount s.borrowRecords.length ++
    text " lends=" ++ showCount s.lendingRecords.length ++ text "\n" ++
  s.tenants.flatMap tenantLine ++ s.envelopes.flatMap envelopeLine

end QuotaSnapshot

/-! ## Responses -/

namespace Protocol

/-- An envelope in a response.  The engine leaves the resource class and the violation unset. -/
def WireEnvelope.of (e : QuotaEnvelope) : WireEnvelope where
  tenant := e.tenant
  guaranteed := e.guaranteed
  softLimit := e.softLimit
  hardLimit := e.hardLimit
  burstLimit := e.burstLimit
  currentConsumption := e.currentConsumption
  reserved := e.reserved
  committedUsage := e.committedUsage
  borrowed := e.borrowed
  burstUsage := e.burstUsage
  lent := e.lent
  debt := e.debt
  availableGuaranteed := e.availableGuaranteed
  availableSoft := e.availableSoft
  availableBurst := e.availableBurst
  compliance := .of e.compliance
  generation := e.generation
  policyGeneration := e.policyGeneration
  epoch := e.epoch
  burstExpiresAt := e.burstExpiresAt
  burstActive := e.burstActive

def WireDecision.of (dec : QuotaDecision) : WireDecision where
  code := .of dec.code
  requested := dec.requested
  guarantee := dec.guarantee
  softLimit := dec.softLimit
  hardLimit := dec.hardLimit
  limitingDimension := dec.limitingDimension.map .of
  explanation := dec.explanation

/-- The response to a call that returns a value. -/
def WireResponse.ofResult {T : Type} (put : T → WireResponse → WireResponse) : QuotaResult T → WireResponse
  | .ok v => put v (responseFrom .success)
  | .error st => responseFrom (.failure st.code st.message)

/-- What the session loop reads of a request.  With an undeclared dimension the engine has no defined
    behaviour. -/
def WireRequest.read? (q : WireRequest) : Option QuotaFabric.WireRequest :=
  let r : QuotaFabric.WireRequest :=
    { type := q.type, auth := q.auth, tenant := q.tenant, tenant2 := q.tenant2, group := q.group, kind := q.kind
      reservation := q.reservation, allocation := q.allocation, borrow := q.borrow
      agentId := q.agentId, agentBoot := q.agentBoot, name := q.name, priority := q.priority
      req := q.req, quota := q.quota }
  if q.type = .observe then q.observation.toObservation?.map fun o => { r with observation := o } else some r

end Protocol

open Protocol (WireResponse WireDecision WireEnvelope responseFrom)

/-- A request, or the text of what `decode_request` throws. -/
abbrev Arrival := Except Str WireRequest

/-- What a frame brings.  An `OBSERVE` with an undeclared dimension is outside the model, and so are the runs
    it arrives in: the session takes it, but `apply_observation` may leave its arrays on it. -/
def arrival (f : Frame) : Option Arrival :=
  match Protocol.decodeRequest f.payload with
  | .error e => some (.error e.what)
  | .ok q => q.read?.map .ok

namespace Reply

def malformed (what : Str) : WireResponse :=
  responseFrom (.failure .staleReservation (text "malformed request: " ++ what))

def unsupported : WireResponse := responseFrom (.failure .staleReservation (text "unsupported message type"))

def staleEpoch : WireResponse := responseFrom (.failure .staleAuthority (text "stale coordinator epoch"))

def staleGeneration : WireResponse := responseFrom (.failure .staleQuotaGeneration (text "stale quota generation"))

def stalePolicy : WireResponse := responseFrom (.failure .stalePolicy (text "stale policy generation"))

def staleBoot : WireResponse := responseFrom (.failure .staleAuthority (text "stale agent boot identity"))

def registered (q : WireRequest) : WireResponse :=
  { ok := true
    text := text "registered agent_id=" ++ q.agentId.toHex ++ text " boot=" ++ q.agentBoot.toHex }

def pong (epoch : CoordinatorEpoch) (generation : QuotaGeneration) : WireResponse :=
  { ok := true
    text := text "pong epoch=" ++ showCount epoch.value.toNat ++
      text " quota_gen=" ++ showCount generation.value.toNat }

end Reply

/-- The engine call of a served type whose checks are passed, and the response made from its result. -/
def answer (env : Env) (s : Engine) (q : WireRequest) : WireResponse × Engine :=
  match q.type with
  | .createGroup =>
    let r := s.createGroup env q.name q.kind q.optionalGroup
    -- code and message of a failure are not passed on
    ({ ok := r.1.ok, text := text "group created" }, r.2)
  | .createTenant =>
    let r := s.createTenant env env.tenantId q.name q.optionalGroup q.priority
    ({ ok := r.1.ok, message := r.1.message, text := (if r.1.ok then env.tenantId else {}).toHex }, r.2)
  | .setTenantQuota =>
    let r := s.setTenantQuota env q.tenant q.quota
    (responseFrom r.1, r.2)
  | .setGroupQuota =>
    let r := s.setGroupQuota env q.group q.quota
    (responseFrom r.1, r.2)
  | .evaluate => ({ ok := true, decision := .of (s.evaluateReservation env q.tenant q.req) }, s)
  | .reserve =>
    let r := s.reserve env q.tenant q.req q.auth
    (.ofResult (fun v resp => { resp with reservation := v }) r.1, r.2)
  | .commitReservation =>
    let r := s.commitReservation env q.reservation q.auth
    (responseFrom r.1, r.2)
  | .release =>
    let r := s.release env q.reservation q.auth
    (responseFrom r.1, r.2)
  | .startAllocation =>
    let r := s.startAllocation env q.reservation q.req q.auth
    (.ofResult (fun v resp => { resp with allocation := v }) r.1, r.2)
  | .releaseAllocation =>
    let r := s.releaseAllocation env q.allocation q.auth
    (responseFrom r.1, r.2)
  | .borrow =>
    let r := s.borrow env q.tenant q.req q.auth
    (.ofResult (fun v resp => { resp with borrow := v }) r.1, r.2)
  | .lend =>
    let r := s.lend env q.tenant q.tenant2 q.req q.auth
    (.ofResult (fun v resp => { resp with lend := v }) r.1, r.2)
  | .recallBorrow =>
    let r := s.recallBorrow env q.borrow q.auth
    (responseFrom r.1, r.2)
  | .recallDecision => ({ ok := true, recall_ := (s.recallDecision q.tenant).map .of }, s)
  | .observe =>
    let r := s.applyObservation env q.observation
    (responseFrom r.1, r.2)
  | .envelope => ({ ok := true, envelope := .of (s.envelope q.tenant) }, s)
  | .snapshot =>
    -- the order of the group quotas does not show in the text
    let r := s.snapshot env default
    ({ ok := true, text := r.1.toText }, r.2)
  | _ => (Reply.unsupported, s)

/-- What all sessions share. -/
structure Shared where
  engine : Engine := {}
  agents : UMap AgentId AgentBootId := ∅

/-- The registered boot identity of an observation's agent. -/
def Shared.identifies (sh : Shared) (q : WireRequest) : Bool :=
  decide (sh.agents.lookup q.observation.agent = some q.observation.boot)

/-- The checks of a served request, then its engine call. -/
def Shared.checkAndAnswer (env : Env) (sh : Shared) (q : WireRequest) : WireResponse × Shared :=
  let st := sh.engine.checkAuthority q
  if !st.ok then (responseFrom st, sh)
  else if q.type = .observe ∧ sh.identifies q = false then (Reply.staleBoot, sh)
  else
    let r := answer env sh.engine q
    (r.1, { sh with engine := r.2 })

/-- One request from its arrival to its response. -/
def serveAlone (env : Env) (sh : Shared) : Arrival → WireResponse × Shared
  | .error what => (Reply.malformed what, sh)
  | .ok q =>
    match q.type with
    | .hello => (Reply.registered q, { sh with agents := sh.agents.insert q.agentId q.agentBoot })
    | .ping => (Reply.pong sh.engine.epoch sh.engine.quotaGeneration, sh)
    | .advanceEpoch =>
      let r := sh.engine.advanceEpoch env
      (responseFrom r.1, { sh with engine := r.2 })
    | _ => if q.call.isSome then sh.checkAndAnswer env q else (Reply.unsupported, sh)

/-! ## Answers and engine calls -/

section Answers

variable (env : Env) (s : Engine) {q : WireRequest} {call : Call}

theorem ofResult_failed {T : Type} (put : T → WireResponse → WireResponse) {r : QuotaResult T}
    (h : r.status.ok = false) : (WireResponse.ofResult put r).ok = false := by
  cases r with
  | ok v => cases h
  | error st => rfl

/-- **The engine an answer leaves** is the one the call leaves. -/
theorem answer_engine (hcall : q.call = some call) : (answer env s q).2 = (s.exec env call).2 := by
  unfold WireRequest.call at hcall
  unfold answer
  cases htype : q.type
  all_goals simp only [htype, Option.some.injEq, reduceCtorEq] at hcall
  all_goals
    subst hcall
    rfl

/-- A call that fails is answered by an error. -/
theorem answer_failed (hcall : q.call = some call) (h : (s.exec env call).1.ok = false) :
    (answer env s q).1.ok = false := by
  unfold WireRequest.call at hcall
  unfold answer
  cases htype : q.type
  all_goals simp only [htype, Option.some.injEq, reduceCtorEq] at hcall
  all_goals subst hcall
  case evaluate | recallDecision | envelope | snapshot => cases h
  case reserve | startAllocation | borrow | lend => exact ofResult_failed _ h
  all_goals exact h

end Answers

end QuotaFabric
