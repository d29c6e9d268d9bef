import QuotaFabric.Coordinator.Linear

/-!
# A client of the coordinator

`Rpc::call` of the command-line client: a request is encoded, framed and sent; the response is received in
whatever chunks the socket delivers, decoded, and its authority adopted.  `main` sends a `PING` first and
its requests under the authority it then has.

* `Rpc` — what the client keeps between its calls;
* `respond` — one frame of a session that nobody interferes with, from bytes to bytes;
* `Rpc.call`, `Dialogue.next` — one call, from the request to the decoded response; calls one after another;
* `Engine.direct` — the request made on the engine itself, without authority and without a wire;
* `remote_calls` — the calls of a client are calls on the engine, and it is never told that it is stale.
-/

set_option autoImplicit false

namespace QuotaFabric

open Replay
open Protocol (WireResponse responseFrom encodeRequest decodeRequest encodeResponse decodeResponse)

/-- A response under the authority of an engine. -/
def Protocol.WireResponse.under (r : WireResponse) (s : Engine) : WireResponse :=
  { r with epoch := s.epoch, quotaGeneration := s.quotaGeneration, policyGeneration := s.policy.generation }

/-! ## The two ends -/

/-- What a session sends for the bytes of one frame while nobody else acts.  A request that does not decode
    is answered without the authority; after a frame that does not decode the session is over. -/
def respond (env : Env) (sh : Shared) (bytes : Bytes) : Bytes × Shared :=
  match decodeFrame bytes with
  | .error _ => ([], sh)
  | .ok f =>
    match arrival f with
    | none => ([], sh)
    | some (.error what) => ((Sent.frame ⟨f.correlation, Reply.malformed what⟩).encode, sh)
    | some (.ok q) =>
      let r := serveAlone env sh (.ok q)
      ((Sent.frame ⟨f.correlation, r.1.under r.2.engine⟩).encode, r.2)

/-- The client's `Rpc`, with the authority it has adopted. -/
structure Rpc where
  correlation : UInt64 := 1
  auth : Authority := {}

namespace Rpc

/-- The authority of a response is adopted unless its epoch is zero. -/
def adopt (c : Rpc) (r : WireResponse) : Rpc :=
  if r.epoch.value ≠ 0 then
    { c with
      auth := { c.auth with
        epoch := r.epoch
        quotaGeneration := r.quotaGeneration
        policyGeneration := r.policyGeneration
        resourceGeneration := .initial } }
  else c

/-- A request under the adopted authority. -/
def address (c : Rpc) (q : Protocol.WireRequest) : Protocol.WireRequest :=
  { q with
    auth := { q.auth with
      epoch := c.auth.epoch
      quotaGeneration := c.auth.quotaGeneration
      policyGeneration := c.auth.policyGeneration
      resourceGeneration := .initial } }

def frame (c : Rpc) (q : Protocol.WireRequest) : Frame :=
  { type := q.type, correlation := c.correlation, payload := encodeRequest q }

/-- `Rpc::call`.  The response arrives in chunks of the sizes `chunks` gives. -/
def call (env : Env) (chunks : List Nat) (c : Rpc) (sh : Shared) (q : Protocol.WireRequest) :
    WireResponse × Rpc × Shared :=
  let out := respond env sh (c.frame q).encode
  let c := { c with correlation := c.correlation + 1 }
  match recvFrame ByteStream.cut (out.1, chunks) 0 with
  | (.error e, _) => ({ message := text "recv: " ++ e }, c, out.2)
  | (.ok f, _) =>
    match decodeResponse f.payload with
    | .error e => ({ message := e.what }, c, out.2)
    | .ok r => (r, c.adopt r, out.2)

end Rpc

/-! ## A client's calls -/

/-- The `PING` that `main` starts with, whose observation is not initialized, or a request. -/
inductive Ask where
  | greet (o : Protocol.WireObservation)
  | ask (q : Protocol.WireRequest)

def Ask.request (c : Rpc) : Ask → Protocol.WireRequest
  | .greet o => { observation := o }
  | .ask q => c.address q

/-- A client and the coordinator it talks to. -/
structure Dialogue where
  client : Rpc := {}
  shared : Shared := {}

/-- A call of the client: what the coordinator reads from outside, the chunks of the response, the request. -/
structure Turn where
  env : Env := {}
  chunks : List Nat := []
  ask : Ask

/-- What the session loop reads of a request that brings no observation. -/
def Protocol.WireRequest.content (q : Protocol.WireRequest) : QuotaFabric.WireRequest :=
  { type := q.type, auth := q.auth, tenant := q.tenant, tenant2 := q.tenant2, group := q.group, kind := q.kind
    reservation := q.reservation, allocation := q.allocation, borrow := q.borrow
    agentId := q.agentId, agentBoot := q.agentBoot, name := q.name, priority := q.priority
    req := q.req, quota := q.quota }

/-- A request made on the engine itself. -/
def Engine.direct (env : Env) (s : Engine) (q : WireRequest) : WireResponse × Engine :=
  let r : WireResponse × Engine :=
    match q.type with
    | .ping => (Reply.pong s.epoch s.quotaGeneration, s)
    | .advanceEpoch =>
      let r := s.advanceEpoch env
      (responseFrom r.1, r.2)
    | _ => answer env s q
  (r.1.under r.2, r.2)

/-- A call as the client saw it. -/
structure Asked where
  env : Env
  request : WireRequest
  response : WireResponse

namespace Dialogue

def request (x : Dialogue) (m : Turn) : Protocol.WireRequest := m.ask.request x.client

def next (x : Dialogue) (m : Turn) : Dialogue :=
  let r := x.client.call m.env m.chunks x.shared (x.request m)
  { client := r.2.1, shared := r.2.2 }

def asked (x : Dialogue) (m : Turn) : List Asked :=
  [{ env := m.env, request := (x.request m).content
     response := (x.client.call m.env m.chunks x.shared (x.request m)).1 }]

/-- The client holds the engine's authority. -/
structure Current (c : Rpc) (s : Engine) : Prop where
  epoch : c.auth.epoch = s.epoch
  generation : c.auth.quotaGeneration = s.quotaGeneration
  policy : c.auth.policyGeneration = s.policy.generation

/-- A turn of the command-line client: a `PING`, or a request once it has adopted an authority; neither
    registers an agent nor observes.  Request and response fit the encoding and a frame, and the epoch
    is not zero. -/
structure Fits (x : Dialogue) (m : Turn) : Prop where
  adopted : (x.request m).type = .ping ∨ x.client.auth.epoch.value ≠ 0 ∧ ∃ q, m.ask = .ask q
  hello : (x.request m).type ≠ .hello
  observe : (x.request m).type ≠ .observe
  request : (x.request m).Encodable
  requestSize : (encodeRequest (x.request m)).length ≤ kMaxFrameSize.toNat
  response : (x.shared.engine.direct m.env (x.request m).content).1.Encodable
  responseSize : (encodeResponse (x.shared.engine.direct m.env (x.request m).content).1).length ≤
    kMaxFrameSize.toNat
  epoch : (x.shared.engine.direct m.env (x.request m).content).2.epoch.value ≠ 0

end Dialogue

/-! ## One call -/

section OneCall

variable {env : Env} {sh : Shared} {q : Protocol.WireRequest}

theorem read_content (h : q.type ≠ .observe) : q.read? = some q.content := by
  unfold Protocol.WireRequest.read?
  rw [if_neg h]
  rfl

/-- What is framed and encoded arrives. -/
theorem arrival_frame (h : q.Encodable) (hobs : q.type ≠ .observe) (c : Rpc) :
    arrival (c.frame q) = some (.ok q.content) := by
  have hdec := Protocol.decodeRequest_encodeRequest h []
  rw [List.append_nil] at hdec
  have hread : ({ q with agent := {} } : Protocol.WireRequest).read? = some q.content := read_content hobs
  unfold arrival Rpc.frame
  simp only [hdec, hread, Option.map_some]

/-- **Where the authority is the engine's, the server does what the engine would.** -/
theorem serveAlone_direct {q : WireRequest} (hhello : q.type ≠ .hello)
    (hauth : q.type = .ping ∨ sh.Accepts q) :
    ((serveAlone env sh (.ok q)).1.under (serveAlone env sh (.ok q)).2.engine, (serveAlone env sh (.ok q)).2) =
      ((sh.engine.direct env q).1, { sh with engine := (sh.engine.direct env q).2 }) := by
  unfold Engine.direct
  by_cases hping : q.type = .ping
  · simp only [serveAlone, hping]
  by_cases hadv : q.type = .advanceEpoch
  · simp only [serveAlone, hadv]
  have hacc := hauth.resolve_left hping
  have hanswer : serveAlone env sh (.ok q) =
      ((answer env sh.engine q).1, { sh with engine := (answer env sh.engine q).2 }) := by
    cases hcall : q.call with
    | none => rw [serveAlone_unserved hcall hhello hping hadv, answer_none env sh.engine hcall]
    | some call =>
      rw [serveAlone_served (by rw [hcall]; rfl)]
      exact checkAndAnswer_accepted hacc
  rw [hanswer]
  split
  · contradiction
  · contradiction
  · rfl

/-- The bytes of a request become the bytes of the engine's own response. -/
theorem respond_frame (c : Rpc) (hq : q.Encodable) (hsize : (encodeRequest q).length ≤ kMaxFrameSize.toNat)
    (hhello : q.type ≠ .hello) (hobs : q.type ≠ .observe) (hauth : q.type = .ping ∨ sh.Accepts q.content) :
    respond env sh (c.frame q).encode =
      ((Sent.frame ⟨c.correlation, (sh.engine.direct env q.content).1⟩).encode,
        { sh with engine := (sh.engine.direct env q.content).2 }) := by
  have hdec : decodeFrame (c.frame q).encode = .ok (c.frame q) := by
    have h := decodeFrame_encode (f := c.frame q) hsize []
    rwa [List.append_nil] at h
  obtain ⟨hresp, hshared⟩ := Prod.mk.inj (@serveAlone_direct env sh q.content hhello hauth)
  rw [hshared] at hresp
  unfold respond
  simp only [hdec, arrival_frame hq hobs c, hshared, hresp]
  rfl

/-- **One call.**  The client gets the engine's own response, as the wire carries it, and adopts its
    authority. -/
theorem call_eq (c : Rpc) (chunks : List Nat) (hq : q.Encodable)
    (hsize : (encodeRequest q).length ≤ kMaxFrameSize.toNat) (hhello : q.type ≠ .hello)
    (hobs : q.type ≠ .observe) (hauth : q.type = .ping ∨ sh.Accepts q.content)
    (hr : (sh.engine.direct env q.content).1.Encodable)
    (hrsize : (encodeResponse (sh.engine.direct env q.content).1).length ≤ kMaxFrameSize.toNat) :
    c.call env chunks sh q =
      ((sh.engine.direct env q.content).1.received,
        { c with correlation := c.correlation + 1 }.adopt (sh.engine.direct env q.content).1.received,
        { sh with engine := (sh.engine.direct env q.content).2 }) := by
  have hresp := @respond_frame env sh q c hq hsize hhello hobs hauth
  have hpending : ByteStream.cut.pending ((respond env sh (c.frame q).encode).1, chunks) =
      (Sent.frame ⟨c.correlation, (sh.engine.direct env q.content).1⟩).encode ++ [] := by
    rw [hresp, List.append_nil]
    rfl
  obtain ⟨s', hrecv, -⟩ := recvFrame_encode ByteStream.cut
    (f := Sent.frame ⟨c.correlation, (sh.engine.direct env q.content).1⟩) hrsize hpending
  have hdec : decodeResponse (Sent.frame ⟨c.correlation, (sh.engine.direct env q.content).1⟩).payload =
      .ok (sh.engine.direct env q.content).1.received := Protocol.decodeResponse_encodeResponse hr
  rw [hresp] at hrecv
  unfold Rpc.call
  simp only [hresp, hrecv, hdec]

end OneCall

/-! ## All calls -/

namespace Dialogue

variable {x : Dialogue} {m : Turn}

/-- The client holds the engine's authority from its first response on. -/
def UpToDate (x : Dialogue) : Prop := x.client.auth.epoch.value ≠ 0 → Current x.client x.shared.engine

/-- A request under the engine's authority passes the checks. -/
theorem Current.accepts {c : Rpc} {sh : Shared} {q : Protocol.WireRequest} (h : Current c sh.engine)
    (hobs : q.type ≠ .observe) : sh.Accepts (c.address q).content :=
  ⟨h.epoch.symm, h.generation.symm, h.policy.symm, fun ho => absurd ho hobs⟩

theorem Fits.accepted (hm : x.Fits m) (hx : x.UpToDate) :
    (x.request m).type = .ping ∨ x.shared.Accepts (x.request m).content := by
  rcases hm.adopted with hping | ⟨hauth, q, hq⟩
  · exact .inl hping
  · right
    have hobs := hm.observe
    unfold Dialogue.request at hobs ⊢
    rw [hq] at hobs ⊢
    exact (hx hauth).accepts hobs

theorem call_of_fits (hm : x.Fits m) (hx : x.UpToDate) :
    x.client.call m.env m.chunks x.shared (x.request m) =
      ((x.shared.engine.direct m.env (x.request m).content).1.received,
        { x.client with correlation := x.client.correlation + 1 }.adopt
          (x.shared.engine.direct m.env (x.request m).content).1.received,
        { x.shared with engine := (x.shared.engine.direct m.env (x.request m).content).2 }) :=
  call_eq x.client m.chunks hm.request hm.requestSize hm.hello hm.observe (hm.accepted hx) hm.response
    hm.responseSize

/-- The state after a turn that fits. -/
theorem next_eq (hm : x.Fits m) (hx : x.UpToDate) :
    x.next m =
      { client := { x.client with correlation := x.client.correlation + 1 }.adopt
          (x.shared.engine.direct m.env (x.request m).content).1.received
        shared := { x.shared with engine := (x.shared.engine.direct m.env (x.request m).content).2 } } := by
  unfold next
  rw [call_of_fits hm hx]

theorem next_upToDate (hm : x.Fits m) (hx : x.UpToDate) : (x.next m).UpToDate := by
  intro _
  rw [next_eq hm hx]
  have hepoch : ((x.shared.engine.direct m.env (x.request m).content).1.received).epoch.value ≠ 0 := hm.epoch
  unfold Rpc.adopt
  rw [if_pos hepoch]
  exact ⟨rfl, rfl, rfl⟩

theorem next_replays (hm : x.Fits m) (hx : x.UpToDate) :
    Replays (fun s (a : Asked) => s.direct a.env a.request) (fun a r => a.response = r.received)
      x.shared.engine (x.asked m) (x.next m).shared.engine := by
  refine ⟨congrArg Prod.fst (call_of_fits hm hx), ?_⟩
  show _ = (x.next m).shared.engine
  rw [next_eq hm hx]

/-- **The calls of a client are calls on the engine.**  Over any number of calls of a client that talks to
    a coordinator alone, from a `PING` on: each response it decodes is the one the engine gives when it
    is called directly, under the authority the engine then has, and the engine ends where these direct
    calls lead.  The client holds the engine's authority throughout, so no call is refused as stale,
    however often its own calls advance the epoch or the quota generation. -/
theorem remote_calls {sh : Shared} {l : List Turn} (hrun : Run next Fits { shared := sh } l x) :
    Replays (fun s (a : Asked) => s.direct a.env a.request) (fun a r => a.response = r.received)
      sh.engine (history next asked { shared := sh } l) x.shared.engine ∧
    (x.client.auth.epoch.value ≠ 0 → Current x.client x.shared.engine) := by
  have hstart : ({ shared := sh } : Dialogue).UpToDate := fun h => absurd rfl h
  refine ⟨?_, hrun.invariant hstart fun _ _ hx hm => next_upToDate hm hx⟩
  exact @Run.replays _ _ _ _ _ next Fits asked (fun s (a : Asked) => s.direct a.env a.request)
    (fun a r => a.response = r.received) (fun x => x.shared.engine) UpToDate _ _ _ hrun hstart
    (fun _ _ hx hm => next_upToDate hm hx) fun _ _ hx hm => next_replays hm hx

/-! ### A greeting and a new group -/

def greeting : Turn where
  chunks := [1, 2, 3]
  ask := .greet { dimension := ⟨300⟩, amount := 0 }

def newTeam : Turn where
  env := .numbered 1
  ask := .ask { type := .createGroup, name := text "team", observation := { dimension := ⟨0⟩, amount := 0 } }

/-- The client after the greeting, at a coordinator that has just started. -/
def greeted : Dialogue where
  client := { correlation := 2, auth := { epoch := .initial, quotaGeneration := .initial, resourceGeneration := .initial } }

theorem greeting_fits : ({ shared := {} } : Dialogue).Fits greeting where
  adopted := .inl rfl
  hello := by decide
  observe := by decide
  request := by refine ⟨?_, ?_, ?_, ?_, ?_, ?_, ?_, ⟨?_, ?_, ?_, ?_⟩⟩ <;> decide +kernel
  requestSize := by decide +kernel
  response := { Protocol.encodable_empty with text := by decide +kernel }
  responseSize := by decide +kernel
  epoch := by decide +kernel

theorem newTeam_fits : greeted.Fits newTeam where
  adopted := .inr ⟨by decide +kernel, _, rfl⟩
  hello := by decide
  observe := by decide
  request := by refine ⟨?_, ?_, ?_, ?_, ?_, ?_, ?_, ⟨?_, ?_, ?_, ?_⟩⟩ <;> decide +kernel
  requestSize := by decide +kernel
  response := { Protocol.encodable_empty with text := by decide +kernel }
  responseSize := by decide +kernel
  epoch := by decide +kernel

theorem remote_calls_newTeam :
    ∃ x, Run next Fits { shared := {} } [greeting, newTeam] x ∧
      x.shared.engine.groups.keys.length = 1 ∧ Current x.client x.shared.engine := by
  have hstart : ({ shared := {} } : Dialogue).UpToDate := fun h => absurd rfl h
  have hgreeted : ({ shared := {} } : Dialogue).next greeting = greeted := next_eq greeting_fits hstart
  have hup : greeted.UpToDate := hgreeted ▸ next_upToDate greeting_fits hstart
  have hrun : Run next Fits { shared := {} } [greeting, newTeam] (greeted.next newTeam) :=
    .cons greeting_fits (hgreeted ▸ .cons (hgreeted ▸ newTeam_fits) (.nil _))
  refine ⟨_, hrun, ?_, (remote_calls hrun).2 ?_⟩
  all_goals
    rw [next_eq newTeam_fits hup]
    decide +kernel

end Dialogue

end QuotaFabric
