import QuotaFabric.Coordinator.Replies
import QuotaFabric.Lib.Replay

/-!
# The session threads

`handle_session`, one thread for each connection.  Every read of the engine takes its lock for itself: the
three comparisons of `check_authority`, the two values in the text of a pong and the three values of the
authority in a response are steps of their own, and any other thread may act between two of them.

* `Stage`, `Stage.proceed` — how far a thread is with its frame, and its next step;
* `Connection`, `Service`, `Service.next` — all threads; one step of one of them;
* `Service.history` — the responses decided by the steps of a run, in the order of the steps;
* `answered_in_order` — every frame is answered once, in order, under its own correlation, by what one step
  of its thread decided.
-/

set_option autoImplicit false

namespace QuotaFabric

open AList Replay
open Protocol (WireResponse responseFrom encodeResponse)

/-! ## One thread -/

/-- How far a thread is with its frame. -/
inductive Stage where
  | waiting
  | received (q : WireRequest)
  | epochCompared (q : WireRequest)
  | generationCompared (q : WireRequest)
  | checked (q : WireRequest)
  | identified (q : WireRequest)
  | pinged (q : WireRequest) (epoch : CoordinatorEpoch)
  | answered (q : WireRequest) (r : WireResponse)
  | epochRead (q : WireRequest) (r : WireResponse)
  | generationRead (q : WireRequest) (r : WireResponse)

namespace Stage

/-- The engine call. -/
def call (env : Env) (sh : Shared) (q : WireRequest) : Stage × Shared :=
  let r := answer env sh.engine q
  (.answered q r.1, { sh with engine := r.2 })

/-- The next step of a thread that holds a request. -/
def proceed (env : Env) (sh : Shared) : Stage → Stage × Shared
  | .waiting => (.waiting, sh)
  | .received q =>
    match q.type with
    | .hello => (.answered q (Reply.registered q), { sh with agents := sh.agents.insert q.agentId q.agentBoot })
    | .ping => (.pinged q sh.engine.epoch, sh)
    | .advanceEpoch =>
      let r := sh.engine.advanceEpoch env
      (.answered q (responseFrom r.1), { sh with engine := r.2 })
    | _ =>
      if q.call.isNone then (.answered q Reply.unsupported, sh)
      else if q.auth.epoch ≠ sh.engine.epoch then (.answered q Reply.staleEpoch, sh)
      else (.epochCompared q, sh)
  | .epochCompared q =>
    if q.auth.quotaGeneration ≠ sh.engine.quotaGeneration then (.answered q Reply.staleGeneration, sh)
    else (.generationCompared q, sh)
  | .generationCompared q =>
    if q.auth.policyGeneration ≠ sh.engine.policy.generation then (.answered q Reply.stalePolicy, sh)
    else (.checked q, sh)
  | .checked q =>
    if q.type = .observe then
      if sh.identifies q then (.identified q, sh) else (.answered q Reply.staleBoot, sh)
    else call env sh q
  | .identified q => call env sh q
  | .pinged q epoch => (.answered q (Reply.pong epoch sh.engine.quotaGeneration), sh)
  -- the authority is read again, value by value
  | .answered q r => (.epochRead q { r with epoch := sh.engine.epoch }, sh)
  | .epochRead q r => (.generationRead q { r with quotaGeneration := sh.engine.quotaGeneration }, sh)
  | .generationRead _ _ => (.waiting, sh)

/-- The response the thread's next step sends. -/
def sends (sh : Shared) : Stage → Option WireResponse
  | .generationRead _ r => some { r with policyGeneration := sh.engine.policy.generation }
  | _ => none

def isWaiting : Stage → Bool
  | .waiting => true
  | _ => false

/-- The request no response is decided for yet. -/
def undecided : Stage → List WireRequest
  | .received q => [q]
  | .epochCompared q => [q]
  | .generationCompared q => [q]
  | .checked q => [q]
  | .identified q => [q]
  | .pinged q _ => [q]
  | _ => []

/-- The response that is decided and not sent yet. -/
def decided : Stage → List (WireRequest × WireResponse)
  | .answered q r => [(q, r)]
  | .epochRead q r => [(q, r)]
  | .generationRead q r => [(q, r)]
  | _ => []

end Stage

/-- A response as `send_frame` gets it. -/
structure Sent where
  correlation : UInt64
  response : WireResponse

def Sent.frame (x : Sent) : Frame where
  type := if x.response.ok then .resultOk else .resultErr
  correlation := x.correlation
  payload := encodeResponse x.response

/-- A response without the authority, which is filled in before it is sent. -/
def body (r : WireResponse) : WireResponse := { r with epoch := {}, quotaGeneration := {}, policyGeneration := {} }

/-- A frame whose request is zero but for its type and the authority it shows. -/
def shortFrame (n : UInt64) (type : MessageType) (auth : Authority) : Frame where
  type := type
  correlation := n
  payload := BinaryWriter.u8 type.toByte ++ Protocol.writeAuthority auth ++ List.replicate 512 0

/-- A connection's thread, with the frames it has taken and the responses it has sent, oldest first. -/
structure Connection where
  stage : Stage := .waiting
  correlation : UInt64 := 0
  taken : List Frame := []
  sent : List Sent := []

namespace Connection

/-- A frame is taken.  One that does not decode is answered at once. -/
def receive (x : Connection) (f : Frame) : Connection :=
  match arrival f with
  | none => x
  | some (.error what) =>
    { x with taken := x.taken ++ [f], sent := x.sent ++ [⟨f.correlation, Reply.malformed what⟩] }
  | some (.ok q) => { x with stage := .received q, correlation := f.correlation, taken := x.taken ++ [f] }

def proceed (env : Env) (sh : Shared) (x : Connection) : Connection × Shared :=
  let r := x.stage.proceed env sh
  ({ x with stage := r.1, sent := x.sent ++ (x.stage.sends sh).toList.map fun resp => ⟨x.correlation, resp⟩ }, r.2)

end Connection

/-! ## All threads -/

/-- What a session thread does next. -/
inductive ThreadMove where
  | receive (f : Frame)
  | proceed (env : Env)

/-- A response decided by one step of one thread. -/
structure Served where
  thread : Nat
  env : Env := {}
  arrival : Arrival
  response : WireResponse

structure Service where
  shared : Shared := {}
  connections : UMap Nat Connection := ∅

namespace Service

def connection (c : Service) (i : Nat) : Connection := (c.connections.lookup i).getD {}

def put (c : Service) (i : Nat) (x : Connection) (sh : Shared) : Service :=
  { shared := sh, connections := c.connections.insert i x }

/-- One step of thread `m.1`. -/
def next (c : Service) (m : Nat × ThreadMove) : Service :=
  let x := c.connection m.1
  match m.2 with
  | .receive f => if x.stage.isWaiting then c.put m.1 (x.receive f) c.shared else c
  | .proceed env =>
    let r := x.proceed env c.shared
    c.put m.1 r.1 r.2

/-- What a step decides. -/
def decides (c : Service) (m : Nat × ThreadMove) : List Served :=
  let x := c.connection m.1
  match m.2 with
  | .receive f =>
    if x.stage.isWaiting then
      match arrival f with
      | some (.error what) => [{ thread := m.1, arrival := .error what, response := Reply.malformed what }]
      | _ => []
    else []
  | .proceed env =>
    if x.stage.undecided.isEmpty then []
    else (x.stage.proceed env c.shared).1.decided.map fun d =>
      { thread := m.1, env := env, arrival := .ok d.1, response := d.2 }

/-- The responses decided by the steps of a run, in the order of the steps. -/
def history (c : Service) (l : List (Nat × ThreadMove)) : List Served := Replay.history next decides c l

end Service

/-! ## What a thread's step does -/

/-- The steps of a thread, by what they do to its request and its response. -/
inductive Stage.Proceeds (sh : Shared) : Stage → Stage → Shared → Prop
  | idle : Proceeds sh .waiting .waiting sh
  | looked {st st' : Stage} {q : WireRequest} (h : st.undecided = [q]) (h' : st'.undecided = [q]) :
      Proceeds sh st st' sh
  | decided {st : Stage} {q : WireRequest} (r : WireResponse) (sh' : Shared) (h : st.undecided = [q]) :
      Proceeds sh st (.answered q r) sh'
  | readEpoch (q : WireRequest) (r : WireResponse) :
      Proceeds sh (.answered q r) (.epochRead q { r with epoch := sh.engine.epoch }) sh
  | readGeneration (q : WireRequest) (r : WireResponse) :
      Proceeds sh (.epochRead q r) (.generationRead q { r with quotaGeneration := sh.engine.quotaGeneration }) sh
  | sent (q : WireRequest) (r : WireResponse) : Proceeds sh (.generationRead q r) .waiting sh

namespace Stage

theorem proceeds (env : Env) (sh : Shared) (st : Stage) :
    Proceeds sh st (st.proceed env sh).1 (st.proceed env sh).2 := by
  cases st with
  | waiting => exact .idle
  | received q =>
    simp only [proceed]
    split
    · exact .decided _ _ rfl
    · exact .looked rfl rfl
    · exact .decided _ _ rfl
    · split
      · exact .decided _ _ rfl
      · split
        · exact .decided _ _ rfl
        · exact .looked rfl rfl
  | epochCompared q =>
    simp only [proceed]
    split
    · exact .decided _ _ rfl
    · exact .looked rfl rfl
  | generationCompared q =>
    simp only [proceed]
    split
    · exact .decided _ _ rfl
    · exact .looked rfl rfl
  | checked q =>
    simp only [proceed]
    split
    · split
      · exact .looked rfl rfl
      · exact .decided _ _ rfl
    · exact .decided _ _ rfl
  | identified q => exact .decided _ _ rfl
  | pinged q epoch => exact .decided _ _ rfl
  | answered q r => exact .readEpoch q r
  | epochRead q r => exact .readGeneration q r
  | generationRead q r => exact .sent q r

theorem eq_waiting {st : Stage} (h : st.isWaiting = true) : st = .waiting := by
  cases st with
  | waiting => rfl
  | _ => cases h

/-- While no response is decided there is none to send. -/
theorem undecided_only {st : Stage} {q : WireRequest} (h : st.undecided = [q]) (sh : Shared) :
    st.decided = [] ∧ st.sends sh = none ∧ st.isWaiting = false := by
  cases st with
  | waiting | answered | epochRead | generationRead => cases h
  | _ => exact ⟨rfl, rfl, rfl⟩

end Stage

/-! ## One response for each frame -/

/-- The connection against what was decided for it: every frame it took has, in order, its arrival and its
    response there, the last one perhaps still undecided, and every response keeps the correlation. -/
structure Connection.Answers (x : Connection) (h : List Served) : Prop where
  correlations : x.sent.map (·.correlation) ++ (if x.stage.isWaiting then [] else [x.correlation]) =
    x.taken.map (·.correlation)
  arrivals : h.map (fun e => some e.arrival) ++ x.stage.undecided.map (fun q => some (.ok q)) = x.taken.map arrival
  responses : x.sent.map (fun r => body r.response) ++ x.stage.decided.map (fun d => body d.2) =
    h.map fun e => body e.response

namespace Connection

variable {x : Connection} {h : List Served}

theorem answers_empty : ({} : Connection).Answers [] := ⟨rfl, rfl, rfl⟩

theorem Answers.receive (hx : x.Answers h) (hwait : x.stage = .waiting) (i : Nat) (f : Frame) :
    (x.receive f).Answers (h ++
      match arrival f with
      | some (.error what) => [{ thread := i, arrival := .error what, response := Reply.malformed what }]
      | _ => []) := by
  obtain ⟨hc, ha, hr⟩ := hx
  simp only [hwait, Stage.isWaiting, if_true, Stage.undecided, Stage.decided, List.map_nil, List.append_nil] at hc ha hr
  unfold Connection.receive
  cases hf : arrival f with
  | none => exact ⟨by simpa [hwait, Stage.isWaiting] using hc, by simpa [hwait, Stage.undecided] using ha,
      by simpa [hwait, Stage.decided] using hr⟩
  | some a =>
    cases a with
    | error what => exact ⟨by simp [hwait, Stage.isWaiting, ← hc], by simp [hwait, Stage.undecided, ← ha, hf],
        by simp [hwait, Stage.decided, ← hr]⟩
    | ok q => exact ⟨by simp [Stage.isWaiting, ← hc], by simp [Stage.undecided, ← ha, hf],
        by simp [Stage.decided, ← hr]⟩

theorem Answers.proceed (hx : x.Answers h) (i : Nat) (env : Env) (sh : Shared) :
    (x.proceed env sh).1.Answers (h ++
      if x.stage.undecided.isEmpty then []
      else (x.stage.proceed env sh).1.decided.map fun d =>
        { thread := i, env := env, arrival := .ok d.1, response := d.2 }) := by
  obtain ⟨hc, ha, hr⟩ := hx
  have hstep := x.stage.proceeds env sh
  show Connection.Answers { x with
    stage := (x.stage.proceed env sh).1
    sent := x.sent ++ (x.stage.sends sh).toList.map fun resp => ⟨x.correlation, resp⟩ } _
  generalize (x.stage.proceed env sh).1 = st' at *
  generalize (x.stage.proceed env sh).2 = sh' at *
  generalize x.stage = st at *
  cases hstep with
  | idle => exact ⟨by simpa [Stage.sends] using hc, by simpa [Stage.undecided] using ha,
      by simpa [Stage.sends, Stage.undecided] using hr⟩
  | @looked _ _ q hq hq' =>
    obtain ⟨hd, hs, hw⟩ := Stage.undecided_only hq sh
    obtain ⟨hd', -, hw'⟩ := Stage.undecided_only hq' sh
    rw [hw] at hc
    rw [hq] at ha
    rw [hd] at hr
    exact ⟨by simpa [hs, hw'] using hc, by simpa [hq, hq', hd'] using ha, by simpa [hs, hd', hq] using hr⟩
  | @decided _ q r _ hq =>
    obtain ⟨hd, hs, hw⟩ := Stage.undecided_only hq sh
    rw [hw] at hc
    rw [hq] at ha
    rw [hd] at hr
    rw [hq, hs]
    exact ⟨by simpa [Stage.isWaiting] using hc, by simpa [Stage.decided, Stage.undecided] using ha,
      by simpa [Stage.decided] using hr⟩
  | readEpoch q r =>
    exact ⟨by simpa [Stage.sends, Stage.isWaiting] using hc, by simpa [Stage.undecided] using ha,
      by simpa [Stage.undecided, Stage.sends, Stage.decided, body] using hr⟩
  | readGeneration q r =>
    exact ⟨by simpa [Stage.sends, Stage.isWaiting] using hc, by simpa [Stage.undecided] using ha,
      by simpa [Stage.undecided, Stage.sends, Stage.decided, body] using hr⟩
  | sent q r =>
    exact ⟨by simpa [Stage.sends, Stage.isWaiting] using hc, by simpa [Stage.undecided] using ha,
      by simpa [Stage.undecided, Stage.sends, Stage.decided, body] using hr⟩

end Connection

namespace Service

variable {c : Service} {m : Nat × ThreadMove}

theorem connection_put (i j : Nat) (x : Connection) (sh : Shared) :
    (c.put i x sh).connection j = if j = i then x else c.connection j := by
  unfold connection put
  by_cases h : j = i
  · subst h
    simp
  · simp [h, lookup_insert_ne h]

/-- A step leaves the other connections alone. -/
theorem next_other {j : Nat} (hj : j ≠ m.1) : (c.next m).connection j = c.connection j := by
  unfold next
  cases m.2 with
  | receive f =>
    simp only
    split
    · rw [connection_put, if_neg hj]
    · rfl
  | proceed env => simp only [connection_put, if_neg hj]

/-- What is decided is decided for the thread that steps. -/
theorem thread_of_mem_decides {e : Served} (he : e ∈ c.decides m) : e.thread = m.1 := by
  unfold decides at he
  cases hm : m.2 with
  | receive f =>
    simp only [hm] at he
    split at he
    · split at he
      · rw [List.mem_singleton.mp he]
      · cases he
    · cases he
  | proceed env =>
    simp only [hm] at he
    split at he
    · cases he
    · obtain ⟨d, -, rfl⟩ := List.mem_map.mp he
      rfl

/-- The decisions of thread `i`. -/
def of (i : Nat) (h : List Served) : List Served := h.filter fun e => e.thread == i

theorem of_decides_self : of m.1 (c.decides m) = c.decides m :=
  List.filter_eq_self.mpr fun _ he => beq_iff_eq.mpr (thread_of_mem_decides he)

theorem of_decides_other {j : Nat} (hj : j ≠ m.1) : of j (c.decides m) = [] := by
  refine List.filter_eq_nil_iff.mpr fun e he => ?_
  rw [beq_iff_eq, thread_of_mem_decides he]
  exact fun h => hj h.symm

/-- A step keeps every connection in agreement with what was decided for it. -/
theorem next_answers {h : List Served} (hc : ∀ i, (c.connection i).Answers (of i h)) (m : Nat × ThreadMove) (i : Nat) :
    ((c.next m).connection i).Answers (of i (h ++ c.decides m)) := by
  have hsplit : of i (h ++ c.decides m) = of i h ++ of i (c.decides m) := List.filter_append ..
  rw [hsplit]
  by_cases hi : i = m.1
  · subst hi
    rw [of_decides_self]
    have hx := hc m.1
    unfold next decides
    cases m.2 with
    | receive f =>
      simp only
      split
      · rename_i hwait
        rw [connection_put, if_pos rfl]
        exact hx.receive (Stage.eq_waiting hwait) m.1 f
      · rwa [List.append_nil]
    | proceed env =>
      simp only [connection_put, if_true]
      exact hx.proceed m.1 env c.shared
  · rw [next_other hi, of_decides_other hi, List.append_nil]
    exact hc i

theorem answered_so_far (sh : Shared) (l : List (Nat × ThreadMove)) : ∀ i,
    ((l.foldl next { shared := sh }).connection i).Answers (of i (history { shared := sh } l)) := by
  induction l using List.reverseRecOn with
  | nil => exact fun i => Connection.answers_empty
  | append_singleton l m ih =>
    have hhist : history { shared := sh } (l ++ [m]) =
        history { shared := sh } l ++ (l.foldl next { shared := sh }).decides m := history_snoc l m _
    rw [hhist, List.foldl_append]
    exact next_answers ih m

/-- **Every frame is answered once, in order.**  Whatever the threads do, in whatever order: what a thread
    has sent are, but for the authority they carry, the responses its own steps decided; these were
    decided for its frames, one for each and in their order; each response carries the correlation of its
    frame; and no more than the last frame is unanswered, while the thread is busy with it. -/
theorem answered_in_order (sh : Shared) (l : List (Nat × ThreadMove)) (i : Nat) :
    ((l.foldl next { shared := sh }).connection i).Answers (of i (history { shared := sh } l)) :=
  answered_so_far sh l i

end Service

end QuotaFabric
