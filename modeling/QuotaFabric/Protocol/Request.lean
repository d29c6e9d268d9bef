import QuotaFabric.Protocol.Frame

/-!
# Requests on the wire

Model of the request half of `protocol/message.hpp` and `src/protocol/message.cpp`, on a little-endian
host.

* `EnumValue α β` — a value of the `enum class` `α` over the integers `β`: a `static_cast` makes one of
  every integer, declared or not;
* `WireObservation`, `Protocol.WireRequest` — all fields, the enumerations as they came;
* `encodeRequest`, `decodeRequest` — quotas are laid out as on disk, so `w_quota` and `r_quota` are
  `writeQuota` and `readQuota`;
* `WireRequest.Encodable` — the field values an encoding can hold.

Principal result: `readRequest_encodeRequest` — what is encoded is read back, but for the agent
descriptor, which is not sent.
-/

set_option autoImplicit false

namespace QuotaFabric

open LogParser

/-! ## Enumerations by code -/

/-- An `enum class` over the integers `β`, with its declared enumerators. -/
class Enumeration (α : Type) (β : outParam Type) where
  code : α → β
  declared : List α
  mem_declared : ∀ a, a ∈ declared
  code_injective : Function.Injective code

/-- A value of the `enum class` `α`, as the integer that represents it. -/
structure EnumValue (α : Type) {β : outParam Type} [Enumeration α β] where
  code : β
  deriving DecidableEq

namespace EnumValue

variable {α β : Type} [Enumeration α β]

/-- A declared enumerator. -/
def of (a : α) : EnumValue α := ⟨Enumeration.code a⟩

/-- The value is a declared enumerator. -/
def IsDeclared (v : EnumValue α) : Prop := ∃ a : α, v = of a

/-- The enumerator a value is, if it is declared. -/
def declared? [DecidableEq β] (v : EnumValue α) : Option α :=
  Enumeration.declared.find? fun a => Enumeration.code a == v.code

theorem declared?_of [DecidableEq β] (a : α) : (of a).declared? = some a := by
  unfold declared?
  cases h : Enumeration.declared.find? fun b : α => Enumeration.code b == (of a).code with
  | none =>
    have hno := List.find?_eq_none.mp h a (Enumeration.mem_declared a)
    exact absurd (beq_self_eq_true _) hno
  | some b =>
    have hb := List.find?_some h
    rw [Enumeration.code_injective (beq_iff_eq.mp hb)]

theorem isDeclared_iff [DecidableEq β] {v : EnumValue α} : v.IsDeclared ↔ v.declared?.isSome = true := by
  constructor
  · rintro ⟨a, rfl⟩
    rw [declared?_of]
    rfl
  · intro h
    obtain ⟨a, ha⟩ := Option.isSome_iff_exists.mp h
    have hcode := List.find?_some ha
    refine ⟨a, ?_⟩
    cases v
    exact congrArg EnumValue.mk (beq_iff_eq.mp hcode).symm

instance [DecidableEq β] (v : EnumValue α) : Decidable v.IsDeclared := decidable_of_iff _ isDeclared_iff.symm

end EnumValue

instance : Enumeration ResourceDimension UInt16 where
  code d := UInt16.ofNat (allResourceDimensions.idxOf d)
  declared := allResourceDimensions
  mem_declared := mem_allResourceDimensions
  code_injective := by decide

instance : Enumeration ObservationKind UInt8 where
  code
    | .usageDelta => 0
    | .computeInterval => 1
    | .transferConsumed => 2
    | .modelResidencyAdded => 3
    | .modelResidencyRemoved => 4
    | .kvUsageChange => 5
    | .tensorUsageChange => 6
    | .allocationStart => 7
    | .allocationResize => 8
    | .allocationRelease => 9
    | .reservationCommitted => 10
  declared :=
    [.usageDelta, .computeInterval, .transferConsumed, .modelResidencyAdded, .modelResidencyRemoved,
     .kvUsageChange, .tensorUsageChange, .allocationStart, .allocationResize, .allocationRelease,
     .reservationCommitted]
  mem_declared k := by cases k <;> decide
  code_injective k l := by cases k <;> cases l <;> decide

namespace Protocol

/-! ## Records -/

/-- `Observation`, with the enumerations as any value of their underlying types. -/
structure WireObservation where
  tenant : TenantId := {}
  allocation : AllocationId := {}
  dimension : EnumValue ResourceDimension
  amount : Int
  kind : EnumValue ObservationKind := .of .usageDelta
  at_ : Nanos := 0
  resourceGeneration : ResourceGeneration := {}
  agent : AgentId := {}
  boot : AgentBootId := {}
  source : Str := []

/-- A request envelope.  Which fields are used depends on the type. -/
structure WireRequest where
  type : MessageType := .ping
  auth : Authority := {}
  tenant : TenantId := {}
  tenant2 : TenantId := {}
  group : TenantGroupId := {}
  kind : TenantGroupKind := .team
  reservation : ReservationId := {}
  allocation : AllocationId := {}
  borrow : BorrowId := {}
  agentId : AgentId := {}
  agentBoot : AgentBootId := {}
  nodeId : NodeId := {}
  nodeBoot : NodeBootGeneration := {}
  name : Str := []
  name2 : Str := []
  serviceClass : Str := []
  path : Str := []
  priority : UInt32 := 100
  recallPriority : UInt32 := 0
  req : ResourceVector := .empty
  req2 : ResourceVector := .empty
  quota : ResourceQuota := {}
  agent : AgentDescriptor := {}
  observation : WireObservation
  amount : UInt64 := 0

/-! ## Encoding -/

/-- `w_authority`. -/
def writeAuthority (a : Authority) : Bytes :=
  BinaryWriter.u64 a.epoch.value ++ BinaryWriter.u64 a.quotaGeneration.value ++
  BinaryWriter.u64 a.policyGeneration.value ++ BinaryWriter.id a.agent ++ BinaryWriter.id a.boot ++
  BinaryWriter.u64 a.resourceGeneration.value

/-- `w_obs`.  An instant that is not positive is written as zero. -/
def writeObservation (o : WireObservation) : Bytes :=
  BinaryWriter.id o.tenant ++ BinaryWriter.id o.allocation ++ BinaryWriter.u16 o.dimension.code ++
  BinaryWriter.i64 o.amount ++ BinaryWriter.u8 o.kind.code ++
  BinaryWriter.i64 (if o.at_ > 0 then o.at_ else 0) ++ BinaryWriter.u64 o.resourceGeneration.value ++
  BinaryWriter.id o.agent ++ BinaryWriter.id o.boot ++ BinaryWriter.string o.source

def encodeRequest (q : WireRequest) : Bytes :=
  BinaryWriter.u8 q.type.toByte ++ writeAuthority q.auth ++
  BinaryWriter.id q.tenant ++ BinaryWriter.id q.tenant2 ++
  -- a null group is not written
  (if q.group = {} then BinaryWriter.flag false else BinaryWriter.flag true ++ BinaryWriter.id q.group) ++
  BinaryWriter.u8 q.kind.toByte ++
  BinaryWriter.id q.reservation ++ BinaryWriter.id q.allocation ++ BinaryWriter.id q.borrow ++
  BinaryWriter.id q.agentId ++ BinaryWriter.id q.agentBoot ++ BinaryWriter.id q.nodeId ++
  BinaryWriter.u64 q.nodeBoot.value ++
  BinaryWriter.string q.name ++ BinaryWriter.string q.name2 ++ BinaryWriter.string q.serviceClass ++
  BinaryWriter.string q.path ++
  BinaryWriter.u32 q.priority ++ BinaryWriter.u32 q.recallPriority ++
  BinaryWriter.vector q.req ++ BinaryWriter.vector q.req2 ++
  writeQuota q.quota ++ writeObservation q.observation ++ BinaryWriter.u64 q.amount

/-! ## Decoding -/

section Readers

variable {ω : Type}

/-- `r_authority`. -/
def readAuthority : LogParser ω ReadError Authority := do
  let epoch ← BinaryReader.u64
  let quotaGeneration ← BinaryReader.u64
  let policyGeneration ← BinaryReader.u64
  let agent ← BinaryReader.id
  let boot ← BinaryReader.id
  let resourceGeneration ← BinaryReader.u64
  pure
    { epoch := ⟨epoch⟩, quotaGeneration := ⟨quotaGeneration⟩, policyGeneration := ⟨policyGeneration⟩
      agent, boot, resourceGeneration := ⟨resourceGeneration⟩ }

/-- `r_obs`.  The two enumerations are cast unchecked. -/
def readObservation : LogParser ω ReadError WireObservation := do
  let tenant ← BinaryReader.id
  let allocation ← BinaryReader.id
  let dimension ← BinaryReader.u16
  let amount ← BinaryReader.i64
  let kind ← BinaryReader.u8
  let at_ ← BinaryReader.i64
  let resourceGeneration ← BinaryReader.u64
  let agent ← BinaryReader.id
  let boot ← BinaryReader.id
  let source ← BinaryReader.string
  pure
    { tenant, allocation, dimension := ⟨dimension⟩, amount, kind := ⟨kind⟩, at_
      resourceGeneration := ⟨resourceGeneration⟩, agent, boot, source }

/-- The body of `decode_request`. -/
def readRequest : LogParser ω ReadError WireRequest := do
  let type ← BinaryReader.u8
  let auth ← readAuthority
  let tenant ← BinaryReader.id
  let tenant2 ← BinaryReader.id
  let group ← BinaryReader.optionalId
  let kind ← BinaryReader.u8
  let reservation ← BinaryReader.id
  let allocation ← BinaryReader.id
  let borrow ← BinaryReader.id
  let agentId ← BinaryReader.id
  let agentBoot ← BinaryReader.id
  let nodeId ← BinaryReader.id
  let nodeBoot ← BinaryReader.u64
  let name ← BinaryReader.string
  let name2 ← BinaryReader.string
  let serviceClass ← BinaryReader.string
  let path ← BinaryReader.string
  let priority ← BinaryReader.u32
  let recallPriority ← BinaryReader.u32
  let req ← BinaryReader.vector
  let req2 ← BinaryReader.vector
  let quota ← readQuota
  let observation ← readObservation
  let amount ← BinaryReader.u64
  pure
    { type := .ofByte type, auth, tenant, tenant2, group := group.getD {}, kind := .ofByte kind
      reservation, allocation, borrow, agentId, agentBoot, nodeId, nodeBoot := ⟨nodeBoot⟩, name, name2
      serviceClass, path, priority, recallPriority, req, req2, quota, observation, amount }

end Readers

/-- What is read from the front of `p`; the rest of `p` is not looked at. -/
def decodeRequest (p : Bytes) : Except ReadError WireRequest :=
  match ((readRequest : LogParser Empty ReadError _).run p).2 with
  | .error e => .error e
  | .ok (q, _) => .ok q

/-! ## What is encoded is read back -/

structure WireObservation.Encodable (o : WireObservation) : Prop where
  amount : IsInt64 o.amount
  at_ : IsInt64 o.at_
  at_nonneg : 0 ≤ o.at_
  source : Str.Storable o.source

/-- Strings within the reader's bound, amounts and instants that 64-bit fields hold, no negative amount
    in a vector and no negative observation instant. -/
structure WireRequest.Encodable (q : WireRequest) : Prop where
  name : Str.Storable q.name
  name2 : Str.Storable q.name2
  serviceClass : Str.Storable q.serviceClass
  path : Str.Storable q.path
  req : q.req.Valid
  req2 : q.req2.Valid
  quota : q.quota.Storable
  observation : q.observation.Encodable

section RoundTrip

variable {ω : Type} (rest : Bytes)

theorem readAuthority_writeAuthority (a : Authority) :
    (readAuthority : LogParser ω ReadError _).run (writeAuthority a ++ rest) = ([], .ok (a, rest)) := by
  unfold readAuthority writeAuthority
  simp only [List.append_assoc, run_bind, andThen_ok_nil, read_id, read_u64]
  rfl

theorem readObservation_writeObservation {o : WireObservation} (h : o.Encodable) :
    (readObservation : LogParser ω ReadError _).run (writeObservation o ++ rest) = ([], .ok (o, rest)) := by
  have hat : (if o.at_ > 0 then o.at_ else 0) = o.at_ := by
    have h0 : (0 : Int) ≤ o.at_ := h.at_nonneg
    split
    · rfl
    · rename_i hpos
      exact le_antisymm h0 (not_lt.mp hpos)
  unfold readObservation writeObservation
  simp only [List.append_assoc, run_bind, andThen_ok_nil, read_id, read_u8, read_u16, read_u64, hat,
    read_i64 _ h.amount, read_i64 _ h.at_, read_string _ h.source]
  rfl

/-- The group, with the flag in front of it. -/
theorem writeGroupId_eq (g : TenantGroupId) :
    (if g = {} then BinaryWriter.flag false else BinaryWriter.flag true ++ BinaryWriter.id g) =
      BinaryWriter.optionalId (if g = {} then none else some g) := by
  split <;> rfl

/-- **What is encoded is read back, to its last byte; the agent descriptor is not sent.** -/
theorem readRequest_encodeRequest {q : WireRequest} (h : q.Encodable) :
    (readRequest : LogParser ω ReadError _).run (encodeRequest q ++ rest) =
      ([], .ok ({ q with agent := {} }, rest)) := by
  have hgroup : (if q.group = {} then none else some q.group).getD {} = q.group := by
    split
    · rename_i hnull
      exact hnull.symm
    · rfl
  unfold readRequest encodeRequest
  rw [writeGroupId_eq]
  simp only [List.append_assoc, run_bind, andThen_ok_nil, read_id, read_u8, read_u32, read_u64,
    read_optionalId, readAuthority_writeAuthority, read_string _ h.name, read_string _ h.name2,
    read_string _ h.serviceClass, read_string _ h.path, read_vector _ h.req, read_vector _ h.req2,
    readQuota_writeQuota h.quota, readObservation_writeObservation _ h.observation, run_pure, hgroup,
    MessageType.ofByte_toByte, TenantGroupKind.ofByte_toByte]

end RoundTrip

theorem decodeRequest_encodeRequest {q : WireRequest} (h : q.Encodable) (rest : Bytes) :
    decodeRequest (encodeRequest q ++ rest) = .ok { q with agent := {} } := by
  unfold decodeRequest
  rw [readRequest_encodeRequest rest h]

/-- **Requests survive the wire**: decoding the encoding succeeds, uses every byte written, and differs
    from the request only in the agent descriptor. -/
theorem request_round_trip (q : WireRequest) (h : q.Encodable) :
    decodeRequest (encodeRequest q) = .ok { q with agent := {} } ∧
    ((readRequest : LogParser Empty ReadError _).run (encodeRequest q)).2 =
      .ok ({ q with agent := {} }, []) := by
  have hdec := decodeRequest_encodeRequest h []
  have hrun := readRequest_encodeRequest (ω := Empty) [] h
  rw [List.append_nil] at hdec hrun
  refine ⟨hdec, ?_⟩
  rw [hrun]

/-- An observation in a group, with an agent descriptor that is lost and a dimension no one declared. -/
def observeRequest : WireRequest where
  type := .observe
  tenant := ⟨0, 1⟩
  group := ⟨0, 2⟩
  name := text "node"
  req := .fromScalar .concurrentRequests 3
  quota := { hardLimit := .fromScalar .kvCacheBytes 8, burstRule := { window := -1 } }
  agent := { host := text "host", port := 9 }
  observation := { tenant := ⟨0, 1⟩, dimension := ⟨300⟩, amount := -5, at_ := 12, source := text "probe" }

theorem observeRequest_encodable : observeRequest.Encodable := by
  refine ⟨?_, ?_, ?_, ?_, ?_, ?_, ?_, ⟨?_, ?_, ?_, ?_⟩⟩ <;> decide +kernel

theorem request_round_trip_observe :
    decodeRequest (encodeRequest observeRequest) = .ok { observeRequest with agent := {} } ∧
    ((readRequest : LogParser Empty ReadError _).run (encodeRequest observeRequest)).2 =
      .ok ({ observeRequest with agent := {} }, []) :=
  request_round_trip observeRequest observeRequest_encodable

end Protocol

end QuotaFabric
