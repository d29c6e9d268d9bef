import QuotaFabric.Lib.ByteCursor
import QuotaFabric.Protocol.Response

/-!
# Messages in memory

`decode_request` and `decode_response` at the level of `BinaryReader`: a pointer, a size and an offset, and
bytes loaded by index behind a check.

* `BufferReader` — the reader of `persistence/codec.hpp` and the record readers of
  `src/protocol/message.cpp` on top of it, field by field as `BinaryReader` and `readX` have them;
* `follows_x` — each loads within the buffer only, and does what its counterpart does on the bytes behind
  the offset;
* `decode_eq` — so do the decoders.
-/

set_option autoImplicit false

namespace QuotaFabric

open Protocol

namespace BufferReader

/-! ## Primitives -/

def u8 : Cursor ReadError UInt8 := do
  let n ← Cursor.word BinaryReader.truncated 1
  pure (UInt8.ofNat n)

def u16 : Cursor ReadError UInt16 := do
  let n ← Cursor.word BinaryReader.truncated 2
  pure (UInt16.ofNat n)

def u32 : Cursor ReadError UInt32 := do
  let n ← Cursor.word BinaryReader.truncated 4
  pure (UInt32.ofNat n)

def u64 : Cursor ReadError UInt64 := do
  let n ← Cursor.word BinaryReader.truncated 8
  pure (UInt64.ofNat n)

/-- `static_cast<std::int64_t>(u64())`. -/
def i64 : Cursor ReadError Int := do
  let n ← Cursor.word BinaryReader.truncated 8
  pure (if n < 2 ^ 63 then n else n - 2 ^ 64)

def string : Cursor ReadError Str := do
  let len ← u64
  if len.toNat > BinaryReader.maxString then Cursor.fail (.decode (text "string length exceeds bound"))
  else Cursor.chunk BinaryReader.truncated len.toNat

/-- `read_id`. -/
def id {tag : IdTag} : Cursor ReadError (StrongId tag) := do
  let hi ← u64
  let lo ← u64
  pure ⟨hi, lo⟩

/-- `u8() != 0`. -/
def flag : Cursor ReadError Bool := do
  let b ← u8
  pure (b != 0)

def optionalId {tag : IdTag} : Cursor ReadError (Option (StrongId tag)) := do
  let there ← flag
  if there then
    let i ← id
    pure (some i)
  else pure none

/-- The loop of `vector` over the dimensions still to come. -/
def vectorLoop : List ResourceDimension → ResourceVector → Cursor ReadError ResourceVector
  | [], r => pure r
  | d :: ds, r => do
    let present ← flag
    let val ← i64
    if val < 0 then Cursor.fail (.decode (text "negative vector amount"))
    else if present then
      match r.set d val with
      | (false, _) => Cursor.fail (.decode (text "invalid vector amount"))
      | (true, r') => vectorLoop ds r'
    else vectorLoop ds r

def vector : Cursor ReadError ResourceVector := do
  let count ← u16
  if count.toNat > allResourceDimensions.length then
    Cursor.fail (.decode (text "vector dimension count exceeds bound"))
  else vectorLoop (allResourceDimensions.take count.toNat) .empty

/-- The loop of `signed_vector` over the dimensions still to come. -/
def signedVectorLoop :
    List ResourceDimension → SignedResourceVector → Cursor ReadError SignedResourceVector
  | [], r => pure r
  | d :: ds, r => do
    let x ← i64
    signedVectorLoop ds (Function.update r d x)

def signedVector : Cursor ReadError SignedResourceVector := do
  let count ← u16
  if count.toNat > allResourceDimensions.length then
    Cursor.fail (.decode (text "signed vector dimension count exceeds bound"))
  else signedVectorLoop (allResourceDimensions.take count.toNat) fun _ => 0

/-! ## Records -/

/-- `read_quota`. -/
def readQuota : Cursor ReadError ResourceQuota := do
  let tenant ← BufferReader.id
  let resourceClass ← BufferReader.id
  let guaranteed ← BufferReader.vector
  let softLimit ← BufferReader.vector
  let hardLimit ← BufferReader.vector
  let burstLimit ← BufferReader.vector
  let borrowable ← BufferReader.vector
  let physicalCapacity ← BufferReader.vector
  let sharedPool ← BufferReader.vector
  let percentAboveSoft ← BufferReader.u64
  let absoluteBurst ← BufferReader.vector
  let window ← BufferReader.i64
  let maxSimultaneous ← BufferReader.u32
  let cooldown ← BufferReader.i64
  let allowDebt ← BufferReader.flag
  let borrowEnabled ← BufferReader.flag
  let lendEnabled ← BufferReader.flag
  let recallBeforeNewLend ← BufferReader.flag
  let maxBorrowDuration ← BufferReader.i64
  let preservesGuarantee ← BufferReader.flag
  let maxBorrows ← BufferReader.u32
  let overcommit ← BufferReader.u8
  let overcommitFactor ← BufferReader.u64
  let generation ← BufferReader.u64
  let policyGeneration ← BufferReader.u64
  pure
    { tenant, resourceClass, guaranteed, softLimit, hardLimit, burstLimit, borrowable
      physicalCapacity, sharedPool
      burstRule :=
        { percentAboveSoft := ⟨percentAboveSoft⟩, absoluteBurst, window, maxSimultaneous, cooldown
          allowDebt }
      borrowRule :=
        { borrowEnabled, lendEnabled, recallBeforeNewLend, maxBorrowDuration, preservesGuarantee
          maxBorrows }
      overcommit := .ofByte overcommit, overcommitFactor := ⟨overcommitFactor⟩
      generation := ⟨generation⟩, policyGeneration := ⟨policyGeneration⟩ }

def readReservation : Cursor ReadError Reservation := do
  let id ← BufferReader.id
  let tenant ← BufferReader.id
  let resourceClass ← BufferReader.id
  let resources ← BufferReader.vector
  let consumed ← BufferReader.vector
  let status ← BufferReader.u8
  let createdAt ← BufferReader.i64
  let expiresAt ← BufferReader.i64
  let quotaGeneration ← BufferReader.u64
  let policyGeneration ← BufferReader.u64
  let epoch ← BufferReader.u64
  let ownerAgent ← BufferReader.id
  let ownerBoot ← BufferReader.id
  let label ← BufferReader.string
  let resourceGeneration ← BufferReader.u64
  pure
    { id, tenant, resourceClass, resources, consumed, status := .ofByte status, createdAt, expiresAt
      quotaGeneration := ⟨quotaGeneration⟩, policyGeneration := ⟨policyGeneration⟩, epoch := ⟨epoch⟩
      ownerAgent, ownerBoot, label, resourceGeneration := ⟨resourceGeneration⟩ }

def readAllocation : Cursor ReadError Allocation := do
  let id ← BufferReader.id
  let tenant ← BufferReader.id
  let reservation ← BufferReader.id
  let resourceClass ← BufferReader.id
  let resources ← BufferReader.vector
  let used ← BufferReader.vector
  let startedAt ← BufferReader.i64
  let endedAt ← BufferReader.i64
  let active ← BufferReader.flag
  let quotaGeneration ← BufferReader.u64
  let policyGeneration ← BufferReader.u64
  let epoch ← BufferReader.u64
  let ownerAgent ← BufferReader.id
  let ownerBoot ← BufferReader.id
  let label ← BufferReader.string
  pure
    { id, tenant, reservation, resourceClass, resources, used, startedAt, endedAt, active
      quotaGeneration := ⟨quotaGeneration⟩, policyGeneration := ⟨policyGeneration⟩, epoch := ⟨epoch⟩
      ownerAgent, ownerBoot, label }

def readBorrow : Cursor ReadError BorrowRecord := do
  let id ← BufferReader.id
  let borrower ← BufferReader.id
  let lender ← BufferReader.id
  let lending ← BufferReader.id
  let reservation ← BufferReader.optionalId
  let amount ← BufferReader.vector
  let consumed ← BufferReader.vector
  let startedAt ← BufferReader.i64
  let expiresAt ← BufferReader.i64
  let recallPriority ← BufferReader.u32
  let debt ← BufferReader.vector
  let policyGeneration ← BufferReader.u64
  let quotaGeneration ← BufferReader.u64
  let epoch ← BufferReader.u64
  let recalled ← BufferReader.flag
  pure
    { id, borrower, lender, lending, reservation, amount, consumed, startedAt, expiresAt
      recallPriority, debt, policyGeneration := ⟨policyGeneration⟩
      quotaGeneration := ⟨quotaGeneration⟩, epoch := ⟨epoch⟩, recalled }

def readLending : Cursor ReadError LendingRecord := do
  let id ← BufferReader.id
  let lender ← BufferReader.id
  let borrower ← BufferReader.id
  let resourceClass ← BufferReader.id
  let amount ← BufferReader.vector
  let outstanding ← BufferReader.vector
  let startedAt ← BufferReader.i64
  let expiresAt ← BufferReader.i64
  let recallPriority ← BufferReader.u32
  let revocable ← BufferReader.flag
  let policyGeneration ← BufferReader.u64
  let quotaGeneration ← BufferReader.u64
  let epoch ← BufferReader.u64
  pure
    { id, lender, borrower, resourceClass, amount, outstanding, startedAt, expiresAt, recallPriority
      revocable, policyGeneration := ⟨policyGeneration⟩, quotaGeneration := ⟨quotaGeneration⟩
      epoch := ⟨epoch⟩ }

/-- `r_authority`. -/
def readAuthority : Cursor ReadError Authority := do
  let epoch ← BufferReader.u64
  let quotaGeneration ← BufferReader.u64
  let policyGeneration ← BufferReader.u64
  let agent ← BufferReader.id
  let boot ← BufferReader.id
  let resourceGeneration ← BufferReader.u64
  pure
    { epoch := ⟨epoch⟩, quotaGeneration := ⟨quotaGeneration⟩, policyGeneration := ⟨policyGeneration⟩
      agent, boot, resourceGeneration := ⟨resourceGeneration⟩ }

/-- `r_obs`.  The two enumerations are cast unchecked. -/
def readObservation : Cursor ReadError WireObservation := do
  let tenant ← BufferReader.id
  let allocation ← BufferReader.id
  let dimension ← BufferReader.u16
  let amount ← BufferReader.i64
  let kind ← BufferReader.u8
  let at_ ← BufferReader.i64
  let resourceGeneration ← BufferReader.u64
  let agent ← BufferReader.id
  let boot ← BufferReader.id
  let source ← BufferReader.string
  pure
    { tenant, allocation, dimension := ⟨dimension⟩, amount, kind := ⟨kind⟩, at_
      resourceGeneration := ⟨resourceGeneration⟩, agent, boot, source }

/-- The body of `decode_request`. -/
def readRequest : Cursor ReadError Protocol.WireRequest := do
  let type ← BufferReader.u8
  let auth ← readAuthority
  let tenant ← BufferReader.id
  let tenant2 ← BufferReader.id
  let group ← BufferReader.optionalId
  let kind ← BufferReader.u8
  let reservation ← BufferReader.id
  let allocation ← BufferReader.id
  let borrow ← BufferReader.id
  let agentId ← BufferReader.id
  let agentBoot ← BufferReader.id
  let nodeId ← BufferReader.id
  let nodeBoot ← BufferReader.u64
  let name ← BufferReader.string
  let name2 ← BufferReader.string
  let serviceClass ← BufferReader.string
  let path ← BufferReader.string
  let priority ← BufferReader.u32
  let recallPriority ← BufferReader.u32
  let req ← BufferReader.vector
  let req2 ← BufferReader.vector
  let quota ← readQuota
  let observation ← readObservation
  let amount ← BufferReader.u64
  pure
    { type := .ofByte type, auth, tenant, tenant2, group := group.getD {}, kind := .ofByte kind
      reservation, allocation, borrow, agentId, agentBoot, nodeId, nodeBoot := ⟨nodeBoot⟩, name, name2
      serviceClass, path, priority, recallPriority, req, req2, quota, observation, amount }

/-- `r_env`. -/
def readEnvelope : Cursor ReadError WireEnvelope := do
  let tenant ← BufferReader.id
  let resourceClass ← BufferReader.id
  let guaranteed ← BufferReader.vector
  let softLimit ← BufferReader.vector
  let hardLimit ← BufferReader.vector
  let burstLimit ← BufferReader.vector
  let currentConsumption ← BufferReader.vector
  let reserved ← BufferReader.vector
  let committedUsage ← BufferReader.vector
  let borrowed ← BufferReader.vector
  let burstUsage ← BufferReader.vector
  let lent ← BufferReader.vector
  let debt ← BufferReader.vector
  let availableGuaranteed ← BufferReader.signedVector
  let availableSoft ← BufferReader.signedVector
  let availableBurst ← BufferReader.signedVector
  let compliance ← BufferReader.u8
  let pv ← BufferReader.u8
  let generation ← BufferReader.u64
  let policyGeneration ← BufferReader.u64
  let epoch ← BufferReader.u64
  let burstExpiresAt ← BufferReader.i64
  let burstActive ← BufferReader.flag
  pure
    { tenant, resourceClass, guaranteed, softLimit, hardLimit, burstLimit, currentConsumption, reserved
      committedUsage, borrowed, burstUsage, lent, debt, availableGuaranteed, availableSoft, availableBurst
      compliance := ⟨compliance⟩, primaryViolation := if pv != 0 then some ⟨pv⟩ else none
      generation := ⟨generation⟩, policyGeneration := ⟨policyGeneration⟩, epoch := ⟨epoch⟩
      burstExpiresAt, burstActive }

/-- The body of `decode_response`. -/
def readResponse : Cursor ReadError WireResponse := do
  let ok ← BufferReader.flag
  let code ← BufferReader.u8
  let message ← BufferReader.string
  let envelope ← readEnvelope
  let decisionCode ← BufferReader.u8
  let explanation ← BufferReader.string
  let requested ← BufferReader.vector
  let guarantee ← BufferReader.vector
  let softLimit ← BufferReader.vector
  let hardLimit ← BufferReader.vector
  let ld ← BufferReader.u8
  let reservation ← readReservation
  let allocation ← readAllocation
  let borrow ← readBorrow
  let lend ← readLending
  let rc ← BufferReader.u32
  let recall_ ← BufferReader.u8.collect rc.toNat
  let epoch ← BufferReader.u64
  let quotaGeneration ← BufferReader.u64
  let policyGeneration ← BufferReader.u64
  let text ← BufferReader.string
  pure
    { ok, code := ⟨code⟩, message, envelope
      decision :=
        { code := ⟨decisionCode⟩, requested, guarantee, softLimit, hardLimit
          limitingDimension := if ld != 255 then some ⟨ld.toUInt16⟩ else none
          explanation := [{ code := .none, detail := explanation }] }
      reservation, allocation, borrow, lend, recall_ := recall_.map EnumValue.mk
      epoch := ⟨epoch⟩, quotaGeneration := ⟨quotaGeneration⟩, policyGeneration := ⟨policyGeneration⟩, text }

/-- The indices loaded, and the outcome without the offset. -/
def outcome {α : Type} (r : List Nat × Except ReadError (α × Nat)) : List Nat × Except ReadError α :=
  (r.1, r.2.map Prod.fst)

/-- `decode_request` on a buffer: the indices it loads, and what it returns or throws. -/
def decodeRequest (p : Bytes) : List Nat × Except ReadError Protocol.WireRequest :=
  outcome (readRequest.run p 0)

/-- `decode_response` on a buffer. -/
def decodeResponse (p : Bytes) : List Nat × Except ReadError WireResponse := outcome (readResponse.run p 0)

/-! ## They do what the readers of byte strings do -/

section Follows

open Cursor

variable {ω : Type}

theorem follows_u8 : Follows u8 (BinaryReader.u8 : LogParser ω ReadError _) :=
  (follows_word _ 1).bind fun _ => follows_pure _

theorem follows_u16 : Follows u16 (BinaryReader.u16 : LogParser ω ReadError _) :=
  (follows_word _ 2).bind fun _ => follows_pure _

theorem follows_u32 : Follows u32 (BinaryReader.u32 : LogParser ω ReadError _) :=
  (follows_word _ 4).bind fun _ => follows_pure _

theorem follows_u64 : Follows u64 (BinaryReader.u64 : LogParser ω ReadError _) :=
  (follows_word _ 8).bind fun _ => follows_pure _

theorem follows_i64 : Follows i64 (BinaryReader.i64 : LogParser ω ReadError _) :=
  (follows_word _ 8).bind fun _ => follows_pure _

theorem follows_string : Follows string (BinaryReader.string : LogParser ω ReadError _) := by
  refine follows_u64.bind fun len => ?_
  split
  · exact follows_fail _
  · exact follows_chunk _ _

theorem follows_id {tag : IdTag} : Follows id (BinaryReader.id : LogParser ω ReadError (StrongId tag)) :=
  follows_u64.bind fun _ => follows_u64.bind fun _ => follows_pure _

theorem follows_flag : Follows flag (BinaryReader.flag : LogParser ω ReadError _) :=
  follows_u8.bind fun _ => follows_pure _

theorem follows_optionalId {tag : IdTag} :
    Follows optionalId (BinaryReader.optionalId : LogParser ω ReadError (Option (StrongId tag))) := by
  refine follows_flag.bind fun there => ?_
  split
  · exact follows_id.bind fun _ => follows_pure _
  · exact follows_pure _

theorem follows_vectorLoop : ∀ (ds : List ResourceDimension) (r : ResourceVector),
    Follows (vectorLoop ds r) (BinaryReader.vectorLoop ds r : LogParser ω ReadError _)
  | [], _ => follows_pure _
  | d :: ds, r => by
    refine follows_flag.bind fun present => follows_i64.bind fun val => ?_
    split
    · exact follows_fail _
    split
    · obtain ⟨done, r', hset⟩ : ∃ done r', r.set d val = (done, r') := ⟨_, _, rfl⟩
      rw [hset]
      cases done with
      | false => exact follows_fail _
      | true => exact follows_vectorLoop ds r'
    · exact follows_vectorLoop ds _

theorem follows_vector : Follows vector (BinaryReader.vector : LogParser ω ReadError _) := by
  refine follows_u16.bind fun count => ?_
  split
  · exact follows_fail _
  · exact follows_vectorLoop _ _

theorem follows_signedVectorLoop : ∀ (ds : List ResourceDimension) (r : SignedResourceVector),
    Follows (signedVectorLoop ds r) (BinaryReader.signedVectorLoop ds r : LogParser ω ReadError _)
  | [], _ => follows_pure _
  | _ :: ds, _ => follows_i64.bind fun _ => follows_signedVectorLoop ds _

theorem follows_signedVector : Follows signedVector (BinaryReader.signedVector : LogParser ω ReadError _) := by
  refine follows_u16.bind fun count => ?_
  split
  · exact follows_fail _
  · exact follows_signedVectorLoop _ _

theorem follows_readQuota : Follows readQuota (QuotaFabric.readQuota : LogParser ω ReadError _) := by
  refine follows_id.bind fun _ => follows_id.bind fun _ => ?_
  refine follows_vector.bind fun _ => follows_vector.bind fun _ => follows_vector.bind fun _ => ?_
  refine follows_vector.bind fun _ => follows_vector.bind fun _ => follows_vector.bind fun _ => ?_
  refine follows_vector.bind fun _ => follows_u64.bind fun _ => follows_vector.bind fun _ => ?_
  refine follows_i64.bind fun _ => follows_u32.bind fun _ => follows_i64.bind fun _ => ?_
  refine follows_flag.bind fun _ => follows_flag.bind fun _ => follows_flag.bind fun _ => ?_
  refine follows_flag.bind fun _ => follows_i64.bind fun _ => follows_flag.bind fun _ => ?_
  refine follows_u32.bind fun _ => follows_u8.bind fun _ => follows_u64.bind fun _ => ?_
  exact follows_u64.bind fun _ => follows_u64.bind fun _ => follows_pure _

theorem follows_readReservation :
    Follows readReservation (QuotaFabric.readReservation : LogParser ω ReadError _) := by
  refine follows_id.bind fun _ => follows_id.bind fun _ => follows_id.bind fun _ => ?_
  refine follows_vector.bind fun _ => follows_vector.bind fun _ => follows_u8.bind fun _ => ?_
  refine follows_i64.bind fun _ => follows_i64.bind fun _ => follows_u64.bind fun _ => ?_
  refine follows_u64.bind fun _ => follows_u64.bind fun _ => follows_id.bind fun _ => ?_
  exact follows_id.bind fun _ => follows_string.bind fun _ => follows_u64.bind fun _ => follows_pure _

theorem follows_readAllocation :
    Follows readAllocation (QuotaFabric.readAllocation : LogParser ω ReadError _) := by
  refine follows_id.bind fun _ => follows_id.bind fun _ => follows_id.bind fun _ => ?_
  refine follows_id.bind fun _ => follows_vector.bind fun _ => follows_vector.bind fun _ => ?_
  refine follows_i64.bind fun _ => follows_i64.bind fun _ => follows_flag.bind fun _ => ?_
  refine follows_u64.bind fun _ => follows_u64.bind fun _ => follows_u64.bind fun _ => ?_
  exact follows_id.bind fun _ => follows_id.bind fun _ => follows_string.bind fun _ => follows_pure _

theorem follows_readBorrow : Follows readBorrow (QuotaFabric.readBorrow : LogParser ω ReadError _) := by
  refine follows_id.bind fun _ => follows_id.bind fun _ => follows_id.bind fun _ => ?_
  refine follows_id.bind fun _ => follows_optionalId.bind fun _ => follows_vector.bind fun _ => ?_
  refine follows_vector.bind fun _ => follows_i64.bind fun _ => follows_i64.bind fun _ => ?_
  refine follows_u32.bind fun _ => follows_vector.bind fun _ => follows_u64.bind fun _ => ?_
  exact follows_u64.bind fun _ => follows_u64.bind fun _ => follows_flag.bind fun _ => follows_pure _

theorem follows_readLending : Follows readLending (QuotaFabric.readLending : LogParser ω ReadError _) := by
  refine follows_id.bind fun _ => follows_id.bind fun _ => follows_id.bind fun _ => ?_
  refine follows_id.bind fun _ => follows_vector.bind fun _ => follows_vector.bind fun _ => ?_
  refine follows_i64.bind fun _ => follows_i64.bind fun _ => follows_u32.bind fun _ => ?_
  refine follows_flag.bind fun _ => follows_u64.bind fun _ => follows_u64.bind fun _ => ?_
  exact follows_u64.bind fun _ => follows_pure _

theorem follows_readAuthority :
    Follows readAuthority (Protocol.readAuthority : LogParser ω ReadError _) := by
  refine follows_u64.bind fun _ => follows_u64.bind fun _ => follows_u64.bind fun _ => ?_
  exact follows_id.bind fun _ => follows_id.bind fun _ => follows_u64.bind fun _ => follows_pure _

theorem follows_readObservation :
    Follows readObservation (Protocol.readObservation : LogParser ω ReadError _) := by
  refine follows_id.bind fun _ => follows_id.bind fun _ => follows_u16.bind fun _ => follows_i64.bind fun _ => ?_
  refine follows_u8.bind fun _ => follows_i64.bind fun _ => follows_u64.bind fun _ => follows_id.bind fun _ => ?_
  exact follows_id.bind fun _ => follows_string.bind fun _ => follows_pure _

/-- **The body of `decode_request`.** -/
theorem follows_readRequest : Follows readRequest (Protocol.readRequest : LogParser ω ReadError _) := by
  refine follows_u8.bind fun _ => follows_readAuthority.bind fun _ => follows_id.bind fun _ => ?_
  refine follows_id.bind fun _ => follows_optionalId.bind fun _ => follows_u8.bind fun _ => ?_
  refine follows_id.bind fun _ => follows_id.bind fun _ => follows_id.bind fun _ => follows_id.bind fun _ => ?_
  refine follows_id.bind fun _ => follows_id.bind fun _ => follows_u64.bind fun _ => ?_
  refine follows_string.bind fun _ => follows_string.bind fun _ => follows_string.bind fun _ => ?_
  refine follows_string.bind fun _ => follows_u32.bind fun _ => follows_u32.bind fun _ => ?_
  refine follows_vector.bind fun _ => follows_vector.bind fun _ => follows_readQuota.bind fun _ => ?_
  exact follows_readObservation.bind fun _ => follows_u64.bind fun _ => follows_pure _

theorem follows_readEnvelope : Follows readEnvelope (Protocol.readEnvelope : LogParser ω ReadError _) := by
  refine follows_id.bind fun _ => follows_id.bind fun _ => ?_
  refine follows_vector.bind fun _ => follows_vector.bind fun _ => follows_vector.bind fun _ => ?_
  refine follows_vector.bind fun _ => follows_vector.bind fun _ => follows_vector.bind fun _ => ?_
  refine follows_vector.bind fun _ => follows_vector.bind fun _ => follows_vector.bind fun _ => ?_
  refine follows_vector.bind fun _ => follows_vector.bind fun _ => follows_signedVector.bind fun _ => ?_
  refine follows_signedVector.bind fun _ => follows_signedVector.bind fun _ => follows_u8.bind fun _ => ?_
  refine follows_u8.bind fun _ => follows_u64.bind fun _ => follows_u64.bind fun _ => ?_
  exact follows_u64.bind fun _ => follows_i64.bind fun _ => follows_flag.bind fun _ => follows_pure _

/-- **The body of `decode_response`.** -/
theorem follows_readResponse : Follows readResponse (Protocol.readResponse : LogParser ω ReadError _) := by
  refine follows_flag.bind fun _ => follows_u8.bind fun _ => follows_string.bind fun _ => ?_
  refine follows_readEnvelope.bind fun _ => follows_u8.bind fun _ => follows_string.bind fun _ => ?_
  refine follows_vector.bind fun _ => follows_vector.bind fun _ => follows_vector.bind fun _ => ?_
  refine follows_vector.bind fun _ => follows_u8.bind fun _ => follows_readReservation.bind fun _ => ?_
  refine follows_readAllocation.bind fun _ => follows_readBorrow.bind fun _ => follows_readLending.bind fun _ => ?_
  refine follows_u32.bind fun rc => (follows_u8.collect rc.toNat).bind fun _ => follows_u64.bind fun _ => ?_
  exact follows_u64.bind fun _ => follows_u64.bind fun _ => follows_string.bind fun _ => follows_pure _

/-- From the start of a buffer. -/
theorem outcome_follows {α : Type} {c : Cursor ReadError α} {r : LogParser Empty ReadError α}
    (h : Follows c r) (p : Bytes) :
    (∀ i ∈ (outcome (c.run p 0)).1, i < p.length) ∧
      (outcome (c.run p 0)).2 = (r.run p).2.map Prod.fst := by
  obtain ⟨hin, hag⟩ := h p 0 (Nat.zero_le _)
  refine ⟨hin, ?_⟩
  rw [List.drop_zero] at hag
  unfold outcome
  cases hc : (c.run p 0).2 with
  | error e =>
    cases hr : (r.run p).2 with
    | error e' =>
      rw [hc, hr] at hag
      exact congrArg Except.error hag
    | ok y =>
      rw [hc, hr] at hag
      exact hag.elim
  | ok x =>
    cases hr : (r.run p).2 with
    | error e' =>
      rw [hc, hr] at hag
      exact hag.elim
    | ok y =>
      rw [hc, hr] at hag
      exact congrArg Except.ok hag.1

/-- **On a buffer `decode_request` loads inside it only**, and returns or throws what it does on the bytes. -/
theorem decodeRequest_eq (p : Bytes) :
    (∀ i ∈ (decodeRequest p).1, i < p.length) ∧ (decodeRequest p).2 = Protocol.decodeRequest p := by
  obtain ⟨hin, hout⟩ := outcome_follows follows_readRequest p
  refine ⟨hin, hout.trans ?_⟩
  unfold Protocol.decodeRequest
  cases ((Protocol.readRequest : LogParser Empty ReadError _).run p).2 <;> rfl

/-- **So does `decode_response`.** -/
theorem decodeResponse_eq (p : Bytes) :
    (∀ i ∈ (decodeResponse p).1, i < p.length) ∧ (decodeResponse p).2 = Protocol.decodeResponse p := by
  obtain ⟨hin, hout⟩ := outcome_follows follows_readResponse p
  refine ⟨hin, hout.trans ?_⟩
  unfold Protocol.decodeResponse
  cases ((Protocol.readResponse : LogParser Empty ReadError _).run p).2 <;> rfl

end Follows

end BufferReader

end QuotaFabric
