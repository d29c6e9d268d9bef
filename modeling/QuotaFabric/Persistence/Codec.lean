import QuotaFabric.Engine.State
import QuotaFabric.Lib.ByteCodec

/-!
# The binary encoding of records

Model of `persistence/codec.hpp` and of `write_quota`, `read_quota` and the record encodings in
`src/accounting/engine.cpp`, on a little-endian host.

* `BinaryWriter`, `BinaryReader` — words, strings, ids, flags and resource vectors.  A writer is the
  byte string it appends; a reader is a parser that fails with the text of its `decode_error`;
* `writeX`, `readX` — one pair for each kind of record, in the field order of the source;
* `X.Storable` — the field values an encoding can hold: amounts from `0` to `INT64_MAX`, 64-bit
  instants, strings up to the reader's bound;
* `readX_writeX` — what is written is read back;
* `yields_readX` — whatever is read can be written.
-/

set_option autoImplicit false

namespace QuotaFabric

open LogParser

abbrev Bytes := List UInt8

/-! ## Enumerations by byte -/

namespace OvercommitMode

def toByte : OvercommitMode → UInt8
  | .none => 0
  | .logical => 1
  | .predictionAware => 2
  | .undeclared b => b.val

/-- `static_cast` from a byte. -/
def ofByte (b : UInt8) : OvercommitMode :=
  if h : 2 < b then .undeclared ⟨b, h⟩
  else if b = 0 then .none
  else if b = 1 then .logical
  else .predictionAware

theorem ofByte_toByte (m : OvercommitMode) : ofByte m.toByte = m := by
  cases m with
  | undeclared b => exact dif_pos b.property
  | _ => rfl

end OvercommitMode

namespace TenantGroupKind

def toByte : TenantGroupKind → UInt8
  | .organization => 0
  | .businessUnit => 1
  | .team => 2
  | .project => 3
  | .environment => 4
  | .serviceClass => 5
  | .undeclared b => b.val

def ofByte (b : UInt8) : TenantGroupKind :=
  if h : 5 < b then .undeclared ⟨b, h⟩
  else if b = 0 then .organization
  else if b = 1 then .businessUnit
  else if b = 2 then .team
  else if b = 3 then .project
  else if b = 4 then .environment
  else .serviceClass

theorem ofByte_toByte (k : TenantGroupKind) : ofByte k.toByte = k := by
  cases k with
  | undeclared b => exact dif_pos b.property
  | _ => rfl

end TenantGroupKind

namespace ReservationStatus

def toByte : ReservationStatus → UInt8
  | .provisional => 0
  | .committed => 1
  | .consumed => 2
  | .released => 3
  | .expired => 4
  | .rolledBack => 5
  | .undeclared b => b.val

def ofByte (b : UInt8) : ReservationStatus :=
  if h : 5 < b then .undeclared ⟨b, h⟩
  else if b = 0 then .provisional
  else if b = 1 then .committed
  else if b = 2 then .consumed
  else if b = 3 then .released
  else if b = 4 then .expired
  else .rolledBack

theorem ofByte_toByte (s : ReservationStatus) : ofByte s.toByte = s := by
  cases s with
  | undeclared b => exact dif_pos b.property
  | _ => rfl

end ReservationStatus

/-! ## Primitives -/

namespace BinaryWriter

def u8 (v : UInt8) : Bytes := [v]

def u16 (v : UInt16) : Bytes := toLE 2 v.toNat

def u32 (v : UInt32) : Bytes := toLE 4 v.toNat

def u64 (v : UInt64) : Bytes := toLE 8 v.toNat

/-- Two's complement. -/
def i64 (v : Int) : Bytes := toLE 8 (v % 2 ^ 64).toNat

/-- A container size, converted to 64 bits. -/
def size (n : Nat) : Bytes := u64 (UInt64.ofNat n)

/-- A container size, converted to 32 bits. -/
def count (n : Nat) : Bytes := u32 (UInt32.ofNat n)

def string (s : Str) : Bytes := size s.length ++ s

def id {tag : IdTag} (i : StrongId tag) : Bytes := u64 i.hi ++ u64 i.lo

/-- `u8(b ? 1 : 0)`. -/
def flag (b : Bool) : Bytes := u8 (if b then 1 else 0)

/-- A flag, and the id when there is one. -/
def optionalId {tag : IdTag} : Option (StrongId tag) → Bytes
  | none => flag false
  | some i => flag true ++ id i

def vector (v : ResourceVector) : Bytes :=
  u16 (UInt16.ofNat allResourceDimensions.length) ++
    allResourceDimensions.flatMap fun d =>
      flag (v.present d) ++ i64 (if v.present d then v.get d else 0)

end BinaryWriter

/-- Why reading stops: a `decode_error`, or a count above its bound. -/
inductive ReadError where
  | decode (what : Str)
  | refused (message : Str)
  deriving DecidableEq

namespace BinaryReader

variable {ω : Type}

/-- What `need` throws. -/
def truncated : ReadError := .decode (text "truncated data")

/-- `max_string_`. -/
def maxString : Nat := 2 ^ 24

def u8 : LogParser ω ReadError UInt8 := do
  let n ← le truncated 1
  pure (UInt8.ofNat n)

def u16 : LogParser ω ReadError UInt16 := do
  let n ← le truncated 2
  pure (UInt16.ofNat n)

def u32 : LogParser ω ReadError UInt32 := do
  let n ← le truncated 4
  pure (UInt32.ofNat n)

def u64 : LogParser ω ReadError UInt64 := do
  let n ← le truncated 8
  pure (UInt64.ofNat n)

/-- `static_cast<std::int64_t>(u64())`. -/
def i64 : LogParser ω ReadError Int := do
  let n ← le truncated 8
  pure (if n < 2 ^ 63 then n else n - 2 ^ 64)

def string : LogParser ω ReadError Str := do
  let len ← u64
  if len.toNat > maxString then fail (.decode (text "string length exceeds bound"))
  else takeBytes truncated len.toNat

/-- `read_id`. -/
def id {tag : IdTag} : LogParser ω ReadError (StrongId tag) := do
  let hi ← u64
  let lo ← u64
  pure ⟨hi, lo⟩

/-- `u8() != 0`. -/
def flag : LogParser ω ReadError Bool := do
  let b ← u8
  pure (b != 0)

def optionalId {tag : IdTag} : LogParser ω ReadError (Option (StrongId tag)) := do
  let there ← flag
  if there then
    let i ← id
    pure (some i)
  else pure none

/-- The loop of `vector` over the dimensions still to come. -/
def vectorLoop : List ResourceDimension → ResourceVector → LogParser ω ReadError ResourceVector
  | [], r => pure r
  | d :: ds, r => do
    let present ← flag
    let val ← i64
    if val < 0 then fail (.decode (text "negative vector amount"))
    else if present then
      match r.set d val with
      | (false, _) => fail (.decode (text "invalid vector amount"))
      | (true, r') => vectorLoop ds r'
    else vectorLoop ds r

def vector : LogParser ω ReadError ResourceVector := do
  let count ← u16
  if count.toNat > allResourceDimensions.length then
    fail (.decode (text "vector dimension count exceeds bound"))
  else vectorLoop (allResourceDimensions.take count.toNat) .empty

end BinaryReader

/-! ### What is written is read back -/

section Primitives

variable {ω : Type} (rest : Bytes)

theorem read_u8 (v : UInt8) :
    (BinaryReader.u8 : LogParser ω ReadError _).run (BinaryWriter.u8 v ++ rest) = ([], .ok (v, rest)) := by
  have hlen : (BinaryWriter.u8 v).length = 1 := rfl
  have hval : ofLE (BinaryWriter.u8 v) = v.toNat := rfl
  unfold BinaryReader.u8
  rw [run_bind, run_le_append hlen, hval, andThen_ok_nil, run_pure, UInt8.ofNat_toNat]

theorem read_u16 (v : UInt16) :
    (BinaryReader.u16 : LogParser ω ReadError _).run (BinaryWriter.u16 v ++ rest) = ([], .ok (v, rest)) := by
  have hlen : (BinaryWriter.u16 v).length = 2 := length_toLE 2 _
  have hval : ofLE (BinaryWriter.u16 v) = v.toNat := ofLE_toLE_of_lt v.toNat_lt
  unfold BinaryReader.u16
  rw [run_bind, run_le_append hlen, hval, andThen_ok_nil, run_pure, UInt16.ofNat_toNat]

theorem read_u32 (v : UInt32) :
    (BinaryReader.u32 : LogParser ω ReadError _).run (BinaryWriter.u32 v ++ rest) = ([], .ok (v, rest)) := by
  have hlen : (BinaryWriter.u32 v).length = 4 := length_toLE 4 _
  have hval : ofLE (BinaryWriter.u32 v) = v.toNat := ofLE_toLE_of_lt v.toNat_lt
  unfold BinaryReader.u32
  rw [run_bind, run_le_append hlen, hval, andThen_ok_nil, run_pure, UInt32.ofNat_toNat]

theorem read_u64 (v : UInt64) :
    (BinaryReader.u64 : LogParser ω ReadError _).run (BinaryWriter.u64 v ++ rest) = ([], .ok (v, rest)) := by
  have hlen : (BinaryWriter.u64 v).length = 8 := length_toLE 8 _
  have hval : ofLE (BinaryWriter.u64 v) = v.toNat := ofLE_toLE_of_lt v.toNat_lt
  unfold BinaryReader.u64
  rw [run_bind, run_le_append hlen, hval, andThen_ok_nil, run_pure, UInt64.ofNat_toNat]

theorem read_i64 {v : Int} (h : IsInt64 v) :
    (BinaryReader.i64 : LogParser ω ReadError _).run (BinaryWriter.i64 v ++ rest) = ([], .ok (v, rest)) := by
  obtain ⟨hlo, hhi⟩ := h
  unfold INT64_MIN at hlo
  unfold INT64_MAX at hhi
  have hlt : (v % 2 ^ 64).toNat < 256 ^ 8 := by omega
  have hlen : (BinaryWriter.i64 v).length = 8 := length_toLE 8 _
  have hval : ofLE (BinaryWriter.i64 v) = (v % 2 ^ 64).toNat := ofLE_toLE_of_lt hlt
  have hback : (if (v % 2 ^ 64).toNat < 2 ^ 63 then (((v % 2 ^ 64).toNat : Nat) : Int)
      else ((v % 2 ^ 64).toNat : Int) - 2 ^ 64) = v := by
    split <;> omega
  unfold BinaryReader.i64
  rw [run_bind, run_le_append hlen, hval, andThen_ok_nil, run_pure, hback]

theorem read_string {s : Str} (h : s.length ≤ BinaryReader.maxString) :
    (BinaryReader.string : LogParser ω ReadError _).run (BinaryWriter.string s ++ rest) =
      ([], .ok (s, rest)) := by
  have hlen : (UInt64.ofNat s.length).toNat = s.length := by
    unfold BinaryReader.maxString at h
    rw [UInt64.toNat_ofNat']
    omega
  unfold BinaryReader.string BinaryWriter.string BinaryWriter.size
  rw [run_bind, List.append_assoc, read_u64, andThen_ok_nil, hlen, if_neg (by omega),
    run_takeBytes_append rfl]

/-- A string beyond the reader's bound is refused. -/
theorem read_long_string {s : Str} (h : BinaryReader.maxString < s.length) (hsize : s.length < 2 ^ 64) :
    (BinaryReader.string : LogParser ω ReadError _).run (BinaryWriter.string s ++ rest) =
      ([], .error (.decode (text "string length exceeds bound"))) := by
  have hlen : (UInt64.ofNat s.length).toNat = s.length := by
    rw [UInt64.toNat_ofNat']
    omega
  unfold BinaryReader.string BinaryWriter.string BinaryWriter.size
  rw [run_bind, List.append_assoc, read_u64, andThen_ok_nil, hlen, if_pos h]
  rfl

theorem read_id {tag : IdTag} (i : StrongId tag) :
    (BinaryReader.id : LogParser ω ReadError _).run (BinaryWriter.id i ++ rest) = ([], .ok (i, rest)) := by
  unfold BinaryReader.id BinaryWriter.id
  rw [List.append_assoc, run_bind, read_u64, andThen_ok_nil, run_bind, read_u64]
  rfl

theorem read_flag (b : Bool) :
    (BinaryReader.flag : LogParser ω ReadError _).run (BinaryWriter.flag b ++ rest) = ([], .ok (b, rest)) := by
  unfold BinaryReader.flag BinaryWriter.flag
  rw [run_bind, read_u8]
  cases b <;> rfl

theorem read_optionalId {tag : IdTag} (i : Option (StrongId tag)) :
    (BinaryReader.optionalId : LogParser ω ReadError _).run (BinaryWriter.optionalId i ++ rest) =
      ([], .ok (i, rest)) := by
  unfold BinaryReader.optionalId
  cases i with
  | none =>
    rw [run_bind, BinaryWriter.optionalId, read_flag]
    rfl
  | some i =>
    rw [run_bind, BinaryWriter.optionalId, List.append_assoc, read_flag, andThen_ok_nil, if_pos rfl,
      run_bind, read_id]
    rfl

/-- The loop fills in the dimensions it visits and keeps the others. -/
theorem read_vectorLoop {v : ResourceVector} (hv : v.Valid) : ∀ (ds : List ResourceDimension)
    (r : ResourceVector), ds.Nodup → (∀ d ∈ ds, r.cell d = none) →
    ∃ r', (BinaryReader.vectorLoop ds r : LogParser ω ReadError _).run
        ((ds.flatMap fun d => BinaryWriter.flag (v.present d) ++
          BinaryWriter.i64 (if v.present d then v.get d else 0)) ++ rest) = ([], .ok (r', rest)) ∧
      ∀ d, r'.cell d = if d ∈ ds then v.cell d else r.cell d
  | [], r, _, _ => ⟨r, rfl, fun d => by simp⟩
  | d :: ds, r, hnd, hr => by
    obtain ⟨hne, hnd'⟩ := List.nodup_cons.mp hnd
    obtain ⟨hlo, hhi⟩ := hv d
    have hval : IsInt64 (if v.present d then v.get d else 0) := by
      unfold IsInt64
      have h0 : INT64_MIN ≤ 0 := by decide
      have h1 : (0 : Int) ≤ INT64_MAX := by decide
      split <;> omega
    have hnn : ¬ (if v.present d then v.get d else 0) < 0 := by split <;> omega
    unfold BinaryReader.vectorLoop
    rw [List.flatMap_cons, List.append_assoc, List.append_assoc, run_bind, read_flag, andThen_ok_nil,
      run_bind, read_i64 _ hval, andThen_ok_nil, if_neg hnn]
    cases hp : v.present d with
    | true =>
      have hset : r.set d (v.get d) = (true, r.put d (v.get d)) := by
        unfold ResourceVector.set
        rw [if_neg (by omega)]
      obtain ⟨r', hok, hcell⟩ := read_vectorLoop hv ds (r.put d (v.get d)) hnd' fun e he => by
        have hed : e ≠ d := by rintro rfl; exact hne he
        simp [SparseVec.put, hed, hr e (List.mem_cons_of_mem d he)]
      refine ⟨r', ?_, fun e => ?_⟩
      · simp only [if_true, hset]
        exact hok
      · rw [hcell e]
        by_cases hed : e = d
        · subst hed
          rw [if_neg hne, if_pos List.mem_cons_self, SparseVec.cell_of_present hp]
          simp [SparseVec.put]
        · simp [hed, SparseVec.put]
    | false =>
      obtain ⟨r', hok, hcell⟩ := read_vectorLoop hv ds r hnd' fun e he =>
        hr e (List.mem_cons_of_mem d he)
      refine ⟨r', ?_, fun e => ?_⟩
      · simp only [Bool.false_eq_true, if_false]
        exact hok
      · rw [hcell e]
        by_cases hed : e = d
        · subst hed
          have hnone : v.cell e = none := by
            unfold SparseVec.present at hp
            rwa [Option.isSome_eq_false_iff, Option.isNone_iff_eq_none] at hp
          rw [if_neg hne, if_pos List.mem_cons_self, hnone, hr e List.mem_cons_self]
        · simp [hed]

theorem read_vector {v : ResourceVector} (hv : v.Valid) :
    (BinaryReader.vector : LogParser ω ReadError _).run (BinaryWriter.vector v ++ rest) =
      ([], .ok (v, rest)) := by
  obtain ⟨r, hok, hcell⟩ := read_vectorLoop (ω := ω) rest hv allResourceDimensions .empty
    allResourceDimensions_nodup fun _ _ => rfl
  have hr : r = v := by
    ext1
    funext d
    rw [hcell d, if_pos (mem_allResourceDimensions d)]
  have hcount : (UInt16.ofNat allResourceDimensions.length).toNat = allResourceDimensions.length := by
    decide
  unfold BinaryReader.vector BinaryWriter.vector
  rw [List.append_assoc, run_bind, read_u16, andThen_ok_nil, hcount, if_neg (lt_irrefl _),
    List.take_length, hok, hr]

end Primitives

/-! ## Quotas -/

/-- `write_quota`. -/
def writeQuota (q : ResourceQuota) : Bytes :=
  BinaryWriter.id q.tenant ++ BinaryWriter.id q.resourceClass ++
  BinaryWriter.vector q.guaranteed ++ BinaryWriter.vector q.softLimit ++
  BinaryWriter.vector q.hardLimit ++ BinaryWriter.vector q.burstLimit ++
  BinaryWriter.vector q.borrowable ++ BinaryWriter.vector q.physicalCapacity ++
  BinaryWriter.vector q.sharedPool ++
  -- burst rule
  BinaryWriter.u64 q.burstRule.percentAboveSoft.bits ++ BinaryWriter.vector q.burstRule.absoluteBurst ++
  BinaryWriter.i64 q.burstRule.window ++ BinaryWriter.u32 q.burstRule.maxSimultaneous ++
  BinaryWriter.i64 q.burstRule.cooldown ++ BinaryWriter.flag q.burstRule.allowDebt ++
  -- borrow rule
  BinaryWriter.flag q.borrowRule.borrowEnabled ++ BinaryWriter.flag q.borrowRule.lendEnabled ++
  BinaryWriter.flag q.borrowRule.recallBeforeNewLend ++
  BinaryWriter.i64 q.borrowRule.maxBorrowDuration ++
  BinaryWriter.flag q.borrowRule.preservesGuarantee ++ BinaryWriter.u32 q.borrowRule.maxBorrows ++
  -- overcommit
  BinaryWriter.u8 q.overcommit.toByte ++ BinaryWriter.u64 q.overcommitFactor.bits ++
  BinaryWriter.u64 q.generation.value ++ BinaryWriter.u64 q.policyGeneration.value

section Readers

variable {ω : Type}

/-- `read_quota`. -/
def readQuota : LogParser ω ReadError ResourceQuota := do
  let tenant ← BinaryReader.id
  let resourceClass ← BinaryReader.id
  let guaranteed ← BinaryReader.vector
  let softLimit ← BinaryReader.vector
  let hardLimit ← BinaryReader.vector
  let burstLimit ← BinaryReader.vector
  let borrowable ← BinaryReader.vector
  let physicalCapacity ← BinaryReader.vector
  let sharedPool ← BinaryReader.vector
  let percentAboveSoft ← BinaryReader.u64
  let absoluteBurst ← BinaryReader.vector
  let window ← BinaryReader.i64
  let maxSimultaneous ← BinaryReader.u32
  let cooldown ← BinaryReader.i64
  let allowDebt ← BinaryReader.flag
  let borrowEnabled ← BinaryReader.flag
  let lendEnabled ← BinaryReader.flag
  let recallBeforeNewLend ← BinaryReader.flag
  let maxBorrowDuration ← BinaryReader.i64
  let preservesGuarantee ← BinaryReader.flag
  let maxBorrows ← BinaryReader.u32
  let overcommit ← BinaryReader.u8
  let overcommitFactor ← BinaryReader.u64
  let generation ← BinaryReader.u64
  let policyGeneration ← BinaryReader.u64
  pure
    { tenant, resourceClass, guaranteed, softLimit, hardLimit, burstLimit, borrowable
      physicalCapacity, sharedPool
      burstRule :=
        { percentAboveSoft := ⟨percentAboveSoft⟩, absoluteBurst, window, maxSimultaneous, cooldown
          allowDebt }
      borrowRule :=
        { borrowEnabled, lendEnabled, recallBeforeNewLend, maxBorrowDuration, preservesGuarantee
          maxBorrows }
      overcommit := .ofByte overcommit, overcommitFactor := ⟨overcommitFactor⟩
      generation := ⟨generation⟩, policyGeneration := ⟨policyGeneration⟩ }

end Readers

/-- The values of a quota that its encoding can hold. -/
structure ResourceQuota.Storable (q : ResourceQuota) : Prop extends q.Valid where
  sharedPool : q.sharedPool.Valid
  absoluteBurst : q.burstRule.absoluteBurst.Valid
  window : IsInt64 q.burstRule.window
  cooldown : IsInt64 q.burstRule.cooldown
  maxBorrowDuration : IsInt64 q.borrowRule.maxBorrowDuration

instance (q : ResourceQuota) : Decidable q.Storable :=
  decidable_of_iff
    (q.Valid ∧ q.sharedPool.Valid ∧ q.burstRule.absoluteBurst.Valid ∧ IsInt64 q.burstRule.window ∧
      IsInt64 q.burstRule.cooldown ∧ IsInt64 q.borrowRule.maxBorrowDuration)
    ⟨fun ⟨h, h1, h2, h3, h4, h5⟩ => ⟨h, h1, h2, h3, h4, h5⟩,
      fun h => ⟨h.toValid, h.sharedPool, h.absoluteBurst, h.window, h.cooldown, h.maxBorrowDuration⟩⟩

theorem readQuota_writeQuota {ω : Type} {q : ResourceQuota} (h : q.Storable) (rest : Bytes) :
    (readQuota : LogParser ω ReadError _).run (writeQuota q ++ rest) = ([], .ok (q, rest)) := by
  unfold readQuota writeQuota
  simp only [List.append_assoc, run_bind, andThen_ok_nil, read_id, read_u8, read_u32, read_u64, read_flag,
    read_vector _ h.guaranteed, read_vector _ h.softLimit, read_vector _ h.hardLimit,
    read_vector _ h.burstLimit, read_vector _ h.borrowable, read_vector _ h.physicalCapacity,
    read_vector _ h.sharedPool, read_vector _ h.absoluteBurst, read_i64 _ h.window,
    read_i64 _ h.cooldown, read_i64 _ h.maxBorrowDuration, OvercommitMode.ofByte_toByte]
  rfl

/-! ## Groups and tenants -/

def writeGroup (g : TenantGroup) : Bytes :=
  BinaryWriter.id g.id ++ BinaryWriter.u8 g.kind.toByte ++ BinaryWriter.optionalId g.parent ++
  BinaryWriter.string g.name ++ writeQuota g.quota ++ BinaryWriter.u64 g.policyGeneration.value

def writeTenant (t : Tenant) : Bytes :=
  BinaryWriter.id t.id ++ BinaryWriter.optionalId t.group ++ BinaryWriter.string t.name ++
  BinaryWriter.u32 t.priority ++ BinaryWriter.string t.serviceClass

section Readers

variable {ω : Type}

def readGroup : LogParser ω ReadError TenantGroup := do
  let id ← BinaryReader.id
  let kind ← BinaryReader.u8
  let parent ← BinaryReader.optionalId
  let name ← BinaryReader.string
  let quota ← readQuota
  let policyGeneration ← BinaryReader.u64
  pure { id, kind := .ofByte kind, parent, name, quota, policyGeneration := ⟨policyGeneration⟩ }

def readTenant : LogParser ω ReadError Tenant := do
  let id ← BinaryReader.id
  let group ← BinaryReader.optionalId
  let name ← BinaryReader.string
  let priority ← BinaryReader.u32
  let serviceClass ← BinaryReader.string
  pure { id, group, name, priority, serviceClass }

end Readers

/-- A string the reader accepts. -/
def Str.Storable (s : Str) : Prop := s.length ≤ BinaryReader.maxString

instance (s : Str) : Decidable (Str.Storable s) := inferInstanceAs (Decidable (_ ≤ _))

structure TenantGroup.Storable (g : TenantGroup) : Prop where
  name : Str.Storable g.name
  quota : g.quota.Storable

structure Tenant.Storable (t : Tenant) : Prop where
  name : Str.Storable t.name
  serviceClass : Str.Storable t.serviceClass

theorem readGroup_writeGroup {ω : Type} {g : TenantGroup} (h : g.Storable) (rest : Bytes) :
    (readGroup : LogParser ω ReadError _).run (writeGroup g ++ rest) = ([], .ok (g, rest)) := by
  unfold readGroup writeGroup
  simp only [List.append_assoc, run_bind, andThen_ok_nil, read_id, read_u8, read_u64, read_optionalId,
    read_string _ h.name, readQuota_writeQuota h.quota, TenantGroupKind.ofByte_toByte]
  rfl

theorem readTenant_writeTenant {ω : Type} {t : Tenant} (h : t.Storable) (rest : Bytes) :
    (readTenant : LogParser ω ReadError _).run (writeTenant t ++ rest) = ([], .ok (t, rest)) := by
  unfold readTenant writeTenant
  simp only [List.append_assoc, run_bind, andThen_ok_nil, read_id, read_u32, read_optionalId,
    read_string _ h.name, read_string _ h.serviceClass]
  rfl

/-! ## Reservations and their funding -/

def writeReservation (r : Reservation) : Bytes :=
  BinaryWriter.id r.id ++ BinaryWriter.id r.tenant ++ BinaryWriter.id r.resourceClass ++
  BinaryWriter.vector r.resources ++ BinaryWriter.vector r.consumed ++
  BinaryWriter.u8 r.status.toByte ++ BinaryWriter.i64 r.createdAt ++ BinaryWriter.i64 r.expiresAt ++
  BinaryWriter.u64 r.quotaGeneration.value ++ BinaryWriter.u64 r.policyGeneration.value ++
  BinaryWriter.u64 r.epoch.value ++ BinaryWriter.id r.ownerAgent ++ BinaryWriter.id r.ownerBoot ++
  BinaryWriter.string r.label ++ BinaryWriter.u64 r.resourceGeneration.value

/-- A flag, and the funding when there is one. -/
def writeFunding : Option Funding → Bytes
  | none => BinaryWriter.flag false
  | some f =>
    BinaryWriter.flag true ++ BinaryWriter.vector f.burst ++ BinaryWriter.count f.borrows.length ++
    f.borrows.flatMap BinaryWriter.id

section Readers

variable {ω : Type}

def readReservation : LogParser ω ReadError Reservation := do
  let id ← BinaryReader.id
  let tenant ← BinaryReader.id
  let resourceClass ← BinaryReader.id
  let resources ← BinaryReader.vector
  let consumed ← BinaryReader.vector
  let status ← BinaryReader.u8
  let createdAt ← BinaryReader.i64
  let expiresAt ← BinaryReader.i64
  let quotaGeneration ← BinaryReader.u64
  let policyGeneration ← BinaryReader.u64
  let epoch ← BinaryReader.u64
  let ownerAgent ← BinaryReader.id
  let ownerBoot ← BinaryReader.id
  let label ← BinaryReader.string
  let resourceGeneration ← BinaryReader.u64
  pure
    { id, tenant, resourceClass, resources, consumed, status := .ofByte status, createdAt, expiresAt
      quotaGeneration := ⟨quotaGeneration⟩, policyGeneration := ⟨policyGeneration⟩, epoch := ⟨epoch⟩
      ownerAgent, ownerBoot, label, resourceGeneration := ⟨resourceGeneration⟩ }

def readFunding (maxBorrows : UInt32) : LogParser ω ReadError (Option Funding) := do
  let there ← BinaryReader.flag
  if there then
    let burst ← BinaryReader.vector
    let nb ← BinaryReader.u32
    if nb > maxBorrows then fail (.refused (text "borrow refs exceed bound"))
    else
      let borrows ← BinaryReader.id.collect nb.toNat
      pure (some { burst, borrows })
  else pure none

end Readers

structure Reservation.Storable (r : Reservation) : Prop where
  resources : r.resources.Valid
  consumed : r.consumed.Valid
  createdAt : IsInt64 r.createdAt
  expiresAt : IsInt64 r.expiresAt
  label : Str.Storable r.label

theorem readReservation_writeReservation {ω : Type} {r : Reservation} (h : r.Storable) (rest : Bytes) :
    (readReservation : LogParser ω ReadError _).run (writeReservation r ++ rest) =
      ([], .ok (r, rest)) := by
  unfold readReservation writeReservation
  simp only [List.append_assoc, run_bind, andThen_ok_nil, read_id, read_u8, read_u64,
    read_vector _ h.resources, read_vector _ h.consumed, read_i64 _ h.createdAt, read_i64 _ h.expiresAt,
    read_string _ h.label, ReservationStatus.ofByte_toByte]
  rfl

/-- A list of ids is read back while its length is within the bound. -/
theorem readFunding_writeFunding {ω : Type} {maxBorrows : UInt32} {f : Option Funding}
    (hburst : ∀ x, f = some x → x.burst.Valid)
    (hcount : ∀ x, f = some x → x.borrows.length ≤ maxBorrows.toNat) (rest : Bytes) :
    (readFunding maxBorrows : LogParser ω ReadError _).run (writeFunding f ++ rest) =
      ([], .ok (f, rest)) := by
  unfold readFunding
  cases f with
  | none =>
    rw [writeFunding, run_bind, read_flag]
    rfl
  | some f =>
    have hlen := hcount f rfl
    have hmax := maxBorrows.toNat_lt
    have hnat : (UInt32.ofNat f.borrows.length).toNat = f.borrows.length := by
      rw [UInt32.toNat_ofNat']
      omega
    have hle : ¬ UInt32.ofNat f.borrows.length > maxBorrows := by
      rw [gt_iff_lt, UInt32.lt_iff_toNat_lt, hnat]
      omega
    unfold writeFunding BinaryWriter.count
    simp only [List.append_assoc, run_bind, andThen_ok_nil, read_flag, if_true,
      read_vector _ (hburst f rfl), read_u32]
    rw [if_neg hle, hnat, run_bind, run_collect_append (fun i rest => read_id rest i)]
    rfl

/-! ## Allocations and loans -/

def writeAllocation (a : Allocation) : Bytes :=
  BinaryWriter.id a.id ++ BinaryWriter.id a.tenant ++ BinaryWriter.id a.reservation ++
  BinaryWriter.id a.resourceClass ++ BinaryWriter.vector a.resources ++ BinaryWriter.vector a.used ++
  BinaryWriter.i64 a.startedAt ++ BinaryWriter.i64 a.endedAt ++ BinaryWriter.flag a.active ++
  BinaryWriter.u64 a.quotaGeneration.value ++ BinaryWriter.u64 a.policyGeneration.value ++
  BinaryWriter.u64 a.epoch.value ++ BinaryWriter.id a.ownerAgent ++ BinaryWriter.id a.ownerBoot ++
  BinaryWriter.string a.label

/-- The resource class of a borrow record is not written. -/
def writeBorrow (b : BorrowRecord) : Bytes :=
  BinaryWriter.id b.id ++ BinaryWriter.id b.borrower ++ BinaryWriter.id b.lender ++
  BinaryWriter.id b.lending ++ BinaryWriter.optionalId b.reservation ++
  BinaryWriter.vector b.amount ++ BinaryWriter.vector b.consumed ++ BinaryWriter.i64 b.startedAt ++
  BinaryWriter.i64 b.expiresAt ++ BinaryWriter.u32 b.recallPriority ++ BinaryWriter.vector b.debt ++
  BinaryWriter.u64 b.policyGeneration.value ++ BinaryWriter.u64 b.quotaGeneration.value ++
  BinaryWriter.u64 b.epoch.value ++ BinaryWriter.flag b.recalled

def writeLending (l : LendingRecord) : Bytes :=
  BinaryWriter.id l.id ++ BinaryWriter.id l.lender ++ BinaryWriter.id l.borrower ++
  BinaryWriter.id l.resourceClass ++ BinaryWriter.vector l.amount ++
  BinaryWriter.vector l.outstanding ++ BinaryWriter.i64 l.startedAt ++ BinaryWriter.i64 l.expiresAt ++
  BinaryWriter.u32 l.recallPriority ++ BinaryWriter.flag l.revocable ++
  BinaryWriter.u64 l.policyGeneration.value ++ BinaryWriter.u64 l.quotaGeneration.value ++
  BinaryWriter.u64 l.epoch.value

section Readers

variable {ω : Type}

def readAllocation : LogParser ω ReadError Allocation := do
  let id ← BinaryReader.id
  let tenant ← BinaryReader.id
  let reservation ← BinaryReader.id
  let resourceClass ← BinaryReader.id
  let resources ← BinaryReader.vector
  let used ← BinaryReader.vector
  let startedAt ← BinaryReader.i64
  let endedAt ← BinaryReader.i64
  let active ← BinaryReader.flag
  let quotaGeneration ← BinaryReader.u64
  let policyGeneration ← BinaryReader.u64
  let epoch ← BinaryReader.u64
  let ownerAgent ← BinaryReader.id
  let ownerBoot ← BinaryReader.id
  let label ← BinaryReader.string
  pure
    { id, tenant, reservation, resourceClass, resources, used, startedAt, endedAt, active
      quotaGeneration := ⟨quotaGeneration⟩, policyGeneration := ⟨policyGeneration⟩, epoch := ⟨epoch⟩
      ownerAgent, ownerBoot, label }

def readBorrow : LogParser ω ReadError BorrowRecord := do
  let id ← BinaryReader.id
  let borrower ← BinaryReader.id
  let lender ← BinaryReader.id
  let lending ← BinaryReader.id
  let reservation ← BinaryReader.optionalId
  let amount ← BinaryReader.vector
  let consumed ← BinaryReader.vector
  let startedAt ← BinaryReader.i64
  let expiresAt ← BinaryReader.i64
  let recallPriority ← BinaryReader.u32
  let debt ← BinaryReader.vector
  let policyGeneration ← BinaryReader.u64
  let quotaGeneration ← BinaryReader.u64
  let epoch ← BinaryReader.u64
  let recalled ← BinaryReader.flag
  pure
    { id, borrower, lender, lending, reservation, amount, consumed, startedAt, expiresAt
      recallPriority, debt, policyGeneration := ⟨policyGeneration⟩
      quotaGeneration := ⟨quotaGeneration⟩, epoch := ⟨epoch⟩, recalled }

def readLending : LogParser ω ReadError LendingRecord := do
  let id ← BinaryReader.id
  let lender ← BinaryReader.id
  let borrower ← BinaryReader.id
  let resourceClass ← BinaryReader.id
  let amount ← BinaryReader.vector
  let outstanding ← BinaryReader.vector
  let startedAt ← BinaryReader.i64
  let expiresAt ← BinaryReader.i64
  let recallPriority ← BinaryReader.u32
  let revocable ← BinaryReader.flag
  let policyGeneration ← BinaryReader.u64
  let quotaGeneration ← BinaryReader.u64
  let epoch ← BinaryReader.u64
  pure
    { id, lender, borrower, resourceClass, amount, outstanding, startedAt, expiresAt, recallPriority
      revocable, policyGeneration := ⟨policyGeneration⟩, quotaGeneration := ⟨quotaGeneration⟩
      epoch := ⟨epoch⟩ }

end Readers

structure Allocation.Storable (a : Allocation) : Prop where
  resources : a.resources.Valid
  used : a.used.Valid
  startedAt : IsInt64 a.startedAt
  endedAt : IsInt64 a.endedAt
  label : Str.Storable a.label

structure BorrowRecord.Storable (b : BorrowRecord) : Prop where
  resourceClass : b.resourceClass = {}
  amount : b.amount.Valid
  consumed : b.consumed.Valid
  startedAt : IsInt64 b.startedAt
  expiresAt : IsInt64 b.expiresAt
  debt : b.debt.Valid

structure LendingRecord.Storable (l : LendingRecord) : Prop where
  amount : l.amount.Valid
  outstanding : l.outstanding.Valid
  startedAt : IsInt64 l.startedAt
  expiresAt : IsInt64 l.expiresAt

theorem readAllocation_writeAllocation {ω : Type} {a : Allocation} (h : a.Storable) (rest : Bytes) :
    (readAllocation : LogParser ω ReadError _).run (writeAllocation a ++ rest) =
      ([], .ok (a, rest)) := by
  unfold readAllocation writeAllocation
  simp only [List.append_assoc, run_bind, andThen_ok_nil, read_id, read_u64, read_flag,
    read_vector _ h.resources, read_vector _ h.used, read_i64 _ h.startedAt, read_i64 _ h.endedAt,
    read_string _ h.label]
  rfl

theorem readBorrow_writeBorrow {ω : Type} {b : BorrowRecord} (h : b.Storable) (rest : Bytes) :
    (readBorrow : LogParser ω ReadError _).run (writeBorrow b ++ rest) = ([], .ok (b, rest)) := by
  have hclass : { b with resourceClass := {} } = b := by rw [← h.resourceClass]
  unfold readBorrow writeBorrow
  simp only [List.append_assoc, run_bind, andThen_ok_nil, read_id, read_u32, read_u64, read_flag,
    read_optionalId, read_vector _ h.amount, read_vector _ h.consumed, read_vector _ h.debt,
    read_i64 _ h.startedAt, read_i64 _ h.expiresAt, run_pure]
  rw [← hclass]

theorem readLending_writeLending {ω : Type} {l : LendingRecord} (h : l.Storable) (rest : Bytes) :
    (readLending : LogParser ω ReadError _).run (writeLending l ++ rest) = ([], .ok (l, rest)) := by
  unfold readLending writeLending
  simp only [List.append_assoc, run_bind, andThen_ok_nil, read_id, read_u32, read_u64, read_flag,
    read_vector _ h.amount, read_vector _ h.outstanding, read_i64 _ h.startedAt, read_i64 _ h.expiresAt]
  rfl

/-! ## What the readers can yield -/

section Yields

variable {ω : Type} {R : ω → Prop}

theorem yields_u8 : Yields (BinaryReader.u8 : LogParser ω ReadError _) R fun _ => True :=
  (yields_le _ 1).bind fun _ _ => yields_pure trivial

theorem yields_u16 : Yields (BinaryReader.u16 : LogParser ω ReadError _) R fun _ => True :=
  (yields_le _ 2).bind fun _ _ => yields_pure trivial

theorem yields_u32 : Yields (BinaryReader.u32 : LogParser ω ReadError _) R fun _ => True :=
  (yields_le _ 4).bind fun _ _ => yields_pure trivial

theorem yields_u64 : Yields (BinaryReader.u64 : LogParser ω ReadError _) R fun _ => True :=
  (yields_le _ 8).bind fun _ _ => yields_pure trivial

theorem yields_i64 : Yields (BinaryReader.i64 : LogParser ω ReadError _) R IsInt64 := by
  refine (yields_le _ 8).bind fun n hn => yields_pure ?_
  have h8 : (256 : Nat) ^ 8 = 2 ^ 64 := by norm_num
  unfold IsInt64 INT64_MIN INT64_MAX
  split <;> omega

theorem yields_string : Yields (BinaryReader.string : LogParser ω ReadError _) R Str.Storable := by
  refine yields_u64.bind fun len _ => ?_
  split
  · exact yields_fail _
  · rename_i hlen
    intro bs
    obtain ⟨hlog, hres⟩ := yields_takeBytes (R := R) BinaryReader.truncated len.toNat bs
    refine ⟨hlog, fun a rest ha => ?_⟩
    have hn := hres a rest ha
    show a.length ≤ BinaryReader.maxString
    omega

theorem yields_id {tag : IdTag} :
    Yields (BinaryReader.id : LogParser ω ReadError (StrongId tag)) R fun _ => True :=
  yields_u64.bind fun _ _ => yields_u64.bind fun _ _ => yields_pure trivial

theorem yields_flag : Yields (BinaryReader.flag : LogParser ω ReadError _) R fun _ => True :=
  yields_u8.bind fun _ _ => yields_pure trivial

theorem yields_optionalId {tag : IdTag} :
    Yields (BinaryReader.optionalId : LogParser ω ReadError (Option (StrongId tag))) R fun _ => True := by
  refine yields_flag.bind fun there _ => ?_
  split
  · exact yields_id.bind fun _ _ => yields_pure trivial
  · exact yields_pure trivial

theorem yields_vectorLoop : ∀ (ds : List ResourceDimension) (r : ResourceVector), r.Valid →
    Yields (BinaryReader.vectorLoop ds r : LogParser ω ReadError _) R ResourceVector.Valid
  | [], _, hr => yields_pure hr
  | d :: ds, r, hr => by
    refine yields_flag.bind fun present _ => yields_i64.bind fun val hval => ?_
    split
    · exact yields_fail _
    split
    · have hset := ResourceVector.set_valid hr d hval.2
      split
      · exact yields_fail _
      · rename_i r' heq
        rw [heq] at hset
        exact yields_vectorLoop ds r' hset
    · exact yields_vectorLoop ds r hr

theorem yields_vector : Yields (BinaryReader.vector : LogParser ω ReadError _) R ResourceVector.Valid := by
  refine yields_u16.bind fun count _ => ?_
  split
  · exact yields_fail _
  · exact yields_vectorLoop _ _ ResourceVector.valid_empty

theorem yields_readQuota : Yields (readQuota : LogParser ω ReadError _) R ResourceQuota.Storable := by
  refine yields_id.bind fun _ _ => yields_id.bind fun _ _ => ?_
  refine yields_vector.bind fun _ h1 => yields_vector.bind fun _ h2 => yields_vector.bind fun _ h3 => ?_
  refine yields_vector.bind fun _ h4 => yields_vector.bind fun _ h5 => yields_vector.bind fun _ h6 => ?_
  refine yields_vector.bind fun _ hpool => yields_u64.bind fun _ _ => yields_vector.bind fun _ habs => ?_
  refine yields_i64.bind fun _ hwindow => yields_u32.bind fun _ _ => yields_i64.bind fun _ hcool => ?_
  refine yields_flag.bind fun _ _ => yields_flag.bind fun _ _ => yields_flag.bind fun _ _ => ?_
  refine yields_flag.bind fun _ _ => yields_i64.bind fun _ hdur => yields_flag.bind fun _ _ => ?_
  refine yields_u32.bind fun _ _ => yields_u8.bind fun _ _ => yields_u64.bind fun _ _ => ?_
  refine yields_u64.bind fun _ _ => yields_u64.bind fun _ _ => yields_pure ?_
  exact ⟨⟨h1, h2, h3, h4, h5, h6⟩, hpool, habs, hwindow, hcool, hdur⟩

theorem yields_readGroup : Yields (readGroup : LogParser ω ReadError _) R TenantGroup.Storable := by
  refine yields_id.bind fun _ _ => yields_u8.bind fun _ _ => yields_optionalId.bind fun _ _ => ?_
  refine yields_string.bind fun _ hname => yields_readQuota.bind fun _ hquota => ?_
  exact yields_u64.bind fun _ _ => yields_pure ⟨hname, hquota⟩

theorem yields_readTenant : Yields (readTenant : LogParser ω ReadError _) R Tenant.Storable := by
  refine yields_id.bind fun _ _ => yields_optionalId.bind fun _ _ => yields_string.bind fun _ hname => ?_
  exact yields_u32.bind fun _ _ => yields_string.bind fun _ hclass => yields_pure ⟨hname, hclass⟩

theorem yields_readReservation :
    Yields (readReservation : LogParser ω ReadError _) R Reservation.Storable := by
  refine yields_id.bind fun _ _ => yields_id.bind fun _ _ => yields_id.bind fun _ _ => ?_
  refine yields_vector.bind fun _ hres => yields_vector.bind fun _ hcons => yields_u8.bind fun _ _ => ?_
  refine yields_i64.bind fun _ hcreated => yields_i64.bind fun _ hexpires => yields_u64.bind fun _ _ => ?_
  refine yields_u64.bind fun _ _ => yields_u64.bind fun _ _ => yields_id.bind fun _ _ => ?_
  refine yields_id.bind fun _ _ => yields_string.bind fun _ hlabel => yields_u64.bind fun _ _ => ?_
  exact yields_pure ⟨hres, hcons, hcreated, hexpires, hlabel⟩

/-- A funding that was read has no more loans than the reader's bound. -/
theorem yields_readFunding (maxBorrows : UInt32) :
    Yields (readFunding maxBorrows : LogParser ω ReadError _) R fun f =>
      ∀ x, f = some x → x.burst.Valid ∧ x.borrows.length ≤ maxBorrows.toNat := by
  refine yields_flag.bind fun there _ => ?_
  split
  · refine yields_vector.bind fun burst hburst => yields_u32.bind fun nb _ => ?_
    split
    · exact yields_fail _
    · rename_i hle
      refine (yields_id.collect nb.toNat).bind fun ids hids => yields_pure ?_
      rintro x ⟨⟩
      rw [gt_iff_lt, UInt32.lt_iff_toNat_lt] at hle
      exact ⟨hburst, by simp only; omega⟩
  · refine yields_pure ?_
    rintro x ⟨⟩

theorem yields_readAllocation :
    Yields (readAllocation : LogParser ω ReadError _) R Allocation.Storable := by
  refine yields_id.bind fun _ _ => yields_id.bind fun _ _ => yields_id.bind fun _ _ => ?_
  refine yields_id.bind fun _ _ => yields_vector.bind fun _ hres => yields_vector.bind fun _ hused => ?_
  refine yields_i64.bind fun _ hstart => yields_i64.bind fun _ hend => yields_flag.bind fun _ _ => ?_
  refine yields_u64.bind fun _ _ => yields_u64.bind fun _ _ => yields_u64.bind fun _ _ => ?_
  refine yields_id.bind fun _ _ => yields_id.bind fun _ _ => yields_string.bind fun _ hlabel => ?_
  exact yields_pure ⟨hres, hused, hstart, hend, hlabel⟩

theorem yields_readBorrow : Yields (readBorrow : LogParser ω ReadError _) R BorrowRecord.Storable := by
  refine yields_id.bind fun _ _ => yields_id.bind fun _ _ => yields_id.bind fun _ _ => ?_
  refine yields_id.bind fun _ _ => yields_optionalId.bind fun _ _ => yields_vector.bind fun _ ham => ?_
  refine yields_vector.bind fun _ hcons => yields_i64.bind fun _ hstart => ?_
  refine yields_i64.bind fun _ hexpires => yields_u32.bind fun _ _ => yields_vector.bind fun _ hdebt => ?_
  refine yields_u64.bind fun _ _ => yields_u64.bind fun _ _ => yields_u64.bind fun _ _ => ?_
  exact yields_flag.bind fun _ _ => yields_pure ⟨rfl, ham, hcons, hstart, hexpires, hdebt⟩

theorem yields_readLending : Yields (readLending : LogParser ω ReadError _) R LendingRecord.Storable := by
  refine yields_id.bind fun _ _ => yields_id.bind fun _ _ => yields_id.bind fun _ _ => ?_
  refine yields_id.bind fun _ _ => yields_vector.bind fun _ ham => yields_vector.bind fun _ hout => ?_
  refine yields_i64.bind fun _ hstart => yields_i64.bind fun _ hexpires => yields_u32.bind fun _ _ => ?_
  refine yields_flag.bind fun _ _ => yields_u64.bind fun _ _ => yields_u64.bind fun _ _ => ?_
  exact yields_u64.bind fun _ _ => yields_pure ⟨ham, hout, hstart, hexpires⟩

end Yields

end QuotaFabric
