import QuotaFabric.Engine.Operations
import QuotaFabric.Lib.ShiftRegister
import QuotaFabric.Lib.WriteLog
import QuotaFabric.Persistence.Codec

/-!
# Saving and loading the engine

Model of `crc32`, `serialize_state`, `deserialize_state`, `save_to` and `load_from`
(`src/accounting/engine.cpp`).

* `serializeState` — the header fields, then eight lists of records, each sorted by id;
* `Stored`, `store` — the assignments the loader makes, one for each field it sets and each map
  entry it writes.  `loadState` reads a body and logs them in order; what was stored before a
  failure stays, as the source assigns fields and inserts into the live maps while it reads;
* `deserializeState` — the assignments of a body, and the resynchronisation of all tenants after a
  complete read;
* `saveBlob`, `loadBlob` — the file: magic, version, length, body, checksum;
* `held`, `held_store` — the slots the assignments write to.

`load_from` compares lengths in unsigned arithmetic: a file with less than four bytes after its
header can pass the comparison, and the loader then reads before the start of the body.  That has no
defined result, and `loadBlob` has none.
-/

set_option autoImplicit false

namespace QuotaFabric

open LogParser

/-! ## Serialisation -/

/-- `operator<` on ids. -/
def StrongId.before {tag : IdTag} (a b : StrongId tag) : Bool :=
  decide (a.hi < b.hi) || (a.hi == b.hi && decide (a.lo < b.lo))

/-- The entries of a map, sorted by id.  Ids are distinct, so neither the iteration order of the
    map nor the stability of the sort matters. -/
def sortedById {tag : IdTag} {V : Type} (m : UMap (StrongId tag) V) : List (Σ _ : StrongId tag, V) :=
  m.entries.insertionSort fun a b => b.1.before a.1 = false

/-- A list of records: its length, then the records. -/
def writeList {α : Type} (write : α → Bytes) (l : List α) : Bytes :=
  BinaryWriter.count l.length ++ l.flatMap write

namespace Engine

def writeHeader (s : Engine) : Bytes :=
  BinaryWriter.u32 1 ++
  BinaryWriter.u64 s.epoch.value ++ BinaryWriter.u64 s.quotaGeneration.value ++
  BinaryWriter.u64 s.policy.generation.value ++ BinaryWriter.u64 s.sequence ++
  BinaryWriter.string s.policy.name ++ BinaryWriter.string s.policy.description ++
  BinaryWriter.u64 s.policy.createdAt ++ BinaryWriter.u8 s.policy.overcommit.mode.toByte ++
  BinaryWriter.u16 s.policy.maxHierarchyDepth.toUInt16 ++
  BinaryWriter.u16 s.settings.maxEventRetention.toUInt16

/-- `serialize_state`. -/
def serializeState (s : Engine) : Bytes :=
  s.writeHeader ++
  writeList (fun e => writeGroup e.2) (sortedById s.groups) ++
  writeList (fun e => writeTenant e.2) (sortedById s.tenants) ++
  writeList (fun e => writeQuota e.2) (sortedById s.localQuota) ++
  writeList (fun e => BinaryWriter.id e.1 ++ writeQuota e.2) (sortedById s.groupQuota) ++
  writeList (fun e => writeReservation e.2 ++ writeFunding (s.funding.lookup e.2.id))
    (sortedById s.reservations) ++
  writeList (fun e => writeAllocation e.2) (sortedById s.allocations) ++
  writeList (fun e => writeBorrow e.2) (sortedById s.borrows) ++
  writeList (fun e => writeLending e.2) (sortedById s.lends)

end Engine

/-! ## Assignments of the loader -/

/-- An assignment to a field, or to the entry of a map. -/
inductive Stored where
  | epoch (e : CoordinatorEpoch)
  | quotaGeneration (g : QuotaGeneration)
  | policyGeneration (g : PolicyGeneration)
  | sequence (n : UInt64)
  | policyName (name : Str)
  | policyDescription (description : Str)
  | policyCreatedAt (n : UInt64)
  | overcommitMode (mode : OvercommitMode)
  | maxHierarchyDepth (n : UInt32)
  | maxEventRetention (n : UInt32)
  | group (g : TenantGroup)
  | tenant (t : Tenant)
  | tenantQuota (q : ResourceQuota)
  | groupQuota (g : TenantGroupId) (q : ResourceQuota)
  | funding (r : ReservationId) (f : Funding)
  | reservation (r : Reservation)
  | allocation (a : Allocation)
  | borrow (b : BorrowRecord)
  | lending (l : LendingRecord)

namespace Engine

/-- Make an assignment. -/
def store (s : Engine) : Stored → Engine
  | .epoch e => { s with epoch := e }
  | .quotaGeneration g => { s with quotaGeneration := g }
  | .policyGeneration g => { s with policy := { s.policy with generation := g } }
  | .sequence n => { s with sequence := n }
  | .policyName name => { s with policy := { s.policy with name := name } }
  | .policyDescription d => { s with policy := { s.policy with description := d } }
  | .policyCreatedAt n => { s with policy := { s.policy with createdAt := n } }
  | .overcommitMode mode =>
    { s with policy := { s.policy with overcommit := { s.policy.overcommit with mode := mode } } }
  | .maxHierarchyDepth n => { s with policy := { s.policy with maxHierarchyDepth := n } }
  | .maxEventRetention n => { s with settings := { s.settings with maxEventRetention := n } }
  | .group g => { s with groups := s.groups.insert g.id g }
  | .tenant t => { s with tenants := s.tenants.insert t.id t }
  | .tenantQuota q => { s with localQuota := s.localQuota.insert q.tenant q }
  | .groupQuota g q => { s with groupQuota := s.groupQuota.insert g q }
  | .funding r f => { s with funding := s.funding.insert r f }
  | .reservation r => { s with reservations := s.reservations.insert r.id r }
  | .allocation a => { s with allocations := s.allocations.insert a.id a }
  | .borrow b => { s with borrows := s.borrows.insert b.id b }
  | .lending l => { s with lends := s.lends.insert l.id l }

/-- Make assignments in order. -/
def storeAll (s : Engine) (log : List Stored) : Engine := log.foldl store s

end Engine

/-! ## Reading a body -/

abbrev Loader := LogParser Stored ReadError Unit

/-- `require_end`. -/
def requireEnd : Loader :=
  ⟨fun bs =>
    if bs.isEmpty then ([], .ok ((), bs))
    else ([], .error (.decode (text "trailing invalid data")))⟩

/-- A list of records: its length, checked against a bound, then the records. -/
def loadList (bound : UInt32) (message : Str) (one : Loader) : Loader := do
  let n ← BinaryReader.u32
  if n > bound then fail (.refused message) else one.times n.toNat

/-- The header after the format version. -/
def loadHeader : Loader := do
  let e ← BinaryReader.u64
  emit (.epoch ⟨e⟩)
  let g ← BinaryReader.u64
  emit (.quotaGeneration ⟨g⟩)
  let p ← BinaryReader.u64
  emit (.policyGeneration ⟨p⟩)
  let n ← BinaryReader.u64
  emit (.sequence n)
  let name ← BinaryReader.string
  emit (.policyName name)
  let description ← BinaryReader.string
  emit (.policyDescription description)
  let createdAt ← BinaryReader.u64
  emit (.policyCreatedAt createdAt)
  let mode ← BinaryReader.u8
  emit (.overcommitMode (.ofByte mode))
  let depth ← BinaryReader.u16
  emit (.maxHierarchyDepth depth.toUInt32)
  let retention ← BinaryReader.u16
  emit (.maxEventRetention retention.toUInt32)

def loadGroup : Loader := do
  let g ← readGroup
  emit (.group g)

def loadTenant : Loader := do
  let t ← readTenant
  emit (.tenant t)

def loadTenantQuota : Loader := do
  let q ← readQuota
  emit (.tenantQuota q)

def loadGroupQuota : Loader := do
  let g ← BinaryReader.id
  let q ← readQuota
  emit (.groupQuota g q)

/-- A reservation; its funding, when it has one, is stored first. -/
def loadReservation (maxBorrows : UInt32) : Loader := do
  let r ← readReservation
  let f ← readFunding maxBorrows
  match f with
  | none => emit (.reservation r)
  | some f =>
    emit (.funding r.id f)
    emit (.reservation r)

def loadAllocation : Loader := do
  let a ← readAllocation
  emit (.allocation a)

def loadBorrow : Loader := do
  let b ← readBorrow
  emit (.borrow b)

def loadLending : Loader := do
  let l ← readLending
  emit (.lending l)

/-- The record lists of a body, to its end. -/
def loadRecords (settings : EngineSettings) : Loader := do
  loadList settings.maxGroups (text "group count exceeds bound") loadGroup
  loadList settings.maxTenants (text "tenant count exceeds bound") loadTenant
  loadList settings.maxTenants (text "tenant quota count exceeds bound") loadTenantQuota
  loadList settings.maxGroups (text "group quota count exceeds bound") loadGroupQuota
  loadList settings.maxReservations (text "reservation count exceeds bound")
    (loadReservation settings.maxBorrows)
  loadList settings.maxReservations (text "allocation count exceeds bound") loadAllocation
  loadList settings.maxBorrows (text "borrow count exceeds bound") loadBorrow
  loadList settings.maxBorrows (text "lending count exceeds bound") loadLending
  requireEnd

/-- The reading part of `deserialize_state`. -/
def loadState (settings : EngineSettings) : Loader := do
  let ver ← BinaryReader.u32
  if ver ≠ 1 then fail (.refused (text "unsupported persistence format version"))
  else
    loadHeader
    loadRecords settings

/-- The message a failed load reports. -/
def ReadError.message : ReadError → Str
  | .decode what => text "corrupt persistence: " ++ what
  | .refused message => message

namespace Engine

/-- Resynchronise every tenant, in iteration order. -/
def syncAll (env : Env) (s : Engine) : Engine :=
  (env.tenantOrder s.tenants.entries).zipIdx.foldl (fun s e => s.syncUsage env e.2 e.1.1) s

/-- `deserialize_state`. -/
def deserializeState (env : Env) (s : Engine) (body : Bytes) : QuotaStatus × Engine :=
  let r := (loadState s.settings).run body
  match r.2 with
  | .error e => (.failure .invalidHierarchy e.message, s.storeAll r.1)
  | .ok _ => (.success, (s.storeAll r.1).syncAll env)

end Engine

/-! ## Files -/

/-- One bit of a table word. -/
def crcBit (c : BitVec 32) : BitVec 32 :=
  if c &&& 1 = 1 then 0xEDB88320 ^^^ (c >>> 1) else c >>> 1

/-- `table[i]`. -/
def crcTable (i : BitVec 8) : BitVec 32 := Nat.repeat crcBit 8 (i.setWidth 32)

def crc32 (bs : Bytes) : BitVec 32 :=
  Register.run crcTable 0xFFFFFFFF (bs.map UInt8.toBitVec) ^^^ 0xFFFFFFFF

/-- `kQuotaFabricMagic`. -/
def quotaFabricMagic : UInt32 := 0x51FA0134

/-- What stands before the body in a file. -/
def writeEnvelope (length : Nat) : Bytes :=
  BinaryWriter.u32 quotaFabricMagic ++ BinaryWriter.u32 1 ++ BinaryWriter.size length

/-- The file `save_to` makes of a body. -/
def packBody (body : Bytes) : Bytes :=
  writeEnvelope body.length ++ body ++ BinaryWriter.u32 ⟨crc32 body⟩

/-- Magic and version, then the length. -/
def readEnvelope : LogParser Empty ReadError UInt64 := do
  let magic ← BinaryReader.u32
  if magic ≠ quotaFabricMagic then fail (.refused (text "bad magic"))
  else
    let version ← BinaryReader.u32
    if version ≠ 1 then fail (.refused (text "unsupported file version"))
    else BinaryReader.u64

/-- What a file system call made of a path. -/
inductive FileRead where
  | missing
  | broken
  | bytes (blob : Bytes)

/-- The bytes the loader gets to see: where the size does not fit into a `long`, `ftell` fails and
    nothing is read. -/
def measured (blob : Bytes) : Bytes := if blob.length < 2 ^ 63 then blob else []

namespace Engine

/-- The file `save_to` writes. -/
def saveBlob (s : Engine) : Bytes := packBody s.serializeState

/-- A load that fails before it has stored anything. -/
def refuseLoad (s : Engine) (message : Str) : Option (QuotaStatus × Engine) :=
  some (.failure .resourceOverflow message, s)

/-- `load_from` on the bytes of a file. -/
def loadBlob (env : Env) (s : Engine) (blob : Bytes) : Option (QuotaStatus × Engine) :=
  match (readEnvelope.run blob).2 with
  | .error (.refused message) => s.refuseLoad message
  | .error (.decode _) => s.refuseLoad (text "load failed")
  | .ok (len, rest) =>
    if len ≠ UInt64.ofNat rest.length - 4 then s.refuseLoad (text "length mismatch")
    else if rest.length < 4 then none
    else if ofLE ((rest.drop len.toNat).take 4) ≠ (crc32 (rest.take len.toNat)).toNat then
      s.refuseLoad (text "checksum mismatch")
    else some (s.deserializeState env (rest.take len.toNat))

def loadFrom (env : Env) (s : Engine) : FileRead → Option (QuotaStatus × Engine)
  | .missing => s.refuseLoad (text "cannot open file")
  | .broken => s.refuseLoad (text "read failed")
  | .bytes blob => s.loadBlob env (measured blob)

end Engine

/-! ## Slots -/

/-- Where an assignment goes. -/
inductive Slot where
  | epoch
  | quotaGeneration
  | policyGeneration
  | sequence
  | policyName
  | policyDescription
  | policyCreatedAt
  | overcommitMode
  | maxHierarchyDepth
  | maxEventRetention
  | group (g : TenantGroupId)
  | tenant (t : TenantId)
  | tenantQuota (t : TenantId)
  | groupQuota (g : TenantGroupId)
  | funding (r : ReservationId)
  | reservation (r : ReservationId)
  | allocation (a : AllocationId)
  | borrow (b : BorrowId)
  | lending (l : LendingId)
  deriving DecidableEq

def Stored.slot : Stored → Slot
  | .epoch _ => .epoch
  | .quotaGeneration _ => .quotaGeneration
  | .policyGeneration _ => .policyGeneration
  | .sequence _ => .sequence
  | .policyName _ => .policyName
  | .policyDescription _ => .policyDescription
  | .policyCreatedAt _ => .policyCreatedAt
  | .overcommitMode _ => .overcommitMode
  | .maxHierarchyDepth _ => .maxHierarchyDepth
  | .maxEventRetention _ => .maxEventRetention
  | .group g => .group g.id
  | .tenant t => .tenant t.id
  | .tenantQuota q => .tenantQuota q.tenant
  | .groupQuota g _ => .groupQuota g
  | .funding r _ => .funding r
  | .reservation r => .reservation r.id
  | .allocation a => .allocation a.id
  | .borrow b => .borrow b.id
  | .lending l => .lending l.id

namespace Engine

/-- The assignment that a slot shows. -/
def held (s : Engine) : Slot → Option Stored
  | .epoch => some (.epoch s.epoch)
  | .quotaGeneration => some (.quotaGeneration s.quotaGeneration)
  | .policyGeneration => some (.policyGeneration s.policy.generation)
  | .sequence => some (.sequence s.sequence)
  | .policyName => some (.policyName s.policy.name)
  | .policyDescription => some (.policyDescription s.policy.description)
  | .policyCreatedAt => some (.policyCreatedAt s.policy.createdAt)
  | .overcommitMode => some (.overcommitMode s.policy.overcommit.mode)
  | .maxHierarchyDepth => some (.maxHierarchyDepth s.policy.maxHierarchyDepth)
  | .maxEventRetention => some (.maxEventRetention s.settings.maxEventRetention)
  | .group g => (s.groups.lookup g).map .group
  | .tenant t => (s.tenants.lookup t).map .tenant
  | .tenantQuota t => (s.localQuota.lookup t).map .tenantQuota
  | .groupQuota g => (s.groupQuota.lookup g).map (.groupQuota g)
  | .funding r => (s.funding.lookup r).map (.funding r)
  | .reservation r => (s.reservations.lookup r).map .reservation
  | .allocation a => (s.allocations.lookup a).map .allocation
  | .borrow b => (s.borrows.lookup b).map .borrow
  | .lending l => (s.lends.lookup l).map .lending

/-- An entry written to a map, seen through its slots. -/
theorem held_insert {K V : Type} [DecidableEq K] (m : UMap K V) (f : K → V → Stored) (k k' : K) (v : V) :
    ((m.insert k v).lookup k').map (f k') = if k = k' then some (f k v) else (m.lookup k').map (f k') := by
  by_cases h : k = k'
  · subst h
    rw [AList.lookup_insert, if_pos rfl]
    rfl
  · rw [AList.lookup_insert_ne (Ne.symm h), if_neg h]

/-- **An assignment writes its own slot and no other.** -/
theorem held_store (s : Engine) (p : Stored) (k : Slot) :
    (s.store p).held k = if p.slot = k then some p else s.held k := by
  cases p with
  | group g =>
    cases k with
    | group k => simpa [store, held, Stored.slot] using held_insert s.groups (fun _ => .group) g.id k g
    | _ => rfl
  | tenant t =>
    cases k with
    | tenant k => simpa [store, held, Stored.slot] using held_insert s.tenants (fun _ => .tenant) t.id k t
    | _ => rfl
  | tenantQuota q =>
    cases k with
    | tenantQuota k =>
      simpa [store, held, Stored.slot] using held_insert s.localQuota (fun _ => .tenantQuota) q.tenant k q
    | _ => rfl
  | groupQuota g q =>
    cases k with
    | groupQuota k => simpa [store, held, Stored.slot] using held_insert s.groupQuota .groupQuota g k q
    | _ => rfl
  | funding r f =>
    cases k with
    | funding k => simpa [store, held, Stored.slot] using held_insert s.funding .funding r k f
    | _ => rfl
  | reservation r =>
    cases k with
    | reservation k =>
      simpa [store, held, Stored.slot] using held_insert s.reservations (fun _ => .reservation) r.id k r
    | _ => rfl
  | allocation a =>
    cases k with
    | allocation k =>
      simpa [store, held, Stored.slot] using held_insert s.allocations (fun _ => .allocation) a.id k a
    | _ => rfl
  | borrow b =>
    cases k with
    | borrow k => simpa [store, held, Stored.slot] using held_insert s.borrows (fun _ => .borrow) b.id k b
    | _ => rfl
  | lending l =>
    cases k with
    | lending k => simpa [store, held, Stored.slot] using held_insert s.lends (fun _ => .lending) l.id k l
    | _ => rfl
  | _ => cases k <;> rfl

theorem held_storeAll (s : Engine) (log : List Stored) (k : Slot) :
    (s.storeAll log).held k = (lastWrite Stored.slot log k).or (s.held k) :=
  held_foldl held_store log s k

end Engine

end QuotaFabric
