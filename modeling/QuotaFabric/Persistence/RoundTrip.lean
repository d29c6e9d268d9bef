import QuotaFabric.Engine.Trace
import QuotaFabric.Lib.Sorting
import QuotaFabric.Persistence.Store

/-!
# What is saved is loaded

`deserialize_state` on the output of `serialize_state`.

* `Encodable` — every record holds values its encoding can hold and stands under its own id, and
  every funding belongs to a reservation.  Reachable states are like that (`Persistence/Reachable`);
* `WithinBounds`, `StringsFit` — what the loader's settings and the string reader ask of a state;
* `writes` — the assignments a saved state stands for; `mem_writes` — they are what its slots hold;
* `endsIff_loadState` — the loader reads exactly these, to the last byte, where the counts and strings
  are within its bounds, and fails elsewhere;
* `Restored` — two engines hold the same in every slot; `serializeState_congr` — they have the same
  serialisation, whatever the order inside their maps;
* `load_serializeState` — a fresh engine gets all of it back and recomputes every tenant's counters.
-/

set_option autoImplicit false

namespace QuotaFabric

open AList LogParser

/-! ## Sorting by id -/

theorem StrongId.before_iff {tag : IdTag} {a b : StrongId tag} :
    a.before b = true ↔ a.hi.toNat < b.hi.toNat ∨ a.hi.toNat = b.hi.toNat ∧ a.lo.toNat < b.lo.toNat := by
  unfold StrongId.before
  simp only [Bool.or_eq_true, Bool.and_eq_true, decide_eq_true_iff, beq_iff_eq, UInt64.lt_iff_toNat_lt,
    UInt64.toNat_inj]

theorem StrongId.not_before_iff {tag : IdTag} {a b : StrongId tag} :
    a.before b = false ↔ b.hi.toNat < a.hi.toNat ∨ b.hi.toNat = a.hi.toNat ∧ b.lo.toNat ≤ a.lo.toNat := by
  rw [← Bool.not_eq_true, StrongId.before_iff]
  omega

theorem StrongId.eq_of_not_before {tag : IdTag} {a b : StrongId tag} (h : a.before b = false)
    (h' : b.before a = false) : a = b := by
  rw [StrongId.not_before_iff] at h h'
  have hhi : a.hi = b.hi := UInt64.toNat.inj (by omega)
  have hlo : a.lo = b.lo := UInt64.toNat.inj (by omega)
  cases a
  cases b
  simp only at hhi hlo
  rw [hhi, hlo]

/-- The comparison of the lambdas: `a.first < b.first`. -/
def byId {tag : IdTag} {V : Type} (a b : Σ _ : StrongId tag, V) : Bool := a.1.before b.1

section Sorting

variable {tag : IdTag} {V : Type}

theorem mem_sortedById {m : UMap (StrongId tag) V} {e : Σ _ : StrongId tag, V} :
    e ∈ sortedById m ↔ m.lookup e.1 = some e.2 := by
  unfold sortedById
  rw [List.mem_insertionSort, lookup_eq_some_iff]

theorem length_sortedById (m : UMap (StrongId tag) V) : (sortedById m).length = m.entries.length :=
  List.length_insertionSort _ _

/-- **The comparison of ids is a strict weak order.** -/
theorem strictWeak_byId : StrictWeak (@byId tag V) where
  irrefl a := by
    rw [byId, StrongId.not_before_iff]
    omega
  trans := by
    intro a b c hab hbc
    rw [byId, StrongId.before_iff] at *
    omega
  cotrans := by
    intro a b c hab hbc
    rw [byId, StrongId.not_before_iff] at *
    omega

/-- Entries of one map that the comparison does not tell apart are the same: keys are unique. -/
theorem byId_key {m : UMap (StrongId tag) V} {l : List (Σ _ : StrongId tag, V)} (hl : l.Perm m.entries) :
    ∀ a ∈ l, ∀ b ∈ l, byId a b = false → byId b a = false → a = b := by
  intro a ha b hb hab hba
  obtain ⟨i, v⟩ := a
  obtain ⟨j, w⟩ := b
  obtain rfl : i = j := StrongId.eq_of_not_before hab hba
  have hv : m.lookup i = some v := lookup_eq_some_iff.mpr (hl.mem_iff.mp ha)
  have hw : m.lookup i = some w := lookup_eq_some_iff.mpr (hl.mem_iff.mp hb)
  rw [hv] at hw
  cases hw
  rfl

/-- **The sorted copy of a map depends on its contents only.** -/
theorem sorted_copy_eq (std std' : StdSort) (ord ord' : IterOrder (Σ _ : StrongId tag, V))
    {m m' : UMap (StrongId tag) V} (h : ∀ k, m'.lookup k = m.lookup k) :
    std'.sort byId (ord' m'.entries) = std.sort byId (ord m.entries) := by
  have hperm : (ord' m'.entries).Perm (ord m.entries) :=
    ((ord'.perm _).trans (entries_perm h)).trans (ord.perm _).symm
  exact sort_eq_sort std' std strictWeak_byId hperm (byId_key (ord'.perm _))

/-- **The sorted entries depend on the contents of a map only.** -/
theorem sortedById_congr {m m' : UMap (StrongId tag) V} (h : ∀ k, m'.lookup k = m.lookup k) :
    sortedById m' = sortedById m := sorted_copy_eq insertionSort insertionSort default default h

end Sorting

namespace Engine

/-! ## States that can be saved -/

/-- Every record holds values its encoding can hold.  Where `keyed`, each also stands under its own
    id and a funding lists distinct loans that are on record.  Otherwise its list is bounded by `cap`
    or by the number of loans. -/
structure Encodable (keyed : Prop) (cap : Nat) (s : Engine) : Prop where
  depth : s.policy.maxHierarchyDepth.toNat < 2 ^ 16
  groups : ∀ g gr, s.groups.lookup g = some gr → (keyed → gr.id = g) ∧ gr.quota.Storable
  tenants : ∀ t tn, s.tenants.lookup t = some tn → (keyed → tn.id = t) ∧ Str.Storable tn.serviceClass
  localQuota : ∀ t q, s.localQuota.lookup t = some q → (keyed → q.tenant = t) ∧ q.Storable
  groupQuota : ∀ g q, s.groupQuota.lookup g = some q → q.Storable
  reservations : ∀ rid r, s.reservations.lookup rid = some r → (keyed → r.id = rid) ∧ r.Storable
  funding : ∀ rid f, s.funding.lookup rid = some f →
    (keyed → rid ∈ s.reservations ∧ ∀ bid ∈ f.borrows, bid ∈ s.borrows) ∧ f.burst.Valid ∧
      f.borrows.length ≤ max cap s.borrows.entries.length
  allocations : ∀ aid a, s.allocations.lookup aid = some a → (keyed → a.id = aid) ∧ a.Storable
  borrows : ∀ bid b, s.borrows.lookup bid = some b → (keyed → b.id = bid) ∧ b.Storable
  lends : ∀ lid l, s.lends.lookup lid = some l → (keyed → l.id = lid) ∧ l.Storable

/-- The record counts are within the bounds a loader with these settings checks. -/
structure WithinBounds (settings : EngineSettings) (s : Engine) : Prop where
  groups : s.groups.entries.length ≤ settings.maxGroups.toNat
  tenants : s.tenants.entries.length ≤ settings.maxTenants.toNat
  localQuota : s.localQuota.entries.length ≤ settings.maxTenants.toNat
  groupQuota : s.groupQuota.entries.length ≤ settings.maxGroups.toNat
  reservations : s.reservations.entries.length ≤ settings.maxReservations.toNat
  allocations : s.allocations.entries.length ≤ settings.maxReservations.toNat
  borrows : s.borrows.entries.length ≤ settings.maxBorrows.toNat
  lends : s.lends.entries.length ≤ settings.maxBorrows.toNat

/-- The strings a caller chooses are within the reader's bound. -/
structure StringsFit (s : Engine) : Prop where
  policyName : Str.Storable s.policy.name
  policyDescription : Str.Storable s.policy.description
  groups : ∀ g gr, s.groups.lookup g = some gr → Str.Storable gr.name
  tenants : ∀ t tn, s.tenants.lookup t = some tn → Str.Storable tn.name

/-- Counts and string lengths fit the fields they are written to. -/
structure SizesFit (s : Engine) : Prop where
  groups : s.groups.entries.length < 2 ^ 32
  tenants : s.tenants.entries.length < 2 ^ 32
  localQuota : s.localQuota.entries.length < 2 ^ 32
  groupQuota : s.groupQuota.entries.length < 2 ^ 32
  reservations : s.reservations.entries.length < 2 ^ 32
  allocations : s.allocations.entries.length < 2 ^ 32
  borrows : s.borrows.entries.length < 2 ^ 32
  lends : s.lends.entries.length < 2 ^ 32
  policyName : s.policy.name.length < 2 ^ 64
  policyDescription : s.policy.description.length < 2 ^ 64
  groupNames : ∀ g gr, s.groups.lookup g = some gr → gr.name.length < 2 ^ 64
  tenantNames : ∀ t tn, s.tenants.lookup t = some tn → tn.name.length < 2 ^ 64

instance (settings : EngineSettings) (s : Engine) : Decidable (WithinBounds settings s) :=
  decidable_of_iff
    ((s.groups.entries.length ≤ settings.maxGroups.toNat ∧ s.tenants.entries.length ≤ settings.maxTenants.toNat ∧
        s.localQuota.entries.length ≤ settings.maxTenants.toNat ∧
        s.groupQuota.entries.length ≤ settings.maxGroups.toNat) ∧
      s.reservations.entries.length ≤ settings.maxReservations.toNat ∧
        s.allocations.entries.length ≤ settings.maxReservations.toNat ∧
        s.borrows.entries.length ≤ settings.maxBorrows.toNat ∧ s.lends.entries.length ≤ settings.maxBorrows.toNat)
    ⟨fun ⟨⟨h1, h2, h3, h4⟩, h5, h6, h7, h8⟩ => ⟨h1, h2, h3, h4, h5, h6, h7, h8⟩,
      fun h => ⟨⟨h.groups, h.tenants, h.localQuota, h.groupQuota⟩, h.reservations, h.allocations, h.borrows, h.lends⟩⟩

instance (s : Engine) : Decidable s.StringsFit :=
  decidable_of_iff
    ((Str.Storable s.policy.name ∧ Str.Storable s.policy.description) ∧
      (∀ g gr, s.groups.lookup g = some gr → Str.Storable gr.name) ∧
      ∀ t tn, s.tenants.lookup t = some tn → Str.Storable tn.name)
    ⟨fun ⟨⟨h1, h2⟩, h3, h4⟩ => ⟨h1, h2, h3, h4⟩,
      fun h => ⟨⟨h.policyName, h.policyDescription⟩, h.groups, h.tenants⟩⟩

instance (s : Engine) : Decidable s.SizesFit :=
  decidable_of_iff
    ((s.groups.entries.length < 2 ^ 32 ∧ s.tenants.entries.length < 2 ^ 32 ∧ s.localQuota.entries.length < 2 ^ 32 ∧
        s.groupQuota.entries.length < 2 ^ 32) ∧
      (s.reservations.entries.length < 2 ^ 32 ∧ s.allocations.entries.length < 2 ^ 32 ∧
        s.borrows.entries.length < 2 ^ 32 ∧ s.lends.entries.length < 2 ^ 32) ∧
      (s.policy.name.length < 2 ^ 64 ∧ s.policy.description.length < 2 ^ 64) ∧
      (∀ g gr, s.groups.lookup g = some gr → gr.name.length < 2 ^ 64) ∧
      ∀ t tn, s.tenants.lookup t = some tn → tn.name.length < 2 ^ 64)
    ⟨fun ⟨⟨h1, h2, h3, h4⟩, ⟨h5, h6, h7, h8⟩, ⟨h9, h10⟩, h11, h12⟩ =>
        ⟨h1, h2, h3, h4, h5, h6, h7, h8, h9, h10, h11, h12⟩,
      fun h => ⟨⟨h.groups, h.tenants, h.localQuota, h.groupQuota⟩,
        ⟨h.reservations, h.allocations, h.borrows, h.lends⟩, ⟨h.policyName, h.policyDescription⟩,
        h.groupNames, h.tenantNames⟩⟩

theorem WithinBounds.sizesFit {settings : EngineSettings} {s : Engine} (hb : WithinBounds settings s)
    (hs : StringsFit s) : SizesFit s := by
  have hstr : ∀ n : Str, Str.Storable n → n.length < 2 ^ 64 := by
    intro n hn
    unfold Str.Storable BinaryReader.maxString at hn
    omega
  exact ⟨hb.groups.trans_lt (UInt32.toNat_lt _), hb.tenants.trans_lt (UInt32.toNat_lt _),
    hb.localQuota.trans_lt (UInt32.toNat_lt _), hb.groupQuota.trans_lt (UInt32.toNat_lt _),
    hb.reservations.trans_lt (UInt32.toNat_lt _), hb.allocations.trans_lt (UInt32.toNat_lt _),
    hb.borrows.trans_lt (UInt32.toNat_lt _), hb.lends.trans_lt (UInt32.toNat_lt _),
    hstr _ hs.policyName, hstr _ hs.policyDescription, fun g gr h => hstr _ (hs.groups g gr h),
    fun t tn h => hstr _ (hs.tenants t tn h)⟩

/-! ## The assignments of a saved state -/

def headerWrites (s : Engine) : List Stored :=
  [.epoch s.epoch, .quotaGeneration s.quotaGeneration, .policyGeneration s.policy.generation,
    .sequence s.sequence, .policyName s.policy.name, .policyDescription s.policy.description,
    .policyCreatedAt s.policy.createdAt, .overcommitMode s.policy.overcommit.mode,
    .maxHierarchyDepth s.policy.maxHierarchyDepth, .maxEventRetention s.settings.maxEventRetention]

/-- A reservation, after its funding. -/
def reservationWrites (s : Engine) (r : Reservation) : List Stored :=
  match s.funding.lookup r.id with
  | none => [.reservation r]
  | some f => [.funding r.id f, .reservation r]

def recordWrites (s : Engine) : List Stored :=
  ((sortedById s.groups).flatMap fun e => [Stored.group e.2]) ++
  (((sortedById s.tenants).flatMap fun e => [Stored.tenant e.2]) ++
  (((sortedById s.localQuota).flatMap fun e => [Stored.tenantQuota e.2]) ++
  (((sortedById s.groupQuota).flatMap fun e => [Stored.groupQuota e.1 e.2]) ++
  (((sortedById s.reservations).flatMap fun e => s.reservationWrites e.2) ++
  (((sortedById s.allocations).flatMap fun e => [Stored.allocation e.2]) ++
  (((sortedById s.borrows).flatMap fun e => [Stored.borrow e.2]) ++
  ((sortedById s.lends).flatMap fun e => [Stored.lending e.2])))))))

/-- The assignments a saved state stands for, in the order the loader makes them. -/
def writes (s : Engine) : List Stored := s.headerWrites ++ s.recordWrites

/-- A map whose values carry their keys, searched by value. -/
theorem exists_sortedById_iff {tag : IdTag} {V : Type} {m : UMap (StrongId tag) V} {key : V → StrongId tag}
    (h : ∀ k v, m.lookup k = some v → key v = k) {v : V} :
    (∃ e ∈ sortedById m, v = e.2) ↔ m.lookup (key v) = some v := by
  constructor
  · rintro ⟨e, he, rfl⟩
    rw [mem_sortedById] at he
    rw [h e.1 e.2 he]
    exact he
  · intro hv
    exact ⟨⟨key v, v⟩, mem_sortedById.mpr hv, rfl⟩

theorem mem_reservationWrites {s : Engine} {r : Reservation} {p : Stored} :
    p ∈ s.reservationWrites r ↔
      p = .reservation r ∨ ∃ f, s.funding.lookup r.id = some f ∧ p = .funding r.id f := by
  unfold reservationWrites
  cases s.funding.lookup r.id with
  | none => simp
  | some f =>
    simp only [List.mem_cons, List.not_mem_nil, or_false, Option.some.injEq, exists_eq_left']
    exact Or.comm

/-- **The assignments of a saved state are what its slots hold.** -/
theorem mem_writes {s : Engine} {cap : Nat} (h : Encodable True cap s) (p : Stored) :
    p ∈ s.writes ↔ s.held p.slot = some p := by
  unfold writes headerWrites recordWrites
  simp only [List.mem_append, List.mem_cons, List.not_mem_nil, or_false, List.mem_flatMap,
    mem_reservationWrites]
  cases p with
  | group g =>
    simpa [held, Stored.slot] using exists_sortedById_iff (fun k v hv => (h.groups k v hv).1 trivial) (v := g)
  | tenant t =>
    simpa [held, Stored.slot] using exists_sortedById_iff (fun k v hv => (h.tenants k v hv).1 trivial) (v := t)
  | tenantQuota q =>
    simpa [held, Stored.slot] using
      exists_sortedById_iff (fun k v hv => (h.localQuota k v hv).1 trivial) (v := q)
  | groupQuota g q =>
    have hg : (∃ e ∈ sortedById s.groupQuota, g = e.1 ∧ q = e.2) ↔ s.groupQuota.lookup g = some q := by
      constructor
      · rintro ⟨e, he, rfl, rfl⟩
        exact mem_sortedById.mp he
      · intro hq
        exact ⟨⟨g, q⟩, mem_sortedById.mpr hq, rfl, rfl⟩
    simpa [held, Stored.slot] using hg
  | funding r f =>
    have hf : (∃ e ∈ sortedById s.reservations, ∃ f', s.funding.lookup e.2.id = some f' ∧
        r = e.2.id ∧ f = f') ↔ s.funding.lookup r = some f := by
      constructor
      · rintro ⟨e, -, f', hf', rfl, rfl⟩
        exact hf'
      · intro hf
        -- every funding belongs to a reservation
        obtain ⟨res, hres⟩ := exists_lookup_of_mem ((h.funding r f hf).1 trivial).1
        have hid := (h.reservations r res hres).1 trivial
        exact ⟨⟨r, res⟩, mem_sortedById.mpr hres, f, by rw [hid]; exact hf, hid.symm, rfl⟩
    simpa [held, Stored.slot] using hf
  | reservation r =>
    simpa [held, Stored.slot] using
      exists_sortedById_iff (fun k v hv => (h.reservations k v hv).1 trivial) (v := r)
  | allocation a =>
    simpa [held, Stored.slot] using
      exists_sortedById_iff (fun k v hv => (h.allocations k v hv).1 trivial) (v := a)
  | borrow b =>
    simpa [held, Stored.slot] using exists_sortedById_iff (fun k v hv => (h.borrows k v hv).1 trivial) (v := b)
  | lending l =>
    simpa [held, Stored.slot] using exists_sortedById_iff (fun k v hv => (h.lends k v hv).1 trivial) (v := l)
  | _ => simp [held, Stored.slot, eq_comm]

end Engine

/-! ## Reading a saved state -/

/-- A list is read where it is within its bound and each of its records is read. -/
theorem readsIff_loadList {α : Type} (l : List α) (bound : UInt32) (message : Str) (one : Loader)
    (write : α → Bytes) (log : α → List Stored) (c : α → Prop) (hcount : l.length < 2 ^ 32)
    (hone : ∀ e ∈ l, ReadsIff one (write e) (log e) () (c e)) :
    ReadsIff (loadList bound message one) (writeList write l) (l.flatMap log) ()
      (l.length ≤ bound.toNat ∧ ∀ e ∈ l, c e) := by
  have hnat : (UInt32.ofNat l.length).toNat = l.length := by
    rw [UInt32.toNat_ofNat']
    omega
  have hgt : UInt32.ofNat l.length > bound ↔ bound.toNat < l.length := by
    rw [gt_iff_lt, UInt32.lt_iff_toNat_lt, hnat]
  have hstart : ∀ rest, (loadList bound message one).run (writeList write l ++ rest) =
      (if bound.toNat < l.length then fail (.refused message) else one.times l.length : Loader).run
        (l.flatMap write ++ rest) := by
    intro rest
    unfold loadList writeList BinaryWriter.count
    rw [run_bind, List.append_assoc, read_u32, andThen_ok_nil, hnat]
    simp only [hgt]
  constructor
  · rintro ⟨hlen, hall⟩ rest
    rw [hstart, if_neg (by omega)]
    exact (ReadsIff.times l hone).reads hall rest
  · intro hbad rest
    rw [hstart]
    by_cases hlen : l.length ≤ bound.toNat
    · rw [if_neg (by omega)]
      exact (ReadsIff.times l hone).fails (fun hall => hbad ⟨hlen, hall⟩) rest
    · rw [if_pos (by omega)]
      exact ⟨[], _, rfl⟩

/-- A reader followed by its assignment. -/
theorem reads_emit_of {α : Type} {p : LogParser Stored ReadError α} {bs : Bytes} {a : α} (f : α → Stored)
    (h : ∀ rest, p.run (bs ++ rest) = ([], .ok (a, rest))) :
    Reads (do let x ← p; emit (f x)) bs [f a] () := by
  intro rest
  rw [run_bind, h, andThen_ok_nil, run_emit]

theorem readsIff_loadGroup {g : TenantGroup} (hquota : g.quota.Storable) (hname : g.name.length < 2 ^ 64) :
    ReadsIff loadGroup (writeGroup g) [.group g] () (Str.Storable g.name) := by
  constructor
  · intro h
    exact reads_emit_of .group (readGroup_writeGroup ⟨h, hquota⟩)
  · intro h rest
    have hlong : BinaryReader.maxString < g.name.length := not_le.mp h
    unfold loadGroup readGroup writeGroup
    simp only [List.append_assoc, run_bind, andThen_ok_nil, read_id, read_u8, read_optionalId,
      read_long_string _ hlong hname, andThen_error]
    exact ⟨[], _, rfl⟩

theorem reads_loadTenantQuota {q : ResourceQuota} (hq : q.Storable) :
    Reads loadTenantQuota (writeQuota q) [.tenantQuota q] () :=
  reads_emit_of .tenantQuota (readQuota_writeQuota hq)

theorem reads_loadAllocation {a : Allocation} (ha : a.Storable) :
    Reads loadAllocation (writeAllocation a) [.allocation a] () :=
  reads_emit_of .allocation (readAllocation_writeAllocation ha)

theorem reads_loadBorrow {b : BorrowRecord} (hb : b.Storable) :
    Reads loadBorrow (writeBorrow b) [.borrow b] () :=
  reads_emit_of .borrow (readBorrow_writeBorrow hb)

theorem reads_loadLending {l : LendingRecord} (hl : l.Storable) :
    Reads loadLending (writeLending l) [.lending l] () :=
  reads_emit_of .lending (readLending_writeLending hl)

theorem reads_loadGroupQuota (g : TenantGroupId) {q : ResourceQuota} (hq : q.Storable) :
    Reads loadGroupQuota (BinaryWriter.id g ++ writeQuota q) [.groupQuota g q] () := by
  intro rest
  unfold loadGroupQuota
  rw [run_bind, List.append_assoc, read_id, andThen_ok_nil, run_bind, readQuota_writeQuota hq,
    andThen_ok_nil, run_emit]

theorem readsIff_loadTenant {t : Tenant} (hclass : Str.Storable t.serviceClass)
    (hname : t.name.length < 2 ^ 64) :
    ReadsIff loadTenant (writeTenant t) [.tenant t] () (Str.Storable t.name) := by
  constructor
  · intro h
    exact reads_emit_of .tenant (readTenant_writeTenant ⟨h, hclass⟩)
  · intro h rest
    have hlong : BinaryReader.maxString < t.name.length := not_le.mp h
    unfold loadTenant readTenant writeTenant
    simp only [List.append_assoc, run_bind, andThen_ok_nil, read_id, read_optionalId,
      read_long_string _ hlong hname, andThen_error]
    exact ⟨[], _, rfl⟩

namespace Engine

theorem toUInt32_toUInt16 {n : UInt32} (h : n.toNat < 2 ^ 16) : n.toUInt16.toUInt32 = n := by
  apply UInt32.toNat.inj
  rw [UInt16.toNat_toUInt32, UInt32.toNat_toUInt16]
  omega

/-- The records of a saved state. -/
def recordBytes (s : Engine) : Bytes :=
  writeList (fun e => writeGroup e.2) (sortedById s.groups) ++
  (writeList (fun e => writeTenant e.2) (sortedById s.tenants) ++
  (writeList (fun e => writeQuota e.2) (sortedById s.localQuota) ++
  (writeList (fun e => BinaryWriter.id e.1 ++ writeQuota e.2) (sortedById s.groupQuota) ++
  (writeList (fun e => writeReservation e.2 ++ writeFunding (s.funding.lookup e.2.id))
    (sortedById s.reservations) ++
  (writeList (fun e => writeAllocation e.2) (sortedById s.allocations) ++
  (writeList (fun e => writeBorrow e.2) (sortedById s.borrows) ++
  writeList (fun e => writeLending e.2) (sortedById s.lends)))))))

/-- The names of groups and tenants are within the reader's bound. -/
structure NamesFit (s : Engine) : Prop where
  groups : ∀ g gr, s.groups.lookup g = some gr → Str.Storable gr.name
  tenants : ∀ t tn, s.tenants.lookup t = some tn → Str.Storable tn.name

section Reading

variable {keyed : Prop} {cap : Nat} {settings : EngineSettings} {s : Engine}
  (h : Encodable keyed cap s) (hsizes : SizesFit s)

include h

/-- The funding of a reservation is read unless it lists more loans than the loader allows. -/
theorem readsIff_loadReservation {rid : ReservationId} {r : Reservation}
    (hr : s.reservations.lookup rid = some r) (hborrows : s.borrows.entries.length < 2 ^ 32)
    (hcap : cap ≤ settings.maxBorrows.toNat) :
    ReadsIff (loadReservation settings.maxBorrows)
      (writeReservation r ++ writeFunding (s.funding.lookup r.id)) (s.reservationWrites r) ()
      (∀ f, s.funding.lookup r.id = some f → f.borrows.length ≤ settings.maxBorrows.toNat) := by
  have hmax := settings.maxBorrows.toNat_lt
  constructor
  · intro hlen rest
    have hread := readFunding_writeFunding (ω := Stored) (f := s.funding.lookup r.id)
      (fun f hf => (h.funding r.id f hf).2.1) hlen rest
    unfold loadReservation reservationWrites
    rw [run_bind, List.append_assoc, readReservation_writeReservation (h.reservations rid r hr).2,
      andThen_ok_nil, run_bind, hread, andThen_ok_nil]
    cases s.funding.lookup r.id <;> rfl
  · intro hlong rest
    simp only [not_forall] at hlong
    obtain ⟨f, hf, hlong⟩ := hlong
    obtain ⟨-, hburst, hbound⟩ := h.funding r.id f hf
    have hnat : (UInt32.ofNat f.borrows.length).toNat = f.borrows.length := by
      rw [UInt32.toNat_ofNat']
      omega
    have hgt : UInt32.ofNat f.borrows.length > settings.maxBorrows := by
      rw [gt_iff_lt, UInt32.lt_iff_toNat_lt, hnat]
      omega
    unfold loadReservation readFunding
    rw [run_bind, List.append_assoc, readReservation_writeReservation (h.reservations rid r hr).2, hf]
    unfold writeFunding BinaryWriter.count
    simp only [List.append_assoc, run_bind, andThen_ok_nil, read_flag, if_true, read_vector _ hburst,
      read_u32, hgt]
    exact ⟨[], _, rfl⟩

include hsizes

/-- **The record lists are read exactly where they are within the loader's bounds.** -/
theorem endsIff_loadRecords (hcap : cap ≤ settings.maxBorrows.toNat) :
    EndsIff (loadRecords settings) s.recordBytes s.recordWrites
      (WithinBounds settings s ∧ NamesFit s) := by
  have hgroups := readsIff_loadList (sortedById s.groups) settings.maxGroups
    (text "group count exceeds bound") loadGroup (fun e => writeGroup e.2) (fun e => [.group e.2])
    (fun e => Str.Storable e.2.name) (by rw [length_sortedById]; exact hsizes.groups) fun e he => by
      have hl := mem_sortedById.mp he
      exact readsIff_loadGroup (h.groups e.1 e.2 hl).2 (hsizes.groupNames e.1 e.2 hl)
  have htenants := readsIff_loadList (sortedById s.tenants) settings.maxTenants
    (text "tenant count exceeds bound") loadTenant (fun e => writeTenant e.2) (fun e => [.tenant e.2])
    (fun e => Str.Storable e.2.name) (by rw [length_sortedById]; exact hsizes.tenants) fun e he => by
      have hl := mem_sortedById.mp he
      exact readsIff_loadTenant (h.tenants e.1 e.2 hl).2 (hsizes.tenantNames e.1 e.2 hl)
  have hlocal := readsIff_loadList (sortedById s.localQuota) settings.maxTenants
    (text "tenant quota count exceeds bound") loadTenantQuota (fun e => writeQuota e.2)
    (fun e => [.tenantQuota e.2]) (fun _ => True)
    (by rw [length_sortedById]; exact hsizes.localQuota) fun e he => by
      exact (reads_loadTenantQuota (h.localQuota e.1 e.2 (mem_sortedById.mp he)).2).readsIff
  have hgroupQuota := readsIff_loadList (sortedById s.groupQuota) settings.maxGroups
    (text "group quota count exceeds bound") loadGroupQuota
    (fun e => BinaryWriter.id e.1 ++ writeQuota e.2) (fun e => [.groupQuota e.1 e.2]) (fun _ => True)
    (by rw [length_sortedById]; exact hsizes.groupQuota) fun e he => by
      exact (reads_loadGroupQuota e.1 (h.groupQuota e.1 e.2 (mem_sortedById.mp he))).readsIff
  have hreservations := readsIff_loadList (sortedById s.reservations) settings.maxReservations
    (text "reservation count exceeds bound") (loadReservation settings.maxBorrows)
    (fun e => writeReservation e.2 ++ writeFunding (s.funding.lookup e.2.id))
    (fun e => s.reservationWrites e.2)
    (fun e => ∀ f, s.funding.lookup e.2.id = some f → f.borrows.length ≤ settings.maxBorrows.toNat)
    (by rw [length_sortedById]; exact hsizes.reservations) fun e he => by
      exact readsIff_loadReservation h (mem_sortedById.mp he) hsizes.borrows hcap
  have hallocations := readsIff_loadList (sortedById s.allocations) settings.maxReservations
    (text "allocation count exceeds bound") loadAllocation (fun e => writeAllocation e.2)
    (fun e => [.allocation e.2]) (fun _ => True)
    (by rw [length_sortedById]; exact hsizes.allocations) fun e he => by
      exact (reads_loadAllocation (h.allocations e.1 e.2 (mem_sortedById.mp he)).2).readsIff
  have hborrows := readsIff_loadList (sortedById s.borrows) settings.maxBorrows
    (text "borrow count exceeds bound") loadBorrow (fun e => writeBorrow e.2) (fun e => [.borrow e.2])
    (fun _ => True) (by rw [length_sortedById]; exact hsizes.borrows) fun e he => by
      exact (reads_loadBorrow (h.borrows e.1 e.2 (mem_sortedById.mp he)).2).readsIff
  have hlends := readsIff_loadList (sortedById s.lends) settings.maxBorrows
    (text "lending count exceeds bound") loadLending (fun e => writeLending e.2)
    (fun e => [.lending e.2]) (fun _ => True) (by rw [length_sortedById]; exact hsizes.lends) fun e he => by
      exact (reads_loadLending (h.lends e.1 e.2 (mem_sortedById.mp he)).2).readsIff
  have hend : EndsIff requireEnd [] [] True := ⟨fun _ => rfl, fun hc => absurd trivial hc⟩
  have hall := hgroups.endsIff (htenants.endsIff (hlocal.endsIff (hgroupQuota.endsIff
    (hreservations.endsIff (hallocations.endsIff (hborrows.endsIff (hlends.endsIff hend)))))))
  simp only [length_sortedById, List.append_nil] at hall
  unfold loadRecords recordBytes recordWrites
  refine EndsIff.congr hall ⟨?_, ?_⟩
  · rintro ⟨⟨h1, hn1⟩, ⟨h2, hn2⟩, ⟨h3, -⟩, ⟨h4, -⟩, ⟨h5, -⟩, ⟨h6, -⟩, ⟨h7, -⟩, ⟨h8, -⟩, -⟩
    exact ⟨⟨h1, h2, h3, h4, h5, h6, h7, h8⟩, fun g gr hg => hn1 ⟨g, gr⟩ (mem_sortedById.mpr hg),
      fun t tn ht => hn2 ⟨t, tn⟩ (mem_sortedById.mpr ht)⟩
  · rintro ⟨hb, hn⟩
    refine ⟨⟨hb.groups, fun e he => hn.groups e.1 e.2 (mem_sortedById.mp he)⟩,
      ⟨hb.tenants, fun e he => hn.tenants e.1 e.2 (mem_sortedById.mp he)⟩,
      ⟨hb.localQuota, fun _ _ => trivial⟩, ⟨hb.groupQuota, fun _ _ => trivial⟩,
      ⟨hb.reservations, fun e _ f hf => ?_⟩, ⟨hb.allocations, fun _ _ => trivial⟩,
      ⟨hb.borrows, fun _ _ => trivial⟩, ⟨hb.lends, fun _ _ => trivial⟩, trivial⟩
    exact ((h.funding e.2.id f hf).2.2).trans (max_le hcap hb.borrows)

/-- The header after the format version is read unless a policy string is too long. -/
theorem readsIff_loadHeader (hret : s.settings.maxEventRetention.toNat < 2 ^ 16) :
    ∃ tail, s.writeHeader = BinaryWriter.u32 1 ++ tail ∧ ReadsIff loadHeader tail s.headerWrites ()
      (Str.Storable s.policy.name ∧ Str.Storable s.policy.description) := by
  refine ⟨BinaryWriter.u64 s.epoch.value ++ (BinaryWriter.u64 s.quotaGeneration.value ++
    (BinaryWriter.u64 s.policy.generation.value ++ (BinaryWriter.u64 s.sequence ++
    (BinaryWriter.string s.policy.name ++ (BinaryWriter.string s.policy.description ++
    (BinaryWriter.u64 s.policy.createdAt ++ (BinaryWriter.u8 s.policy.overcommit.mode.toByte ++
    (BinaryWriter.u16 s.policy.maxHierarchyDepth.toUInt16 ++
    BinaryWriter.u16 s.settings.maxEventRetention.toUInt16)))))))), ?_, ?_, ?_⟩
  · unfold writeHeader
    simp only [List.append_assoc]
  · rintro ⟨hname, hdescription⟩ rest
    unfold loadHeader
    simp only [List.append_assoc, run_bind, read_u64, run_emit, andThen_ok, read_string _ hname,
      read_string _ hdescription, read_u8, read_u16, OvercommitMode.ofByte_toByte,
      toUInt32_toUInt16 h.depth, toUInt32_toUInt16 hret]
    rfl
  · intro hlong rest
    unfold loadHeader
    by_cases hname : Str.Storable s.policy.name
    · have hdescription : BinaryReader.maxString < s.policy.description.length :=
        not_le.mp fun hd => hlong ⟨hname, hd⟩
      simp only [List.append_assoc, run_bind, read_u64, run_emit, andThen_ok, read_string _ hname,
        read_long_string _ hdescription hsizes.policyDescription, andThen_error]
      exact ⟨_, _, rfl⟩
    · simp only [List.append_assoc, run_bind, read_u64, run_emit, andThen_ok,
        read_long_string _ (not_le.mp hname) hsizes.policyName, andThen_error]
      exact ⟨_, _, rfl⟩

/-- **The loader reads a saved state, to its last byte, exactly where its counts are within the bounds
    and its strings are short enough.** -/
theorem endsIff_loadState (hcap : cap ≤ settings.maxBorrows.toNat)
    (hret : s.settings.maxEventRetention.toNat < 2 ^ 16) :
    EndsIff (loadState settings) s.serializeState s.writes (WithinBounds settings s ∧ StringsFit s) := by
  obtain ⟨tail, htail, hheader⟩ := readsIff_loadHeader h hsizes hret
  have hall := hheader.endsIff (endsIff_loadRecords h hsizes hcap)
  have hbytes : s.serializeState = BinaryWriter.u32 1 ++ (tail ++ s.recordBytes) := by
    unfold serializeState recordBytes
    rw [htail]
    simp only [List.append_assoc]
  have hrun : (loadState settings).run s.serializeState =
      (do loadHeader; loadRecords settings : Loader).run (tail ++ s.recordBytes) := by
    unfold loadState
    rw [hbytes, run_bind, read_u32, andThen_ok_nil, if_neg (by decide)]
  refine EndsIff.congr (c := (Str.Storable s.policy.name ∧ Str.Storable s.policy.description) ∧
    WithinBounds settings s ∧ NamesFit s) ⟨?_, ?_⟩ ⟨?_, ?_⟩
  · intro hc
    rw [hrun]
    exact hall.ends hc
  · intro hc
    rw [hrun]
    exact hall.fails hc
  · rintro ⟨⟨h1, h2⟩, hb, hn⟩
    exact ⟨hb, h1, h2, hn.groups, hn.tenants⟩
  · rintro ⟨hb, hs⟩
    exact ⟨⟨hs.policyName, hs.policyDescription⟩, hb, hs.groups, hs.tenants⟩

end Reading

/-! ## The loaded engine -/

/-- Everything the file holds is the same in both engines. -/
structure Restored (s s' : Engine) : Prop where
  epoch : s'.epoch = s.epoch
  quotaGeneration : s'.quotaGeneration = s.quotaGeneration
  policyGeneration : s'.policy.generation = s.policy.generation
  sequence : s'.sequence = s.sequence
  policyName : s'.policy.name = s.policy.name
  policyDescription : s'.policy.description = s.policy.description
  policyCreatedAt : s'.policy.createdAt = s.policy.createdAt
  overcommitMode : s'.policy.overcommit.mode = s.policy.overcommit.mode
  maxHierarchyDepth : s'.policy.maxHierarchyDepth = s.policy.maxHierarchyDepth
  maxEventRetention : s'.settings.maxEventRetention = s.settings.maxEventRetention
  groups : ∀ g, s'.groups.lookup g = s.groups.lookup g
  tenants : ∀ t, s'.tenants.lookup t = s.tenants.lookup t
  localQuota : ∀ t, s'.localQuota.lookup t = s.localQuota.lookup t
  groupQuota : ∀ g, s'.groupQuota.lookup g = s.groupQuota.lookup g
  reservations : ∀ rid, s'.reservations.lookup rid = s.reservations.lookup rid
  funding : ∀ rid, s'.funding.lookup rid = s.funding.lookup rid
  allocations : ∀ aid, s'.allocations.lookup aid = s.allocations.lookup aid
  borrows : ∀ bid, s'.borrows.lookup bid = s.borrows.lookup bid
  lends : ∀ lid, s'.lends.lookup lid = s.lends.lookup lid

theorem restored_of_held {s s' : Engine} (h : ∀ k, s'.held k = s.held k) : Restored s s' where
  epoch := by simpa [held] using h .epoch
  quotaGeneration := by simpa [held] using h .quotaGeneration
  policyGeneration := by simpa [held] using h .policyGeneration
  sequence := by simpa [held] using h .sequence
  policyName := by simpa [held] using h .policyName
  policyDescription := by simpa [held] using h .policyDescription
  policyCreatedAt := by simpa [held] using h .policyCreatedAt
  overcommitMode := by simpa [held] using h .overcommitMode
  maxHierarchyDepth := by simpa [held] using h .maxHierarchyDepth
  maxEventRetention := by simpa [held] using h .maxEventRetention
  groups g := Option.map_injective (fun _ _ => Stored.group.inj) (h (.group g))
  tenants t := Option.map_injective (fun _ _ => Stored.tenant.inj) (h (.tenant t))
  localQuota t := Option.map_injective (fun _ _ => Stored.tenantQuota.inj) (h (.tenantQuota t))
  groupQuota g := Option.map_injective (fun _ _ e => (Stored.groupQuota.inj e).2) (h (.groupQuota g))
  reservations rid := Option.map_injective (fun _ _ => Stored.reservation.inj) (h (.reservation rid))
  funding rid := Option.map_injective (fun _ _ e => (Stored.funding.inj e).2) (h (.funding rid))
  allocations aid := Option.map_injective (fun _ _ => Stored.allocation.inj) (h (.allocation aid))
  borrows bid := Option.map_injective (fun _ _ => Stored.borrow.inj) (h (.borrow bid))
  lends lid := Option.map_injective (fun _ _ => Stored.lending.inj) (h (.lending lid))

/-- **Engines that hold the same serialise to the same bytes.** -/
theorem serializeState_congr {s s' : Engine} (h : Restored s s') :
    s'.serializeState = s.serializeState := by
  unfold serializeState writeHeader
  rw [sortedById_congr h.groups, sortedById_congr h.tenants, sortedById_congr h.localQuota,
    sortedById_congr h.groupQuota, sortedById_congr h.reservations, sortedById_congr h.allocations,
    sortedById_congr h.borrows, sortedById_congr h.lends, h.epoch, h.quotaGeneration, h.policyGeneration,
    h.sequence, h.policyName, h.policyDescription, h.policyCreatedAt, h.overcommitMode,
    h.maxHierarchyDepth, h.maxEventRetention]
  simp only [h.funding]

/-- What a slot shows belongs into that slot. -/
theorem slot_of_held {s : Engine} {cap : Nat} (h : Encodable True cap s) {k : Slot} {p : Stored} (hp : s.held k = some p) :
    p.slot = k := by
  cases k with
  | group g =>
    obtain ⟨gr, hgr, rfl⟩ := Option.map_eq_some_iff.mp hp
    exact congrArg Slot.group ((h.groups g gr hgr).1 trivial)
  | tenant t =>
    obtain ⟨tn, htn, rfl⟩ := Option.map_eq_some_iff.mp hp
    exact congrArg Slot.tenant ((h.tenants t tn htn).1 trivial)
  | tenantQuota t =>
    obtain ⟨q, hq, rfl⟩ := Option.map_eq_some_iff.mp hp
    exact congrArg Slot.tenantQuota ((h.localQuota t q hq).1 trivial)
  | groupQuota g =>
    obtain ⟨q, hq, rfl⟩ := Option.map_eq_some_iff.mp hp
    rfl
  | funding rid =>
    obtain ⟨f, hf, rfl⟩ := Option.map_eq_some_iff.mp hp
    rfl
  | reservation rid =>
    obtain ⟨r, hr, rfl⟩ := Option.map_eq_some_iff.mp hp
    exact congrArg Slot.reservation ((h.reservations rid r hr).1 trivial)
  | allocation aid =>
    obtain ⟨a, ha, rfl⟩ := Option.map_eq_some_iff.mp hp
    exact congrArg Slot.allocation ((h.allocations aid a ha).1 trivial)
  | borrow bid =>
    obtain ⟨b, hb, rfl⟩ := Option.map_eq_some_iff.mp hp
    exact congrArg Slot.borrow ((h.borrows bid b hb).1 trivial)
  | lending lid =>
    obtain ⟨l, hl, rfl⟩ := Option.map_eq_some_iff.mp hp
    exact congrArg Slot.lending ((h.lends lid l hl).1 trivial)
  | _ =>
    cases hp
    rfl

/-- A slot that is empty in some engine is empty in an engine without records. -/
theorem held_fresh {s : Engine} {k : Slot} (settings : EngineSettings) (h : s.held k = none) :
    ({ settings := settings } : Engine).held k = none := by
  cases k with
  | group | tenant | tenantQuota | groupQuota | funding | reservation | allocation | borrow | lending =>
    rfl
  | _ => cases h

/-- **The assignments of a saved state rebuild it in an engine without records.** -/
theorem held_storeAll_writes {s : Engine} {cap : Nat} (h : Encodable True cap s)
    (settings : EngineSettings) (k : Slot) :
    (({ settings := settings } : Engine).storeAll s.writes).held k = s.held k := by
  rw [held_storeAll]
  cases hk : s.held k with
  | some p =>
    have hslot := slot_of_held h hk
    have hlast : lastWrite Stored.slot s.writes k = some p := by
      apply lastWrite_of_unique ((mem_writes h p).mpr (by rw [hslot]; exact hk)) hslot
      intro q hq hqk
      rw [mem_writes h, hqk, hk] at hq
      exact (Option.some.inj hq).symm
    rw [hlast]
    rfl
  | none =>
    have hlast : lastWrite Stored.slot s.writes k = none := by
      rw [lastWrite_eq_none]
      intro q hq hqk
      rw [mem_writes h, hqk, hk] at hq
      cases hq
    rw [hlast, held_fresh settings hk]
    rfl

/-! ### Resynchronisation -/

/-- The counters of a tenant, debt included, are what the records say. -/
structure Recomputed (env : Env) (s : Engine) (t : TenantId) : Prop extends SyncedAt env s t where
  debt : (s.usageOf t).debt = s.computedDebt env t

theorem recomputed_syncUsage (env : Env) (k : Nat) (s : Engine) (t : TenantId) :
    Recomputed env (s.syncUsage env k t) t :=
  ⟨usageOf_syncUsage_self env k s t, debt_syncUsage_self env k s t⟩

theorem Recomputed.sync {env : Env} {s : Engine} {t x : TenantId} (h : Recomputed env s t) (k : Nat)
    (hx : x ≠ t) : Recomputed env (s.syncUsage env k x) t := by
  have hu := usageOf_syncUsage_ne env k s hx.symm
  refine ⟨h.toSyncedAt.congr rfl rfl rfl rfl rfl hu, ?_⟩
  rw [hu]
  exact h.debt

/-- Once resynchronised, a tenant stays so while others are. -/
theorem recomputed_foldl {env : Env} {t : TenantId} : ∀ (l : List ((Σ _ : TenantId, Tenant) × Nat))
    (s : Engine), ((∃ e ∈ l, e.1.1 = t) ∨ Recomputed env s t) →
    Recomputed env (l.foldl (fun s e => s.syncUsage env e.2 e.1.1) s) t
  | [], s, h => by
    rcases h with ⟨e, he, -⟩ | h
    · exact absurd he List.not_mem_nil
    · exact h
  | e :: l, s, h => by
    rw [List.foldl_cons]
    apply recomputed_foldl l
    by_cases het : e.1.1 = t
    · right
      rw [het]
      exact recomputed_syncUsage env e.2 s t
    · rcases h with ⟨e', he', heq⟩ | h
      · rcases List.mem_cons.mp he' with rfl | he'
        · exact absurd heq het
        · exact Or.inl ⟨e', he', heq⟩
      · exact Or.inr (h.sync e.2 het)

theorem recomputed_syncAll (env : Env) {s : Engine} {t : TenantId} (h : s.tenantExists t = true) :
    Recomputed env (s.syncAll env) t := by
  obtain ⟨tn, htn⟩ := Option.isSome_iff_exists.mp h
  have hmem : (⟨t, tn⟩ : Σ _ : TenantId, Tenant) ∈ env.tenantOrder s.tenants.entries :=
    env.tenantOrder.mem_run.mpr (lookup_eq_some_iff.mp htn)
  obtain ⟨i, hi, heq⟩ := List.mem_iff_getElem.mp hmem
  apply recomputed_foldl
  left
  refine ⟨(⟨t, tn⟩, i), ?_, rfl⟩
  rw [List.mem_zipIdx_iff_getElem?, List.getElem?_eq_getElem hi, heq]

theorem foldl_syncUsage_frame (env : Env) : ∀ (l : List ((Σ _ : TenantId, Tenant) × Nat)) (s : Engine),
    l.foldl (fun s e => s.syncUsage env e.2 e.1.1) s =
      { s with usage := (l.foldl (fun s e => s.syncUsage env e.2 e.1.1) s).usage }
  | [], _ => rfl
  | e :: l, s => by
    rw [List.foldl_cons, foldl_syncUsage_frame env l]
    rfl

/-- Resynchronisation changes counters only. -/
theorem syncAll_frame (env : Env) (s : Engine) : s.syncAll env = { s with usage := (s.syncAll env).usage } :=
  foldl_syncUsage_frame env _ s

theorem held_syncAll (env : Env) (s : Engine) (k : Slot) : (s.syncAll env).held k = s.held k := by
  rw [syncAll_frame]
  cases k <;> rfl

theorem tenantExists_syncAll (env : Env) (s : Engine) (t : TenantId) :
    (s.syncAll env).tenantExists t = s.tenantExists t := by
  rw [syncAll_frame]
  rfl

/-! ### Main lemma -/

/-- **A saved state is loaded by a fresh engine**: every byte is read, every slot restored, every
    tenant recomputed, and the result serialises to the same bytes. -/
theorem load_serializeState {s : Engine} {settings : EngineSettings} (h : Encodable True 0 s)
    (hs : StringsFit s) (hb : WithinBounds settings s) (hret : s.settings.maxEventRetention.toNat < 2 ^ 16)
    (env : Env) :
    (loadState settings).run s.serializeState = (s.writes, .ok ((), [])) ∧
    ∃ s', ({ settings := settings } : Engine).deserializeState env s.serializeState = (.success, s') ∧
      s' = (({ settings := settings } : Engine).storeAll s.writes).syncAll env ∧
      Restored s s' ∧ (∀ t, s'.tenantExists t = true → Recomputed env s' t) := by
  have hrun := (endsIff_loadState h (hb.sizesFit hs) (Nat.zero_le _) hret).ends ⟨hb, hs⟩
  refine ⟨hrun, _, ?_, rfl, ?_, ?_⟩
  · unfold deserializeState
    simp only [hrun]
  · apply restored_of_held
    intro k
    rw [held_syncAll, held_storeAll_writes h]
  · intro t ht
    rw [tenantExists_syncAll] at ht
    exact recomputed_syncAll env ht

end Engine

end QuotaFabric
