import QuotaFabric.Persistence.RoundTrip

/-!
# The serialised state is canonical

`serialize_state` copies eight hash maps in iteration order and sorts each copy with `std::sort` by a
comparison of 128-bit ids.  `serializeState` sorts in a way of its own; here neither the iteration
orders nor the sort are fixed.

* `MapOrders` — an iteration order for each map;
* `serializeStateBy` — the source's function for given orders and a given sort.

Principal result: `serialize_canonical` — states with the same persistent fields are written as the
same bytes, whatever the insertion history, the iteration orders and the sort.
-/

set_option autoImplicit false

namespace QuotaFabric

/-- How the loops of `serialize_state` visit the maps. -/
structure MapOrders where
  groups : IterOrder (Σ _ : TenantGroupId, TenantGroup) := default
  tenants : IterOrder (Σ _ : TenantId, Tenant) := default
  localQuota : IterOrder (Σ _ : TenantId, ResourceQuota) := default
  groupQuota : IterOrder (Σ _ : TenantGroupId, ResourceQuota) := default
  reservations : IterOrder (Σ _ : ReservationId, Reservation) := default
  allocations : IterOrder (Σ _ : AllocationId, Allocation) := default
  borrows : IterOrder (Σ _ : BorrowId, BorrowRecord) := default
  lends : IterOrder (Σ _ : LendingId, LendingRecord) := default

namespace Engine

/-- `serialize_state`, with the copies taken in the orders `o` and sorted by `std`. -/
def serializeStateBy (std : StdSort) (o : MapOrders) (s : Engine) : Bytes :=
  s.writeHeader ++
  writeList (fun e => writeGroup e.2) (std.sort byId (o.groups s.groups.entries)) ++
  writeList (fun e => writeTenant e.2) (std.sort byId (o.tenants s.tenants.entries)) ++
  writeList (fun e => writeQuota e.2) (std.sort byId (o.localQuota s.localQuota.entries)) ++
  writeList (fun e => BinaryWriter.id e.1 ++ writeQuota e.2)
    (std.sort byId (o.groupQuota s.groupQuota.entries)) ++
  writeList (fun e => writeReservation e.2 ++ writeFunding (s.funding.lookup e.2.id))
    (std.sort byId (o.reservations s.reservations.entries)) ++
  writeList (fun e => writeAllocation e.2) (std.sort byId (o.allocations s.allocations.entries)) ++
  writeList (fun e => writeBorrow e.2) (std.sort byId (o.borrows s.borrows.entries)) ++
  writeList (fun e => writeLending e.2) (std.sort byId (o.lends s.lends.entries))

/-- `serializeState` is the case of insertion sort, each map in the order it is kept in. -/
theorem serializeState_eq_by (s : Engine) : s.serializeState = s.serializeStateBy insertionSort {} := rfl

/-- **The serialised state is canonical.** -/
theorem serialize_canonical {s s' : Engine} (h : Restored s s') (std std' : StdSort) (o o' : MapOrders) :
    s'.serializeStateBy std' o' = s.serializeStateBy std o := by
  unfold serializeStateBy writeHeader
  rw [sorted_copy_eq std std' o.groups o'.groups h.groups,
    sorted_copy_eq std std' o.tenants o'.tenants h.tenants,
    sorted_copy_eq std std' o.localQuota o'.localQuota h.localQuota,
    sorted_copy_eq std std' o.groupQuota o'.groupQuota h.groupQuota,
    sorted_copy_eq std std' o.reservations o'.reservations h.reservations,
    sorted_copy_eq std std' o.allocations o'.allocations h.allocations,
    sorted_copy_eq std std' o.borrows o'.borrows h.borrows, sorted_copy_eq std std' o.lends o'.lends h.lends,
    h.epoch, h.quotaGeneration, h.policyGeneration, h.sequence, h.policyName, h.policyDescription,
    h.policyCreatedAt, h.overcommitMode, h.maxHierarchyDepth, h.maxEventRetention]
  simp only [h.funding]

/-- Two tenants, entered in either order. -/
def twoTenants (first second : TenantId) : Engine :=
  { tenants := ((∅ : UMap TenantId Tenant).insert first { id := first }).insert second { id := second } }

theorem serialize_canonical_reversed :
    (twoTenants ⟨0, 2⟩ ⟨0, 1⟩).serializeStateBy insertionSort
        { tenants := ⟨List.reverse, fun l => l.reverse_perm⟩ } =
      (twoTenants ⟨0, 1⟩ ⟨0, 2⟩).serializeStateBy insertionSort {} := by
  have hne : (⟨0, 1⟩ : TenantId) ≠ ⟨0, 2⟩ := by decide
  have htenants : ∀ t, (twoTenants ⟨0, 2⟩ ⟨0, 1⟩).tenants.lookup t =
      (twoTenants ⟨0, 1⟩ ⟨0, 2⟩).tenants.lookup t := by
    intro t
    exact (AList.perm_lookup (AList.insert_insert_of_ne _ hne)).symm
  have hsame : Restored (twoTenants ⟨0, 1⟩ ⟨0, 2⟩) (twoTenants ⟨0, 2⟩ ⟨0, 1⟩) :=
    ⟨rfl, rfl, rfl, rfl, rfl, rfl, rfl, rfl, rfl, rfl, fun _ => rfl, htenants, fun _ => rfl, fun _ => rfl,
      fun _ => rfl, fun _ => rfl, fun _ => rfl, fun _ => rfl, fun _ => rfl⟩
  exact serialize_canonical hsame _ _ _ _

end Engine

end QuotaFabric
