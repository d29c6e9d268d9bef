import QuotaFabric.Accounting.Drift
import QuotaFabric.Decisions.Tighter
import QuotaFabric.Hierarchy.Chains
import QuotaFabric.Limits.BurstFree
import QuotaFabric.Limits.GuaranteePool
import QuotaFabric.Loans.LentCovered
import QuotaFabric.Persistence.AllOrNothing

/-!
# What a restart allows

A new engine that loads the file of another one has its records, and recomputes the counters from these.
Rolling windows, burst windows and cooldowns are in no record, and neither is what an observation adds to
a counter: all this is forgotten.

* `RecoversSafely` — the loaded engine allows nothing that the saved one denies;
* `loaded_of_saved` — what a successful load of a saved state leaves;
* `Recorded` — everything a decision reads is in the records; `recordedCall` — the calls that keep it so;
* `Recorded.tighter`, `Recorded.recoversSafely` — such a state is recovered safely;
* `recovery_invents_nothing` — so is every state that such calls reach;
* `recovery_forgets_usage` — a state that is not.
-/

set_option autoImplicit false

namespace QuotaFabric

open AList

/-- The clocks read the same; maps may be iterated in another order. -/
structure SameInstant (env env' : Env) : Prop where
  now : env'.now = env.now
  burstAt : env'.burstAt = env.burstAt
  castUndef : env'.castUndef = env.castUndef

namespace Engine

/-- What a new engine allows after it has loaded the file of `s`, `s` allows at the same instant. -/
def RecoversSafely (s : Engine) : Prop :=
  ∀ (loader : EngineSettings) (env₀ : Env) (s' : Engine),
    ({ settings := loader } : Engine).loadFrom env₀ (.bytes s.saveBlob) = some (.success, s') →
    ∀ (env env' : Env) (t : TenantId) (req : ResourceVector), SameInstant env env' →
      (s'.evaluateReservation env' t req).allowed = true → (s.evaluateReservation env t req).allowed = true

/-! ## The loaded engine -/

/-- The same hierarchy, quotas and records, in whatever order. -/
structure SameRows (s s' : Engine) : Prop extends SameEntries s s' where
  reservations : ∀ rid, s'.reservations.lookup rid = s.reservations.lookup rid
  funding : ∀ rid, s'.funding.lookup rid = s.funding.lookup rid
  allocations : ∀ aid, s'.allocations.lookup aid = s.allocations.lookup aid
  borrows : ∀ bid, s'.borrows.lookup bid = s.borrows.lookup bid
  lends : ∀ lid, s'.lends.lookup lid = s.lends.lookup lid

/-- The loaded engine: the rows of the saved one, counters made from them, and no window of any kind. -/
structure Loaded (env : Env) (s s' : Engine) : Prop extends SameRows s s' where
  synced : ∀ t, s'.tenantExists t = true → SyncedAt env s' t
  strangers : ∀ x, s'.tenantExists x = false → s'.usageOf x = {}
  windows : ∀ x d, ((s'.usageOf x).windows d).usage = 0
  closed : ∀ x, (s'.usageOf x).burstActive = false
  cooldown : ∀ x, (s'.usageOf x).cooldownUntil = 0

section Loading

variable {env : Env} {s s' : Engine}

theorem foldl_syncUsage_marks (env : Env) : ∀ (l : List ((Σ _ : TenantId, Tenant) × Nat)) (s : Engine),
    MarksKept s (l.foldl (fun s e => s.syncUsage env e.2 e.1.1) s) ∧
      (l.foldl (fun s e => s.syncUsage env e.2 e.1.1) s).standing = s.standing
  | [], s => ⟨.refl s, rfl⟩
  | e :: l, s => by
    obtain ⟨hmarks, hstanding⟩ := foldl_syncUsage_marks env l (s.syncUsage env e.2 e.1.1)
    exact ⟨((MarksKept.refl s).sync env e.2 e.1.1).trans hmarks, hstanding.trans (standing_syncUsage env s e.2 e.1.1)⟩

theorem usageOf_foldl_syncUsage_ne {x : TenantId} : ∀ (l : List ((Σ _ : TenantId, Tenant) × Nat)) (s : Engine),
    (∀ e ∈ l, x ≠ e.1.1) → (l.foldl (fun s e => s.syncUsage env e.2 e.1.1) s).usageOf x = s.usageOf x
  | [], _, _ => rfl
  | e :: l, s, h => by
    obtain ⟨he, hl⟩ := List.forall_mem_cons.mp h
    rw [List.foldl_cons, usageOf_foldl_syncUsage_ne l _ hl, usageOf_syncUsage_ne env e.2 s he]

/-- Only the tenants are resynchronised. -/
theorem usageOf_syncAll_stranger {x : TenantId} (hx : s.tenantExists x = false) :
    (s.syncAll env).usageOf x = s.usageOf x := by
  refine usageOf_foldl_syncUsage_ne _ s ?_
  rintro e he rfl
  have hmem := env.tenantOrder.mem_run.mp (List.fst_mem_of_mem_zipIdx he)
  unfold tenantExists at hx
  rw [lookup_of_mem_entries hmem] at hx
  cases hx

theorem syncAll_marks (env : Env) (s : Engine) :
    MarksKept s (s.syncAll env) ∧ (s.syncAll env).standing = s.standing := foldl_syncUsage_marks env _ s

/-- The engine that loads the file of a saved state within its bounds. -/
theorem loadFrom_within {loader : EngineSettings} (hs : Sound True 0 s) (hfile : s.saveBlob.length < 2 ^ 63)
    (hbounds : WithinBounds loader s) (hstrings : StringsFit s) (env : Env) :
    ({ settings := loader } : Engine).loadFrom env (.bytes s.saveBlob) =
      some (.success, (({ settings := loader } : Engine).storeAll s.truncated.writes).syncAll env) := by
  have hread := hs.toEncodable.endsIff (Nat.zero_le loader.maxBorrows.toNat) (hbounds.sizesFit hstrings)
  rw [loadFrom_saveBlob hfile]
  unfold deserializeState
  simp only [hread.ends ⟨hbounds, hstrings⟩]

/-- **What is left of a saved state** when a new engine has loaded it. -/
theorem loaded_of_saved (hs : Sound True 0 s) (hsizes : SizesFit s) {loader : EngineSettings}
    (hload : ({ settings := loader } : Engine).loadFrom env (.bytes s.saveBlob) = some (.success, s')) :
    Loaded env s s' := by
  have hfile : s.saveBlob.length < 2 ^ 63 := by
    by_contra hlong
    rw [loadFrom_overlong hlong] at hload
    cases hload
  have hbounds : WithinBounds loader s ∧ StringsFit s := by
    by_contra hno
    obtain ⟨log, e, hfails⟩ := (hs.toEncodable.endsIff (Nat.zero_le loader.maxBorrows.toNat) hsizes).fails hno
    exact not_reloads_of_fails hfails ⟨s', hload⟩
  rw [loadFrom_within hs hfile hbounds.1 hbounds.2] at hload
  obtain rfl : _ = s' := congrArg Prod.snd (Option.some.inj hload)
  have hsame : Restored s.truncated (syncAll env (storeAll { settings := loader } s.truncated.writes)) := by
    apply restored_of_held
    intro k
    rw [held_syncAll, held_storeAll_writes hs.toEncodable.truncated]
  have husage : (storeAll { settings := loader } s.truncated.writes).usage =
      ({ settings := loader } : Engine).usage :=
    (storeAll_frame s.truncated.writes ⟨rfl, rfl, rfl⟩).usage
  have hnew : ∀ x, (storeAll { settings := loader } s.truncated.writes).usageOf x = {} := by
    intro x
    unfold usageOf
    rw [husage]
    rfl
  obtain ⟨hmarks, hstanding⟩ := syncAll_marks env (storeAll { settings := loader } s.truncated.writes)
  refine
    { policyGeneration := hsame.policyGeneration, quotaGeneration := hsame.quotaGeneration
      groups := hsame.groups, tenants := hsame.tenants, localQuota := hsame.localQuota
      groupQuota := hsame.groupQuota, reservations := hsame.reservations, funding := hsame.funding
      allocations := hsame.allocations, borrows := hsame.borrows, lends := hsame.lends
      synced := fun t ht => ?_, strangers := fun x hx => ?_, windows := fun x d => ?_
      closed := fun x => ?_, cooldown := fun x => ?_ }
  · rw [tenantExists_syncAll] at ht
    exact (recomputed_syncAll env ht).toSyncedAt
  · rw [tenantExists_syncAll] at hx
    rw [usageOf_syncAll_stranger hx, hnew]
  · have hwindows := congrFun (congrFun (congrArg Standing.windows hstanding) x) d
    refine (congrArg RollingWindow.usage hwindows).trans ?_
    show ((usageOf _ x).windows d).usage = 0
    rw [hnew]
    rfl
  · exact hmarks.closed x (by rw [hnew])
  · rw [hmarks.cooldown x, hnew]

end Loading

/-! ## Rows and sums -/

section Rows

variable {s s' : Engine}

theorem SameRows.recordsKept (h : SameRows s s') (x : TenantId) : RecordsKept s x s' where
  reservations rid r _ := by rw [h.reservations]
  funding rid _ _ _ := h.funding rid
  allocations aid a _ := by rw [h.allocations]

theorem SameRows.reservedSum (h : SameRows s s') (x : TenantId) (d : ResourceDimension) :
    s'.reservedSum x d = s.reservedSum x d := total_of_lookup h.reservations _

theorem SameRows.borrowedSum (h : SameRows s s') (x : TenantId) (d : ResourceDimension) :
    s'.borrowedSum x d = s.borrowedSum x d := total_of_lookup h.borrows _

theorem SameRows.lentSum (h : SameRows s s') (x : TenantId) (d : ResourceDimension) :
    s'.lentSum x d = s.lentSum x d := total_of_lookup h.lends _

theorem SameRows.totalBelow (h : SameRows s s') (g : TenantGroupId) (f : TenantId → Int) :
    s'.totalBelow g f = s.totalBelow g f := by
  unfold Engine.totalBelow
  simp only [h.hasAncestor]
  exact total_of_lookup h.tenants _

theorem SameRows.tenantExists (h : SameRows s s') (t : TenantId) : s'.tenantExists t = s.tenantExists t := by
  unfold Engine.tenantExists
  rw [h.tenants]

theorem SameRows.recordsNonNeg (h : SameRows s s') (hnn : RecordsNonNeg s) : RecordsNonNeg s' where
  reservations rid r hr := hnn.reservations rid r ((h.reservations rid).symm.trans hr)
  allocations aid a ha := hnn.allocations aid a ((h.allocations aid).symm.trans ha)

/-- Only tenants that exist count below a group. -/
theorem totalBelow_congr {g : TenantGroupId} {f f' : TenantId → Int}
    (h : ∀ x, s.tenantExists x = true → f x = f' x) : s.totalBelow g f = s.totalBelow g f' := by
  unfold Engine.totalBelow
  refine total_congr fun x tn hx => ?_
  have hex : s.tenantExists x = true := by
    unfold Engine.tenantExists
    rw [hx]
    rfl
  rw [h x hex]

end Rows

/-! ## States whose records say everything -/

/-- Only tenants that exist have a quota of their own. -/
def QuotasOwned (s : Engine) : Prop := ∀ t, s.tenantExists t = false → s.localQuota.lookup t = none

/-- Everything a decision reads is in the records. -/
structure Recorded (s : Engine) : Prop where
  sound : Sound True 0 s
  sizes : SizesFit s
  consistent : Consistent s
  loans : LoansCovered s
  owned : QuotasOwned s
  fits : AmountsFit s
  balanced : ∀ x d, s.drift x d = 0
  burstFree : BurstFree s
  lent : ∀ x, LentCovered s x

section Recorded

variable {env env' env₀ : Env} {s s' : Engine} {t : TenantId} {d : ResourceDimension}

theorem Recorded.nonNeg (hs : Recorded s) : RecordsNonNeg s := hs.sound.toEncodable.recordsNonNeg

theorem get_committed (h : ∀ d, (s.usageOf t).consumption.get d + (s.usageOf t).reserved.get d ≤ INT64_MAX)
    (d : ResourceDimension) :
    (s.committed t).get d = (s.usageOf t).consumption.get d + (s.usageOf t).reserved.get d := by
  unfold committed
  rw [ResourceVector.accum_of_fits h]
  exact SparseVec.get_add _ _ d

/-- A quota of its own, or of a group above it, is what entitles a tenant. -/
theorem QuotasOwned.stranger (h : QuotasOwned s) (ht : s.tenantExists t = false) :
    hasEntitlement (s.effectiveLattice t) = false := by
  have hnone : s.tenants.lookup t = none := by
    unfold tenantExists at ht
    simpa using ht
  have hchain : s.quotaChain t = [] := by
    unfold quotaChain ancestorGroups
    rw [hnone, h t ht]
    rfl
  unfold effectiveLattice
  rw [hchain]
  rfl

/-- Capacity that decisions of the saved engine start from. -/
theorem Recorded.committed (hs : Recorded s) (t : TenantId) (hd : isConsumable d = false) :
    (s.committed t).get d = s.recordedCommitted t d := by
  have hdrift := hs.balanced t d
  unfold drift countedUse recordedUse at hdrift
  rw [hd] at hdrift
  rw [get_committed (hs.fits.counted_le t)]
  simp only [Bool.false_eq_true, if_false] at hdrift
  omega

theorem Loaded.totalsFit (h : Loaded env₀ s s') (hs : Recorded s) (x : TenantId) : TotalsFit s' x := by
  have hfit := hs.fits.totalsFit hs.nonNeg x
  refine ⟨fun d => ?_, fun d => ?_, fun d => ?_, fun d => ?_⟩
  · rw [(h.recordsKept x).usedSum]; exact hfit.used d
  · rw [h.reservedSum]; exact hfit.reserved d
  · rw [h.borrowedSum]; exact hfit.borrowed d
  · rw [h.lentSum]; exact hfit.lent d

/-- The loaded engine starts from what the records say. -/
theorem Loaded.counted (h : Loaded env₀ s s') (hs : Recorded s) (ht : s.tenantExists t = true)
    (d : ResourceDimension) :
    (s'.usageOf t).consumption.get d + (s'.usageOf t).reserved.get d = s.recordedCommitted t d := by
  have ht' : s'.tenantExists t = true := (h.tenantExists t).trans ht
  rw [(h.synced t ht').recorded (h.recordsNonNeg hs.nonNeg) (h.totalsFit hs t) d,
    (h.recordsKept t).recordedCommitted]

theorem Loaded.committed (h : Loaded env₀ s s') (hs : Recorded s) (ht : s.tenantExists t = true)
    (d : ResourceDimension) : (s'.committed t).get d = s.recordedCommitted t d := by
  rw [get_committed, h.counted hs ht]
  intro e
  rw [h.counted hs ht]
  exact hs.fits.recordedCommitted_le t e

/-! ### Every check -/

theorem AmountsFit.below_le (h : AmountsFit s) {g : TenantGroupId} (hg : g ∈ s.ancestorGroups t)
    (d : ResourceDimension) : (s.totalBelow g fun x => s.recordedCommitted x d) ≤ INT64_MAX := by
  cases ht : s.tenants.lookup t with
  | none =>
    unfold ancestorGroups at hg
    rw [ht] at hg
    exact absurd hg List.not_mem_nil
  | some tn => exact h.below t tn ht g hg d

theorem Recorded.counters (hs : Recorded s) (x : TenantId) :
    (s.usageOf x).consumption.NonNeg ∧ (s.usageOf x).reserved.NonNeg :=
  ⟨(hs.sound.counters x).1.nonNeg, (hs.sound.counters x).2.nonNeg⟩

theorem Recorded.committed_nonneg (hs : Recorded s) (x : TenantId) (d : ResourceDimension) :
    0 ≤ (s.committed x).get d := ResourceVector.accum_nonNeg (hs.counters x).1 (hs.counters x).2 d

theorem Loaded.counters (h : Loaded env₀ s s') (hs : Recorded s) (x : TenantId) :
    (s'.usageOf x).consumption.NonNeg ∧ (s'.usageOf x).reserved.NonNeg := by
  have hnn := h.recordsNonNeg hs.nonNeg
  cases hx : s'.tenantExists x with
  | true =>
    have hsync := h.synced x hx
    rw [hsync.consumption, hsync.reserved]
    exact ⟨computedConsumed_nonNeg hnn x, recomputedReserved_nonNeg hnn x⟩
  | false =>
    rw [h.strangers x hx]
    exact ⟨fun _ => le_refl 0, fun _ => le_refl 0⟩

/-- The loaded engine counts at least as much below a group. -/
theorem Loaded.subtree_le (h : Loaded env₀ s s') (hs : Recorded s) {g : TenantGroupId}
    (hg : g ∈ s.ancestorGroups t) (hd : isConsumable d = false) :
    (s.subtreeCommitted env g).get d ≤ (s'.subtreeCommitted env' g).get d := by
  have hbelow : ∀ e, (s'.totalBelow g fun x => (s'.usageOf x).consumption.get e + (s'.usageOf x).reserved.get e) =
      s.totalBelow g fun x => s.recordedCommitted x e := by
    intro e
    rw [h.totalBelow]
    exact totalBelow_congr fun x hx => h.counted hs hx e
  have hsaved : ∀ x, (s.usageOf x).consumption.get d + (s.usageOf x).reserved.get d = s.recordedCommitted x d :=
    fun x => (get_committed (hs.fits.counted_le x) d).symm.trans (hs.committed x hd)
  have hle : (s.subtreeCommitted env g).get d ≤
      s.totalBelow g fun x => (s.usageOf x).consumption.get d + (s.usageOf x).reserved.get d :=
    subtreeCommitted_le_total hs.counters g d
  simp only [hsaved] at hle
  rw [get_subtreeCommitted_of_fits (h.counters hs) g fun e => by rw [hbelow]; exact hs.fits.below_le hg e, hbelow]
  exact hle

/-- Each tenant takes the same part of its guarantee. -/
theorem Loaded.guaranteedPart (h : Loaded env₀ s s') (hs : Recorded s) (hd : isConsumable d = false)
    (ht : s.tenantExists t = true) : s'.guaranteedPart t d = s.guaranteedPart t d := by
  unfold Engine.guaranteedPart guarantee
  rw [h.committed hs ht, hs.committed t hd, h.effectiveLattice]

theorem Loaded.pool_le (h : Loaded env₀ s s') (hs : Recorded s) {g : TenantGroupId}
    (hg : g ∈ s.ancestorGroups t) (hd : isConsumable d = false) :
    (s.poolUsed env g).get d ≤ (s'.poolUsed env' g).get d := by
  have hbelow : (s'.totalBelow g fun x => s'.guaranteedPart x d) = s.totalBelow g fun x => s.guaranteedPart x d := by
    rw [h.totalBelow]
    exact totalBelow_congr fun x hx => h.guaranteedPart hs hd hx
  have hpart : ∀ x, s.guaranteedPart x d ≤ s.recordedCommitted x d := by
    intro x
    have hnn := hs.committed_nonneg x d
    unfold Engine.guaranteedPart
    rw [hs.committed x hd] at hnn ⊢
    omega
  have hfit : (s'.totalBelow g fun x => s'.guaranteedPart x d) ≤ INT64_MAX := by
    rw [hbelow]
    exact (totalBelow_mono g hpart).trans (hs.fits.below_le hg d)
  rw [get_poolUsed g hfit, hbelow]
  exact poolUsed_le_total g d

theorem Loaded.borrowed_le (h : Loaded env₀ s s') (hs : Recorded s) (ht : s.tenantExists t = true)
    (d : ResourceDimension) :
    (s.usageOf t).borrowedConsumed.get d ≤ (s'.usageOf t).borrowedConsumed.get d := by
  have hsync := h.synced t ((h.tenantExists t).trans ht)
  have hnn : ∀ bid b, s'.borrows.lookup bid = some b → b.consumed.NonNeg := fun bid b hb =>
    hs.loans.paired.borrow_nonNeg ((h.borrows bid).symm.trans hb)
  rw [hsync.borrowed, computedBorrowed_eq hnn (h.totalsFit hs t).borrowed, get_exactBorrowed, h.borrowedSum]
  exact (hs.loans.borrowed t d).2

theorem Loaded.lent_le (h : Loaded env₀ s s') (hs : Recorded s) (ht : s.tenantExists t = true)
    (d : ResourceDimension) : (s.usageOf t).lent.get d ≤ (s'.usageOf t).lent.get d := by
  have hsync := h.synced t ((h.tenantExists t).trans ht)
  have hnn : ∀ lid l, s'.lends.lookup lid = some l → l.outstanding.NonNeg := fun lid l hl =>
    hs.loans.paired.outstanding_nonNeg ((h.lends lid).symm.trans hl)
  rw [hsync.lent, computedLent_eq hnn (h.totalsFit hs t).lent, get_exactLent, h.lentSum]
  exact (hs.lent t d).2

theorem Loaded.burst_nonneg (h : Loaded env₀ s s') (hs : Recorded s) (ht : s.tenantExists t = true)
    (d : ResourceDimension) : 0 ≤ (s'.usageOf t).burst.get d := by
  have hnn : ∀ rid f, s'.funding.lookup rid = some f → f.burst.NonNeg := fun rid f hf =>
    (hs.sound.funding rid f ((h.funding rid).symm.trans hf)).2.1.nonNeg
  exact ((h.synced t ((h.tenantExists t).trans ht)).burst_backed hnn d).1

/-- A lender offers no more. -/
theorem Loaded.availableToLend_le (h : Loaded env₀ s s') (hs : Recorded s) (hd : isConsumable d = false)
    (x : TenantId) : s'.availableToLend x d ≤ s.availableToLend x d := by
  unfold availableToLend
  rw [h.effectiveLattice]
  cases hx : s.tenantExists x with
  | true =>
    have hlent := h.lent_le hs hx d
    rw [h.committed hs hx, hs.committed x hd]
    simp only
    omega
  | false =>
    -- without a quota nothing is offered
    have hnone : (s.effectiveLattice x).borrowable.present d = false := by
      have hent := hs.owned.stranger hx
      unfold hasEntitlement at hent
      simp only [Bool.or_eq_false_iff, bne_eq_false_iff_eq, ResourceVector.presentCount_eq_zero_iff] at hent
      exact ResourceVector.isEmpty_iff.mp hent.2 d
    have hnew := h.strangers x ((h.tenantExists x).trans hx)
    have hzero : (s'.committed x).get d = 0 := by
      unfold Engine.committed
      rw [hnew]
      rfl
    have hlent : (s'.usageOf x).lent.get d = 0 := by rw [hnew]; rfl
    simp only [hnone, hzero, hlent, Bool.false_eq_true, if_false]
    omega

theorem Loaded.borrowAvailable (h : Loaded env₀ s s') (hs : Recorded s) (hd : isConsumable d = false)
    (hok : s'.borrowAvailable env' d = true) : s.borrowAvailable env d = true := by
  unfold Engine.borrowAvailable at *
  obtain ⟨e, he, hoffer⟩ := List.any_eq_true.mp hok
  have hl := lookup_of_mem_entries (env'.lendOrder.mem_run.mp he)
  rw [h.lends] at hl
  refine List.any_eq_true.mpr ⟨e, env.lendOrder.mem_run.mpr (lookup_eq_some_iff.mp hl), ?_⟩
  have hle := h.availableToLend_le hs hd e.2.lender
  simp only [Bool.and_eq_true, decide_eq_true_eq] at hoffer ⊢
  exact ⟨hoffer.1, by omega⟩

/-- Neither engine has a burst window or a cooldown. -/
theorem Loaded.burstOk (h : Loaded env₀ s s') (hs : Recorded s) (hat : env'.burstAt = env.burstAt)
    {eff : ResourceQuota} (hok : s'.burstOk env' d t eff = true) : s.burstOk env d t eff = true := by
  unfold Engine.burstOk at *
  simp only [h.closed, h.cooldown, hat] at hok
  simp only [hs.burstFree.closed, hs.burstFree.cooldown]
  exact hok

/-- **The loaded engine is the tighter one.** -/
theorem Recorded.tighter (hs : Recorded s) (h : Loaded env₀ s s') (hsame : SameInstant env env') :
    Tighter env env' s s' where
  entries := h.toSameEntries
  casts := hsame.castUndef
  strangers _ ht := hs.owned.stranger ht
  use t d ht := by
    unfold currentCommittedScalar
    cases hd : isConsumable d with
    | true =>
      have hdrift := hs.balanced t d
      unfold drift countedUse recordedUse at hdrift
      simp only [hd, if_true] at hdrift ⊢
      rw [h.windows]
      omega
    | false =>
      simp only [Bool.false_eq_true, if_false]
      rw [h.committed hs ht, hs.committed t hd]
  fits t d hd := by
    unfold currentCommittedScalar
    rw [hd, get_committed (hs.fits.counted_le t)]
    exact hs.fits.counted_le t d
  subtree _ _ hg _ hd := h.subtree_le hs hg hd
  pool _ _ hg _ hd := h.pool_le hs hg hd
  borrowed _ d ht := h.borrowed_le hs ht d
  burst t d ht := (hs.burstFree.counter t d).trans_le (h.burst_nonneg hs ht d)
  burstOk _ _ _ := h.burstOk hs hsame.burstAt
  borrowAvailable _ hd := h.borrowAvailable hs hd

/-- **What the records say is recovered safely.** -/
theorem Recorded.recoversSafely (hs : Recorded s) : RecoversSafely s :=
  fun _ _ _ hload _ _ _ _ hsame hok => (hs.tighter (loaded_of_saved hs.sound hs.sizes hload) hsame).allowed hok

end Recorded

/-! ## Runs -/

/-- A call after which everything a decision reads is in the records: an observation or a resize that moves
    no counter without a record, no charge of burst, no loan given back behind its lender's back, and
    amounts and counts that fit. -/
def recordedCall (s : Engine) (c : Env × Call) : Prop :=
  plainCall s c ∧ SizesFit (s.after c) ∧ AmountsFit (s.after c) ∧ ¬ Unbalances s c ∧ ¬ ChargesBurst s c ∧
    ¬ StrandsLoan s c

section Runs

variable {s : Engine} {c : Env × Call}

theorem plainCall.anyCall (hc : plainCall s c) : anyCall s c := by
  obtain ⟨env, c⟩ := c
  obtain ⟨hfresh, -, hrange⟩ := hc
  refine ⟨hfresh, ?_⟩
  cases c with
  | setTenantQuota | setGroupQuota | applyObservation => exact fun d => le_refl 0
  | _ => exact ResourceVector.Valid.nonNeg hrange

theorem lookup_eq_none_of_emplace {K V : Type} [DecidableEq K] {m : UMap K V} {a k : K} {v : V}
    (h : (m.emplace k v).lookup a = none) : m.lookup a = none := by
  unfold emplace at h
  split at h
  · exact h
  · by_cases hak : a = k
    · subst hak
      rw [lookup_insert] at h
      cases h
    · rw [lookup_insert_ne hak] at h
      exact h

/-- No call removes a tenant. -/
theorem tenantExists_of_after {x : TenantId} (hx : (s.after c).tenantExists x = false) :
    s.tenantExists x = false := by
  unfold tenantExists at hx ⊢
  rw [Option.isSome_eq_false_iff, Option.isNone_iff_eq_none] at hx ⊢
  have hnone : (s.exec c.1 c.2).2.hierarchy.2.lookup x = none := hx
  rcases exec_hierarchy c.1 s c.2 with hsame | ⟨-, gr, -, hgroup⟩ | ⟨id, tn, -, htenant⟩
  · rw [hsame] at hnone
    exact hnone
  · rw [hgroup] at hnone
    exact hnone
  · rw [htenant] at hnone
    exact lookup_eq_none_of_emplace hnone

theorem after_quotasOwned (h : QuotasOwned s) : QuotasOwned (s.after c) := by
  intro x hx
  have hold := tenantExists_of_after hx
  have hnone := h x hold
  obtain ⟨env, c⟩ := c
  by_cases hset : ∃ t q, c = .setTenantQuota t q
  · obtain ⟨t, q, rfl⟩ := hset
    show (s.setTenantQuota env t q).2.localQuota.lookup x = none
    unfold setTenantQuota
    split
    · exact hnone
    split
    · exact hnone
    · rename_i hex hcoh
      have hne : x ≠ t := by
        rintro rfl
        rw [hold] at hex
        exact hex rfl
      show (s.localQuota.insert t _).lookup x = none
      rw [lookup_insert_ne hne]
      exact hnone
  · have hkept : (s.after (env, c)).localQuota = s.localQuota :=
      exec_localQuota env s fun t q heq => hset ⟨t, q, heq⟩
    rw [hkept]
    exact hnone

theorem sizesFit_start (settings : EngineSettings) : SizesFit { settings := settings } where
  groups := Nat.two_pow_pos _
  tenants := Nat.two_pow_pos _
  localQuota := Nat.two_pow_pos _
  groupQuota := Nat.two_pow_pos _
  reservations := Nat.two_pow_pos _
  allocations := Nat.two_pow_pos _
  borrows := Nat.two_pow_pos _
  lends := Nat.two_pow_pos _
  policyName := Nat.two_pow_pos _
  policyDescription := Nat.two_pow_pos _
  groupNames _ _ h := by cases h
  tenantNames _ _ h := by cases h

theorem amountsFit_start (settings : EngineSettings) : AmountsFit { settings := settings } where
  used _ _ h := by cases h
  reserved _ _ h := by cases h
  borrowed _ _ h := by cases h
  lent _ _ h := by cases h
  counted _ _ h := by cases h
  below _ _ h := by cases h

theorem recorded_start (settings : EngineSettings) : Recorded { settings := settings } where
  sound := fresh_sound True 0 settings
  sizes := sizesFit_start settings
  consistent := consistent_start settings
  loans := loansCovered_start settings
  owned _ _ := rfl
  fits := amountsFit_start settings
  balanced x d := by
    unfold drift countedUse recordedUse
    split <;> rfl
  burstFree := burstFree_start settings
  lent _ _ := ⟨le_refl 0, le_refl 0⟩

theorem after_recorded (hc : recordedCall s c) (h : Recorded s) : Recorded (s.after c) := by
  obtain ⟨hplain, hsizes, hfits, hbalanced, hburst, hstrands⟩ := hc
  have hany := hplain.anyCall
  have hstep : CallStep c.1 s c.2 (s.after c) := exec_callStep hany.1.toFreshLoans hany.2
  have hsound := exec_sound h.sound hplain
  exact
    { sound := hsound, sizes := hsizes, consistent := after_consistent hany h.consistent
      loans := hstep.loansCovered hany.1.toFreshLoans hany.2 h.consistent.listed h.loans
      owned := after_quotasOwned h.owned, fits := hfits
      balanced := after_drift hany hbalanced h.consistent hsound.toEncodable.recordsNonNeg hfits h.balanced
      burstFree := after_burstFree hany hburst h.burstFree
      lent := exec_lentCovered hany hstrands h.consistent h.lent }

/-- **Recovery invents nothing** in any run whose calls leave everything in the records. -/
theorem recovery_invents_nothing {settings : EngineSettings} {l : List (Env × Call)} {s : Engine}
    (hrun : Run Engine.after recordedCall { settings := settings } l s) : RecoversSafely s :=
  (hrun.invariant (recorded_start settings) fun _ _ h hc => after_recorded hc h).recoversSafely

end Runs

/-- A call that needs no loan strands none. -/
theorem not_strandsLoan_of_no_need {s : Engine} {env : Env} {t : TenantId} {req : ResourceVector} {auth : Authority}
    (h : ∀ d, borrowNeed (s.effectiveLattice t) (s.committed t) req d ≤ 0) :
    ¬ StrandsLoan s (env, .reserve t req auth) := by
  rintro ⟨-, st, ⟨pre, d, post, -, -, hneed, -⟩, -⟩
  exact absurd hneed (not_lt.mpr (h d))

/-- A tenant with soft and hard limit 10 on `d`, before `c`. -/
def limitedTenant (d : ResourceDimension) (c : Call) : List (Env × Call) :=
  [(.numbered 1, .createTenant cappedTenant (text "capped") none 100),
    (.numbered 2, .setTenantQuota cappedTenant { softLimit := .fromScalar d 10, hardLimit := .fromScalar d 10 }),
    (.numbered 3, c)]

/-- It reserves 4. -/
def reservedVRAM : List (Env × Call) :=
  limitedTenant .acceleratorVRAM
    (.reserve cappedTenant (.fromScalar .acceleratorVRAM 4) { epoch := .initial, quotaGeneration := ⟨2⟩ })

theorem recovery_invents_nothing_reserved :
    (reservedVRAM.foldl Engine.after {}).reservations.entries.length = 1 ∧
      RecoversSafely (reservedVRAM.foldl Engine.after {}) := by
  have hfit : ∀ n : Fin 4, ((reservedVRAM.take n).foldl Engine.after {}).SizesFit ∧
      ((reservedVRAM.take n).foldl Engine.after {}).AmountsFit := by decide +kernel
  have hfresh : ∀ n : Fin 3, ∀ c ∈ reservedVRAM[n]?, FreshIds c.1 ((reservedVRAM.take n).foldl Engine.after {}) ∧
      ¬ ChargesBurst ((reservedVRAM.take n).foldl Engine.after {}) c := by decide +kernel
  have hneed : ∀ d, borrowNeed (((reservedVRAM.take 2).foldl Engine.after {}).effectiveLattice cappedTenant)
      (((reservedVRAM.take 2).foldl Engine.after {}).committed cappedTenant) (.fromScalar .acceleratorVRAM 4) d ≤
        0 := by
    decide +kernel
  have hbalanced : ∀ (s : Engine) (c : Env × Call), c.2.writesAlone = false → ¬ Unbalances s c :=
    fun s c hc h => Bool.false_ne_true (hc.symm.trans h.1)
  have hrun : Run Engine.after recordedCall {} reservedVRAM (reservedVRAM.foldl Engine.after {}) :=
    .cons ⟨⟨(hfresh 0 _ rfl).1, numbered_inRange 1, by show ResourceVector.Valid _; decide⟩, (hfit 1).1, (hfit 1).2,
        hbalanced _ _ rfl, id, id⟩
      (.cons ⟨⟨(hfresh 1 _ rfl).1, numbered_inRange 2, by show ResourceQuota.Storable _; decide⟩, (hfit 2).1,
          (hfit 2).2, hbalanced _ _ rfl, id, id⟩
        (.cons ⟨⟨(hfresh 2 _ rfl).1, numbered_inRange 3, by show ResourceVector.Valid _; decide⟩, (hfit 3).1,
            (hfit 3).2, hbalanced _ _ rfl, (hfresh 2 _ rfl).2, not_strandsLoan_of_no_need hneed⟩ (.nil _)))
  exact ⟨by decide +kernel, recovery_invents_nothing hrun⟩

/-- All 10 are reported as transferred. -/
def usedTransfer : List (Env × Call) :=
  limitedTenant .transferBytes
    (.applyObservation
      { tenant := cappedTenant, dimension := .transferBytes, amount := 10, kind := .transferConsumed, at_ := 1 })

/-- **A restart gives a budget back**: with all 10 used 5 more are denied, and allowed after a reload. -/
theorem recovery_forgets_usage :
    Run Engine.after plainCall {} usedTransfer (usedTransfer.foldl Engine.after {}) ∧
    ¬ RecoversSafely (usedTransfer.foldl Engine.after {}) := by
  have hfresh : ∀ n : Fin 3, ∀ c ∈ usedTransfer[n]?,
      FreshIds c.1 ((usedTransfer.take n).foldl Engine.after {}) := by decide +kernel
  have hrun : Run Engine.after plainCall {} usedTransfer (usedTransfer.foldl Engine.after {}) :=
    .cons ⟨hfresh 0 _ rfl, numbered_inRange 1, by show ResourceVector.Valid _; decide⟩
      (.cons ⟨hfresh 1 _ rfl, numbered_inRange 2, by show ResourceQuota.Storable _; decide⟩
        (.cons ⟨hfresh 2 _ rfl, numbered_inRange 3, trivial⟩ (.nil _)))
  have hbounds : WithinBounds {} (usedTransfer.foldl Engine.after {}) ∧
      StringsFit (usedTransfer.foldl Engine.after {}) := by decide +kernel
  have hdenied : ((usedTransfer.foldl Engine.after {}).evaluateReservation {} cappedTenant
      (.fromScalar .transferBytes 5)).allowed = false := by decide +kernel
  have hallowed : (((({} : Engine).storeAll (usedTransfer.foldl Engine.after {}).truncated.writes).syncAll
      {}).evaluateReservation {} cappedTenant (.fromScalar .transferBytes 5)).allowed = true := by
    decide +kernel
  refine ⟨hrun, fun hsafe => ?_⟩
  have hload := loadFrom_within (run_sound hrun) (by decide +kernel) hbounds.1 hbounds.2 {}
  have hback := hsafe {} {} _ hload {} {} cappedTenant (.fromScalar .transferBytes 5) ⟨rfl, rfl, rfl⟩ hallowed
  rw [hdenied] at hback
  cases hback

end Engine

end QuotaFabric
