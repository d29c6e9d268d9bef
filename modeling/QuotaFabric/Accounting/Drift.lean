import QuotaFabric.Accounting.HiddenCapacity
import QuotaFabric.Engine.Controls
import QuotaFabric.Limits.ParentCeiling
import QuotaFabric.Loans.Recall

/-!
# Counters off the records

A decision starts from counters, and after a restart these are recomputed from the records.  Between two
resynchronisations they stay what the records add up to, except where a call writes one without the
other: an observation feeds a rolling window, which no record holds, or the consumption counter alone,
and a denied resize changes the recorded use alone.

* `countedUse`, `recordedUse` — what decisions start from, and what the records say of it;
* `drift` — the difference; `Unbalances` — the observations and resizes that change it;
* `AmountsFit` — what the records and the counters of each tenant add up to fits into 64 bits;
* `CallStep.synced_or_leftAlone` — every other call resynchronises a tenant or leaves it alone;
* `after_drift` — so calls that unbalance nothing leave no drift.
-/

set_option autoImplicit false

namespace QuotaFabric

open AList

/-- The calls that may write a counter or a record without the other. -/
def Call.writesAlone : Call → Bool
  | .applyObservation _ => true
  | .resizeAllocation .. => true
  | _ => false

namespace Engine

/-! ## Counters and records -/

/-- What the records of `x` commit on `d`: the use of its running allocations and what is left of its
    reservations. -/
def recordedCommitted (s : Engine) (x : TenantId) (d : ResourceDimension) : Int :=
  s.usedSum x d + (s.exactRemainder x).get d

/-- The amount on `d` that a decision on `x` starts from. -/
def countedUse (s : Engine) (x : TenantId) (d : ResourceDimension) : Int :=
  if isConsumable d then ((s.usageOf x).windows d).usage
  else (s.usageOf x).consumption.get d + (s.usageOf x).reserved.get d

/-- What the records say of it: nothing of a rolling budget. -/
def recordedUse (s : Engine) (x : TenantId) (d : ResourceDimension) : Int :=
  if isConsumable d then 0 else s.recordedCommitted x d

def drift (s : Engine) (x : TenantId) (d : ResourceDimension) : Int := s.countedUse x d - s.recordedUse x d

/-- An observation or a resize that moves counters and records apart. -/
def Unbalances (s : Engine) (c : Env × Call) : Prop :=
  c.2.writesAlone = true ∧ ∃ x d, (s.after c).drift x d ≠ s.drift x d

/-- What the records of each tenant add up to fits into 64 bits, below each group as well, and so do the
    counters of consumption and reservations together. -/
structure AmountsFit (s : Engine) : Prop where
  used : ∀ aid a, s.allocations.lookup aid = some a → ∀ d, s.recordedCommitted a.tenant d ≤ INT64_MAX
  reserved : ∀ rid r, s.reservations.lookup rid = some r → ∀ d,
    s.reservedSum r.tenant d ≤ INT64_MAX ∧ s.recordedCommitted r.tenant d ≤ INT64_MAX
  borrowed : ∀ bid b, s.borrows.lookup bid = some b → ∀ d, s.borrowedSum b.borrower d ≤ INT64_MAX
  lent : ∀ lid l, s.lends.lookup lid = some l → ∀ d, s.lentSum l.lender d ≤ INT64_MAX
  counted : ∀ x u, s.usage.lookup x = some u → ∀ d, u.consumption.get d + u.reserved.get d ≤ INT64_MAX
  below : ∀ t tn, s.tenants.lookup t = some tn → ∀ g ∈ s.ancestorGroups t, ∀ d,
    (s.totalBelow g fun x => s.recordedCommitted x d) ≤ INT64_MAX

instance (s : Engine) : Decidable s.AmountsFit :=
  decidable_of_iff
    ((∀ aid a, s.allocations.lookup aid = some a → ∀ d, s.recordedCommitted a.tenant d ≤ INT64_MAX) ∧
      (∀ rid r, s.reservations.lookup rid = some r → ∀ d,
        s.reservedSum r.tenant d ≤ INT64_MAX ∧ s.recordedCommitted r.tenant d ≤ INT64_MAX) ∧
      (∀ bid b, s.borrows.lookup bid = some b → ∀ d, s.borrowedSum b.borrower d ≤ INT64_MAX) ∧
      (∀ lid l, s.lends.lookup lid = some l → ∀ d, s.lentSum l.lender d ≤ INT64_MAX) ∧
      (∀ x u, s.usage.lookup x = some u → ∀ d, u.consumption.get d + u.reserved.get d ≤ INT64_MAX) ∧
      ∀ t tn, s.tenants.lookup t = some tn → ∀ g ∈ s.ancestorGroups t, ∀ d,
        (s.totalBelow g fun x => s.recordedCommitted x d) ≤ INT64_MAX)
    ⟨fun ⟨h1, h2, h3, h4, h5, h6⟩ => ⟨h1, h2, h3, h4, h5, h6⟩,
      fun h => ⟨h.used, h.reserved, h.borrowed, h.lent, h.counted, h.below⟩⟩

section Fits

variable {s : Engine}

/-- A sum over the records of a tenant that has none is zero. -/
theorem total_guard_le {K V : Type} [DecidableEq K] {m : UMap K V} {p : K → V → Bool} {f : K → V → Int}
    {n : Int} (hn : 0 ≤ n)
    (h : ∀ a b, m.lookup a = some b → p a b = true → (total m fun k v => if p k v then f k v else 0) ≤ n) :
    (total m fun k v => if p k v then f k v else 0) ≤ n := by
  by_cases hex : ∃ a b, m.lookup a = some b ∧ p a b = true
  · obtain ⟨a, b, hab, hp⟩ := hex
    exact h a b hab hp
  · rw [total_eq_zero fun a b hab => if_neg fun hp => hex ⟨a, b, hab, hp⟩]
    exact hn

theorem get_exactRemainder (s : Engine) (x : TenantId) (d : ResourceDimension) :
    (s.exactRemainder x).get d =
      total s.reservations fun _ r => if r.tenant == x && activeRes r then (s.exactRemaining x r).get d else 0 := by
  unfold exactRemainder
  rw [get_total]
  exact total_congr fun _ _ _ => get_guarded _ _ d

theorem exactRemainder_nonneg (h : RecordsNonNeg s) (x : TenantId) (d : ResourceDimension) :
    0 ≤ (s.exactRemainder x).get d := by
  rw [get_exactRemainder]
  refine total_nonneg fun rid r hr => ?_
  split
  · unfold exactRemaining
    split
    · exact h.reservations rid r hr d
    · exact ResourceVector.subSat_nonNeg _ (h.reservations rid r hr) d
  · exact le_refl 0

theorem AmountsFit.recordedCommitted_le (h : AmountsFit s) (x : TenantId) (d : ResourceDimension) :
    s.recordedCommitted x d ≤ INT64_MAX := by
  by_cases hrun : ∃ aid a, s.allocations.lookup aid = some a ∧ (a.tenant == x && a.active) = true
  · obtain ⟨aid, a, ha, hp⟩ := hrun
    simp only [Bool.and_eq_true, beq_iff_eq] at hp
    exact hp.1 ▸ h.used aid a ha d
  by_cases hres : ∃ rid r, s.reservations.lookup rid = some r ∧ (r.tenant == x && activeRes r) = true
  · obtain ⟨rid, r, hr, hp⟩ := hres
    simp only [Bool.and_eq_true, beq_iff_eq] at hp
    exact hp.1 ▸ (h.reserved rid r hr d).2
  have hused : s.usedSum x d = 0 := total_eq_zero fun aid a ha => if_neg fun hp => hrun ⟨aid, a, ha, hp⟩
  have hrest : (s.exactRemainder x).get d = 0 := by
    rw [get_exactRemainder]
    exact total_eq_zero fun rid r hr => if_neg fun hp => hres ⟨rid, r, hr, hp⟩
  unfold recordedCommitted
  rw [hused, hrest]
  decide

theorem AmountsFit.usedSum_le (h : AmountsFit s) (hnn : RecordsNonNeg s) (x : TenantId) (d : ResourceDimension) :
    s.usedSum x d ≤ INT64_MAX := by
  have hle := h.recordedCommitted_le x d
  have hrest := exactRemainder_nonneg hnn x d
  unfold recordedCommitted at hle
  omega

theorem AmountsFit.totalsFit (h : AmountsFit s) (hnn : RecordsNonNeg s) (x : TenantId) : TotalsFit s x where
  used := h.usedSum_le hnn x
  reserved d := by
    refine total_guard_le (by decide) fun rid r hr hp => ?_
    simp only [Bool.and_eq_true, beq_iff_eq] at hp
    exact hp.1 ▸ (h.reserved rid r hr d).1
  borrowed d := by
    refine total_guard_le (by decide) fun bid b hb hp => ?_
    simp only [Bool.and_eq_true, beq_iff_eq] at hp
    exact hp.1 ▸ h.borrowed bid b hb d
  lent d := by
    refine total_guard_le (by decide) fun lid l hl hp => ?_
    rw [beq_iff_eq] at hp
    exact hp ▸ h.lent lid l hl d

theorem AmountsFit.counted_le (h : AmountsFit s) (x : TenantId) (d : ResourceDimension) :
    (s.usageOf x).consumption.get d + (s.usageOf x).reserved.get d ≤ INT64_MAX := by
  unfold usageOf
  cases hu : s.usage.lookup x with
  | none =>
    show (0 : Int) + 0 ≤ INT64_MAX
    decide
  | some u => exact h.counted x u hu d

end Fits

/-! ## Resynchronised or left alone -/

/-- What is consumed and reserved on behalf of `x` is as it was, and so are the records behind it. -/
structure LeftAlone (s : Engine) (x : TenantId) (s' : Engine) : Prop where
  consumption : (s'.usageOf x).consumption = (s.usageOf x).consumption
  reserved : (s'.usageOf x).reserved = (s.usageOf x).reserved
  records : RecordsKept s x s'

section Steps

variable {env : Env} {s s' : Engine} {x : TenantId}

theorem LeftAlone.of_ledger (h : s'.ledger = s.ledger)
    (hu : (s'.usageOf x).consumption = (s.usageOf x).consumption ∧
      (s'.usageOf x).reserved = (s.usageOf x).reserved ∧ (s'.usageOf x).burst = (s.usageOf x).burst) :
    LeftAlone s x s' :=
  ⟨hu.1, hu.2.1, .of_ledger h x⟩

/-- A change of the loans alone, followed by a resynchronisation. -/
theorem Resynced.synced_or_leftAlone {e : Engine} {ts : List TenantId} (h : Resynced env e s' ts)
    (hframe : LoanFrame s e) (x : TenantId) : SyncedAt env s' x ∨ LeftAlone s x s' := by
  by_cases hx : x ∈ ts
  · exact Or.inl (h.synced x hx)
  · refine Or.inr (.of_ledger (h.ledger.trans hframe.ledger) ?_)
    rw [h.other x hx]
    exact hframe.counters x

/-- The tenant a call acts on leaves all others alone. -/
theorem CallStep.leftAlone {c : Call} {t : TenantId} (hstep : CallStep env s c s') (hfresh : FreshIds env s)
    (hs : Consistent s) (hacts : s.actsOn c = some t) (hx : x ≠ t) : LeftAlone s x s' := by
  have hrec := hstep.recordsKept hfresh hs hacts hx
  rcases hstep.usage_other hfresh hs hacts hx with hsame | ⟨-, hfor⟩
  · exact ⟨by rw [hsame], by rw [hsame], hrec⟩
  · have hu := hfor.usage x hx
    exact ⟨by rw [hu], by rw [hu], hrec⟩

/-- **Any other call resynchronises a tenant or leaves it alone.** -/
theorem CallStep.synced_or_leftAlone {c : Call} (hstep : CallStep env s c s') (hfresh : FreshIds env s)
    (hs : Consistent s) (hboth : c.writesAlone = false) (x : TenantId) :
    SyncedAt env s' x ∨ LeftAlone s x s' := by
  -- the tenant the call acts on is resynchronised, the others are left alone
  have hact : ∀ t, s.actsOn c = some t → SyncedAt env s' t → SyncedAt env s' x ∨ LeftAlone s x s' := by
    intro t hacts hsync
    by_cases hx : x = t
    · exact Or.inl (hx ▸ hsync)
    · exact Or.inr (hstep.leftAlone hfresh hs hacts hx)
  cases hstep with
  | kept c h =>
    refine Or.inr (.of_ledger h.ledger ?_)
    rw [h.usageOf]
    exact ⟨rfl, rfl, rfl⟩
  | rolledBack h => exact Or.inr (.of_ledger h.frame.ledger (h.frame.counters x))
  | admitted h =>
    obtain ⟨e, -, hsync⟩ := h.recorded
    exact hact _ rfl (hsync.synced _ List.mem_cons_self)
  | committed hr _ h => exact hact _ (by rw [actsOn, hr]; rfl) (h.synced _ List.mem_cons_self)
  | started hr _ h => exact hact _ (by rw [actsOn, hr]; rfl) (h.synced _ List.mem_cons_self)
  | resized => cases hboth
  | stopped ha _ h => exact hact _ (by rw [actsOn, ha]; rfl) (h.synced _ List.mem_cons_self)
  | released hr _ hmid h => exact hact _ (by rw [actsOn, hr]; rfl) (h.synced _ List.mem_cons_self)
  | borrowed hlender h => exact h.synced_or_leftAlone (openLoan_frame ..) x
  | lent hlender h => exact h.synced_or_leftAlone (openLoan_frame ..) x
  | recalled hb hrec h => exact h.synced_or_leftAlone (closeLoan_frame ..) x
  | observed => cases hboth

/-! ## Sums over records that were left alone -/

theorem RecordsKept.usedSum (h : RecordsKept s x s') (d : ResourceDimension) : s'.usedSum x d = s.usedSum x d :=
  total_guard_congr fun aid a => and_congr_left fun hp => by
    simp only [Bool.and_eq_true, beq_iff_eq] at hp
    exact h.allocations aid a hp.1

theorem RecordsKept.exactRemaining (h : RecordsKept s x s') (r : Reservation) :
    s'.exactRemaining x r = s.exactRemaining x r := by
  have hruns : ∀ aid a, (s'.allocations.lookup aid = some a ∧ runsUnder x r.id a = true) ↔
      (s.allocations.lookup aid = some a ∧ runsUnder x r.id a = true) :=
    fun aid a => and_congr_left fun hp => by
      unfold runsUnder at hp
      simp only [Bool.and_eq_true, beq_iff_eq] at hp
      exact h.allocations aid a hp.1.2
  have hany : (s'.allocations.entries.any fun e => runsUnder x r.id e.2) =
      s.allocations.entries.any fun e => runsUnder x r.id e.2 := by
    rw [Bool.eq_iff_iff, List.any_eq_true, List.any_eq_true]
    constructor
    · rintro ⟨e, he, hp⟩
      have hboth := (hruns e.1 e.2).mp ⟨lookup_of_mem_entries he, hp⟩
      exact ⟨e, lookup_eq_some_iff.mp hboth.1, hp⟩
    · rintro ⟨e, he, hp⟩
      have hboth := (hruns e.1 e.2).mpr ⟨lookup_of_mem_entries he, hp⟩
      exact ⟨e, lookup_eq_some_iff.mp hboth.1, hp⟩
  have hused : s'.exactAllocUsed x r.id = s.exactAllocUsed x r.id := by
    unfold exactAllocUsed
    rw [hany, total_guard_congr hruns]
  unfold Engine.exactRemaining
  rw [hused]

theorem RecordsKept.exactRemainder (h : RecordsKept s x s') : s'.exactRemainder x = s.exactRemainder x := by
  unfold Engine.exactRemainder
  simp only [h.exactRemaining]
  refine total_guard_congr fun rid r => and_congr_left fun hp => ?_
  simp only [Bool.and_eq_true, beq_iff_eq] at hp
  exact h.reservations rid r hp.1

theorem RecordsKept.recordedCommitted (h : RecordsKept s x s') (d : ResourceDimension) :
    s'.recordedCommitted x d = s.recordedCommitted x d := by
  unfold Engine.recordedCommitted
  rw [h.usedSum, h.exactRemainder]

/-! ## Drift -/

/-- A resynchronised tenant commits what its records say. -/
theorem SyncedAt.recorded (h : SyncedAt env s x) (hnn : RecordsNonNeg s) (hfit : TotalsFit s x)
    (d : ResourceDimension) :
    (s.usageOf x).consumption.get d + (s.usageOf x).reserved.get d = s.recordedCommitted x d := by
  rw [h.consumption, h.reserved, computedConsumed_eq hnn.allocations hfit.used,
    recomputedReserved_eq_remaining hnn hfit.used hfit.reserved, get_exactUsed]
  rfl

/-- **A call that unbalances nothing leaves no drift.** -/
theorem after_drift {c : Env × Call} (hc : anyCall s c) (hno : ¬ Unbalances s c) (hs : Consistent s)
    (hnn : RecordsNonNeg (s.after c)) (hfit : AmountsFit (s.after c)) (h : ∀ x d, s.drift x d = 0)
    (x : TenantId) (d : ResourceDimension) : (s.after c).drift x d = 0 := by
  obtain ⟨env, c⟩ := c
  cases hboth : c.writesAlone with
  | true =>
    have hsame : (s.after (env, c)).drift x d = s.drift x d := by
      by_contra hne
      exact hno ⟨hboth, x, d, hne⟩
    rw [hsame]
    exact h x d
  | false =>
    have hstep : CallStep env s c (s.after (env, c)) := exec_callStep hc.1.toFreshLoans hc.2
    have hold := h x d
    unfold drift countedUse recordedUse at hold ⊢
    by_cases hd : isConsumable d = true
    · have hwindows : ((s.after (env, c)).usageOf x).windows = (s.usageOf x).windows :=
        exec_windows env s (fun obs heq => by
          change c = _ at heq
          rw [heq] at hboth
          cases hboth) x
      rw [if_pos hd, if_pos hd] at hold ⊢
      rw [hwindows]
      exact hold
    · rw [if_neg hd, if_neg hd] at hold ⊢
      rcases hstep.synced_or_leftAlone hc.1 hs hboth x with hsync | hkept
      · rw [hsync.recorded hnn (hfit.totalsFit hnn x) d]
        omega
      · rw [hkept.consumption, hkept.reserved, hkept.records.recordedCommitted]
        exact hold

end Steps

end Engine

end QuotaFabric
