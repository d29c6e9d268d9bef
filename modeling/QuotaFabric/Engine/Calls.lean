import QuotaFabric.Engine.Loans

/-!
# What the public calls can do

One inversion lemma for each call that changes the state: either it is refused and the records
stay as they were, or it makes its change and resynchronises the tenants it names.

* `SyncedAt` — the counters of a tenant are the recomputed ones;
* `Resynced` — two states with the same records, some tenants resynchronised in the second;
* `reserve_cases`, `commitReservation_cases`, `release_cases`, `borrow_cases`, `lend_cases`,
  `recallBorrow_cases`, `startAllocation_cases`, `resizeAllocation_cases`,
  `releaseAllocation_cases`.
-/

set_option autoImplicit false

namespace QuotaFabric

open AList

namespace Engine

/-! ## Resynchronised tenants -/

/-- The counters of `t` are what `sync_usage` computes from the records; an expired burst window
    leaves the burst counter empty. -/
structure SyncedAt (env : Env) (s : Engine) (t : TenantId) : Prop where
  consumption : (s.usageOf t).consumption = s.computedConsumed env t
  reserved : (s.usageOf t).reserved = s.recomputedReserved env t
  borrowed : (s.usageOf t).borrowedConsumed = s.computedBorrowed env t
  lent : (s.usageOf t).lent = s.computedLent env t
  burst : (s.usageOf t).burst = s.computedBurst env t ∨ (s.usageOf t).burst = .empty

/-- `s'` has the records of `s`, with the tenants `ts` resynchronised. -/
structure Resynced (env : Env) (s s' : Engine) (ts : List TenantId) : Prop where
  config : SameConfig s s'
  reservations : s'.reservations = s.reservations
  funding : s'.funding = s.funding
  allocations : s'.allocations = s.allocations
  borrows : s'.borrows = s.borrows
  lends : s'.lends = s.lends
  synced : ∀ t ∈ ts, SyncedAt env s' t
  debts : ∀ t ∈ ts, (s'.usageOf t).debt = s'.computedDebt env t
  other : ∀ x, x ∉ ts → s'.usageOf x = s.usageOf x

theorem usageOf_syncUsage_self (env : Env) (k : Nat) (s : Engine) (t : TenantId) :
    SyncedAt env (s.syncUsage env k t) t := by
  have hu : (s.syncUsage env k t).usageOf t =
      (fun u : Usage =>
        let u' :=
          { u with
            consumption := s.computedConsumed env t
            reserved := s.recomputedReserved env t
            borrowedConsumed := s.computedBorrowed env t
            lent := s.computedLent env t
            burst := s.computedBurst env t
            debt := s.computedDebt env t }
        if u.burstActive && decide (env.syncAt k ≥ u.burstExpires) then
          { u' with burstActive := false, burst := .empty }
        else u') (s.usageOf t) := usageOf_modifyUsage_self s t _
  simp only at hu
  split at hu
  · constructor
    all_goals rw [hu]
    all_goals first | rfl | exact Or.inr rfl
  · constructor
    all_goals rw [hu]
    all_goals first | rfl | exact Or.inl rfl

theorem usageOf_syncUsage_ne (env : Env) (k : Nat) (s : Engine) {t x : TenantId} (h : x ≠ t) :
    (s.syncUsage env k t).usageOf x = s.usageOf x :=
  usageOf_modifyUsage_ne s _ h

theorem debt_syncUsage_self (env : Env) (k : Nat) (s : Engine) (t : TenantId) :
    ((s.syncUsage env k t).usageOf t).debt = s.computedDebt env t := by
  unfold syncUsage
  rw [usageOf_modifyUsage_self]
  split <;> rfl

theorem Resynced.refl (env : Env) (s : Engine) : Resynced env s s [] :=
  ⟨.refl s, rfl, rfl, rfl, rfl, rfl, fun _ h => absurd h List.not_mem_nil,
    fun _ h => absurd h List.not_mem_nil, fun _ _ => rfl⟩

/-- Recomputation reads the records only. -/
theorem SyncedAt.congr {env : Env} {s s' : Engine} {t : TenantId} (h : SyncedAt env s t)
    (hr : s'.reservations = s.reservations) (hf : s'.funding = s.funding)
    (ha : s'.allocations = s.allocations) (hb : s'.borrows = s.borrows) (hl : s'.lends = s.lends)
    (hu : s'.usageOf t = s.usageOf t) : SyncedAt env s' t := by
  have hrec : s'.recomputedReserved env t = s.recomputedReserved env t := by
    unfold recomputedReserved remaining allocUsed
    rw [hr, ha]
  have hburst : s'.computedBurst env t = s.computedBurst env t := by
    unfold computedBurst
    rw [hr, hf]
  have hcons : s'.computedConsumed env t = s.computedConsumed env t := by
    unfold computedConsumed
    rw [ha]
  have hborr : s'.computedBorrowed env t = s.computedBorrowed env t := by
    unfold computedBorrowed
    rw [hb]
  have hlent : s'.computedLent env t = s.computedLent env t := by
    unfold computedLent
    rw [hl]
  exact ⟨by rw [hu, hcons]; exact h.consumption, by rw [hu, hrec]; exact h.reserved,
    by rw [hu, hborr]; exact h.borrowed, by rw [hu, hlent]; exact h.lent,
    by rw [hu, hburst]; exact h.burst⟩

/-- One more `sync_usage`. -/
theorem Resynced.sync {env : Env} {s s' : Engine} {ts : List TenantId} (h : Resynced env s s' ts)
    (k : Nat) (t : TenantId) : Resynced env s (s'.syncUsage env k t) (t :: ts) where
  config := h.config.trans ⟨rfl, rfl, rfl, rfl, rfl, rfl, rfl⟩
  reservations := h.reservations
  funding := h.funding
  allocations := h.allocations
  borrows := h.borrows
  lends := h.lends
  synced x hx := by
    by_cases hxt : x = t
    · subst hxt; exact usageOf_syncUsage_self env k s' x
    · have hx' : x ∈ ts := by simpa [hxt] using hx
      exact (h.synced x hx').congr rfl rfl rfl rfl rfl (usageOf_syncUsage_ne env k s' hxt)
  debts x hx := by
    by_cases hxt : x = t
    · subst hxt; exact debt_syncUsage_self env k s' x
    · have hx' : x ∈ ts := by simpa [hxt] using hx
      rw [usageOf_syncUsage_ne env k s' hxt]
      exact h.debts x hx'
  other x hx := by
    obtain ⟨hxt, hx'⟩ := List.ne_and_not_mem_of_not_mem_cons hx
    rw [usageOf_syncUsage_ne env k s' hxt]
    exact h.other x hx'

theorem Resynced.emit {env : Env} {s s' : Engine} {ts : List TenantId} (h : Resynced env s s' ts)
    (type : EventType) (t : TenantId) (detail : Str) :
    Resynced env s (s'.emitEvent env type t detail) ts where
  config := h.config.trans ⟨rfl, rfl, rfl, rfl, rfl, rfl, rfl⟩
  reservations := h.reservations
  funding := h.funding
  allocations := h.allocations
  borrows := h.borrows
  lends := h.lends
  synced x hx := (h.synced x hx).congr rfl rfl rfl rfl rfl rfl
  debts x hx := h.debts x hx
  other x hx := h.other x hx

/-! ## Reservations -/

/-- The checks `reserve` makes before it draws anything. -/
structure Accepted (env : Env) (s : Engine) (t : TenantId) (req : ResourceVector) (auth : Authority) :
    Prop where
  authority : s.validAuthority auth = true
  tenant : s.tenantExists t = true
  allowed : (s.classify env t req).allowed = true

instance (env : Env) (s : Engine) (t : TenantId) (req : ResourceVector) (auth : Authority) :
    Decidable (Accepted env s t req auth) :=
  decidable_of_iff (s.validAuthority auth = true ∧ s.tenantExists t = true ∧
      (s.classify env t req).allowed = true)
    ⟨fun ⟨h1, h2, h3⟩ => ⟨h1, h2, h3⟩, fun h => ⟨h.authority, h.tenant, h.allowed⟩⟩

/-- The funding loop got through `pre` and found no lender for `d`. -/
def StuckAt (env : Env) (s : Engine) (t : TenantId) (req : ResourceVector) (st : Draw) : Prop :=
  ∃ pre d post, allResourceDimensions = pre ++ d :: post ∧
    fundLoop env (s.effectiveLattice t) (s.committed t) t req pre { engine := s.modifyUsage t id } =
      .ok st ∧
    0 < borrowNeed (s.effectiveLattice t) (s.committed t) req d ∧
    st.engine.chooseLender env t
      (ResourceVector.fromScalar d (borrowNeed (s.effectiveLattice t) (s.committed t) req d)) = none

/-- An accepted `reserve` that could not fund some dimension: its loans are given back. -/
structure RolledBack (env : Env) (s : Engine) (t : TenantId) (req : ResourceVector) (auth : Authority)
    (st : Draw) (s' : Engine) : Prop where
  accepted : Accepted env s t req auth
  stuck : StuckAt env s t req st
  loans : LoanSteps env (fun _ => False) s st.engine
  drawn : ∀ bid ∈ st.borrowIds, bid ∉ s.borrows ∧ bid ∈ st.engine.borrows
  undrawn : st.borrowIds = [] → ∃ t, st.engine = s.modifyUsage t id
  result : s' = st.engine.returnAll env st.borrowIds

/-- The state after the reservation is entered: loans as drawn, counters not yet rewritten. -/
structure Entered (env : Env) (t : TenantId) (req : ResourceVector) (auth : Authority) (st : Draw)
    (e : Engine) : Prop where
  config : SameConfig st.engine e
  reservations : e.reservations =
    st.engine.reservations.emplace env.reservationId (st.engine.newReservation env t req auth)
  funding : e.funding =
    st.engine.funding.insert env.reservationId { burst := st.burst, borrows := st.borrowIds }
  allocations : e.allocations = st.engine.allocations
  borrows : e.borrows = st.engine.borrows
  lends : e.lends = st.engine.lends
  counters : ∀ x, (e.usageOf x).consumption = (st.engine.usageOf x).consumption ∧
    (e.usageOf x).reserved = (st.engine.usageOf x).reserved ∧
    (e.usageOf x).lent = (st.engine.usageOf x).lent ∧
    (e.usageOf x).borrowedConsumed = (st.engine.usageOf x).borrowedConsumed ∧
    (e.usageOf x).burst = (st.engine.usageOf x).burst
  other : ∀ x, x ≠ t → e.usageOf x = st.engine.usageOf x

theorem entered_startBurst (env : Env) (eff : ResourceQuota) (t : TenantId) (req : ResourceVector)
    (auth : Authority) (st : Draw) :
    Entered env t req auth st
      ((startBurst env eff st.engine t st.burst).addReservation
        (st.engine.newReservation env t req auth) { burst := st.burst, borrows := st.borrowIds }) := by
  unfold startBurst
  split
  · exact ⟨⟨rfl, rfl, rfl, rfl, rfl, rfl, rfl⟩, rfl, rfl, rfl, rfl, rfl,
      fun _ => ⟨rfl, rfl, rfl, rfl, rfl⟩, fun _ _ => rfl⟩
  · obtain ⟨f, hf⟩ : ∃ f : Usage → Usage, f = fun u =>
        { u with
          burstActive := true, burstStarted := env.now
          burstExpires := env.now + eff.burstRule.window, cooldownUntil := 0 } := ⟨_, rfl⟩
    rw [← hf]
    have hother : ∀ x, x ≠ t → (st.engine.modifyUsage t f).usageOf x = st.engine.usageOf x :=
      fun x hx => usageOf_modifyUsage_ne st.engine f hx
    refine ⟨⟨rfl, rfl, rfl, rfl, rfl, rfl, rfl⟩, rfl, rfl, rfl, rfl, rfl, fun x => ?_, hother⟩
    change (((st.engine.modifyUsage t f).usageOf x).consumption = _ ∧ _)
    have hx := usageOf_modifyUsage st.engine t x f
    split at hx
    · rename_i hxt
      subst hxt
      unfold usageOf at *
      unfold addReservation
      rw [hx, hf]
      exact ⟨rfl, rfl, rfl, rfl, rfl⟩
    · unfold usageOf at *
      unfold addReservation
      rw [hx]
      exact ⟨rfl, rfl, rfl, rfl, rfl⟩

/-- A successful `reserve`: the request was allowed, every excess was borrowed, the reservation
    was entered and the tenant resynchronised. -/
structure Admitted (env : Env) (s : Engine) (t : TenantId) (req : ResourceVector) (auth : Authority)
    (st : Draw) (s' : Engine) : Prop where
  accepted : Accepted env s t req auth
  funded : fundLoop env (s.effectiveLattice t) (s.committed t) t req allResourceDimensions
    { engine := s.modifyUsage t id } = .ok st
  loans : LoanSteps env (fun _ => False) s st.engine
  drawn : ∀ bid ∈ st.borrowIds, bid ∉ s.borrows ∧ bid ∈ st.engine.borrows
  recorded : ∃ e, Entered env t req auth st e ∧ Resynced env e s' [t]

/-- A rolled back `reserve`, seen from its loans. -/
theorem RolledBack.returned {env : Env} {s : Engine} {t : TenantId} {req : ResourceVector}
    {auth : Authority} {st : Draw} {s' : Engine} (h : RolledBack env s t req auth st s') :
    LoanSteps env (fun bid => bid ∈ st.borrowIds) st.engine s' := by
  rw [h.result]
  exact returnAll_loanSteps _ _ fun _ hbid => hbid

theorem RolledBack.frame {env : Env} {s : Engine} {t : TenantId} {req : ResourceVector}
    {auth : Authority} {st : Draw} {s' : Engine} (h : RolledBack env s t req auth st s') :
    LoanFrame s s' :=
  h.loans.frame.trans h.returned.frame

/-- Freshness of the ids still to be handed out by the funding loop. -/
structure FundInv (env : Env) (s : Engine) (ds : List ResourceDimension) (st : Draw) : Prop where
  nodup : ds.Nodup
  loans : LoanSteps env (fun _ => False) s st.engine
  borrowId : ∀ d ∈ ds, env.borrowId d ∉ st.engine.borrows
  lendingId : ∀ d ∈ ds, env.lendingId d ∉ st.engine.lends
  drawn : ∀ bid ∈ st.borrowIds, bid ∉ s.borrows ∧ bid ∈ st.engine.borrows
  undrawn : st.borrowIds = [] → ∃ t, st.engine = s.modifyUsage t id

section Reserve

variable {env : Env} {s : Engine} {t : TenantId} {req : ResourceVector} {auth : Authority}

theorem fundInv_start (hfresh : FreshLoans env s) (t : TenantId) :
    FundInv env s allResourceDimensions { engine := s.modifyUsage t id } where
  nodup := allResourceDimensions_nodup
  loans := .single (.touched s t)
  borrowId d _ := hfresh.borrowId d
  lendingId d _ := hfresh.lendingId d
  drawn _ h := absurd h List.not_mem_nil
  undrawn _ := ⟨t, rfl⟩

theorem fundInv_step (hfresh : FreshLoans env s) {eff : ResourceQuota} {cb : ResourceVector}
    {d : ResourceDimension} {ds : List ResourceDimension} {st st' : Draw}
    (h : FundInv env s (d :: ds) st) (hd : fundDimension env eff cb t req st d = .ok st') :
    FundInv env s ds st' := by
  obtain ⟨hne, hnd⟩ := List.nodup_cons.mp h.nodup
  have hmem := fun e (he : e ∈ ds) => List.mem_cons_of_mem d he
  rcases fundDimension_cases env eff cb t req st d with
    ⟨-, burst, hok, -⟩ | ⟨hpos, -, -, ⟨lender, burst, hl, hok, -⟩ | ⟨-, q, herr⟩⟩
  · rw [hok] at hd
    cases hd
    exact ⟨hnd, h.loans, fun e he => h.borrowId e (hmem e he), fun e he => h.lendingId e (hmem e he),
      h.drawn, h.undrawn⟩
  · rw [hok] at hd
    cases hd
    have hb := h.borrowId d List.mem_cons_self
    have hlid := h.lendingId d List.mem_cons_self
    have hnn : (ResourceVector.fromScalar d (borrowNeed eff cb req d)).NonNeg := by
      intro e
      by_cases he : e = d
      · subst he; rw [ResourceVector.get_fromScalar_self (by omega)]; omega
      · rw [ResourceVector.get_fromScalar_ne he]
    have hstep : LoanStep env (fun _ => False) st.engine _ := .opened d hl hnn hb hlid
    refine ⟨hnd, h.loans.tail hstep, ?_, ?_, ?_, fun hnil => by simp at hnil⟩
    · intro e he hm
      rw [openLoan_borrows, emplace_of_notMem hb, mem_insert] at hm
      rcases hm with hm | hm
      · have hed := hfresh.borrowId_injective hm
        subst hed; exact hne he
      · exact h.borrowId e (hmem e he) hm
    · intro e he hm
      rw [openLoan_lends, emplace_of_notMem hlid, mem_insert] at hm
      rcases hm with hm | hm
      · have hed := hfresh.lendingId_injective hm
        subst hed; exact hne he
      · exact h.lendingId e (hmem e he) hm
    · intro bid hbid
      rcases List.mem_append.mp hbid with hbid | hbid
      · exact ⟨(h.drawn bid hbid).1, hstep.mem_borrows (h.drawn bid hbid).2⟩
      · rw [List.mem_singleton.mp hbid]
        refine ⟨hfresh.borrowId d, ?_⟩
        rw [openLoan_borrows, emplace_of_notMem hb, mem_insert]
        exact Or.inl rfl
  · rw [herr] at hd; cases hd

theorem fundInv_ok (hfresh : FreshLoans env s) {eff : ResourceQuota} {cb : ResourceVector}
    {ds post : List ResourceDimension} {st st' : Draw} (h : FundInv env s (ds ++ post) st)
    (hok : fundLoop env eff cb t req ds st = .ok st') : FundInv env s post st' := by
  have hrule := fundLoop_rule (P := fun ds st => FundInv env s (ds ++ post) st)
    (fun d ds st st' h hd => fundInv_step hfresh h hd) ds st st' h hok
  exact hrule

theorem newReservation_startBurst (env : Env) (eff : ResourceQuota) (s : Engine) (t : TenantId)
    (burst req : ResourceVector) (auth : Authority) :
    (startBurst env eff s t burst).newReservation env t req auth = s.newReservation env t req auth := by
  unfold startBurst
  split <;> rfl

/-- **`reserve`**: refused, failed in the funding loop with its loans given back, or admitted. -/
theorem reserve_cases (hfresh : FreshLoans env s) (t : TenantId) (req : ResourceVector)
    (auth : Authority) :
    (s.reserve env t req auth).2 = s ∨
    (∃ st, RolledBack env s t req auth st (s.reserve env t req auth).2) ∨
    (∃ st, Admitted env s t req auth st (s.reserve env t req auth).2) := by
  have hcb : (s.modifyUsage t id).committed t = s.committed t := by
    unfold committed
    rw [usageOf_modifyUsage_id]
  unfold reserve
  split
  · exact Or.inl rfl
  split
  · exact Or.inl rfl
  split
  · exact Or.inl rfl
  rename_i hauth
  split
  · exact Or.inl rfl
  rename_i hten
  simp only
  split
  · exact Or.inl rfl
  rename_i hall
  have hdec : Accepted env s t req auth := ⟨by simpa using hauth, by simpa using hten, by simpa using hall⟩
  rw [hcb]
  split
  · rename_i q s₂ hf
    obtain ⟨pre, d, post, st, hds, hpre, herr⟩ := fundLoop_error _ _ hf
    rcases fundDimension_cases env (s.effectiveLattice t) (s.committed t) t req st d with
      ⟨-, burst, hok, -⟩ | ⟨hneed, -, -, ⟨lender, burst, -, hok, -⟩ | ⟨hnone, q', herr'⟩⟩
    · rw [hok] at herr; cases herr
    · rw [hok] at herr; cases herr
    · rw [herr'] at herr
      cases herr
      have hinv := fundInv_ok hfresh (hds ▸ fundInv_start hfresh t) hpre
      exact Or.inr (Or.inl ⟨st, hdec, ⟨pre, d, post, hds, hpre, hneed, hnone⟩, hinv.loans, hinv.drawn,
        hinv.undrawn, rfl⟩)
  · rename_i st hf
    have hstart := fundInv_start hfresh t
    rw [← List.append_nil allResourceDimensions] at hstart
    have hinv := fundInv_ok hfresh hstart hf
    refine Or.inr (Or.inr ⟨st, hdec, hf, hinv.loans, hinv.drawn, _,
      entered_startBurst env (s.effectiveLattice t) t req auth st, ?_⟩)
    unfold recordReservation
    simp only [newReservation_startBurst]
    exact ((Resynced.refl env _).sync 0 t).emit _ _ _

end Reserve

/-- **`commit_reservation`** changes the status of a provisional reservation. -/
theorem commitReservation_cases (env : Env) (s : Engine) (rid : ReservationId) (auth : Authority) :
    (s.commitReservation env rid auth).2 = s ∨
    ∃ r, s.reservations.lookup rid = some r ∧ r.status = .provisional ∧
      Resynced env (s.markCommitted rid) (s.commitReservation env rid auth).2 [r.tenant] := by
  unfold commitReservation
  split
  · exact Or.inl rfl
  split
  · exact Or.inl rfl
  split
  · exact Or.inl rfl
  rename_i r hr
  split
  · exact Or.inl rfl
  split
  · exact Or.inl rfl
  rename_i hprov
  refine Or.inr ⟨r, hr, by simpa using hprov, ?_⟩
  exact ((Resynced.refl env _).sync 0 r.tenant).emit _ _ _

/-- **`release`** gives back the listed loans and drops the reservation. -/
theorem release_cases (env : Env) (s : Engine) (rid : ReservationId) (auth : Authority) :
    (s.release env rid auth).2 = s ∨
    ∃ r mid, s.reservations.lookup rid = some r ∧ activeRes r = true ∧
      LoanSteps env (fun bid => bid ∈ s.listedBorrows rid) (s.setStatus rid .released) mid ∧
      Resynced env (mid.dropReservation rid) (s.release env rid auth).2 [r.tenant] := by
  unfold release
  split
  · exact Or.inl rfl
  split
  · exact Or.inl rfl
  rename_i r hr
  split
  · exact Or.inl rfl
  rename_i hact
  refine Or.inr ⟨r, _, hr, by simpa using hact, returnAll_loanSteps _ _ fun bid hbid => hbid, ?_⟩
  exact ((Resynced.refl env _).sync 0 r.tenant).emit _ _ _

/-! ## Loans -/

/-- The first dimension lends its ids to `borrow` and `lend`. -/
theorem borrowImpl_cases {env : Env} {s : Engine} (hfresh : FreshLoans env s) (borrower : TenantId)
    {amount : ResourceVector} (hamount : amount.NonNeg) :
    (∃ e, s.borrowImpl env default borrower amount none = (.error e, s)) ∨
    ∃ lender, s.chooseLender env borrower amount = some lender ∧
      s.borrowImpl env default borrower amount none =
        (.ok (s.newBorrow env default lender borrower amount none),
          s.openLoan env default lender borrower amount none) ∧
      LoanStep env (fun _ => False) s (s.openLoan env default lender borrower amount none) := by
  cases hl : s.chooseLender env borrower amount with
  | none => exact Or.inl ⟨_, borrowImpl_of_no_lender hl default none⟩
  | some lender =>
    exact Or.inr ⟨lender, rfl, borrowImpl_of_lender hl default none,
      .opened default hl hamount (hfresh.borrowId default) (hfresh.lendingId default)⟩

/-- **`borrow`** opens one loan and resynchronises the borrower. -/
theorem borrow_cases {env : Env} {s : Engine} (hfresh : FreshLoans env s) (borrower : TenantId)
    (amount : ResourceVector) (hamount : amount.NonNeg) (auth : Authority) :
    (s.borrow env borrower amount auth).2 = s ∨
    ∃ lender, s.chooseLender env borrower amount = some lender ∧
      LoanStep env (fun _ => False) s (s.openLoan env default lender borrower amount none) ∧
      Resynced env (s.openLoan env default lender borrower amount none)
        (s.borrow env borrower amount auth).2 [borrower] := by
  unfold borrow
  split
  · exact Or.inl rfl
  split
  · exact Or.inl rfl
  rcases borrowImpl_cases hfresh borrower hamount with ⟨e, he⟩ | ⟨lender, hl, hok, hstep⟩
  · rw [he]; exact Or.inl rfl
  · rw [hok]
    exact Or.inr ⟨lender, hl, hstep, (Resynced.refl env _).sync 0 borrower⟩

/-- **`lend`** opens one loan, from a lender of its own choice, and resynchronises the two named
    tenants. -/
theorem lend_cases {env : Env} {s : Engine} (hfresh : FreshLoans env s) (named borrower : TenantId)
    (amount : ResourceVector) (hamount : amount.NonNeg) (auth : Authority) :
    (s.lend env named borrower amount auth).2 = s ∨
    ∃ lender, s.chooseLender env borrower amount = some lender ∧
      LoanStep env (fun _ => False) s (s.openLoan env default lender borrower amount none) ∧
      Resynced env (s.openLoan env default lender borrower amount none)
        (s.lend env named borrower amount auth).2 [borrower, named] := by
  unfold lend
  split
  · exact Or.inl rfl
  split
  · exact Or.inl rfl
  split
  · exact Or.inl rfl
  rcases borrowImpl_cases hfresh borrower hamount with ⟨e, he⟩ | ⟨lender, hl, hok, hstep⟩
  · rw [he]; exact Or.inl rfl
  · rw [hok]
    have hres := ((Resynced.refl env (s.openLoan env default lender borrower amount none)).sync 0
      named).sync 1 borrower
    refine Or.inr ⟨lender, hl, hstep, ?_⟩
    simp only
    split <;> exact hres

/-- **`recall_borrow`** closes one loan and resynchronises both parties. -/
theorem recallBorrow_cases (env : Env) (s : Engine) (bid : BorrowId) (auth : Authority) :
    (s.recallBorrow env bid auth).2 = s ∨
    ∃ b, s.borrows.lookup bid = some b ∧ b.recalled = false ∧
      LoanStep env (fun x => x = bid) s
        (s.closeLoan env bid b (ResourceVector.min b.consumed b.consumed)) ∧
      Resynced env (s.closeLoan env bid b (ResourceVector.min b.consumed b.consumed))
        (s.recallBorrow env bid auth).2 [b.lender, b.borrower] := by
  unfold recallBorrow
  split
  · exact Or.inl rfl
  split
  · exact Or.inl rfl
  rename_i b hb
  have hret : s.returnBorrow env bid b.consumed =
      if b.recalled then (.failure .duplicateRelease (text "borrow already returned"), s)
      else (.success, s.closeLoan env bid b (ResourceVector.min b.consumed b.consumed)) := by
    unfold returnBorrow
    rw [hb]
  rw [hret]
  cases hrec : b.recalled with
  | true => exact Or.inl rfl
  | false =>
    refine Or.inr ⟨b, hb, hrec, .closed rfl hb hrec, ?_⟩
    exact (((Resynced.refl env _).sync 0 b.borrower).sync 1 b.lender).emit _ _ _

/-! ## Allocations -/

/-- **`start_allocation`** enters an allocation that uses nothing yet. -/
theorem startAllocation_cases (env : Env) (s : Engine) (rid : ReservationId) (req : ResourceVector)
    (auth : Authority) :
    (s.startAllocation env rid req auth).2 = s ∨
    ∃ r, s.reservations.lookup rid = some r ∧ activeRes r = true ∧
      Resynced env
        (({ s with
          allocations := s.allocations.emplace env.allocationId
            (s.newAllocation env r rid req auth) } : Engine).setStatus rid .consumed)
        (s.startAllocation env rid req auth).2 [r.tenant] := by
  unfold startAllocation
  split
  · exact Or.inl rfl
  split
  · exact Or.inl rfl
  rename_i r hr
  split
  · exact Or.inl rfl
  rename_i hact
  refine Or.inr ⟨r, hr, by simpa using hact, ?_⟩
  exact ((Resynced.refl env _).sync 0 r.tenant).emit _ _ _

/-- **`resize_allocation`** stores the new use, and resynchronises only when the quota check
    passes. -/
theorem resizeAllocation_cases (env : Env) (s : Engine) (aid : AllocationId) (delta : ResourceVector)
    (auth : Authority) :
    (s.resizeAllocation env aid delta auth).2 = s ∨
    ∃ a, s.allocations.lookup aid = some a ∧ a.active = true ∧
      ∃ ts, (ts = [] ∨ ts = [a.tenant]) ∧
        Resynced env
          { s with
            allocations := s.allocations.modify aid fun x => { x with used := resizedUse a delta } }
          (s.resizeAllocation env aid delta auth).2 ts := by
  unfold resizeAllocation
  split
  · exact Or.inl rfl
  split
  · exact Or.inl rfl
  rename_i a ha
  split
  · exact Or.inl rfl
  rename_i hact
  refine Or.inr ⟨a, ha, by simpa using hact, ?_⟩
  simp only
  split
  · exact ⟨[], Or.inl rfl, (Resynced.refl env _).emit _ _ _⟩
  · exact ⟨[a.tenant], Or.inr rfl, ((Resynced.refl env _).sync 0 a.tenant).emit _ _ _⟩

/-- **`release_allocation`** stops one allocation. -/
theorem releaseAllocation_cases (env : Env) (s : Engine) (aid : AllocationId) (auth : Authority) :
    (s.releaseAllocation env aid auth).2 = s ∨
    ∃ a, s.allocations.lookup aid = some a ∧ a.active = true ∧
      Resynced env
        { s with
          allocations := s.allocations.modify aid fun x =>
            { x with active := false, endedAt := env.now } }
        (s.releaseAllocation env aid auth).2 [a.tenant] := by
  unfold releaseAllocation
  split
  · exact Or.inl rfl
  split
  · exact Or.inl rfl
  rename_i a ha
  split
  · exact Or.inl rfl
  rename_i hact
  refine Or.inr ⟨a, ha, by simpa using hact, ?_⟩
  exact ((Resynced.refl env _).sync 0 a.tenant).emit _ _ _

end Engine

end QuotaFabric
