import QuotaFabric.Engine.Steps
import QuotaFabric.Engine.Lattice
import QuotaFabric.Engine.Recompute

/-!
# The burst counter and the burst limit

`burst_ok` looks at the burst used so far and not at what the request adds; `reserve` charges whatever
lies between the soft and the hard ceiling.  The counter stays within `burst_limit` as long as every
charge fits beside the burst of the tenant's live reservations.

* `burstNeed` — what `reserve` charges on one dimension; `fundLoop_burst` — the loop charges exactly this;
* `burstSum` — the burst funding of a tenant's live reservations;
* `BurstFits` — the check that is missing;
* `burst_within_limit` — the run statement; `burst_over_limit` — a request that is charged more.
-/

set_option autoImplicit false

namespace QuotaFabric

open AList

namespace Engine

/-! ## What a request is charged -/

/-- The burst `reserve` charges on `d`. -/
def burstNeed (env : Env) (eff : ResourceQuota) (cb req : ResourceVector) (d : ResourceDimension) : Int :=
  if req.present d && !isConsumable d then burstPart env eff d (cb.get d) (satAdd (cb.get d) (req.get d))
  else 0

section Charge

variable {env : Env} {eff : ResourceQuota} {cb : ResourceVector} {t : TenantId} {req : ResourceVector}

theorem burstNeed_nonneg (env : Env) (eff : ResourceQuota) (cb req : ResourceVector)
    (d : ResourceDimension) : 0 ≤ burstNeed env eff cb req d := by
  unfold burstNeed burstPart
  split
  · exact le_max_left _ _
  · exact le_refl 0

/-- One dimension of the funding loop charges its burst part. -/
theorem fundDimension_charge {d : ResourceDimension} {st st' : Draw}
    (h : fundDimension env eff cb t req st d = .ok st') :
    st'.burst = if 0 < burstNeed env eff cb req d then st.burst.put d (burstNeed env eff cb req d)
      else st.burst := by
  unfold fundDimension at h
  unfold burstNeed
  by_cases hskip : (!req.present d || isConsumable d) = true
  · rw [if_pos hskip] at h
    cases h
    have hno : (req.present d && !isConsumable d) = false := by
      cases h1 : req.present d <;> cases h2 : isConsumable d <;> simp_all
    rw [hno]
    simp
  · rw [if_neg hskip] at h
    have hyes : (req.present d && !isConsumable d) = true := by
      cases h1 : req.present d <;> cases h2 : isConsumable d <;> simp_all
    rw [if_pos hyes]
    obtain ⟨bp, hbp⟩ : ∃ x, x = burstPart env eff d (cb.get d) (satAdd (cb.get d) (req.get d)) := ⟨_, rfl⟩
    simp only [← hbp] at h ⊢
    have hset : (if bp > 0 then (st.burst.set d bp).2 else st.burst) =
        if 0 < bp then st.burst.put d bp else st.burst := by
      split
      · unfold ResourceVector.set
        rw [if_neg (by omega)]
      · rfl
    split at h
    · split at h
      · cases h
      · cases h
        exact hset
    · cases h
      exact hset

/-- What the loop has charged, with the dimensions `ds` still to come. -/
def Charged (env : Env) (eff : ResourceQuota) (cb req : ResourceVector) (ds : List ResourceDimension)
    (st : Draw) : Prop :=
  ds.Nodup ∧ ∀ d, st.burst.cell d =
    if d ∉ ds ∧ 0 < burstNeed env eff cb req d then some (burstNeed env eff cb req d) else none

theorem charged_step {d : ResourceDimension} {ds : List ResourceDimension} {st st' : Draw}
    (h : Charged env eff cb req (d :: ds) st) (hd : fundDimension env eff cb t req st d = .ok st') :
    Charged env eff cb req ds st' := by
  obtain ⟨hne, hnd⟩ := List.nodup_cons.mp h.1
  refine ⟨hnd, fun e => ?_⟩
  rw [fundDimension_charge hd]
  have hold := h.2 e
  by_cases hed : e = d
  · subst hed
    simp only [hne, not_false_eq_true, true_and]
    split
    · simp [SparseVec.put]
    · simpa using hold
  · have hmem : e ∉ d :: ds ↔ e ∉ ds := by simp [hed]
    simp only [hmem] at hold
    rw [← hold]
    split
    · simp [SparseVec.put, hed]
    · rfl

/-- **The loop charges exactly the burst parts.** -/
theorem fundLoop_burst {s : Engine} {st : Draw}
    (h : fundLoop env eff cb t req allResourceDimensions { engine := s } = .ok st) (d : ResourceDimension) :
    st.burst.cell d =
      if 0 < burstNeed env eff cb req d then some (burstNeed env eff cb req d) else none := by
  have hstart : Charged env eff cb req allResourceDimensions { engine := s } := by
    refine ⟨allResourceDimensions_nodup, fun d => ?_⟩
    simp [mem_allResourceDimensions, SparseVec.empty]
  have hrule := fundLoop_rule (P := Charged env eff cb req)
    (fun d ds st st' hp hd => charged_step hp hd) allResourceDimensions _ st hstart h
  simpa using hrule.2 d

theorem get_fundLoop_burst {s : Engine} {st : Draw}
    (h : fundLoop env eff cb t req allResourceDimensions { engine := s } = .ok st) (d : ResourceDimension) :
    st.burst.get d = burstNeed env eff cb req d := by
  have hnn := burstNeed_nonneg env eff cb req d
  unfold SparseVec.get
  rw [fundLoop_burst h]
  split
  · rfl
  · simp only [Option.getD_none]
    omega

end Charge

/-! ## Burst of the live reservations -/

/-- The reservation `rid` is live and belongs to `t`. -/
def fundsFor (s : Engine) (t : TenantId) (rid : ReservationId) : Bool :=
  match s.reservations.lookup rid with
  | none => false
  | some r => r.tenant == t && activeRes r

/-- Burst funding of the live reservations of `t`. -/
def burstSum (s : Engine) (t : TenantId) (d : ResourceDimension) : Int :=
  total s.funding fun rid f => if s.fundsFor t rid then f.burst.get d else 0

/-- The burst limit of `t`, `0` when unset. -/
def burstLimitOf (s : Engine) (t : TenantId) (d : ResourceDimension) : Int :=
  if (s.effectiveLattice t).burstLimit.present d then (s.effectiveLattice t).burstLimit.get d else 0

section Sum

variable {env : Env} {s s' : Engine}

theorem computedBurst_le (hnn : ∀ rid f, s.funding.lookup rid = some f → f.burst.NonNeg) (t : TenantId)
    (d : ResourceDimension) : (s.computedBurst env t).get d ≤ s.burstSum t d :=
  sumOf_run_le env.fundingOrder (p := fun rid _ => s.fundsFor t rid) (f := fun _ f => f.burst)
    (fun rid f hf _ => hnn rid f hf) d

theorem burstLimitOf_nonneg (s : Engine) (t : TenantId) (d : ResourceDimension) :
    0 ≤ s.burstLimitOf t d := by
  have hlimit : (s.effectiveLattice t).burstLimit = mergeMin ((s.quotaChain t).map (·.burstLimit)) := by
    unfold effectiveLattice
    simp only
    split <;> rfl
  unfold burstLimitOf
  rw [hlimit]
  split
  · exact mergeMin_nonNeg _ d
  · exact le_refl 0

theorem SameConfig.burstLimitOf (h : SameConfig s s') (t : TenantId) (d : ResourceDimension) :
    s'.burstLimitOf t d = s.burstLimitOf t d := by
  unfold Engine.burstLimitOf
  rw [h.effectiveLattice]

theorem burstSum_congr (h : s'.ledger = s.ledger) (t : TenantId) (d : ResourceDimension) :
    s'.burstSum t d = s.burstSum t d := by
  have hr : s'.reservations = s.reservations := congrArg Ledger.reservations h
  have hf : s'.funding = s.funding := congrArg Ledger.funding h
  unfold burstSum fundsFor
  rw [hr, hf]

/-- A new reservation adds its burst to its tenant's sum. -/
theorem Admitted.burstSum {t : TenantId} {req : ResourceVector} {auth : Authority} {st : Draw}
    (h : Admitted env s t req auth st s') (hfresh : FreshIds env s) (x : TenantId)
    (d : ResourceDimension) :
    s'.burstSum x d = (if t = x then st.burst.get d else 0) + s.burstSum x d := by
  have hres : s'.reservations =
      s.reservations.emplace env.reservationId (s.newReservation env t req auth) :=
    congrArg Ledger.reservations h.ledger
  have hfund : s'.funding = s.funding.insert env.reservationId _ := congrArg Ledger.funding h.ledger
  rw [emplace_of_notMem hfresh.reservationId] at hres
  unfold Engine.burstSum
  rw [hfund, total_insert _ _ hfresh.fundingId]
  congr 1
  · unfold fundsFor
    rw [hres, lookup_insert]
    have hact : activeRes (s.newReservation env t req auth) = true := rfl
    have ht : (s.newReservation env t req auth).tenant = t := rfl
    simp only [hact, ht, Bool.and_true, beq_iff_eq]
  · refine total_congr fun rid f hf => ?_
    have hne : rid ≠ env.reservationId := by
      rintro rfl
      exact hfresh.fundingId (mem_of_lookup hf)
    unfold fundsFor
    rw [hres, lookup_insert_ne hne]

/-- A release takes the burst of its reservation away. -/
theorem burstSum_dropReservation (hnn : ∀ rid f, s.funding.lookup rid = some f → f.burst.NonNeg)
    (rid : ReservationId) (x : TenantId) (d : ResourceDimension) :
    (s.dropReservation rid).burstSum x d ≤ s.burstSum x d := by
  have hrest : (s.dropReservation rid).burstSum x d =
      total (s.funding.erase rid) fun rid' f => if s.fundsFor x rid' then f.burst.get d else 0 := by
    unfold burstSum
    refine total_congr fun rid' f hf => ?_
    have hne : rid' ≠ rid := by
      rintro rfl
      change (s.funding.erase rid').lookup rid' = some f at hf
      rw [lookup_erase] at hf
      cases hf
    have hsame : (s.dropReservation rid).fundsFor x rid' = s.fundsFor x rid' := by
      unfold fundsFor
      rw [show (s.dropReservation rid).reservations.lookup rid' = _ from lookup_erase_ne hne]
    rw [hsame]
  rw [hrest]
  unfold burstSum
  cases hf : s.funding.lookup rid with
  | none =>
    have hnone : s.funding.erase rid = s.funding := AList.ext (List.kerase_of_notMem_keys (by
      exact fun hmem => (lookup_eq_none.mp hf) hmem))
    rw [hnone]
  | some f =>
    rw [total_erase (fun rid' f => if s.fundsFor x rid' then f.burst.get d else 0) hf]
    have hpos := hnn rid f hf d
    split <;> omega

end Sum

/-! ## Whole runs -/

/-- The calls that make and end reservations. -/
def isReserving : Call → Bool
  | .reserve .. => true
  | .release .. => true
  | _ => false

theorem isCore_of_isReserving {c : Call} (h : isReserving c = true) : c.isCore = true := by
  cases c <;> first | rfl | cases h

def reservingCall (s : Engine) (c : Env × Call) : Prop :=
  isReserving c.2 = true ∧ FreshIds c.1 s ∧ c.2.amount.NonNeg

instance (s : Engine) (c : Env × Call) : Decidable (reservingCall s c) :=
  inferInstanceAs (Decidable (_ ∧ _ ∧ _))

/-- Whatever an accepted request is charged fits beside the burst of the tenant's live
    reservations. -/
def BurstFits (s : Engine) (c : Env × Call) : Prop :=
  match c.2 with
  | .reserve t req auth => Accepted c.1 s t req auth →
      ∀ d, 0 < burstNeed c.1 (s.effectiveLattice t) (s.committed t) req d →
        s.burstSum t d + burstNeed c.1 (s.effectiveLattice t) (s.committed t) req d ≤ s.burstLimitOf t d
  | _ => True

instance (s : Engine) (c : Env × Call) : Decidable (s.BurstFits c) := by
  apply Call.casesOn (motive := fun call => Decidable (s.BurstFits (c.1, call))) c.2 <;> intros <;> unfold BurstFits <;> infer_instance

/-- Burst funding and counters are within the limits. -/
structure BurstInv (s₀ s : Engine) : Prop where
  config : SameConfig s₀ s
  nonNeg : ∀ rid f, s.funding.lookup rid = some f → f.burst.NonNeg
  sum : ∀ t d, s.burstSum t d ≤ s.burstLimitOf t d
  counter : ∀ t d, (s.usageOf t).burst.get d ≤ s.burstLimitOf t d

section Step

variable {env : Env} {s₀ s s' : Engine}

/-- A resynchronised counter is at most the sum. -/
theorem SyncedAt.burst_le {t : TenantId} (h : SyncedAt env s t)
    (hnn : ∀ rid f, s.funding.lookup rid = some f → f.burst.NonNeg)
    (hsum : ∀ d, s.burstSum t d ≤ s.burstLimitOf t d) (d : ResourceDimension) :
    (s.usageOf t).burst.get d ≤ s.burstLimitOf t d := by
  rcases h.burst with hb | hb
  · rw [hb]
    exact (computedBurst_le hnn t d).trans (hsum d)
  · rw [hb]
    exact burstLimitOf_nonneg s t d

theorem BurstInv.keep (h : BurstInv s₀ s) (hframe : LoanFrame s s') : BurstInv s₀ s' where
  config := h.config.trans hframe.config
  nonNeg := by rw [hframe.funding]; exact h.nonNeg
  sum t d := by
    rw [burstSum_congr hframe.ledger, hframe.config.burstLimitOf]
    exact h.sum t d
  counter t d := by
    rw [(hframe.counters t).2.2, hframe.config.burstLimitOf]
    exact h.counter t d

theorem BurstInv.admit {t : TenantId} {req : ResourceVector} {auth : Authority} {st : Draw}
    (h : BurstInv s₀ s) (hfresh : FreshIds env s) (hfits : s.BurstFits (env, .reserve t req auth))
    (hadm : Admitted env s t req auth st s') : BurstInv s₀ s' := by
  obtain ⟨e, hent, hres⟩ := hadm.recorded
  have hframe := hadm.loans.frame
  have hconfig : SameConfig s s' := (hframe.config.trans hent.config).trans hres.config
  have hcharge := get_fundLoop_burst hadm.funded
  have hfund : s'.funding = s.funding.insert env.reservationId _ := congrArg Ledger.funding hadm.ledger
  have hnn : ∀ rid f, s'.funding.lookup rid = some f → f.burst.NonNeg := by
    rw [hfund]
    refine forall_lookup_insert h.nonNeg fun d => ?_
    show 0 ≤ st.burst.get d
    rw [hcharge]
    exact burstNeed_nonneg ..
  have hsum : ∀ x d, s'.burstSum x d ≤ s'.burstLimitOf x d := by
    intro x d
    have hold := h.sum x d
    rw [hadm.burstSum hfresh, hconfig.burstLimitOf]
    split
    · rename_i htx
      subst htx
      rw [hcharge]
      by_cases hpos : 0 < burstNeed env (s.effectiveLattice t) (s.committed t) req d
      · have hroom : s.burstSum t d + burstNeed env (s.effectiveLattice t) (s.committed t) req d ≤
            s.burstLimitOf t d := hfits hadm.accepted d hpos
        omega
      · omega
    · omega
  refine ⟨h.config.trans hconfig, hnn, hsum, fun x d => ?_⟩
  by_cases hx : x = t
  · subst hx
    exact (hres.synced x List.mem_cons_self).burst_le hnn (hsum x) d
  · have hsame : (s'.usageOf x).burst = (s.usageOf x).burst := by
      rw [hres.other x (by simpa using hx), (hent.counters x).2.2.2.2]
      exact (hframe.counters x).2.2
    rw [hsame, hconfig.burstLimitOf]
    exact h.counter x d

theorem BurstInv.drop {rid : ReservationId} {bids : List BorrowId} {t : TenantId} (h : BurstInv s₀ s)
    (hsync : Resynced env (((s.setStatus rid .released).returnAll env bids).dropReservation rid) s' [t]) :
    BurstInv s₀ s' := by
  have hframe := returnAll_frame env (s.setStatus rid .released) bids
  have hconfig : SameConfig s s' := by
    have hset : SameConfig s (s.setStatus rid .released) := ⟨rfl, rfl, rfl, rfl, rfl, rfl, rfl⟩
    have hdrop : SameConfig ((s.setStatus rid .released).returnAll env bids)
        (((s.setStatus rid .released).returnAll env bids).dropReservation rid) :=
      ⟨rfl, rfl, rfl, rfl, rfl, rfl, rfl⟩
    exact ((hset.trans hframe.config).trans hdrop).trans hsync.config
  have hledger := hsync.ledger.trans (release_ledger env s rid bids)
  have hnn : ∀ rid f, s'.funding.lookup rid = some f → f.burst.NonNeg := by
    rw [show s'.funding = s.funding.erase rid from congrArg Ledger.funding hledger]
    exact forall_lookup_erase h.nonNeg
  have hsum : ∀ x d, s'.burstSum x d ≤ s'.burstLimitOf x d := by
    intro x d
    rw [burstSum_congr hledger, hconfig.burstLimitOf]
    exact (burstSum_dropReservation h.nonNeg rid x d).trans (h.sum x d)
  refine ⟨h.config.trans hconfig, hnn, hsum, fun x d => ?_⟩
  by_cases hx : x = t
  · subst hx
    exact (hsync.synced x List.mem_cons_self).burst_le hnn (hsum x) d
  · have hsame : (s'.usageOf x).burst = (s.usageOf x).burst := by
      rw [hsync.other x (by simpa using hx)]
      exact (hframe.counters x).2.2
    rw [hsame, hconfig.burstLimitOf]
    exact h.counter x d

theorem after_burstInv {c : Env × Call} (hc : reservingCall s c ∧ s.BurstFits c) (h : BurstInv s₀ s) :
    BurstInv s₀ (s.after c) := by
  obtain ⟨env, c⟩ := c
  obtain ⟨⟨hkind, hfresh, hamount⟩, hfits⟩ := hc
  cases c with
  | reserve t req auth =>
    show BurstInv s₀ (s.reserve env t req auth).2
    rcases reserve_cases hfresh.toFreshLoans t req auth with hsame | ⟨st, hback⟩ | ⟨st, hadm⟩
    · rw [hsame]; exact h
    · exact h.keep hback.frame
    · exact h.admit hfresh hfits hadm
  | release rid auth =>
    show BurstInv s₀ (s.release env rid auth).2
    unfold release
    split
    · exact h
    split
    · exact h
    split
    · exact h
    · exact h.drop (((Resynced.refl env _).sync 0 _).emit _ _ _)
  | _ => cases hkind

end Step

/-- **Burst stays within the burst limit**, in runs in which every charge fits. -/
theorem burst_within_limit {s₀ s : Engine} {l : List (Env × Call)} (hstart : Configured s₀)
    (hrun : Run Engine.after (fun s c => reservingCall s c ∧ s.BurstFits c) s₀ l s) (t : TenantId)
    (d : ResourceDimension) : (s.usageOf t).burst.get d ≤ s.burstLimitOf t d := by
  have hinv : BurstInv s₀ s := by
    refine hrun.invariant (I := BurstInv s₀) ⟨.refl s₀, ?_, fun t d => ?_, fun t d => ?_⟩
      fun _ _ h hc => after_burstInv hc h
    · rw [hstart.funding]
      exact fun rid f hf => by cases hf
    · unfold burstSum
      rw [hstart.funding]
      exact burstLimitOf_nonneg s₀ t d
    · rw [hstart.usageOf]
      exact burstLimitOf_nonneg s₀ t d
  exact hinv.counter t d

/-- A tenant with a soft limit of 10, a hard limit of 100 and a burst limit of 5 for an hour. -/
def burstingTenant : Engine :=
  { tenants := (∅ : UMap TenantId Tenant).insert cappedTenant { id := cappedTenant }
    localQuota := (∅ : UMap TenantId ResourceQuota).insert cappedTenant
      { softLimit := .fromScalar .acceleratorVRAM 10
        hardLimit := .fromScalar .acceleratorVRAM 100
        burstLimit := .fromScalar .acceleratorVRAM 5
        burstRule := { window := 3600, cooldown := 60 } } }

/-- Reserve an amount at a given time. -/
def reserveAt (n : UInt64) (time : Nanos) (amount : Int) : Env × Call :=
  ({ Env.numbered n with now := time, burstAt := fun _ => time, syncAt := fun _ => time },
    .reserve cappedTenant (.fromScalar .acceleratorVRAM amount) firstAuthority)

theorem burst_within_limit_fits :
    (([reserveAt 1 0 15].foldl Engine.after burstingTenant).usageOf cappedTenant).burst.get
        .acceleratorVRAM = 5 ∧
    (([reserveAt 1 0 15].foldl Engine.after burstingTenant).usageOf cappedTenant).burst.get
        .acceleratorVRAM ≤
      ([reserveAt 1 0 15].foldl Engine.after burstingTenant).burstLimitOf cappedTenant .acceleratorVRAM :=
  ⟨by decide +kernel, burst_within_limit ⟨rfl, rfl, rfl, rfl, rfl, rfl⟩
    (Run.of_check _ _ (by decide +kernel)) cappedTenant .acceleratorVRAM⟩

/-- **A request above the soft limit is charged whatever it asks for**: 40, where 5 are allowed. -/
theorem burst_over_limit :
    Configured burstingTenant ∧
    Run Engine.after reservingCall burstingTenant [reserveAt 1 0 50]
      ([reserveAt 1 0 50].foldl Engine.after burstingTenant) ∧
    ¬ (([reserveAt 1 0 50].foldl Engine.after burstingTenant).usageOf cappedTenant).burst.get
        .acceleratorVRAM ≤
      ([reserveAt 1 0 50].foldl Engine.after burstingTenant).burstLimitOf cappedTenant .acceleratorVRAM :=
  ⟨⟨rfl, rfl, rfl, rfl, rfl, rfl⟩, Run.of_check _ _ (by decide +kernel), by decide +kernel⟩

end Engine

end QuotaFabric
