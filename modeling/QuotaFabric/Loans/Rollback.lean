import QuotaFabric.Engine.Trace

/-!
# What a failed reserve leaves behind

`reserve` borrows dimension by dimension.  When a dimension finds no lender it hands the loans it
has already drawn to `return_borrow`, which marks them as returned: the borrow records and the
lending records stay, and so does the amount in the lenders' counters.

* `NoTrace` — counters and records are the same;
* `needsLoan`, `lenderFor` — the dimensions to borrow on and the lender of each, read in the state
  before the call;
* `SameOffers` — loans on other dimensions do not change who can lend on `d`;
* `FirstLoanDecides` — if the first dimension that needs a loan finds a lender, all of them do;
* `failed_reserve_leaves_no_trace_iff` — a failed `reserve` leaves no trace exactly then;
* `rolled_back_reserve_leaves_records` — a run to a state where it does leave one.
-/

set_option autoImplicit false

namespace QuotaFabric

open AList

namespace Engine

/-- All counters and all records are the same. -/
structure NoTrace (s s' : Engine) : Prop where
  counters : ∀ x, s'.usageOf x = s.usageOf x
  reservations : s'.reservations = s.reservations
  funding : s'.funding = s.funding
  allocations : s'.allocations = s.allocations
  borrows : s'.borrows = s.borrows
  lends : s'.lends = s.lends

theorem NoTrace.refl (s : Engine) : NoTrace s s := ⟨fun _ => rfl, rfl, rfl, rfl, rfl, rfl⟩

/-- If `reserve` fails, nothing has changed. -/
def LeavesNoTrace (env : Env) (s : Engine) (t : TenantId) (req : ResourceVector) (auth : Authority) :
    Prop :=
  (s.reserve env t req auth).1.status.ok = false → NoTrace s (s.reserve env t req auth).2

/-- The amount `reserve` has to borrow on `d`. -/
def loanNeeded (s : Engine) (t : TenantId) (req : ResourceVector) (d : ResourceDimension) : Int :=
  borrowNeed (s.effectiveLattice t) (s.committed t) req d

/-- The dimensions `reserve` has to borrow on, in the order it visits them. -/
def needsLoan (s : Engine) (t : TenantId) (req : ResourceVector) : List ResourceDimension :=
  allResourceDimensions.filter fun d => decide (0 < s.loanNeeded t req d)

/-- The lender that `s` offers for `d`. -/
def lenderFor (env : Env) (s : Engine) (t : TenantId) (req : ResourceVector) (d : ResourceDimension) :
    Option TenantId :=
  s.chooseLender env t (.fromScalar d (s.loanNeeded t req d))

/-- If the first dimension that needs a loan finds a lender, all of them do. -/
def FirstLoanDecides (env : Env) (s : Engine) (t : TenantId) (req : ResourceVector) : Prop :=
  ∀ d, (s.needsLoan t req).head? = some d → (s.lenderFor env t req d).isSome = true →
    ∀ e ∈ s.needsLoan t req, (s.lenderFor env t req e).isSome = true

/-! ## The outcome of `reserve` -/

section Outcome

variable {env : Env} {s : Engine} {t : TenantId} {req : ResourceVector} {auth : Authority}

/-- A `reserve` that is refused before it draws anything changes nothing. -/
theorem reserve_of_refused (h : ¬ Accepted env s t req auth) : (s.reserve env t req auth).2 = s := by
  unfold reserve
  split
  · rfl
  split
  · rfl
  split
  · rfl
  rename_i hauth
  split
  · rfl
  rename_i hten
  simp only
  split
  · rfl
  rename_i hall
  exact absurd ⟨by simpa using hauth, by simpa using hten, by simpa using hall⟩ h

/-- An accepted `reserve` is decided by its funding loop. -/
theorem reserve_of_accepted (h : Accepted env s t req auth) :
    s.reserve env t req auth =
      match fundLoop env (s.effectiveLattice t) (s.committed t) t req allResourceDimensions
        { engine := s.modifyUsage t id } with
      | .error (q, s₂) => (.error q, s₂)
      | .ok st =>
        (.ok (recordReservation env (s.effectiveLattice t) t req auth st).1,
          (recordReservation env (s.effectiveLattice t) t req auth st).2) := by
  have hcb : (s.modifyUsage t id).committed t = s.committed t := by
    unfold committed
    rw [usageOf_modifyUsage_id]
  have hv := h.authority
  unfold validAuthority at hv
  simp only [Bool.and_eq_true, beq_iff_eq] at hv
  unfold reserve
  rw [if_neg (by simp [staleEpoch, hv.1.1]), if_neg (by simp [staleQuotaGen, hv.1.2]),
    if_neg (by simp [h.authority]), if_neg (by simp [h.tenant])]
  simp only
  rewrite [if_neg (by simp [h.allowed]), hcb]
  rfl

end Outcome

/-! ## Offers of other dimensions -/

/-- Nothing that decides who can lend on the dimensions `ds` differs. -/
structure SameOffers (s s' : Engine) (ds : List ResourceDimension) : Prop where
  frame : LoanFrame s s'
  lent : ∀ d ∈ ds, ∀ x, (s'.usageOf x).lent.get d = (s.usageOf x).lent.get d

theorem SameOffers.chooseLender {env : Env} {s s' : Engine} {ds : List ResourceDimension}
    (h : SameOffers s s' ds) {d : ResourceDimension} (hd : d ∈ ds) (t : TenantId) (x : Int) :
    s'.chooseLender env t (.fromScalar d x) = s.chooseLender env t (.fromScalar d x) := by
  have hcom : ∀ y, s'.committed y = s.committed y := by
    intro y
    unfold committed
    rw [(h.frame.counters y).1, (h.frame.counters y).2.1]
  have havail : ∀ y, s'.availableToLend y d = s.availableToLend y d := by
    intro y
    unfold availableToLend
    simp only [h.frame.config.effectiveLattice, hcom, h.lent d hd]
  have hcan : ∀ y, s'.canLend y (.fromScalar d x) = s.canLend y (.fromScalar d x) := by
    intro y
    unfold canLend
    congr 1
    funext e
    by_cases he : e = d
    · subst he
      rw [h.frame.config.effectiveLattice, havail]
    · -- no other dimension is asked for
      have habs : (ResourceVector.fromScalar d x).present e = false := by
        unfold ResourceVector.fromScalar ResourceVector.set
        split
        · rfl
        · rw [SparseVec.present_put_ne _ _ he]; rfl
      simp [habs]
  unfold Engine.chooseLender
  simp only [h.frame.config.tenants, hcan]

/-- A loan on `d` leaves the offers on the other dimensions. -/
theorem SameOffers.openLoan {env : Env} {s s' : Engine} {d : ResourceDimension}
    {ds : List ResourceDimension} (h : SameOffers s s' (d :: ds)) (hd : d ∉ ds)
    (lender borrower : TenantId) (x : Int) :
    SameOffers s (s'.openLoan env d lender borrower (.fromScalar d x) none) ds where
  frame := h.frame.trans (openLoan_frame ..)
  lent e he y := by
    have hed : e ≠ d := by rintro rfl; exact hd he
    rw [← h.lent e (List.mem_cons_of_mem d he) y, usageOf_openLoan]
    simp only
    split
    · have hzero := ResourceVector.get_fromScalar_ne (x := x) hed
      rcases ResourceVector.accum_get (s'.usageOf y).lent (.fromScalar d x) e with hg | ⟨hg, -⟩
      · exact hg
      · rw [hg, hzero, add_zero]
    · rfl

/-! ## The funding loop -/

section Loop

variable {env : Env} {s : Engine} {t : TenantId} {req : ResourceVector}

/-- One dimension that goes through: it needed no loan, or it had a lender from the start. -/
theorem fundDimension_drawn {d : ResourceDimension} {rest : List ResourceDimension} {st st' : Draw}
    (hd : d ∉ rest) (h : SameOffers s st.engine (d :: rest))
    (hok : fundDimension env (s.effectiveLattice t) (s.committed t) t req st d = .ok st') :
    SameOffers s st'.engine rest ∧
      (0 < s.loanNeeded t req d → (s.lenderFor env t req d).isSome = true) ∧
      st'.borrowIds = st.borrowIds ++
        ([d].filter fun e => decide (0 < s.loanNeeded t req e)).map env.borrowId := by
  rcases fundDimension_cases env (s.effectiveLattice t) (s.committed t) t req st d with
    ⟨hno, burst, heq, -⟩ | ⟨hpos, -, -, ⟨lender, burst, hl, heq, -⟩ | ⟨-, q, heq⟩⟩
  · rw [heq] at hok
    cases hok
    have hskip : ¬ 0 < s.loanNeeded t req d := by
      show ¬ 0 < borrowNeed (s.effectiveLattice t) (s.committed t) req d
      omega
    exact ⟨⟨h.frame, fun e he => h.lent e (List.mem_cons_of_mem d he)⟩, fun hneed => absurd hneed hskip,
      by simp [hskip]⟩
  · rw [heq] at hok
    cases hok
    have hneeded : 0 < s.loanNeeded t req d := hpos
    refine ⟨h.openLoan hd lender t _, fun _ => ?_, by simp [hneeded]⟩
    rw [h.chooseLender List.mem_cons_self] at hl
    exact Option.isSome_iff_exists.mpr ⟨lender, hl⟩
  · rw [heq] at hok; cases hok

/-- Where the funding loop gets through, every dimension that needs a loan had a lender from the
    start, and the loans drawn are exactly those. -/
theorem fundLoop_drawn : ∀ (ds post : List ResourceDimension) (st st' : Draw), (ds ++ post).Nodup →
    SameOffers s st.engine (ds ++ post) →
    fundLoop env (s.effectiveLattice t) (s.committed t) t req ds st = .ok st' →
    SameOffers s st'.engine post ∧
      (∀ e ∈ ds, 0 < s.loanNeeded t req e → (s.lenderFor env t req e).isSome = true) ∧
      st'.borrowIds = st.borrowIds ++
        (ds.filter fun e => decide (0 < s.loanNeeded t req e)).map env.borrowId
  | [], post, st, st', _, h, hok => by
    cases hok
    exact ⟨h, fun e he => absurd he List.not_mem_nil, by simp⟩
  | d :: ds, post, st, st', hnd, h, hok => by
    obtain ⟨hne, hnd'⟩ := List.nodup_cons.mp hnd
    unfold fundLoop at hok
    split at hok
    · cases hok
    rename_i st₁ hd
    obtain ⟨hoff, hlend, hids⟩ := fundDimension_drawn hne h hd
    obtain ⟨h1, h2, h3⟩ := fundLoop_drawn ds post st₁ st' hnd' hoff hok
    refine ⟨h1, fun e he hneed => ?_, ?_⟩
    · rcases List.mem_cons.mp he with rfl | he
      · exact hlend hneed
      · exact h2 e he hneed
    · rw [h3, hids, List.append_assoc, ← List.map_append, ← List.filter_append]
      rfl

/-- What the funding loop reports on failure is a failure. -/
theorem fundDimension_error_status {eff : ResourceQuota} {cb : ResourceVector} {st : Draw}
    {d : ResourceDimension} {e : QuotaStatus × Engine}
    (h : fundDimension env eff cb t req st d = .error e) : e.1.ok = false := by
  unfold fundDimension at h
  split at h
  · cases h
  simp only at h
  split at h
  · split at h
    · cases h; rfl
    · cases h
  · cases h

theorem sameOffers_start : SameOffers s (s.modifyUsage t id) allResourceDimensions :=
  ⟨(LoanStep.touched s t : LoanStep {} (fun _ => False) _ _).frame, fun d _ x => by
    rw [usageOf_modifyUsage_id]⟩

/-- The funding loop fails at a dimension that has no lender, after it drew the loans of the
    dimensions before. -/
theorem fundLoop_stuck {e : QuotaStatus × Engine}
    (herr : fundLoop env (s.effectiveLattice t) (s.committed t) t req allResourceDimensions
      { engine := s.modifyUsage t id } = .error e) :
    ∃ pre d post st, allResourceDimensions = pre ++ d :: post ∧
      fundLoop env (s.effectiveLattice t) (s.committed t) t req pre
        { engine := s.modifyUsage t id } = .ok st ∧
      0 < s.loanNeeded t req d ∧ s.lenderFor env t req d = none ∧
      (∀ x ∈ pre, 0 < s.loanNeeded t req x → (s.lenderFor env t req x).isSome = true) ∧
      st.borrowIds = (pre.filter fun x => decide (0 < s.loanNeeded t req x)).map env.borrowId ∧
      e.2 = st.engine.returnAll env st.borrowIds ∧ e.1.ok = false := by
  obtain ⟨pre, d, post, st, hds, hpre, hd⟩ := fundLoop_error _ _ herr
  have hnd := allResourceDimensions_nodup
  have hstart := sameOffers_start (s := s) (t := t)
  rw [hds] at hnd hstart
  have hst := fundDimension_error_status hd
  obtain ⟨h1, h2, h3⟩ := fundLoop_drawn pre (d :: post) _ st hnd hstart hpre
  rcases fundDimension_cases env (s.effectiveLattice t) (s.committed t) t req st d with
    ⟨-, burst, heq, -⟩ | ⟨hpos, -, -, ⟨lender, burst, -, heq, -⟩ | ⟨hnone, q, heq⟩⟩
  · rw [heq] at hd; cases hd
  · rw [heq] at hd; cases hd
  · rw [heq] at hd
    cases hd
    refine ⟨pre, d, post, st, hds, hpre, hpos, ?_, h2, by simpa using h3, rfl, hst⟩
    rw [h1.chooseLender List.mem_cons_self] at hnone
    exact hnone

/-- The first of the dimensions to borrow on lies before the one that fails, if any does. -/
theorem needsLoan_head? {pre post : List ResourceDimension} {d : ResourceDimension}
    (hds : allResourceDimensions = pre ++ d :: post) (hd : 0 < s.loanNeeded t req d) :
    (s.needsLoan t req).head? =
      some (((pre.filter fun x => decide (0 < s.loanNeeded t req x)).head?).getD d) := by
  unfold needsLoan
  rw [hds, List.filter_append, List.filter_cons_of_pos (by simpa using hd)]
  cases pre.filter fun x => decide (0 < s.loanNeeded t req x) <;> rfl

end Loop

/-! ## Main result -/

section Main

variable {env : Env} {s : Engine} {t : TenantId} {req : ResourceVector} {auth : Authority}

/-- A loan drawn before the failure is still on record afterwards. -/
theorem drawn_stays {pre : List ResourceDimension} {d : ResourceDimension}
    {post : List ResourceDimension} {st : Draw} (hfresh : FreshLoans env s)
    (hds : allResourceDimensions = pre ++ d :: post)
    (hpre : fundLoop env (s.effectiveLattice t) (s.committed t) t req pre
      { engine := s.modifyUsage t id } = .ok st) {bid : BorrowId} (hbid : bid ∈ st.borrowIds) :
    bid ∉ s.borrows ∧ bid ∈ (st.engine.returnAll env st.borrowIds).borrows := by
  have hstart := fundInv_start hfresh t
  rw [hds] at hstart
  obtain ⟨hnew, hin⟩ := (fundInv_ok hfresh hstart hpre).drawn bid hbid
  have hback : LoanSteps env (fun b => b ∈ st.borrowIds) st.engine
      (st.engine.returnAll env st.borrowIds) := returnAll_loanSteps _ _ fun _ hb => hb
  exact ⟨hnew, hback.mem_borrows hin⟩

/-- Without a loan the failing loop has changed nothing. -/
theorem undrawn_leaves_no_trace {pre : List ResourceDimension} {d : ResourceDimension}
    {post : List ResourceDimension} {st : Draw} (hfresh : FreshLoans env s)
    (hds : allResourceDimensions = pre ++ d :: post)
    (hpre : fundLoop env (s.effectiveLattice t) (s.committed t) t req pre
      { engine := s.modifyUsage t id } = .ok st) (hnil : st.borrowIds = []) :
    NoTrace s (st.engine.returnAll env st.borrowIds) := by
  have hstart := fundInv_start hfresh t
  rw [hds] at hstart
  obtain ⟨t', heq⟩ := (fundInv_ok hfresh hstart hpre).undrawn hnil
  rw [hnil, heq]
  exact ⟨fun x => usageOf_modifyUsage_id s t' x, rfl, rfl, rfl, rfl, rfl⟩

/-- **A failed `reserve` leaves no trace exactly when it fails before its first loan.** -/
theorem failed_reserve_leaves_no_trace_iff (hfresh : FreshLoans env s) :
    LeavesNoTrace env s t req auth ↔ (Accepted env s t req auth → FirstLoanDecides env s t req) := by
  constructor
  · intro hclean hacc d₀ hhead hlender e he
    by_contra hno
    unfold LeavesNoTrace at hclean
    rw [reserve_of_accepted hacc] at hclean
    obtain ⟨-, hneed⟩ := List.mem_filter.mp he
    cases hloop : fundLoop env (s.effectiveLattice t) (s.committed t) t req allResourceDimensions
        { engine := s.modifyUsage t id } with
    | ok st =>
      have hnd := allResourceDimensions_nodup
      have hstart := sameOffers_start (s := s) (t := t)
      rw [← List.append_nil allResourceDimensions] at hnd hstart
      obtain ⟨-, hall, -⟩ := fundLoop_drawn _ [] _ st hnd hstart hloop
      exact hno (hall e (mem_allResourceDimensions e) (by simpa using hneed))
    | error err =>
      obtain ⟨q, s₂⟩ := err
      obtain ⟨pre, d, post, st, hds, hpre, hd, hnone, -, hids, hres, hq⟩ := fundLoop_stuck hloop
      rw [hloop] at hclean
      have hb := (hclean hq).borrows
      rw [needsLoan_head? hds hd] at hhead
      -- the failing dimension has no lender, so the first loan was drawn before it
      cases hpf : pre.filter fun x => decide (0 < s.loanNeeded t req x) with
      | nil =>
        rw [hpf] at hhead
        have hfirst : d = d₀ := Option.some.inj hhead
        rw [← hfirst, hnone] at hlender
        cases hlender
      | cons x xs =>
        have hmem : env.borrowId x ∈ st.borrowIds := by rw [hids, hpf]; simp
        obtain ⟨hnew, hin⟩ := drawn_stays hfresh hds hpre hmem
        have hs₂ : s₂ = st.engine.returnAll env st.borrowIds := hres
        rw [← hs₂] at hin
        rw [show s₂.borrows = s.borrows from hb] at hin
        exact hnew hin
  · intro hcond hfail
    by_cases hacc : Accepted env s t req auth
    · have hfirst := hcond hacc
      rw [reserve_of_accepted hacc] at hfail ⊢
      cases hloop : fundLoop env (s.effectiveLattice t) (s.committed t) t req allResourceDimensions
          { engine := s.modifyUsage t id } with
      | ok st =>
        rw [hloop] at hfail
        cases hfail
      | error err =>
        obtain ⟨q, s₂⟩ := err
        obtain ⟨pre, d, post, st, hds, hpre, hd, hnone, hlend, hids, hres, -⟩ := fundLoop_stuck hloop
        have hneed : d ∈ s.needsLoan t req :=
          List.mem_filter.mpr ⟨mem_allResourceDimensions d, by simpa using hd⟩
        cases hpf : pre.filter fun x => decide (0 < s.loanNeeded t req x) with
        | nil =>
          show NoTrace s s₂
          rw [show s₂ = st.engine.returnAll env st.borrowIds from hres]
          exact undrawn_leaves_no_trace hfresh hds hpre (by rw [hids, hpf]; rfl)
        | cons x xs =>
          have hx : x ∈ pre.filter fun x => decide (0 < s.loanNeeded t req x) := by rw [hpf]; simp
          obtain ⟨hxp, hxn⟩ := List.mem_filter.mp hx
          have hhead : (s.needsLoan t req).head? = some x := by
            rw [needsLoan_head? hds hd, hpf]; rfl
          have hcontra := hfirst x hhead (hlend x hxp (by simpa using hxn)) d hneed
          rw [hnone] at hcontra
          cases hcontra
    · rw [reserve_of_refused hacc]
      exact .refl s

end Main

/-! ## A trace -/

/-- Two tenants: one with hard limits of 10 on two dimensions, one that lends on the first only. -/
def limitedAndLender : List (Env × Call) :=
  [(.numbered 1, .createTenant cappedTenant (text "capped") none 100),
   (.numbered 2, .createTenant lendingTenant (text "lender") none 100),
   (.numbered 3, .setTenantQuota cappedTenant
      { hardLimit := (SparseVec.empty.put .acceleratorVRAM 10).put .pageableHostRAM 10 }),
   (.numbered 4, .setTenantQuota lendingTenant
      { guaranteed := .fromScalar .acceleratorVRAM 100
        borrowable := .fromScalar .acceleratorVRAM 60 })]

/-- The engine after these calls. -/
def limitedEngine : Engine := limitedAndLender.foldl Engine.after {}

/-- A request for 15 on both limited dimensions. -/
def overBothLimits : ResourceVector := (SparseVec.empty.put .acceleratorVRAM 15).put .pageableHostRAM 15

/-- The authority after two quota changes. -/
def thirdGeneration : Authority := { epoch := .initial, quotaGeneration := ⟨3⟩ }

theorem limitedEngine_fresh : FreshIds (.numbered 5) limitedEngine := by decide +kernel

/-- **In a state reached by four calls, a failed `reserve` leaves a borrow record behind.** -/
theorem rolled_back_reserve_leaves_records :
    Run Engine.after (fun s c => FreshIds c.1 s) {} limitedAndLender limitedEngine ∧
      ¬ LeavesNoTrace (.numbered 5) limitedEngine cappedTenant overBothLimits thirdGeneration := by
  have hrun : Run Engine.after (fun s c => FreshIds c.1 s) {} limitedAndLender
      (limitedAndLender.foldl Engine.after {}) := Run.of_check _ _ (by decide +kernel)
  refine ⟨hrun, fun h => ?_⟩
  have hfail : (limitedEngine.reserve (.numbered 5) cappedTenant overBothLimits
      thirdGeneration).1.status.ok = false := by decide +kernel
  have hleft : (limitedEngine.reserve (.numbered 5) cappedTenant overBothLimits
      thirdGeneration).2.borrows.entries.length = 1 := by decide +kernel
  rw [(h hfail).borrows] at hleft
  exact absurd hleft (by decide +kernel)

/-- A request that fails at its first loan, in the same state. -/
theorem failed_reserve_leaves_no_trace_hostRAM :
    LeavesNoTrace (.numbered 5) limitedEngine cappedTenant (.fromScalar .pageableHostRAM 15)
      thirdGeneration := by
  refine (failed_reserve_leaves_no_trace_iff limitedEngine_fresh.toFreshLoans).mpr fun _ => ?_
  intro d hd hsome
  have hfirst : (limitedEngine.needsLoan cappedTenant (.fromScalar .pageableHostRAM 15)).head? =
      some .pageableHostRAM := by decide +kernel
  rw [hfirst] at hd
  cases hd
  have hnone : (limitedEngine.lenderFor (.numbered 5) cappedTenant (.fromScalar .pageableHostRAM 15)
      .pageableHostRAM).isSome = false := by decide +kernel
  rw [hnone] at hsome
  cases hsome

end Engine

end QuotaFabric
