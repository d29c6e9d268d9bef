import QuotaFabric.Engine.State

/-!
# Decisions, compliance and envelopes

Model of `Impl::classify`, `compute_compliance`, `compute_envelope` and of the public queries
built on them.

`classify` walks the dimensions and keeps the most restrictive verdict so far (`Scan`).  One
dimension's verdict is `dimensionCode`; `scanDimension` is the loop body, explanation lines
included.

Principal results: `rank_scan_le_iff` — the final rank is at most `k` exactly when every requested
dimension's verdict is; `classify_allowed_iff` — a request is allowed exactly when it is empty, or
the tenant has an entitlement and each requested dimension is allowed.
-/

set_option autoImplicit false

namespace QuotaFabric

/-- Ranking for "most restrictive wins". -/
def rankOf : DecisionCode → Nat
  | .denyPhysical => 21
  | .denyParent => 20
  | .denyHard => 19
  | .denySoft => 18
  | .defer => 17
  | .allowBorrow => 16
  | .allowBurst => 15
  | .allow => 14
  | .allowGuaranteed => 13
  | .recallRequired => 22
  | .reclaimRequired => 23

/-- Loop state of `classify`. -/
structure Scan where
  bestRank : Nat := rankOf .allowGuaranteed
  bestCode : DecisionCode := .allowGuaranteed
  limitDim : Option ResourceDimension := none
  lines : Explanation := []

namespace Scan

/-- Take over a more restrictive code; `note` is explained only when it is taken over. -/
def raise (sc : Scan) (code : DecisionCode) (d : ResourceDimension) (note : Explanation) : Scan :=
  if rankOf code > sc.bestRank then
    { bestRank := rankOf code, bestCode := code, limitDim := some d, lines := sc.lines ++ note }
  else sc

end Scan

def firstPresent (v : ResourceVector) : Option ResourceDimension :=
  allResourceDimensions.find? fun d => v.present d

namespace Engine

/-- Every ancestor with a hard limit on `d` can take `amt` more. -/
def parentHardOk (env : Env) (s : Engine) (t : TenantId) (d : ResourceDimension) (amt : Int) : Bool :=
  (s.ancestorGroups t).all fun g =>
    match s.groupQuota.lookup g with
    | none => true
    | some q =>
      !(q.hardLimit.present d &&
        decide (satAdd ((s.subtreeCommitted env g).get d) amt > q.hardLimit.get d))

/-- Every ancestor with a guarantee on `d` has room for `part` more in its guarantee pool. -/
def poolOk (env : Env) (s : Engine) (t : TenantId) (d : ResourceDimension) (part : Int) : Bool :=
  (s.ancestorGroups t).all fun g =>
    match s.groupQuota.lookup g with
    | none => true
    | some q =>
      !(q.guaranteed.present d &&
        decide (satAdd ((s.poolUsed env g).get d) part > q.guaranteed.get d))

/-- Committed amount on `d` after the request: `new_use` and `new_committed`. -/
def newCommitted (s : Engine) (t : TenantId) (req : ResourceVector) (d : ResourceDimension) : Int :=
  satAdd (s.currentCommittedScalar t d (s.committed t)) (req.get d)

/-- `total_for_phys`. -/
def totalForPhys (s : Engine) (t : TenantId) (req : ResourceVector) (d : ResourceDimension) : Int :=
  satAdd (satAdd (s.newCommitted t req d) ((s.usageOf t).borrowedConsumed.get d))
    ((s.usageOf t).burst.get d)

/-- Verdict on a consumable dimension. -/
def consumableCode (s : Engine) (t : TenantId) (req : ResourceVector) (d : ResourceDimension) :
    DecisionCode :=
  let eff := s.effectiveLattice t
  let newUse := s.newCommitted t req d
  if newUse ≤ guaranteeOf eff d then .allowGuaranteed
  else if newUse ≤ softOf eff d then .allow
  else if newUse ≤ hardOf eff d then .allow
  else .denyHard

/-- Verdict on a capacity dimension that passed the parent and the physical check. -/
def capacityCode (env : Env) (s : Engine) (t : TenantId) (req : ResourceVector)
    (d : ResourceDimension) : DecisionCode :=
  let eff := s.effectiveLattice t
  let nc := s.newCommitted t req d
  if nc ≤ guaranteeOf eff d ∧ s.poolOk env t d (min nc (guaranteeOf eff d)) then .allowGuaranteed
  else if nc ≤ softOf eff d then .allow
  else if nc ≤ hardOf eff d then
    if s.burstOk env d t eff then .allowBurst else .denySoft
  else if s.borrowAvailable env d then .allowBorrow
  else .denyHard

/-- Verdict on one requested dimension. -/
def dimensionCode (env : Env) (s : Engine) (t : TenantId) (req : ResourceVector)
    (d : ResourceDimension) : DecisionCode :=
  if isConsumable d then s.consumableCode t req d
  else if !s.parentHardOk env t d (req.get d) then .denyParent
  else if s.totalForPhys t req d > physicalAllowance env d (s.effectiveLattice t) then .denyPhysical
  else s.capacityCode env t req d

/-- Explanation added whatever the verdict: a consumable budget over its soft ceiling. -/
def overSoftNote (s : Engine) (t : TenantId) (req : ResourceVector) (d : ResourceDimension) :
    Explanation :=
  if isConsumable d && decide (s.newCommitted t req d > softOf (s.effectiveLattice t) d) then
    [⟨.softLimitExceeded, text "rolling " ++ resourceDimensionName d ++ text " budget over soft"⟩]
  else []

/-- Explanation added when the verdict becomes the most restrictive one. -/
def verdictNote (code : DecisionCode) (d : ResourceDimension) : Explanation :=
  match code with
  | .denyParent =>
    [⟨.parentLimitExceeded,
      text "parent quota hard limit would be exceeded on " ++ resourceDimensionName d⟩]
  | .denyPhysical =>
    [⟨.physicalCapacityMismatch,
      text "physical governed capacity would be exceeded on " ++ resourceDimensionName d⟩]
  | _ => []

/-- The loop body of `classify`. -/
def scanDimension (env : Env) (s : Engine) (t : TenantId) (req : ResourceVector) (sc : Scan)
    (d : ResourceDimension) : Scan :=
  if !req.present d then sc
  else
    let code := s.dimensionCode env t req d
    let sc := { sc with lines := sc.lines ++ s.overSoftNote t req d }
    sc.raise code d (verdictNote code d)

def scan (env : Env) (s : Engine) (t : TenantId) (req : ResourceVector) : Scan :=
  allResourceDimensions.foldl (s.scanDimension env t req) {}

/-- The parent availability snapshot: soft limits merged along the chain, minus the summed
    subtree commitments. -/
def parentAvailable (env : Env) (s : Engine) (t : TenantId) : ResourceVector :=
  let quotas := (s.ancestorGroups t).filterMap fun g => (s.groupQuota.lookup g).map fun q => (g, q)
  let parentUsed := ResourceVector.sumOf (quotas.map fun gq => s.subtreeCommitted env gq.1)
  let parentSoft := quotas.foldl (fun (soft : ResourceVector) gq =>
    ResourceVector.min (if soft.isEmpty then gq.2.softLimit else soft) gq.2.softLimit) .empty
  ResourceVector.diffClamp parentSoft parentUsed

/-- The closing explanation line. -/
def closingNote : DecisionCode → Explanation
  | .denySoft =>
    [⟨.softLimitExceeded, text "request would exceed soft quota without burst allowance"⟩]
  | .denyHard =>
    [⟨.hardLimitExceeded, text "request would exceed hard quota without borrowable capacity"⟩]
  | .allowBurst => [⟨.none, text "allowed via bounded burst"⟩]
  | .allowBorrow => [⟨.none, text "allowed via borrowing from available guarantee"⟩]
  | _ => []

def classify (env : Env) (s : Engine) (t : TenantId) (req : ResourceVector) : QuotaDecision :=
  let eff := s.effectiveLattice t
  let u := s.usageOf t
  let dec : QuotaDecision :=
    { tenant := t, requested := req, generation := s.quotaGeneration
      policyGeneration := s.policy.generation, epoch := s.epoch
      guarantee := eff.guaranteed, softLimit := eff.softLimit, hardLimit := eff.hardLimit
      burst := eff.burstLimit, currentUsage := u.consumption, reservedUsage := u.reserved
      borrowed := u.borrowedConsumed, debt := u.debt }
  if req.isEmpty then { dec with code := .allow }
  else if !hasEntitlement eff then
    { dec with
      code := .denyHard
      limitingDimension := firstPresent req
      explanation := [⟨.hardLimitExceeded, text "tenant has no configured quota entitlement"⟩] }
  else
    let sc := s.scan env t req
    { dec with
      parentAvailable := s.parentAvailable env t
      code := sc.bestCode
      limitingDimension := sc.limitDim
      explanation := sc.lines ++ closingNote sc.bestCode }

def evaluateReservation (env : Env) (s : Engine) (t : TenantId) (req : ResourceVector) :
    QuotaDecision :=
  s.classify env t req

/-! ### The most restrictive verdict -/

theorem raise_bestRank (sc : Scan) (code : DecisionCode) (d : ResourceDimension) (note : Explanation)
    (h : sc.bestRank = rankOf sc.bestCode) :
    (sc.raise code d note).bestRank = rankOf (sc.raise code d note).bestCode ∧
    (sc.raise code d note).bestRank = max sc.bestRank (rankOf code) := by
  unfold Scan.raise
  split
  · exact ⟨rfl, by simp only; omega⟩
  · exact ⟨h, by omega⟩

/-- Fold of the loop body: the final rank bounds the verdicts of all requested dimensions. -/
theorem foldl_scanDimension (env : Env) (s : Engine) (t : TenantId) (req : ResourceVector) (k : Nat) :
    ∀ (ds : List ResourceDimension) (sc : Scan), sc.bestRank = rankOf sc.bestCode →
      (ds.foldl (s.scanDimension env t req) sc).bestRank =
        rankOf (ds.foldl (s.scanDimension env t req) sc).bestCode ∧
      ((ds.foldl (s.scanDimension env t req) sc).bestRank ≤ k ↔
        sc.bestRank ≤ k ∧
          ∀ d ∈ ds, req.present d = true → rankOf (s.dimensionCode env t req d) ≤ k)
  | [], sc, h => ⟨h, by simp⟩
  | d :: ds, sc, h => by
    rw [List.foldl_cons]
    cases hp : req.present d with
    | false =>
      have hstep : s.scanDimension env t req sc d = sc := by
        unfold scanDimension; simp [hp]
      obtain ⟨h1, h2⟩ := foldl_scanDimension env s t req k ds sc h
      rw [hstep]
      refine ⟨h1, h2.trans ?_⟩
      simp [hp]
    | true =>
      obtain ⟨code, hcode⟩ : ∃ c, c = s.dimensionCode env t req d := ⟨_, rfl⟩
      obtain ⟨sc₁, hsc₁⟩ : ∃ x : Scan, x = { sc with lines := sc.lines ++ s.overSoftNote t req d } :=
        ⟨_, rfl⟩
      have hstep : s.scanDimension env t req sc d = sc₁.raise code d (verdictNote code d) := by
        unfold scanDimension
        rw [hp, hcode, hsc₁]; rfl
      have hr : sc₁.bestRank = sc.bestRank := by rw [hsc₁]
      obtain ⟨g1, g2⟩ := raise_bestRank sc₁ code d (verdictNote code d) (by rw [hsc₁]; exact h)
      obtain ⟨h1, h2⟩ := foldl_scanDimension env s t req k ds _ g1
      rw [hstep]
      refine ⟨h1, h2.trans ?_⟩
      rw [g2, hr, Nat.max_le]
      simp only [List.forall_mem_cons, hp, forall_const, ← hcode]
      tauto

/-- **The scanned rank is at most `k` exactly when every requested dimension's verdict is.** -/
theorem rank_scan_le_iff (env : Env) (s : Engine) (t : TenantId) (req : ResourceVector) {k : Nat}
    (hk : 13 ≤ k) :
    rankOf (s.scan env t req).bestCode ≤ k ↔
      ∀ d, req.present d = true → rankOf (s.dimensionCode env t req d) ≤ k := by
  obtain ⟨h1, h2⟩ := foldl_scanDimension env s t req k allResourceDimensions {} rfl
  unfold scan
  rw [← h1, h2]
  constructor
  · exact fun h d hp => h.2 d (mem_allResourceDimensions d) hp
  · exact fun h => ⟨hk, fun d _ hp => h d hp⟩

theorem allowed_iff_rank (c : DecisionCode) : c.allowed = true ↔ rankOf c ≤ 16 := by
  cases c <;> decide

/-- **A request is allowed exactly when it is empty, or the tenant has an entitlement and each
    requested dimension is allowed.** -/
theorem classify_allowed_iff (env : Env) (s : Engine) (t : TenantId) (req : ResourceVector) :
    (s.classify env t req).allowed = true ↔
      req.isEmpty = true ∨
      (hasEntitlement (s.effectiveLattice t) = true ∧
        ∀ d, req.present d = true → (s.dimensionCode env t req d).allowed = true) := by
  unfold classify QuotaDecision.allowed
  by_cases hE : req.isEmpty = true
  · simp only [hE, if_true]
    exact ⟨fun _ => Or.inl trivial, fun _ => rfl⟩
  · by_cases hH : hasEntitlement (s.effectiveLattice t) = true
    · simp only [hE, hH, Bool.false_eq_true, if_false, Bool.not_true, false_or, true_and]
      rw [allowed_iff_rank, rank_scan_le_iff env s t req (by omega)]
      exact forall_congr' fun d => imp_congr_right fun _ => (allowed_iff_rank _).symm
    · simp only [hE, hH, Bool.false_eq_true, if_false, Bool.not_false, if_true, false_or, false_and,
        iff_false, Bool.not_eq_true]
      rfl

/-- An allowed capacity dimension passed the parent check, the physical check and the cascade. -/
theorem dimensionCode_capacity {env : Env} {s : Engine} {t : TenantId} {req : ResourceVector}
    {d : ResourceDimension} (hd : isConsumable d = false)
    (h : (s.dimensionCode env t req d).allowed = true) :
    s.parentHardOk env t d (req.get d) = true ∧
    s.totalForPhys t req d ≤ physicalAllowance env d (s.effectiveLattice t) ∧
    s.dimensionCode env t req d = s.capacityCode env t req d := by
  unfold dimensionCode at *
  rw [hd] at *
  simp only [Bool.false_eq_true, if_false] at *
  split at h
  · cases h
  · rename_i hp
    split at h
    · cases h
    · rename_i hphys
      refine ⟨by simpa using hp, by omega, ?_⟩
      rw [if_neg hp, if_neg hphys]

/-- A rolling budget allows what stays within one of the three limits. -/
theorem consumableCode_allowed_iff {s : Engine} {t : TenantId} {d : ResourceDimension}
    (req : ResourceVector) :
    (s.consumableCode t req d).allowed = true ↔
      s.newCommitted t req d ≤ guaranteeOf (s.effectiveLattice t) d ∨
      s.newCommitted t req d ≤ softOf (s.effectiveLattice t) d ∨
      s.newCommitted t req d ≤ hardOf (s.effectiveLattice t) d := by
  unfold consumableCode
  simp only
  split
  · rename_i h
    exact ⟨fun _ => .inl h, fun _ => rfl⟩
  · rename_i hg
    split
    · rename_i h
      exact ⟨fun _ => .inr (.inl h), fun _ => rfl⟩
    · rename_i hs
      split
      · rename_i h
        exact ⟨fun _ => .inr (.inr h), fun _ => rfl⟩
      · rename_i hh
        constructor
        · intro h
          cases h
        · rintro (h | h | h)
          · exact absurd h hg
          · exact absurd h hs
          · exact absurd h hh

/-! ## Compliance and envelopes -/

/-- Amount the compliance and envelope loops look at. -/
def complianceScalar (s : Engine) (t : TenantId) (committed : ResourceVector)
    (d : ResourceDimension) : Int :=
  if isConsumable d then ((s.usageOf t).windows d).usage else committed.get d

/-- The recall test of `compute_compliance` on one dimension. -/
def recallNeeded (s : Engine) (t : TenantId) (eff : ResourceQuota) (committed : ResourceVector)
    (d : ResourceDimension) : Bool :=
  eff.guaranteed.present d && decide ((s.usageOf t).lent.get d > 0) &&
    decide (satAdd (s.complianceScalar t committed d) ((s.usageOf t).lent.get d) > eff.guaranteed.get d)

/-- The loop of `compute_compliance`: it returns from the middle on a recall. -/
def complianceLoop (s : Engine) (t : TenantId) (eff : ResourceQuota) (committed : ResourceVector) :
    List ResourceDimension → Bool → Bool → ComplianceState
  | [], overSoft, overHard =>
    if overHard then .overHard else if overSoft then .overSoft else .compliant
  | d :: ds, overSoft, overHard =>
    let c := s.complianceScalar t committed d
    let overHard' := overHard || decide (c > hardOf eff d)
    let overSoft' := overSoft || (!decide (c > hardOf eff d) && decide (c > softOf eff d))
    if s.recallNeeded t eff committed d then .recallRequired
    else complianceLoop s t eff committed ds overSoft' overHard'

def computeCompliance (s : Engine) (t : TenantId) (eff : ResourceQuota) (committed : ResourceVector) :
    ComplianceState :=
  s.complianceLoop t eff committed allResourceDimensions false false

def computeEnvelope (s : Engine) (t : TenantId) : QuotaEnvelope :=
  let eff := s.effectiveLattice t
  let u := s.usageOf t
  let committed := s.committed t
  { tenant := t, generation := s.quotaGeneration, policyGeneration := s.policy.generation
    epoch := s.epoch, guaranteed := eff.guaranteed, softLimit := eff.softLimit
    hardLimit := eff.hardLimit, burstLimit := eff.burstLimit, currentConsumption := u.consumption
    reserved := u.reserved, committedUsage := committed, borrowed := u.borrowedConsumed
    burstUsage := u.burst, lent := u.lent, debt := u.debt
    availableGuaranteed := fun d =>
      guaranteeOf eff d - s.complianceScalar t committed d - u.lent.get d
    availableSoft := fun d =>
      (if eff.softLimit.present d then eff.softLimit.get d else guaranteeOf eff d) -
        s.complianceScalar t committed d
    availableBurst := fun d =>
      (if eff.burstLimit.present d then eff.burstLimit.get d else 0) - u.burst.get d
    burstActive := u.burstActive, burstExpiresAt := u.burstExpires
    compliance := s.computeCompliance t eff committed }

def envelope (s : Engine) (t : TenantId) : QuotaEnvelope := s.computeEnvelope t

def complianceAfterLowering (s : Engine) (t : TenantId) : ComplianceState :=
  s.computeCompliance t (s.effectiveLattice t) (s.computeEnvelope t).committedUsage

def recallDecision (s : Engine) (lender : TenantId) : List RecallAction :=
  if !s.tenantExists lender then []
  else
    let com := s.computeCompliance lender (s.effectiveLattice lender) (s.committed lender)
    (if com = .recallRequired then [.recallBorrowedCapacity, .stopNewBorrowing] else [.noAction]) ++
      (if s.borrows.entries.any fun e => e.2.lender == lender && !e.2.recalled then [.requestReclaim]
       else [])

end Engine

end QuotaFabric
