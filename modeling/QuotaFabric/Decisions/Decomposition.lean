import QuotaFabric.Engine.Trace

/-!
# Decisions on several dimensions

`classify` carries one verdict through its loop.  Nothing it computes for a dimension depends on the
other dimensions of the request, so the final verdict is the most restrictive of those it would give
on each dimension alone.

* `only` — the part of a request on one dimension;
* `foldl_scanDimension_source` — where the loop replaced its verdict, the verdict and the limiting
  dimension belong together;
* `classify_only_code` — the decision on one dimension is the verdict of the loop body;
* `decision_decomposes` — the decision on a request in terms of those on its dimensions.
-/

set_option autoImplicit false

namespace QuotaFabric

theorem rankOf_injective : Function.Injective rankOf := by
  intro a b h
  cases a <;> cases b <;> first | rfl | exact absurd h (by decide)

theorem rankOf_ge (c : DecisionCode) : 13 ≤ rankOf c := by
  cases c <;> decide

/-- Two codes bounded by the same numbers are the same. -/
theorem eq_of_rank_bounds {a b : DecisionCode} (h : ∀ k, 13 ≤ k → (rankOf a ≤ k ↔ rankOf b ≤ k)) :
    a = b := by
  have hab : rankOf a ≤ rankOf b := (h _ (rankOf_ge b)).mpr le_rfl
  have hba : rankOf b ≤ rankOf a := (h _ (rankOf_ge a)).mp le_rfl
  exact rankOf_injective (le_antisymm hab hba)

namespace ResourceVector

/-- The part of a request on one dimension. -/
def only (req : ResourceVector) (d : ResourceDimension) : ResourceVector :=
  SparseVec.empty.put d (req.get d)

@[simp] theorem get_only (req : ResourceVector) (d : ResourceDimension) : (only req d).get d = req.get d :=
  SparseVec.get_put_self _ d _

/-- An amount on one dimension is the part of itself there. -/
theorem only_fromScalar {d : ResourceDimension} {amount : Int} (h : 0 ≤ amount) :
    (fromScalar d amount).only d = fromScalar d amount := by
  unfold only
  rw [get_fromScalar_self h, fromScalar_of_nonneg h]

theorem present_only (req : ResourceVector) (d e : ResourceDimension) :
    (only req d).present e = true ↔ e = d := by
  unfold only
  by_cases he : e = d
  · subst he
    simp
  · rw [SparseVec.present_put_ne _ _ he]
    simp [he, SparseVec.present, SparseVec.empty]

theorem isEmpty_only (req : ResourceVector) (d : ResourceDimension) : (only req d).isEmpty = false := by
  cases h : (only req d).isEmpty with
  | false => rfl
  | true =>
    have habs := isEmpty_iff.mp h d
    rw [(present_only req d d).mpr rfl] at habs
    cases habs

end ResourceVector

namespace Engine

section Dimension

variable {env : Env} {s : Engine} {t : TenantId} {req req' : ResourceVector} {d : ResourceDimension}

/-- The verdict on a dimension reads the request on that dimension only. -/
theorem dimensionCode_of_get_eq (h : req.get d = req'.get d) :
    s.dimensionCode env t req d = s.dimensionCode env t req' d := by
  have hnc : s.newCommitted t req d = s.newCommitted t req' d := by
    unfold newCommitted
    rw [h]
  unfold dimensionCode consumableCode capacityCode totalForPhys
  rw [hnc, h]

/-- On one dimension the loop ends with the verdict of its body. -/
theorem scan_only_code (env : Env) (s : Engine) (t : TenantId) (req : ResourceVector)
    (d : ResourceDimension) :
    (s.scan env t (req.only d)).bestCode = s.dimensionCode env t req d := by
  apply eq_of_rank_bounds
  intro k hk
  rw [rank_scan_le_iff env s t _ hk]
  constructor
  · intro h
    have hd := h d ((ResourceVector.present_only req d d).mpr rfl)
    rwa [dimensionCode_of_get_eq (ResourceVector.get_only req d)] at hd
  · intro h e he
    cases (ResourceVector.present_only req d e).mp he
    rwa [dimensionCode_of_get_eq (ResourceVector.get_only req d)]

end Dimension

/-! ## The code of a decision -/

section Code

variable {env : Env} {s : Engine} {t : TenantId} {req : ResourceVector}

theorem classify_of_no_entitlement (hreq : req.isEmpty = false)
    (h : hasEntitlement (s.effectiveLattice t) = false) : (s.classify env t req).code = .denyHard := by
  unfold classify
  simp only [hreq, h, Bool.not_false, Bool.false_eq_true, if_false, if_true]

theorem classify_of_entitlement (env : Env) (hreq : req.isEmpty = false)
    (h : hasEntitlement (s.effectiveLattice t) = true) :
    (s.classify env t req).code = (s.scan env t req).bestCode ∧
      (s.classify env t req).limitingDimension = (s.scan env t req).limitDim := by
  unfold classify
  simp only [hreq, h, Bool.not_true, Bool.false_eq_true, if_false, and_self]

/-- **The decision on one dimension is the verdict of the loop body.** -/
theorem classify_only_code (h : hasEntitlement (s.effectiveLattice t) = true) (d : ResourceDimension) :
    (s.classify env t (req.only d)).code = s.dimensionCode env t req d := by
  rw [(classify_of_entitlement env (ResourceVector.isEmpty_only req d) h).1, scan_only_code]

theorem classify_fromScalar_code (h : hasEntitlement (s.effectiveLattice t) = true) (d : ResourceDimension)
    {amount : Int} (hamount : 0 ≤ amount) :
    (s.classify env t (.fromScalar d amount)).code = s.dimensionCode env t (.fromScalar d amount) d := by
  have hcode := @classify_only_code env s t (.fromScalar d amount) h d
  rw [ResourceVector.only_fromScalar hamount] at hcode
  exact hcode

/-- Where the loop replaced the verdict it began with, the limiting dimension is requested and has
    the final verdict. -/
theorem foldl_scanDimension_source (env : Env) (s : Engine) (t : TenantId) (req : ResourceVector) :
    ∀ (ds : List ResourceDimension) (sc : Scan),
    ((ds.foldl (s.scanDimension env t req) sc).bestCode = sc.bestCode ∧
      (ds.foldl (s.scanDimension env t req) sc).limitDim = sc.limitDim) ∨
    ∃ d, req.present d = true ∧ (ds.foldl (s.scanDimension env t req) sc).limitDim = some d ∧
      s.dimensionCode env t req d = (ds.foldl (s.scanDimension env t req) sc).bestCode
  | [], _ => Or.inl ⟨rfl, rfl⟩
  | d :: ds, sc => by
    rw [List.foldl_cons]
    rcases foldl_scanDimension_source env s t req ds (s.scanDimension env t req sc d) with ⟨hcode, hdim⟩ | hlater
    · rw [hcode, hdim]
      unfold scanDimension Scan.raise
      cases hp : req.present d with
      | false => exact Or.inl ⟨rfl, rfl⟩
      | true =>
        simp only [Bool.not_true, Bool.false_eq_true, if_false]
        split
        · exact Or.inr ⟨d, hp, rfl, rfl⟩
        · exact Or.inl ⟨rfl, rfl⟩
    · exact Or.inr hlater

/-- The final verdict is that of a requested dimension. -/
theorem scan_code_attained (env : Env) (s : Engine) (t : TenantId) (hreq : req.isEmpty = false) :
    ∃ d, req.present d = true ∧ s.dimensionCode env t req d = (s.scan env t req).bestCode := by
  rcases foldl_scanDimension_source env s t req allResourceDimensions {}
    with ⟨hcode, -⟩ | ⟨d, hd, -, hcode⟩
  · -- nothing was above the least restrictive code, so every requested dimension has it
    have hbest : (s.scan env t req).bestCode = .allowGuaranteed := hcode
    obtain ⟨d, hd⟩ : ∃ d, req.present d = true := by
      by_contra hno
      rw [ResourceVector.isEmpty_iff.mpr fun d => by simpa using fun h => hno ⟨d, h⟩] at hreq
      cases hreq
    have hle := (rank_scan_le_iff env s t req (le_refl 13)).mp (by rw [hbest]; decide) d hd
    refine ⟨d, hd, rankOf_injective ?_⟩
    rw [hbest]
    exact le_antisymm hle (rankOf_ge _)
  · exact ⟨d, hd, hcode⟩

end Code

/-! ## Main result -/

/-- The decision on `req` in terms of those on its dimensions: it allows exactly when each of them
    does, its code is the highest ranked of theirs, and above `ALLOW_GUARANTEED` the limiting
    dimension is one that has this code. -/
structure Decomposes (env : Env) (s : Engine) (t : TenantId) (req : ResourceVector) : Prop where
  allowed : (s.evaluateReservation env t req).allowed = true ↔
    ∀ d, req.present d = true → (s.evaluateReservation env t (req.only d)).allowed = true
  attained : ∃ d, req.present d = true ∧
    (s.evaluateReservation env t (req.only d)).code = (s.evaluateReservation env t req).code
  highest : ∀ d, req.present d = true →
    rankOf (s.evaluateReservation env t (req.only d)).code ≤ rankOf (s.evaluateReservation env t req).code
  limiting : rankOf .allowGuaranteed < rankOf (s.evaluateReservation env t req).code →
    hasEntitlement (s.effectiveLattice t) = true →
    ∃ d, (s.evaluateReservation env t req).limitingDimension = some d ∧ req.present d = true ∧
      (s.evaluateReservation env t (req.only d)).code = (s.evaluateReservation env t req).code

section Main

variable {env : Env} {s : Engine} {t : TenantId} {req : ResourceVector}

/-- A request is allowed exactly when each of its dimensions is. -/
theorem allowed_iff_each_allowed (hreq : req.isEmpty = false) :
    (s.classify env t req).allowed = true ↔
      ∀ d, req.present d = true → (s.classify env t (req.only d)).allowed = true := by
  cases hent : hasEntitlement (s.effectiveLattice t) with
  | false =>
    have hdeny : ∀ {v : ResourceVector}, v.isEmpty = false → ¬ (s.classify env t v).allowed = true := by
      intro v hv
      unfold QuotaDecision.allowed
      rw [classify_of_no_entitlement hv hent]
      decide
    obtain ⟨d, hd, -⟩ := scan_code_attained env s t hreq
    exact iff_of_false (hdeny hreq) fun h => hdeny (ResourceVector.isEmpty_only req d) (h d hd)
  | true =>
    rw [classify_allowed_iff, hreq, hent]
    simp only [Bool.false_eq_true, false_or, true_and]
    refine forall_congr' fun d => imp_congr_right fun _ => ?_
    unfold QuotaDecision.allowed
    rw [classify_only_code hent]

/-- The code of a decision is the highest ranked of those on its dimensions. -/
theorem code_highest_ranked (hreq : req.isEmpty = false) :
    (∃ d, req.present d = true ∧ (s.classify env t (req.only d)).code = (s.classify env t req).code) ∧
      ∀ d, req.present d = true →
        rankOf (s.classify env t (req.only d)).code ≤ rankOf (s.classify env t req).code := by
  obtain ⟨d, hd, hcode⟩ := scan_code_attained env s t hreq
  cases hent : hasEntitlement (s.effectiveLattice t) with
  | false =>
    have hone : ∀ e, (s.classify env t (req.only e)).code = (s.classify env t req).code := by
      intro e
      rw [classify_of_no_entitlement hreq hent,
        classify_of_no_entitlement (ResourceVector.isEmpty_only req e) hent]
    exact ⟨⟨d, hd, hone d⟩, fun e _ => (congrArg rankOf (hone e)).le⟩
  | true =>
    rw [(classify_of_entitlement env hreq hent).1]
    refine ⟨⟨d, hd, by rw [classify_only_code hent, hcode]⟩, fun e he => ?_⟩
    rw [classify_only_code hent]
    exact (rank_scan_le_iff env s t req (rankOf_ge _)).mp le_rfl e he

/-- **A decision decomposes** into the decisions on the dimensions of its request. -/
theorem decision_decomposes (env : Env) (s : Engine) (t : TenantId) {req : ResourceVector}
    (hreq : req.isEmpty = false) : Decomposes env s t req where
  allowed := allowed_iff_each_allowed hreq
  attained := (code_highest_ranked hreq).1
  highest := (code_highest_ranked hreq).2
  limiting habove hent := by
    unfold evaluateReservation at *
    obtain ⟨hcode, hdim⟩ := classify_of_entitlement env hreq hent
    rw [hcode] at habove ⊢
    rw [hdim]
    rcases foldl_scanDimension_source env s t req allResourceDimensions {}
      with ⟨hsame, -⟩ | ⟨d, hd, hlim, hsource⟩
    · have hbest : (s.scan env t req).bestCode = .allowGuaranteed := hsame
      rw [hbest] at habove
      exact absurd habove (lt_irrefl _)
    · exact ⟨d, hlim, hd, by rw [classify_only_code hent]; exact hsource⟩

end Main

/-- A request on two dimensions, one of them over its hard limit. -/
theorem decision_decomposes_capped :
    Decomposes {} borrowerAndLender cappedTenant
      ((SparseVec.empty.put .acceleratorVRAM 15).put .pageableHostRAM 5) :=
  decision_decomposes {} borrowerAndLender cappedTenant (by decide)

end Engine

end QuotaFabric
