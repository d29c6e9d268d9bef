import QuotaFabric.Lib.Tiers
import QuotaFabric.Limits.BurstBound

/-!
# How a request is funded

What takes the committed amount past the soft ceiling is burst, up to the hard limit, and what takes it
past that is borrowed.  `reserve` computes both parts as differences of clamped amounts.

* `burstPart_eq`, `borrowPart_eq` — these are what the request adds to two parts of the committed amount;
* `FundingStep`, `fundingSteps` — amounts reserved one after another;
* `fundingSteps_reserve` — a step is what `reserve` charges and borrows on one dimension;
* `funding_split_exact` — each step splits its amount, and the steps add up to a single reservation.
-/

set_option autoImplicit false

namespace QuotaFabric

namespace Engine

open Tiers

/-- One amount reserved: the committed amount before and after, and what is drawn for it. -/
structure FundingStep where
  amount : Int
  before : Int
  after : Int
  burst : Int
  borrow : Int

/-- The amounts reserved one after another, from a committed amount of `base`. -/
def fundingSteps (env : Env) (eff : ResourceQuota) (d : ResourceDimension) : Int → List Int → List FundingStep
  | _, [] => []
  | base, amount :: l =>
    { amount
      before := base
      after := satAdd base amount
      burst := burstPart env eff d base (satAdd base amount)
      borrow := borrowPart eff d base (satAdd base amount) } ::
    fundingSteps env eff d (satAdd base amount) l

section Split

variable {env : Env} {eff : ResourceQuota} {d : ResourceDimension}

/-- The burst part: what the request adds between the soft ceiling and the hard limit. -/
theorem burstPart_eq (hle : softOf eff d ≤ hardOf eff d) (base nc : Int) :
    burstPart env eff d base nc = growth (between (softOf eff d) (hardOf eff d)) base nc := by
  have hclamp : ∀ x, clamp env.clampUndef (x - softOf eff d) 0 (hardOf eff d - softOf eff d) =
      between (softOf eff d) (hardOf eff d) x := by
    intro x
    unfold clamp between
    split <;> omega
  unfold burstPart growth
  simp only [hclamp]

/-- The borrowed part: what it adds above the hard limit. -/
theorem borrowPart_eq (base nc : Int) : borrowPart eff d base nc = growth (above (hardOf eff d)) base nc := rfl

/-- Each step splits its amount. -/
theorem fundingStep_split (hle : softOf eff d ≤ hardOf eff d) {base nc : Int} (h : base ≤ nc) :
    nc - base = (min nc (softOf eff d) - min base (softOf eff d)) + burstPart env eff d base nc +
      borrowPart eff d base nc := by
  have hbefore := parts_add hle base
  have hafter := parts_add hle nc
  rw [burstPart_eq hle, borrowPart_eq, growth_of_mono between_mono h, growth_of_mono above_mono h]
  omega

/-- Without overflow the steps are those of the two parts. -/
theorem fundingSteps_growths (hle : softOf eff d ≤ hardOf eff d) : ∀ (l : List Int) (base : Int),
    (∀ a ∈ l, 0 ≤ a) → base + l.sum ≤ INT64_MAX →
    (fundingSteps env eff d base l).map (·.burst) = growths (between (softOf eff d) (hardOf eff d)) base l ∧
    (fundingSteps env eff d base l).map (·.borrow) = growths (above (hardOf eff d)) base l
  | [], _, _, _ => ⟨rfl, rfl⟩
  | a :: l, base, hl, hfit => by
    obtain ⟨-, hrest⟩ := List.forall_mem_cons.mp hl
    have hsum := List.sum_nonneg hrest
    rw [List.sum_cons] at hfit
    have hnc : satAdd base a = base + a := satAdd_of_le (by omega)
    obtain ⟨hburst, hborrow⟩ := fundingSteps_growths hle l (base + a) hrest (by omega)
    unfold fundingSteps growths
    rw [hnc, List.map_cons, List.map_cons, hburst, hborrow, burstPart_eq hle, borrowPart_eq]
    exact ⟨rfl, rfl⟩

/-- What each step leaves to burst and to lenders, and what it does not. -/
theorem fundingSteps_split (hle : softOf eff d ≤ hardOf eff d) : ∀ (l : List Int) (base : Int),
    (∀ a ∈ l, 0 ≤ a) → base + l.sum ≤ INT64_MAX → ∀ x ∈ fundingSteps env eff d base l,
    0 ≤ x.burst ∧ 0 ≤ x.borrow ∧
      x.amount = (min x.after (softOf eff d) - min x.before (softOf eff d)) + x.burst + x.borrow
  | [], _, _, _, x, hx => by cases hx
  | a :: l, base, hl, hfit, x, hx => by
    obtain ⟨ha, hrest⟩ := List.forall_mem_cons.mp hl
    have hsum := List.sum_nonneg hrest
    rw [List.sum_cons] at hfit
    have hnc : satAdd base a = base + a := satAdd_of_le (by omega)
    unfold fundingSteps at hx
    rw [hnc] at hx
    rcases List.mem_cons.mp hx with rfl | hx
    · have hburst : 0 ≤ burstPart env eff d base (base + a) := growth_nonneg.trans_eq (burstPart_eq hle _ _).symm
      have hborrow : 0 ≤ borrowPart eff d base (base + a) := growth_nonneg.trans_eq (borrowPart_eq _ _).symm
      refine ⟨hburst, hborrow, ?_⟩
      have hsplit : base + a - base = (min (base + a) (softOf eff d) - min base (softOf eff d)) +
          burstPart env eff d base (base + a) + borrowPart eff d base (base + a) :=
        fundingStep_split hle (le_add_of_nonneg_right ha)
      rw [add_sub_cancel_left] at hsplit
      exact hsplit
    · exact fundingSteps_split hle l (base + a) hrest (by omega) x hx

/-- What `reserve` charges and borrows on one dimension is one step. -/
theorem fundingSteps_reserve {cb req : ResourceVector} (hp : req.present d = true) (hd : isConsumable d = false) :
    fundingSteps env eff d (cb.get d) [req.get d] =
      [{ amount := req.get d, before := cb.get d, after := satAdd (cb.get d) (req.get d)
         burst := burstNeed env eff cb req d, borrow := borrowNeed eff cb req d }] := by
  unfold fundingSteps burstNeed borrowNeed
  rw [hp, hd]
  rfl

/-- **The split is exact at each step, and does not depend on the steps**: the amount is what it adds below
    the soft ceiling, its burst part and its borrowed part, none of them negative, and the parts of all
    steps add up to those of a single reservation of the total. -/
theorem funding_split_exact (hle : softOf eff d ≤ hardOf eff d) {base : Int} {l : List Int}
    (hl : ∀ a ∈ l, 0 ≤ a) (hfit : base + l.sum ≤ INT64_MAX) :
    (∀ x ∈ fundingSteps env eff d base l, 0 ≤ x.burst ∧ 0 ≤ x.borrow ∧
      x.amount = (min x.after (softOf eff d) - min x.before (softOf eff d)) + x.burst + x.borrow) ∧
    ((fundingSteps env eff d base l).map (·.burst)).sum = burstPart env eff d base (satAdd base l.sum) ∧
    ((fundingSteps env eff d base l).map (·.borrow)).sum = borrowPart eff d base (satAdd base l.sum) := by
  refine ⟨fundingSteps_split hle l base hl hfit, ?_⟩
  obtain ⟨hburst, hborrow⟩ := @fundingSteps_growths env eff d hle l base hl hfit
  rw [hburst, hborrow, sum_growths between_mono l base hl, sum_growths above_mono l base hl,
    satAdd_of_le hfit, burstPart_eq hle, borrowPart_eq]
  exact ⟨rfl, rfl⟩

end Split

/-- Soft limit 4, hard limit 10. -/
def fourOfTen : ResourceQuota :=
  { softLimit := .fromScalar .acceleratorVRAM 4, hardLimit := .fromScalar .acceleratorVRAM 10 }

/-- Three requests that take the committed amount past both limits. -/
theorem funding_split_exact_three :
    ((fundingSteps {} fourOfTen .acceleratorVRAM 0 [3, 4, 5]).map fun x => (x.burst, x.borrow)) =
      [(0, 0), (3, 0), (3, 2)] ∧
    ((fundingSteps {} fourOfTen .acceleratorVRAM 0 [3, 4, 5]).map (·.burst)).sum =
      burstPart {} fourOfTen .acceleratorVRAM 0 (satAdd 0 12) :=
  ⟨by decide, (funding_split_exact (by decide) (by decide) (by decide)).2.1⟩

end Engine

end QuotaFabric
