import Mathlib

/-!
# Totals over a moving period

Amounts arrive with the times they were taken at.  A store that keeps them in order of arrival and drops
from the front what is not after a cutoff holds, in general, more than the amounts after the cutoff: a
sample that arrives behind a newer one is kept until the newer one goes.

* `sumAfter` — the amounts taken after a cutoff;
* `dropExpired` — the samples left at the front, `sumLate` — the expired amounts among them;
* `sum_dropExpired` — what is left is the first and the last together;
* `foldl_dropExpired`, `foldl_dropExpired_snoc` — dropping on every arrival leaves what dropping at the
  end leaves, where no earlier cutoff was later;
* `sum_dropExpired_perm_iff` — when nothing expired is kept.
-/

set_option autoImplicit false

namespace RollingTotal

variable {τ α : Type}

/-! ## Amounts -/

section Sum

variable [AddCommMonoid α]

def sum (l : List (τ × α)) : α := (l.map Prod.snd).sum

@[simp] theorem sum_nil : sum ([] : List (τ × α)) = 0 := rfl

@[simp] theorem sum_cons (x : τ × α) (l : List (τ × α)) : sum (x :: l) = x.2 + sum l := by
  unfold sum
  rw [List.map_cons, List.sum_cons]

@[simp] theorem sum_append (l l' : List (τ × α)) : sum (l ++ l') = sum l + sum l' := by
  unfold sum
  rw [List.map_append, List.sum_append]

theorem sum_perm {l l' : List (τ × α)} (h : l.Perm l') : sum l = sum l' := (h.map _).sum_eq

end Sum

section NonNeg

variable [AddCommGroup α] [LinearOrder α] [IsOrderedAddMonoid α] {l : List (τ × α)}

theorem sum_nonneg (h : ∀ x ∈ l, 0 ≤ x.2) : 0 ≤ sum l := by
  refine List.sum_nonneg fun a ha => ?_
  obtain ⟨x, hx, rfl⟩ := List.mem_map.mp ha
  exact h x hx

/-- Amounts that are not negative add up to zero only where each of them is. -/
theorem sum_eq_zero_iff (h : ∀ x ∈ l, 0 ≤ x.2) : sum l = 0 ↔ ∀ x ∈ l, x.2 = 0 := by
  induction l with
  | nil => simp
  | cons x l ih =>
    obtain ⟨hx, hl⟩ := List.forall_mem_cons.mp h
    rw [sum_cons, add_eq_zero_iff_of_nonneg hx (sum_nonneg hl), ih hl, List.forall_mem_cons]

end NonNeg

variable [LinearOrder τ]

/-- The samples that are left when the front is dropped up to the first one after the cutoff. -/
def dropExpired (cutoff : τ) (l : List (τ × α)) : List (τ × α) := l.dropWhile fun x => decide (x.1 ≤ cutoff)

/-! ## Dropping -/

section Drop

variable {cutoff : τ} {l : List (τ × α)}

@[simp] theorem dropExpired_nil : dropExpired cutoff ([] : List (τ × α)) = [] := rfl

theorem dropExpired_cons (cutoff : τ) (x : τ × α) (l : List (τ × α)) :
    dropExpired cutoff (x :: l) = if x.1 ≤ cutoff then dropExpired cutoff l else x :: l := by
  unfold dropExpired
  by_cases h : x.1 ≤ cutoff
  · rw [if_pos h, List.dropWhile_cons_of_pos (by simpa using h)]
  · rw [if_neg h, List.dropWhile_cons_of_neg (by simpa using h)]

/-- A later cutoff makes an earlier one superfluous, whatever arrives in between. -/
theorem dropExpired_dropExpired_append {earlier : τ} (h : earlier ≤ cutoff) (more : List (τ × α)) :
    ∀ l : List (τ × α), dropExpired cutoff (dropExpired earlier l ++ more) = dropExpired cutoff (l ++ more)
  | [] => rfl
  | x :: l => by
    rw [dropExpired_cons earlier x l]
    split
    · rename_i hx
      rw [dropExpired_dropExpired_append h more l, List.cons_append, dropExpired_cons cutoff x (l ++ more),
        if_pos (hx.trans h)]
    · rfl

/-- **Dropping on every arrival leaves what dropping once at the end leaves.** -/
theorem foldl_dropExpired_append (cut : τ × α → τ) (more : List (τ × α)) :
    ∀ (l held : List (τ × α)), (∀ x ∈ l, cut x ≤ cutoff) →
      dropExpired cutoff (l.foldl (fun held x => dropExpired (cut x) (held ++ [x])) held ++ more) =
        dropExpired cutoff (held ++ l ++ more)
  | [], held, _ => by rw [List.foldl_nil, List.append_nil]
  | x :: l, held, h => by
    obtain ⟨hx, hl⟩ := List.forall_mem_cons.mp h
    rw [List.foldl_cons, foldl_dropExpired_append cut more l _ hl, List.append_assoc,
      dropExpired_dropExpired_append hx]
    simp only [List.append_assoc, List.cons_append, List.nil_append]

theorem foldl_dropExpired (cut : τ × α → τ) {l : List (τ × α)} (h : ∀ x ∈ l, cut x ≤ cutoff) :
    dropExpired cutoff (l.foldl (fun held x => dropExpired (cut x) (held ++ [x])) []) = dropExpired cutoff l := by
  have hall := foldl_dropExpired_append cut [] l [] h
  rw [List.append_nil, List.append_nil, List.nil_append] at hall
  exact hall

/-- Where the last arrival has the latest cutoff, it alone decides. -/
theorem foldl_dropExpired_snoc (cut : τ × α → τ) {l : List (τ × α)} {last : τ × α}
    (h : ∀ x ∈ l, cut x ≤ cut last) :
    (l ++ [last]).foldl (fun held x => dropExpired (cut x) (held ++ [x])) [] =
      dropExpired (cut last) (l ++ [last]) := by
  rw [List.foldl_append, List.foldl_cons, List.foldl_nil, foldl_dropExpired_append cut [last] l [] h,
    List.nil_append]

theorem mem_of_mem_dropExpired {x : τ × α} (h : x ∈ dropExpired cutoff l) : x ∈ l :=
  (List.dropWhile_sublist _).mem h

theorem dropExpired_eq_nil_iff : dropExpired cutoff l = [] ↔ ∀ x ∈ l, x.1 ≤ cutoff := by
  unfold dropExpired
  rw [List.dropWhile_eq_nil_iff]
  simp only [decide_eq_true_eq]

theorem dropExpired_append (h : ∀ x ∈ l, x.1 ≤ cutoff) (more : List (τ × α)) :
    dropExpired cutoff (l ++ more) = dropExpired cutoff more :=
  List.dropWhile_append_of_pos fun x hx => decide_eq_true (h x hx)

theorem dropExpired_eq_self (h : ∀ x ∈ l, cutoff < x.1) : dropExpired cutoff l = l := by
  cases l with
  | nil => rfl
  | cons x l => rw [dropExpired_cons, if_neg (not_le.mpr (h x List.mem_cons_self))]

/-- Samples that arrived in order of time: what is left is what is after the cutoff. -/
theorem dropExpired_of_sorted (h : l.Pairwise fun x y => x.1 ≤ y.1) :
    dropExpired cutoff l = l.filter fun x => decide (cutoff < x.1) := by
  induction l with
  | nil => rfl
  | cons x l ih =>
    obtain ⟨hfirst, hrest⟩ := List.pairwise_cons.mp h
    rw [dropExpired_cons]
    by_cases hx : x.1 ≤ cutoff
    · rw [if_pos hx, List.filter_cons_of_neg (by simpa using hx), ih hrest]
    · rw [if_neg hx, eq_comm, List.filter_eq_self]
      intro y hy
      have hxy : x.1 ≤ y.1 := by
        rcases List.mem_cons.mp hy with rfl | hy
        · exact le_refl _
        · exact hfirst y hy
      exact decide_eq_true ((not_le.mp hx).trans_le hxy)

end Drop

/-! ## Live and late amounts -/

section Amounts

variable [AddCommMonoid α]

/-- The amounts taken after the cutoff. -/
def sumAfter (cutoff : τ) (l : List (τ × α)) : α := sum (l.filter fun x => decide (cutoff < x.1))

/-- The amounts taken at the cutoff or before that arrived behind one taken after it. -/
def sumLate (cutoff : τ) (l : List (τ × α)) : α :=
  sum ((dropExpired cutoff l).filter fun x => decide (x.1 ≤ cutoff))

variable {cutoff : τ} {l l' : List (τ × α)}

theorem sumAfter_perm (h : l.Perm l') : sumAfter cutoff l = sumAfter cutoff l' := sum_perm (h.filter _)

/-- The live and the expired amounts make up all of them. -/
theorem sumAfter_add_expired (cutoff : τ) (l : List (τ × α)) :
    sumAfter cutoff l + sum (l.filter fun x => decide (x.1 ≤ cutoff)) = sum l := by
  unfold sumAfter
  induction l with
  | nil => simp
  | cons x l ih =>
    by_cases hx : x.1 ≤ cutoff
    · rw [List.filter_cons_of_neg (by simpa using hx), List.filter_cons_of_pos (by simpa using hx), sum_cons,
        sum_cons, ← ih, add_left_comm]
    · rw [List.filter_cons_of_pos (by simpa using hx), List.filter_cons_of_neg (by simpa using hx),
        sum_cons, sum_cons, ← ih, add_assoc]

/-- No live amount is dropped. -/
theorem sumAfter_dropExpired (cutoff : τ) : ∀ l : List (τ × α),
    sumAfter cutoff (dropExpired cutoff l) = sumAfter cutoff l
  | [] => rfl
  | x :: l => by
    rw [dropExpired_cons]
    split
    · rename_i hx
      rw [sumAfter_dropExpired cutoff l]
      unfold sumAfter
      rw [List.filter_cons_of_neg (by simpa using hx)]
    · rfl

/-- **What is left is what is live and what is late.** -/
theorem sum_dropExpired (cutoff : τ) (l : List (τ × α)) :
    sum (dropExpired cutoff l) = sumAfter cutoff l + sumLate cutoff l := by
  rw [← sumAfter_add_expired cutoff (dropExpired cutoff l), sumAfter_dropExpired]
  rfl

end Amounts

/-! ## Amounts that are not negative -/

section Ordered

variable [AddCommGroup α] [LinearOrder α] [IsOrderedAddMonoid α] {cutoff : τ} {l : List (τ × α)}

/-- Dropping takes nothing that is negative. -/
theorem sum_dropExpired_le (h : ∀ x ∈ l, 0 ≤ x.2) : sum (dropExpired cutoff l) ≤ sum l := by
  induction l with
  | nil => exact le_refl _
  | cons x l ih =>
    obtain ⟨hx, hl⟩ := List.forall_mem_cons.mp h
    rw [dropExpired_cons]
    split
    · rw [sum_cons]
      exact (ih hl).trans (le_add_of_nonneg_left hx)
    · exact le_refl _

/-- **A later cutoff leaves the same amount** exactly when everything between the two is zero. -/
theorem sumAfter_eq_iff {later : τ} (hle : cutoff ≤ later) (h : ∀ x ∈ l, 0 ≤ x.2) :
    sumAfter cutoff l = sumAfter later l ↔ ∀ x ∈ l, x.2 ≠ 0 → cutoff < x.1 → later < x.1 := by
  have hsplit := sumAfter_add_expired later (l.filter fun x => decide (cutoff < x.1))
  have hlive : sumAfter later (l.filter fun x => decide (cutoff < x.1)) = sumAfter later l := by
    unfold sumAfter
    rw [List.filter_filter]
    congr 1
    refine List.filter_congr fun x _ => ?_
    simp only [Bool.and_eq_left_iff_imp, decide_eq_true_eq]
    exact hle.trans_lt
  rw [hlive] at hsplit
  have hzero := sum_eq_zero_iff (l := (l.filter fun x => decide (cutoff < x.1)).filter fun x => decide (x.1 ≤ later))
    fun x hx => h x (List.mem_of_mem_filter (List.mem_of_mem_filter hx))
  have hfirst : sumAfter cutoff l = sumAfter later l ↔
      sum ((l.filter fun x => decide (cutoff < x.1)).filter fun x => decide (x.1 ≤ later)) = 0 := by
    rw [show sumAfter cutoff l = sum (l.filter fun x => decide (cutoff < x.1)) from rfl, ← hsplit]
    exact add_eq_left
  rw [hfirst, hzero]
  constructor
  · intro hall x hx hne hcut
    by_contra hlate
    refine hne (hall x ?_)
    simp only [List.mem_filter, decide_eq_true_eq]
    exact ⟨⟨hx, hcut⟩, not_lt.mp hlate⟩
  · intro hall x hx
    simp only [List.mem_filter, decide_eq_true_eq] at hx
    by_contra hne
    exact absurd (hall x hx.1.1 hne hx.1.2) (not_lt.mpr hx.2)

/-- **Every order of arrival leaves the same amount** exactly when nothing is live, or all that has
    expired is zero. -/
theorem sum_dropExpired_perm_iff (h : ∀ x ∈ l, 0 ≤ x.2) :
    (∀ l', l.Perm l' → sum (dropExpired cutoff l') = sum (dropExpired cutoff l)) ↔
      (∀ x ∈ l, x.1 ≤ cutoff) ∨ ∀ x ∈ l, x.1 ≤ cutoff → x.2 = 0 := by
  constructor
  · intro hall
    by_contra hno
    rw [not_or] at hno
    obtain ⟨hlive, hexpired⟩ := hno
    simp only [not_forall] at hlive hexpired
    obtain ⟨x, hx, hafter⟩ := hlive
    obtain ⟨y, hy, hbefore, hne⟩ := hexpired
    -- the expired samples first: what is live is left
    have hfirst : sum (dropExpired cutoff ((l.filter fun z => decide (z.1 ≤ cutoff)) ++
        l.filter fun z => !decide (z.1 ≤ cutoff))) = sumAfter cutoff l := by
      rw [dropExpired_append fun z hz => of_decide_eq_true (List.mem_filter.mp hz).2, dropExpired_eq_self]
      · unfold sumAfter
        congr 1
        refine List.filter_congr fun z _ => ?_
        rw [← decide_not, decide_eq_decide]
        exact not_le
      · intro z hz
        simpa using (List.mem_filter.mp hz).2
    -- a live sample first: everything is left
    have hlast : sum (dropExpired cutoff (x :: l.erase x)) = sum l := by
      rw [dropExpired_cons, if_neg hafter]
      exact sum_perm (List.perm_cons_erase hx).symm
    rw [hall _ (List.filter_append_perm _ l).symm] at hfirst
    rw [hall _ (List.perm_cons_erase hx), hfirst] at hlast
    have hsplit := sumAfter_add_expired cutoff l
    rw [hlast, add_eq_left, sum_eq_zero_iff fun z hz => h z (List.mem_of_mem_filter hz)] at hsplit
    exact hne (hsplit y (List.mem_filter.mpr ⟨hy, decide_eq_true hbefore⟩))
  · rintro (hnone | hzero) l' hperm
    · rw [dropExpired_eq_nil_iff.mpr hnone, dropExpired_eq_nil_iff.mpr fun x hx => hnone x (hperm.mem_iff.mpr hx)]
    · have hlate : ∀ l'', l.Perm l'' → sumLate cutoff l'' = 0 := by
        intro l'' hp
        refine (sum_eq_zero_iff fun z hz => ?_).mpr fun z hz => ?_
        · exact h z (hp.mem_iff.mpr (mem_of_mem_dropExpired (List.mem_of_mem_filter hz)))
        · exact hzero z (hp.mem_iff.mpr (mem_of_mem_dropExpired (List.mem_of_mem_filter hz)))
            (of_decide_eq_true (List.mem_filter.mp hz).2)
      rw [sum_dropExpired, sum_dropExpired, hlate l' hperm, hlate l (.refl l), sumAfter_perm hperm]

end Ordered

end RollingTotal
