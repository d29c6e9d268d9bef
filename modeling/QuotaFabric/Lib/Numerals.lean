import Mathlib

/-!
# Numerals

Digit strings in positional notation, highest digit first, and how to scan for them.

* `numeral b xs` — the number the digits `xs` stand for in base `b`, read from the left;
* `digitsOf b k n` — the `k` low digits of `n`;
* `numeral_digitsOf`, `digitsOf_numeral` — each undoes the other, on `k` digits;
* `numeral_toDigits` — the characters `Nat.toDigits` prints, read back;
* `takeWhile_run`, `dropWhile_run` — a run of characters that ends where the next one is of
  another kind;
* `notMem_of_mem_splitOn` — the pieces of a list cut at a separator do not contain it.
-/

set_option autoImplicit false

/-- The number the digits stand for: each digit read multiplies what came before by the base. -/
def numeral (b : Nat) (xs : List Nat) : Nat := xs.foldl (fun r x => b * r + x) 0

/-- The `k` low digits of `n`, highest first. -/
def digitsOf (b : Nat) : Nat → Nat → List Nat
  | 0, _ => []
  | k + 1, n => digitsOf b k (n / b) ++ [n % b]

section

variable {b : Nat}

@[simp] theorem numeral_nil : numeral b [] = 0 := rfl

theorem numeral_snoc (xs : List Nat) (x : Nat) : numeral b (xs ++ [x]) = b * numeral b xs + x := by
  unfold numeral
  rw [List.foldl_append]
  rfl

@[simp] theorem length_digitsOf : ∀ k n : Nat, (digitsOf b k n).length = k
  | 0, _ => rfl
  | k + 1, n => by rw [digitsOf, List.length_append, length_digitsOf, List.length_singleton]

theorem digitsOf_lt (hb : 0 < b) : ∀ (k n : Nat), ∀ x ∈ digitsOf b k n, x < b
  | 0, _, _, hx => by cases hx
  | k + 1, n, x, hx => by
    rw [digitsOf, List.mem_append, List.mem_singleton] at hx
    rcases hx with hx | rfl
    · exact digitsOf_lt hb k _ x hx
    · exact Nat.mod_lt n hb

theorem numeral_lt (xs : List Nat) (h : ∀ x ∈ xs, x < b) : numeral b xs < b ^ xs.length := by
  induction xs using List.reverseRecOn with
  | nil => simp
  | append_singleton xs x ih =>
    have hx := h x (by simp)
    have hxs := ih fun y hy => h y (by simp [hy])
    rw [numeral_snoc, List.length_append, List.length_singleton, pow_succ]
    calc b * numeral b xs + x < b * numeral b xs + b := by omega
      _ = (numeral b xs + 1) * b := by ring
      _ ≤ b ^ xs.length * b := Nat.mul_le_mul_right b hxs

/-- **The digits of a number stand for it**, up to the digits left out. -/
theorem numeral_digitsOf : ∀ k n : Nat, numeral b (digitsOf b k n) = n % b ^ k
  | 0, n => by simp [digitsOf, Nat.mod_one]
  | k + 1, n => by
    rw [digitsOf, numeral_snoc, numeral_digitsOf, pow_succ, mul_comm (b ^ k) b, Nat.mod_mul]
    omega

/-- **The digits of a numeral are the ones it was written with.** -/
theorem digitsOf_numeral (xs : List Nat) (h : ∀ x ∈ xs, x < b) :
    digitsOf b xs.length (numeral b xs) = xs := by
  induction xs using List.reverseRecOn with
  | nil => rfl
  | append_singleton xs x ih =>
    have hx := h x (by simp)
    have hdiv : (b * numeral b xs + x) / b = numeral b xs := by
      rw [Nat.mul_add_div (by omega), Nat.div_eq_of_lt hx, add_zero]
    have hmod : (b * numeral b xs + x) % b = x := by rw [Nat.mul_add_mod, Nat.mod_eq_of_lt hx]
    rw [numeral_snoc, List.length_append, List.length_singleton, digitsOf, hdiv, hmod,
      ih fun y hy => h y (by simp [hy])]

/-- The digit at each place, by the power of the base it counts. -/
theorem digitsOf_eq_map : ∀ k n : Nat,
    digitsOf b k n = (List.range k).map fun j => n / b ^ (k - 1 - j) % b
  | 0, _ => rfl
  | k + 1, n => by
    have hshift : ∀ j ∈ List.range k, n / b / b ^ (k - 1 - j) % b = n / b ^ (k - j) % b := by
      intro j hj
      have hj := List.mem_range.mp hj
      rw [Nat.div_div_eq_div_mul, ← pow_succ', show k - 1 - j + 1 = k - j by omega]
    rw [digitsOf, digitsOf_eq_map k, List.range_succ, List.map_append, List.map_congr_left hshift]
    simp

end

/-! ## Decimal characters -/

/-- The digits printed for a number stand for it. -/
theorem numeral_toDigits (n : Nat) : numeral 10 ((Nat.toDigits 10 n).map fun c => c.toNat - 48) = n := by
  have h := Nat.ofDigitChars_ten_toDigits (n := n)
  rw [Nat.ofDigitChars_eq_foldl] at h
  unfold numeral
  rw [List.foldl_map]
  exact h

/-! ## Scanning -/

section

variable {α : Type*} {p : α → Bool} {xs ys : List α}

theorem takeWhile_run (hx : ∀ x ∈ xs, p x = true) (hy : ∀ y ∈ ys.head?, p y = false) :
    (xs ++ ys).takeWhile p = xs := by
  rw [List.takeWhile_append_of_pos hx]
  cases ys with
  | nil => simp
  | cons y ys => rw [List.takeWhile_cons_of_neg (by simpa using hy), List.append_nil]

theorem dropWhile_run (hx : ∀ x ∈ xs, p x = true) (hy : ∀ y ∈ ys.head?, p y = false) :
    (xs ++ ys).dropWhile p = ys := by
  rw [List.dropWhile_append_of_pos hx]
  cases ys with
  | nil => rfl
  | cons y ys => rw [List.dropWhile_cons_of_neg (by simpa using hy)]

end

/-- A scan for a character that occurs stops at it. -/
theorem dropWhile_ne_of_mem {α : Type*} [DecidableEq α] {a : α} : ∀ {xs : List α}, a ∈ xs →
    xs.dropWhile (· != a) = a :: (xs.dropWhile (· != a)).drop 1
  | x :: xs, h => by
    by_cases hx : x = a
    · subst hx
      rw [List.dropWhile_cons_of_neg (by simp)]
      rfl
    · have hmem : a ∈ xs := (List.mem_cons.mp h).resolve_left (Ne.symm hx)
      rw [List.dropWhile_cons_of_pos (by simpa using hx)]
      exact dropWhile_ne_of_mem hmem

/-- And a scan for one that does not occur reads to the end. -/
theorem bne_of_notMem {α : Type*} [DecidableEq α] {a : α} {xs : List α} (h : a ∉ xs) :
    ∀ x ∈ xs, (x != a) = true := by
  intro x hx
  rw [bne_iff_ne]
  rintro rfl
  exact h hx

/-- What stands between separators contains none. -/
theorem notMem_of_mem_splitOn {α : Type*} [DecidableEq α] {a : α} : ∀ {xs p : List α},
    p ∈ xs.splitOn a → a ∉ p
  | [], p, h => by
    rw [List.splitOn_nil, List.mem_singleton] at h
    rw [h]
    exact List.not_mem_nil
  | x :: xs, p, h => by
    obtain ⟨q, qs, hqs⟩ := List.exists_cons_of_ne_nil (List.splitOn_ne_nil a xs)
    have hrest : ∀ p ∈ q :: qs, a ∉ p := fun p hp => notMem_of_mem_splitOn (hqs ▸ hp)
    rw [List.splitOn_cons_eq_if_modifyHead, hqs] at h
    split at h
    · rcases List.mem_cons.mp h with rfl | hp
      · exact List.not_mem_nil
      · exact hrest p hp
    · rename_i hx
      rw [List.modifyHead_cons] at h
      rcases List.mem_cons.mp h with rfl | hp
      · rw [List.mem_cons, not_or]
        exact ⟨fun heq => hx (by simp [heq]), hrest q List.mem_cons_self⟩
      · exact hrest p (List.mem_cons_of_mem q hp)
