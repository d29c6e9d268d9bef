import Mathlib

/-!
# Table-driven shift registers

A 32-bit register takes in a byte by moving down eight places and adding the table word for its low
byte.  What makes such a checksum detect short changes is one property of the table: the top bytes
of its words are all different.

* `Register.step`, `Register.run` — one byte, a byte string;
* `TopInjective` — the top byte of a table word determines its index;
* `step_injective`, `run_injective` — the bytes that follow never make two registers equal;
* `run_window_injective` — four bytes at most can be read back from the registers around them;
* `run_detects` — so a change within four consecutive bytes changes the register;
* `Linear`, `tableOf`, `Linear.run_tableOf` — a table made of eight shifts of one bit does what these do with
  the bits of a byte, lowest first.
-/

set_option autoImplicit false

namespace Register

/-- The table index: low byte of the register, added to the input. -/
def index (c : BitVec 32) (b : BitVec 8) : BitVec 8 := c.setWidth 8 ^^^ b

/-- One byte into the register. -/
def step (T : BitVec 8 → BitVec 32) (c : BitVec 32) (b : BitVec 8) : BitVec 32 := T (index c b) ^^^ (c >>> 8)

/-- A byte string into the register. -/
def run (T : BitVec 8 → BitVec 32) (c : BitVec 32) (bs : List (BitVec 8)) : BitVec 32 := bs.foldl (step T) c

/-- The top byte of a table word determines its index. -/
def TopInjective (T : BitVec 8 → BitVec 32) : Prop := ∀ i j, T i >>> 24 = T j >>> 24 → i = j

section

variable {T : BitVec 8 → BitVec 32}

theorem run_cons (c : BitVec 32) (b : BitVec 8) (bs : List (BitVec 8)) :
    run T c (b :: bs) = run T (step T c b) bs := rfl

theorem run_append (c : BitVec 32) (bs cs : List (BitVec 8)) :
    run T c (bs ++ cs) = run T (run T c bs) cs := List.foldl_append

theorem step_shift (c : BitVec 32) (b : BitVec 8) (m : Nat) :
    step T c b >>> m = (T (index c b) >>> m) ^^^ (c >>> (8 + m)) := by
  unfold step
  rw [BitVec.ushiftRight_xor_distrib, ← BitVec.shiftRight_add]

/-- The top byte of the new register is that of the table word. -/
theorem step_top (c : BitVec 32) (b : BitVec 8) : step T c b >>> 24 = T (index c b) >>> 24 := by
  have hout : c >>> (8 + 24) = 0#32 := BitVec.ushiftRight_eq_zero (by decide)
  rw [step_shift, hout, BitVec.xor_zero]

/-- Registers that agree from bit `m` on, at most 24, came from the same table word. -/
theorem step_cancel (hT : TopInjective T) {c c' : BitVec 32} {b b' : BitVec 8} {m : Nat} (hm : m ≤ 24)
    (h : step T c b >>> m = step T c' b' >>> m) :
    index c b = index c' b' ∧ c >>> (8 + m) = c' >>> (8 + m) := by
  have htop : step T c b >>> 24 = step T c' b' >>> 24 := by
    rw [show 24 = m + (24 - m) by omega, BitVec.shiftRight_add, BitVec.shiftRight_add, h]
  rw [step_top, step_top] at htop
  have hidx := hT _ _ htop
  refine ⟨hidx, ?_⟩
  rw [step_shift, step_shift, hidx] at h
  exact (BitVec.xor_right_inj _).mp h

/-- A register is its low byte and the rest. -/
theorem register_ext {c c' : BitVec 32} (hlow : c.setWidth 8 = c'.setWidth 8)
    (hrest : c >>> 8 = c' >>> 8) : c = c' := by
  have h1 := congrArg BitVec.toNat hlow
  have h2 := congrArg BitVec.toNat hrest
  simp only [BitVec.toNat_setWidth, BitVec.toNat_ushiftRight, Nat.shiftRight_eq_div_pow] at h1 h2
  apply BitVec.eq_of_toNat_eq
  omega

theorem index_eq_iff {c c' : BitVec 32} {b : BitVec 8} :
    index c b = index c' b ↔ c.setWidth 8 = c'.setWidth 8 := by
  unfold index
  exact BitVec.xor_left_inj b

/-- The same byte never makes two registers equal. -/
theorem step_injective (hT : TopInjective T) {c c' : BitVec 32} {b : BitVec 8}
    (h : step T c b = step T c' b) : c = c' := by
  have hall : step T c b >>> 0 = step T c' b >>> 0 := by rw [h]
  obtain ⟨hidx, hrest⟩ := step_cancel hT (by omega) hall
  exact register_ext (index_eq_iff.mp hidx) hrest

theorem run_injective (hT : TopInjective T) : ∀ (bs : List (BitVec 8)) {c c' : BitVec 32},
    run T c bs = run T c' bs → c = c'
  | [], _, _, h => h
  | _ :: bs, _, _, h => step_injective hT (run_injective hT bs h)

/-- Equally long strings that lead to registers agreeing from bit `m` on: the registers they started
    from agree from `8 * length` bits further on, and equal ones force equal strings. -/
theorem run_cancel (hT : TopInjective T) : ∀ (bs bs' : List (BitVec 8)) (c c' : BitVec 32) (m : Nat),
    bs.length = bs'.length → m + 8 * bs.length ≤ 32 → run T c bs >>> m = run T c' bs' >>> m →
    c >>> (m + 8 * bs.length) = c' >>> (m + 8 * bs.length) ∧ (c = c' → bs = bs')
  | [], [], c, c', m, _, _, h => ⟨h, fun _ => rfl⟩
  | [], _ :: _, _, _, _, hlen, _, _ => by cases hlen
  | _ :: _, [], _, _, _, hlen, _, _ => by cases hlen
  | b :: bs, b' :: bs', c, c', m, hlen, hm, h => by
    have hlen' : bs.length = bs'.length := by simpa using hlen
    rw [List.length_cons] at hm ⊢
    rw [run_cons, run_cons] at h
    obtain ⟨hshift, hsame⟩ := run_cancel hT bs bs' _ _ m hlen' (by omega) h
    obtain ⟨hidx, hrest⟩ := step_cancel hT (by omega) hshift
    refine ⟨?_, ?_⟩
    · rw [show m + 8 * (bs.length + 1) = 8 + (m + 8 * bs.length) by omega]
      exact hrest
    · rintro rfl
      have hb : b = b' := (BitVec.xor_right_inj (c.setWidth 8)).mp hidx
      subst hb
      rw [hsame rfl]

/-- Four bytes at most can be read back from the registers around them. -/
theorem run_window_injective (hT : TopInjective T) {bs bs' : List (BitVec 8)} {c : BitVec 32}
    (hlen : bs.length = bs'.length) (h4 : bs.length ≤ 4) (h : run T c bs = run T c bs') : bs = bs' :=
  (run_cancel hT bs bs' c c 0 hlen (by omega) (by rw [h])).2 rfl

/-- **A change within four consecutive bytes changes the register.** -/
theorem run_detects (hT : TopInjective T) {pre w w' post : List (BitVec 8)} {c : BitVec 32}
    (hlen : w.length = w'.length) (h4 : w.length ≤ 4) (hne : w ≠ w') :
    run T c (pre ++ w ++ post) ≠ run T c (pre ++ w' ++ post) := by
  intro h
  rw [run_append, run_append, run_append, run_append] at h
  exact hne (run_window_injective hT hlen h4 (run_injective hT post h))

end

/-! ## One bit at a time -/

/-- A shift by one bit that is additive, and only moves down where no bit falls out. -/
structure Linear (shift : BitVec 32 → BitVec 32) : Prop where
  xor : ∀ a b, shift (a ^^^ b) = shift a ^^^ shift b
  even : ∀ c, c.getLsbD 0 = false → shift c = c >>> 1

/-- The table of a shift: eight of them from each byte. -/
def tableOf (shift : BitVec 32 → BitVec 32) (i : BitVec 8) : BitVec 32 := Nat.repeat shift 8 (i.setWidth 32)

/-- A bit at the low end of a word. -/
def lowBit (bit : Bool) : BitVec 32 := (BitVec.ofBool bit).setWidth 32

/-- One bit into the register. -/
def stepBit (shift : BitVec 32 → BitVec 32) (c : BitVec 32) (bit : Bool) : BitVec 32 := shift (c ^^^ lowBit bit)

/-- The bits of a byte, lowest first. -/
def bitsOf (b : BitVec 8) : List Bool := (List.finRange 8).map fun i => b[i]

/-- The word with the given bits, lowest first. -/
def ofBits : List Bool → BitVec 32
  | [] => 0#32
  | bit :: bits => lowBit bit ^^^ (ofBits bits <<< 1)

section

variable {shift : BitVec 32 → BitVec 32}

theorem Linear.iterate_xor (h : Linear shift) (a b : BitVec 32) : ∀ n : Nat,
    shift^[n] (a ^^^ b) = shift^[n] a ^^^ shift^[n] b
  | 0 => rfl
  | n + 1 => by
    rw [Function.iterate_succ_apply', Function.iterate_succ_apply', Function.iterate_succ_apply',
      h.iterate_xor a b n, h.xor]

theorem Linear.tableOf_xor (h : Linear shift) (i j : BitVec 8) :
    tableOf shift (i ^^^ j) = tableOf shift i ^^^ tableOf shift j := by
  have hxor := h.iterate_xor (i.setWidth 32) (j.setWidth 32) 8
  rw [← BitVec.setWidth_xor] at hxor
  exact hxor

/-- A word whose low bits are clear only moves down. -/
theorem Linear.iterate_even (h : Linear shift) {x : BitVec 32} : ∀ {n : Nat},
    (∀ i < n, x.getLsbD i = false) → shift^[n] x = x >>> n
  | 0, _ => by rw [Function.iterate_zero_apply, BitVec.ushiftRight_zero]
  | n + 1, hx => by
    have hlow : (x >>> n).getLsbD 0 = false := by
      rw [BitVec.getLsbD_ushiftRight, Nat.add_zero]
      exact hx n (Nat.lt_succ_self n)
    rw [Function.iterate_succ_apply', h.iterate_even fun i hi => hx i (hi.trans (Nat.lt_succ_self n)),
      h.even _ hlow, BitVec.shiftRight_add]

theorem ofBits_lt : ∀ bits : List Bool, bits.length ≤ 32 → (ofBits bits).toNat < 2 ^ bits.length
  | [], _ => by decide
  | bit :: bits, hlen => by
    rw [List.length_cons] at hlen ⊢
    have hrest := ofBits_lt bits (by omega)
    have hbit : (lowBit bit).toNat < 2 ^ (bits.length + 1) := by
      have hone : (lowBit bit).toNat ≤ 1 := by cases bit <;> decide
      have hpos : 0 < 2 ^ bits.length := Nat.two_pow_pos _
      rw [Nat.pow_succ]
      omega
    unfold ofBits
    rw [BitVec.toNat_xor]
    refine Nat.xor_lt_two_pow hbit ?_
    rw [BitVec.toNat_shiftLeft, Nat.shiftLeft_eq]
    refine (Nat.mod_le _ _).trans_lt ?_
    rw [Nat.pow_succ]
    omega

/-- **Bits taken in one by one** are shifted out together. -/
theorem Linear.foldl_stepBit (h : Linear shift) : ∀ (bits : List Bool) (c : BitVec 32), bits.length ≤ 31 →
    bits.foldl (stepBit shift) c = shift^[bits.length] (c ^^^ ofBits bits)
  | [], c, _ => by
    show c = c ^^^ 0#32
    rw [BitVec.xor_zero]
  | bit :: bits, c, hlen => by
    rw [List.length_cons] at hlen
    have hup : shift (ofBits bits <<< 1) = ofBits bits := by
      have hlow : (ofBits bits <<< 1).getLsbD 0 = false := by simp
      rw [h.even _ hlow]
      apply BitVec.eq_of_toNat_eq
      have hlt := ofBits_lt bits (by omega)
      have hfit : 2 ^ bits.length ≤ 2 ^ 31 := Nat.pow_le_pow_right (by decide) (by omega)
      rw [BitVec.toNat_ushiftRight, BitVec.toNat_shiftLeft, Nat.shiftLeft_eq, Nat.mod_eq_of_lt (by omega),
        Nat.shiftRight_eq_div_pow]
      omega
    rw [List.foldl_cons, h.foldl_stepBit bits _ (by omega), List.length_cons, Function.iterate_succ_apply]
    show _ = shift^[bits.length] (shift (c ^^^ (lowBit bit ^^^ (ofBits bits <<< 1))))
    rw [← BitVec.xor_assoc, h.xor (c ^^^ lowBit bit), hup]
    rfl

theorem ofBits_bitsOf (b : BitVec 8) : ofBits (bitsOf b) = b.setWidth 32 := by
  have hall : ∀ n : Fin (2 ^ 8), ofBits (bitsOf (BitVec.ofFin n)) = (BitVec.ofFin n).setWidth 32 := by
    decide +kernel
  exact hall b.toFin

/-- Eight shifts of a word: the table word for its low byte, and the rest moved down. -/
theorem Linear.iterate_eight (h : Linear shift) (x : BitVec 32) :
    shift^[8] x = tableOf shift (x.setWidth 8) ^^^ (x >>> 8) := by
  have hsplit : x = (x.setWidth 8).setWidth 32 ^^^ (x ^^^ (x.setWidth 8).setWidth 32) := by
    rw [BitVec.xor_comm x, ← BitVec.xor_assoc, BitVec.xor_self, BitVec.zero_xor]
  have hlow : ∀ i < 8, (x ^^^ (x.setWidth 8).setWidth 32).getLsbD i = false := by
    intro i hi
    simp [hi, show i < 32 by omega]
  have hhigh : (x ^^^ (x.setWidth 8).setWidth 32) >>> 8 = x >>> 8 := by
    apply BitVec.eq_of_getLsbD_eq
    intro i hi
    simp
  have htable : tableOf shift (x.setWidth 8) = shift^[8] ((x.setWidth 8).setWidth 32) := rfl
  rw [htable, ← hhigh, ← h.iterate_even hlow, ← h.iterate_xor, ← hsplit]

/-- **A byte from the table is its bits one by one.** -/
theorem Linear.step_tableOf (h : Linear shift) (c : BitVec 32) (b : BitVec 8) :
    step (tableOf shift) c b = (bitsOf b).foldl (stepBit shift) c := by
  have hlen : (bitsOf b).length = 8 := rfl
  have hindex : (c ^^^ b.setWidth 32).setWidth 8 = index c b := by
    unfold index
    rw [BitVec.setWidth_xor, BitVec.setWidth_setWidth_of_le _ (by decide), BitVec.setWidth_eq]
  have hrest : (c ^^^ b.setWidth 32) >>> 8 = c >>> 8 := by
    apply BitVec.eq_of_getLsbD_eq
    intro i hi
    simp
  rw [h.foldl_stepBit _ _ (by omega), hlen, ofBits_bitsOf, h.iterate_eight, hindex, hrest]
  rfl

/-- **A table of eight shifts runs as the shift does on the bits**, lowest first in each byte. -/
theorem Linear.run_tableOf (h : Linear shift) : ∀ (bs : List (BitVec 8)) (c : BitVec 32),
    run (tableOf shift) c bs = (bs.flatMap bitsOf).foldl (stepBit shift) c
  | [], _ => rfl
  | b :: bs, c => by
    rw [run_cons, h.run_tableOf bs, h.step_tableOf, List.flatMap_cons, List.foldl_append]

end

end Register
