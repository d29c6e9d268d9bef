import Mathlib

/-!
# Machine arithmetic

Signed 64-bit quantities are integers; the bounds are explicit where an operation tests them.

* `IsInt64` — the values of a signed 64-bit integer;
* `satAdd` — addition that saturates at the bounds;
* `clamp` — `std::clamp`, whose result is undefined when the bounds cross: the value it then
  returns is a parameter;
* `Binary64` — doubles by bit pattern, computed with through `Float.Model`; truncation to a
  64-bit integer is undefined out of range, and what it then yields is a parameter again.
-/

set_option autoImplicit false

/-! ## Saturating 64-bit arithmetic -/

def INT64_MAX : Int := 9223372036854775807
def INT64_MIN : Int := -9223372036854775808

/-- The values of a signed 64-bit integer. -/
def IsInt64 (x : Int) : Prop := INT64_MIN ≤ x ∧ x ≤ INT64_MAX

instance (x : Int) : Decidable (IsInt64 x) := inferInstanceAs (Decidable (_ ∧ _))

def satAdd (a b : Int) : Int := if b > 0 ∧ a > INT64_MAX - b then INT64_MAX else a + b

/-- `std::clamp`; `undef` is what it returns when `hi < lo`. -/
def clamp (undef : Int → Int → Int → Int) (v lo hi : Int) : Int :=
  if hi < lo then undef v lo hi
  else if v < lo then lo
  else if hi < v then hi
  else v

theorem satAdd_of_le {a b : Int} (h : a + b ≤ INT64_MAX) : satAdd a b = a + b := by
  unfold satAdd
  rw [if_neg (by omega)]

theorem satAdd_le_max {a b : Int} (h : a ≤ INT64_MAX) : satAdd a b ≤ INT64_MAX := by
  unfold satAdd
  split <;> omega

theorem satAdd_le_add {a b : Int} : satAdd a b ≤ a + b := by
  unfold satAdd
  split <;> omega

theorem satAdd_eq_min {a b : Int} (ha : a ≤ INT64_MAX) (hb : 0 ≤ b) : satAdd a b = min (a + b) INT64_MAX := by
  unfold satAdd
  split <;> omega

/-- A saturated sum passes a bound exactly where the sum does, unless the bound is where it saturates. -/
theorem satAdd_le_iff {a b c : Int} (ha : a ≤ INT64_MAX) : satAdd a b ≤ c ↔ INT64_MAX ≤ c ∨ a + b ≤ c := by
  unfold satAdd
  split <;> omega

theorem satAdd_mono_left {a a' : Int} (b : Int) (h : a ≤ a') : satAdd a b ≤ satAdd a' b := by
  unfold satAdd
  split <;> split <;> omega

/-- Monotone in what is added, while the first summand is a 64-bit value. -/
theorem satAdd_mono_right {a b b' : Int} (ha : a ≤ INT64_MAX) (h : b ≤ b') :
    satAdd a b ≤ satAdd a b' := by
  unfold satAdd
  split <;> split <;> omega

/-! ## Doubles -/

/-- A double, by its bit pattern. -/
structure Binary64 where
  bits : UInt64
  deriving DecidableEq

namespace Binary64

def one : Binary64 := ⟨0x3FF0000000000000⟩

def zero : Binary64 := ⟨0⟩

/-- The value a bit pattern stands for. -/
def val (x : Binary64) : Float.Model := Float.Model.ofBits x.bits

end Binary64

/-- `std::max` on doubles: the second argument only when the first is below it. -/
def maxDouble (a b : Float.Model) : Float.Model := if a < b then b else a

/-- Conversion of a double to a signed 64-bit integer, towards zero; `undef` when the value does
    not fit. -/
def toInt64 (undef : Int) (x : Float.Model) : Int :=
  let n := x.unpack.toInt 0 0
  if x.isFinite ∧ INT64_MIN ≤ n ∧ n ≤ INT64_MAX then n else undef
