/-
**Python floats with their infinities and `nan`.**

A finite double is the rational it denotes. The result of an operation is the nearest double; what leaves the
range is infinite, or an `OverflowError` where Python raises one.
-/

import CosMonitor.Base.Json
import CosMonitor.Foundation.BinaryFormat

namespace CosMonitor

/-- A Python `float`. -/
inductive PyFloat where
  | finite (value : ℚ)
  | infinite (negative : Bool)
  | nan
  deriving DecidableEq, Repr

/-- Round to `digits` decimals, halves to the even decimal. -/
def roundHalfEven (digits : Nat) (value : ℚ) : ℚ :=
  (nearestEven (value * 10 ^ digits) : ℚ) / 10 ^ digits

theorem roundHalfEven_mono (digits : Nat) {value larger : ℚ} (atMost : value ≤ larger) :
    roundHalfEven digits value ≤ roundHalfEven digits larger := by
  have scale : (0 : ℚ) < 10 ^ digits := by positivity
  refine div_le_div_of_nonneg_right ?_ scale.le
  exact_mod_cast nearestEven_mono (mul_le_mul_of_nonneg_right atMost scale.le)

@[simp] theorem roundHalfEven_intCast (digits : Nat) (value : ℤ) : roundHalfEven digits value = value := by
  have scale : (10 : ℚ) ^ digits ≠ 0 := by positivity
  have whole : (value : ℚ) * 10 ^ digits = ((value * 10 ^ digits : ℤ) : ℚ) := by push_cast; rfl
  unfold roundHalfEven
  rw [whole, nearestEven_intCast, ← whole, mul_div_cancel_right₀ _ scale]

/-- **Rounding keeps a number between two integers.** -/
theorem roundHalfEven_between (digits : Nat) {low high : ℤ} {value : ℚ} (above : (low : ℚ) ≤ value)
    (below : value ≤ high) :
    (low : ℚ) ≤ roundHalfEven digits value ∧ roundHalfEven digits value ≤ high := by
  have least := roundHalfEven_mono digits above
  have most := roundHalfEven_mono digits below
  rw [roundHalfEven_intCast] at least most
  exact ⟨least, most⟩

theorem roundHalfEven_unit (digits : Nat) {value : ℚ} (low : 0 ≤ value) (high : value ≤ 1) :
    0 ≤ roundHalfEven digits value ∧ roundHalfEven digits value ≤ 1 := by
  have between : ((0 : ℤ) : ℚ) ≤ roundHalfEven digits value ∧
      roundHalfEven digits value ≤ ((1 : ℤ) : ℚ) :=
    roundHalfEven_between digits (by exact_mod_cast low) (by exact_mod_cast high)
  exact_mod_cast between

namespace PyFloat

/-- The magnitude from which a number rounds to an infinite double. -/
def limit : ℚ := 2 ^ 1024 - 2 ^ 970

/-- The nearest number of the double-precision format. -/
def double (value : ℚ) : ℚ :=
  BinaryFormat.binary64.round value

/-- The double of a number. -/
def ofRat (value : ℚ) : PyFloat :=
  if |value| < limit then finite (double value) else infinite (decide (value < 0))

theorem double_mono {value larger : ℚ} (atMost : value ≤ larger) : double value ≤ double larger :=
  BinaryFormat.round_mono atMost

@[simp] theorem double_zero : double 0 = 0 :=
  BinaryFormat.round_zero

theorem double_intCast {value : ℤ} (few : |value| ≤ 2 ^ 53) : double value = value :=
  BinaryFormat.round_intCast (by decide) few

@[simp] theorem double_one : double 1 = 1 := by
  have one : double ((1 : ℤ) : ℚ) = ((1 : ℤ) : ℚ) := double_intCast (by decide)
  rwa [Int.cast_one] at one

theorem double_double (value : ℚ) : double (double value) = double value :=
  BinaryFormat.round_round value

theorem double_abs (value : ℚ) : double |value| = |double value| := by
  rcases le_total 0 value with nonneg | nonpos
  · have rounded := double_mono nonneg
    rw [double_zero] at rounded
    rw [abs_of_nonneg nonneg, abs_of_nonneg rounded]
  · have rounded := double_mono nonpos
    rw [double_zero] at rounded
    rw [abs_of_nonpos nonpos, abs_of_nonpos rounded]
    exact BinaryFormat.round_neg value

theorem double_unit {value : ℚ} (low : 0 ≤ value) (high : value ≤ 1) : 0 ≤ double value ∧ double value ≤ 1 := by
  have least := double_mono low
  have most := double_mono high
  rw [double_zero] at least
  rw [double_one] at most
  exact ⟨least, most⟩

theorem one_lt_limit : 1 < limit := by
  decide +kernel

theorem ofRat_unit {value : ℚ} (low : 0 ≤ value) (high : value ≤ 1) : ofRat value = finite (double value) := by
  unfold ofRat
  rw [if_pos]
  rw [abs_of_nonneg low]
  exact high.trans_lt one_lt_limit

/-- `first + second`. -/
def add : PyFloat → PyFloat → PyFloat
  | finite first, finite second => ofRat (first + second)
  | nan, _ | _, nan => nan
  | infinite first, infinite second => if first = second then infinite first else nan
  | infinite negative, finite _ | finite _, infinite negative => infinite negative

/-- `value - number` for a finite number. -/
def subRat (number : ℚ) : PyFloat → PyFloat
  | finite value => ofRat (value - number)
  | infinite negative => infinite negative
  | nan => nan

/-- `value ** 2`. -/
def square : PyFloat → Except PyError PyFloat
  | finite value => if value * value < limit then .ok (finite (double (value * value)))
      else .error .overflowError
  | infinite _ => .ok (infinite false)
  | nan => .ok nan

/-- `value / count` for a positive count. -/
def divNat (count : Nat) : PyFloat → PyFloat
  | finite value => ofRat (value / count)
  | infinite negative => infinite negative
  | nan => nan

/-- `sum(values)`. -/
def sum (values : List PyFloat) : PyFloat :=
  values.foldl add (finite 0)

/-- `round(value, digits)`: the double of the rounded value. -/
def round (digits : Nat) : PyFloat → PyFloat
  | finite value => finite (double (roundHalfEven digits value))
  | infinite negative => infinite negative
  | nan => nan

/-- `value >= bound`. -/
def atLeast (bound : ℚ) : PyFloat → Bool
  | finite value => decide (bound ≤ value)
  | infinite negative => !negative
  | nan => false

/-- The number of a finite double. -/
def finite? : PyFloat → Option ℚ
  | finite value => some value
  | infinite _ | nan => none

/-- The texts that `float()` reads as an infinity or as `nan`. -/
def ofName (text : String) : Option PyFloat :=
  let (sign, unsigned) := splitSign (numeralText text.toList)
  let name := (String.ofList unsigned).toLower
  if name = "inf" || name = "infinity" then some (infinite (decide (sign < 0)))
  else if name = "nan" then some nan
  else none

end PyFloat

/-- `float(value)` on a JSON value: the nearest double of an integer or of a numeral. -/
def Json.pyFloat : Json → Except PyError PyFloat
  | .bool value => .ok (.finite (if value then 1 else 0))
  | .int value => if |(value : ℚ)| < PyFloat.limit then .ok (.finite (PyFloat.double value))
      else .error .overflowError
  | .float value => .ok (.finite value)
  | .str text =>
      match PyFloat.ofName text, parseFloat text with
      | some special, _ => .ok special
      | none, some value => .ok (.ofRat value)
      | none, none => .error (.valueError "could not convert string to float")
  | .null | .arr _ | .obj _ => .error .typeError

example : (Json.str " -Infinity ").pyFloat = .ok (.infinite true) := by decide +kernel
example : (Json.str "7.5e-1").pyFloat = .ok (.finite (3 / 4)) := by decide +kernel

end CosMonitor
