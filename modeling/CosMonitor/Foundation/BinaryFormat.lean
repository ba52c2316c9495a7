/-
**Rounding to a binary floating-point format, ties to even.**

A format has a number of binary digits and a least exponent; its range is left to the user.

* `nearestEven`, `nearestEven_mono`: the nearest integer, of two the even one;
* `binaryExponent_spec`: the power of two below a number;
* `BinaryFormat.round_mono`: rounding keeps the order, also from one power of two to the next;
* `BinaryFormat.round_multiple`, `BinaryFormat.round_round`: the numbers of the format are rounded to themselves.
-/

import Mathlib.Algebra.Order.Field.Power
import Mathlib.Algebra.Order.Floor.Ring
import Mathlib.Data.Rat.Floor
import Mathlib.Tactic.FieldSimp
import Mathlib.Tactic.Linarith
import Mathlib.Tactic.Positivity
import Mathlib.Tactic.Ring

/-! ### Integers -/

section Integers

/-- Round to an integer, halves to the even one. -/
def nearestEven (scaled : ℚ) : ℤ :=
  if scaled - ⌊scaled⌋ < 1 / 2 then ⌊scaled⌋
  else if 1 / 2 < scaled - ⌊scaled⌋ then ⌊scaled⌋ + 1
  else if ⌊scaled⌋ % 2 = 0 then ⌊scaled⌋ else ⌊scaled⌋ + 1

variable {scaled larger : ℚ} {bound : ℤ}

theorem nearestEven_floor (scaled : ℚ) : ⌊scaled⌋ ≤ nearestEven scaled ∧ nearestEven scaled ≤ ⌊scaled⌋ + 1 := by
  unfold nearestEven
  split_ifs
  all_goals omega

@[simp] theorem nearestEven_intCast (value : ℤ) : nearestEven value = value := by
  unfold nearestEven
  rw [Int.floor_intCast, sub_self, if_pos (by norm_num)]

theorem nearestEven_mono (atMost : scaled ≤ larger) : nearestEven scaled ≤ nearestEven larger := by
  rcases lt_or_eq_of_le (Int.floor_le_floor atMost) with less | same
  · exact (nearestEven_floor scaled).2.trans ((Int.add_one_le_iff.mpr less).trans (nearestEven_floor larger).1)
  · -- Within one unit the fractions are compared with a half.
    have fractions : scaled - ⌊scaled⌋ ≤ larger - ⌊scaled⌋ := sub_le_sub_right atMost _
    unfold nearestEven
    rw [← same]
    split_ifs
    all_goals first
      | omega
      | (exfalso; linarith)

theorem nearestEven_neg (scaled : ℚ) : nearestEven (-scaled) = -nearestEven scaled := by
  have below := Int.floor_le scaled
  have above := Int.lt_floor_add_one scaled
  by_cases whole : scaled = ⌊scaled⌋
  · rw [whole, ← Int.cast_neg, nearestEven_intCast, nearestEven_intCast]
  · have inside : (⌊scaled⌋ : ℚ) < scaled := lt_of_le_of_ne below (Ne.symm whole)
    have floor : ⌊-scaled⌋ = -⌊scaled⌋ - 1 := by
      rw [Int.floor_eq_iff]
      push_cast
      constructor <;> linarith
    unfold nearestEven
    rw [floor]
    push_cast
    split_ifs
    all_goals first
      | omega
      | (exfalso; linarith)

theorem le_nearestEven (even : bound % 2 = 0) : bound ≤ nearestEven scaled ↔ (bound : ℚ) - 1 / 2 ≤ scaled := by
  have below := Int.floor_le scaled
  have above := Int.lt_floor_add_one scaled
  unfold nearestEven
  split_ifs with down up isEven
  · constructor
    · intro reached
      have least : (bound : ℚ) ≤ ⌊scaled⌋ := by exact_mod_cast reached
      linarith
    · intro reached
      have least : (bound : ℚ) < ⌊scaled⌋ + 1 := by linarith
      exact Int.lt_add_one_iff.mp (by exact_mod_cast least)
  · constructor
    · intro reached
      have least : (bound : ℚ) ≤ ⌊scaled⌋ + 1 := by exact_mod_cast reached
      linarith
    · intro reached
      have least : (bound : ℚ) < ⌊scaled⌋ + 2 := by linarith
      have within : bound < ⌊scaled⌋ + 2 := by exact_mod_cast least
      omega
  · constructor
    · intro reached
      have least : (bound : ℚ) ≤ ⌊scaled⌋ := by exact_mod_cast reached
      linarith
    · intro reached
      have least : (bound : ℚ) ≤ ⌊scaled⌋ + 1 := by linarith
      have within : bound ≤ ⌊scaled⌋ + 1 := by exact_mod_cast least
      omega
  · constructor
    · intro reached
      have least : (bound : ℚ) ≤ ⌊scaled⌋ + 1 := by exact_mod_cast reached
      linarith
    · intro reached
      have least : (bound : ℚ) ≤ ⌊scaled⌋ + 1 := by linarith
      exact_mod_cast least

theorem nearestEven_le (even : bound % 2 = 0) : nearestEven scaled ≤ bound ↔ scaled ≤ (bound : ℚ) + 1 / 2 := by
  have mirrored := @le_nearestEven (-scaled) (-bound) (by omega)
  rw [nearestEven_neg, neg_le_neg_iff] at mirrored
  rw [mirrored]
  push_cast
  constructor
  · intro reached
    linarith
  · intro reached
    linarith

end Integers

/-! ### Powers of two -/

section Powers

/-- `2 ^ exponent`. -/
def twoPow : ℤ → ℚ
  | .ofNat exponent => ((2 ^ exponent : ℕ) : ℚ)
  | .negSucc exponent => mkRat 1 (2 ^ (exponent + 1))

theorem twoPow_eq (exponent : ℤ) : twoPow exponent = 2 ^ exponent := by
  cases exponent with
  | ofNat exponent =>
      show ((2 ^ exponent : ℕ) : ℚ) = 2 ^ (exponent : ℤ)
      rw [zpow_natCast]
      push_cast
      rfl
  | negSucc exponent =>
      show mkRat 1 (2 ^ (exponent + 1)) = _
      rw [zpow_negSucc, Rat.mkRat_eq_div]
      push_cast
      rw [one_div]

theorem twoPow_natCast (exponent : ℕ) : twoPow exponent = ((2 ^ exponent : ℤ) : ℚ) := by
  show ((2 ^ exponent : ℕ) : ℚ) = _
  push_cast
  rfl

theorem twoPow_pos (exponent : ℤ) : 0 < twoPow exponent := by
  rw [twoPow_eq]
  positivity

theorem twoPow_add (first second : ℤ) : twoPow (first + second) = twoPow first * twoPow second := by
  rw [twoPow_eq, twoPow_eq, twoPow_eq, zpow_add₀ two_ne_zero]

theorem twoPow_le {first second : ℤ} : twoPow first ≤ twoPow second ↔ first ≤ second := by
  rw [twoPow_eq, twoPow_eq]
  exact zpow_le_zpow_iff_right₀ one_lt_two

theorem twoPow_lt {first second : ℤ} : twoPow first < twoPow second ↔ first < second := by
  rw [twoPow_eq, twoPow_eq]
  exact zpow_lt_zpow_iff_right₀ one_lt_two

theorem twoPow_div {first second : ℤ} (atMost : first ≤ second) :
    twoPow second / twoPow first = ((2 ^ (second - first).toNat : ℤ) : ℚ) := by
  rw [div_eq_iff (twoPow_pos first).ne']
  have whole : ((2 ^ (second - first).toNat : ℤ) : ℚ) = twoPow (second - first) := by
    rw [twoPow_eq]
    push_cast
    rw [← zpow_natCast, Int.toNat_of_nonneg (by omega)]
  rw [whole, ← twoPow_add, sub_add_cancel]

/-- The exponent of the power of two below the magnitude of a number. -/
def binaryExponent (value : ℚ) : ℤ :=
  let guess := (Nat.log2 value.num.natAbs : ℤ) - Nat.log2 value.den
  if |value| < twoPow guess then guess - 1 else guess

theorem binaryExponent_spec {value : ℚ} (nonzero : value ≠ 0) :
    twoPow (binaryExponent value) ≤ |value| ∧ |value| < twoPow (binaryExponent value + 1) := by
  have numeratorNonzero : value.num.natAbs ≠ 0 := by simpa using nonzero
  have numerator : twoPow (Nat.log2 value.num.natAbs) ≤ (value.num.natAbs : ℚ) := by
    show ((2 ^ Nat.log2 value.num.natAbs : ℕ) : ℚ) ≤ _
    exact_mod_cast Nat.log2_self_le numeratorNonzero
  have denominator : twoPow (Nat.log2 value.den) ≤ (value.den : ℚ) := by
    show ((2 ^ Nat.log2 value.den : ℕ) : ℚ) ≤ _
    exact_mod_cast Nat.log2_self_le value.den_nz
  have numeratorAbove : (value.num.natAbs : ℚ) < twoPow (Nat.log2 value.num.natAbs + 1) := by
    show _ < ((2 ^ (Nat.log2 value.num.natAbs + 1) : ℕ) : ℚ)
    exact_mod_cast Nat.lt_log2_self
  have denominatorAbove : (value.den : ℚ) < twoPow (Nat.log2 value.den + 1) := by
    show _ < ((2 ^ (Nat.log2 value.den + 1) : ℕ) : ℚ)
    exact_mod_cast Nat.lt_log2_self
  have positive : (0 : ℚ) < value.den := by exact_mod_cast value.den_pos
  have quotient : |value| = (value.num.natAbs : ℚ) / value.den := by
    rw [Nat.cast_natAbs, Int.cast_abs]
    nth_rewrite 1 [← Rat.num_div_den value]
    rw [abs_div, abs_of_pos positive]
  -- The guess from the lengths of numerator and denominator is one too large at most.
  have above : |value| < twoPow ((Nat.log2 value.num.natAbs : ℤ) - Nat.log2 value.den + 1) := by
    rw [quotient, div_lt_iff₀ positive]
    refine numeratorAbove.trans_le ?_
    have split : (Nat.log2 value.num.natAbs : ℤ) + 1 =
        ((Nat.log2 value.num.natAbs : ℤ) - Nat.log2 value.den + 1) + Nat.log2 value.den := by ring
    rw [split, twoPow_add]
    exact mul_le_mul_of_nonneg_left denominator (twoPow_pos _).le
  have below : twoPow ((Nat.log2 value.num.natAbs : ℤ) - Nat.log2 value.den - 1) ≤ |value| := by
    rw [quotient, le_div_iff₀ positive]
    refine le_trans ?_ numerator
    have split : (Nat.log2 value.num.natAbs : ℤ) =
        ((Nat.log2 value.num.natAbs : ℤ) - Nat.log2 value.den - 1) + (Nat.log2 value.den + 1) := by ring
    nth_rewrite 2 [split]
    rw [twoPow_add]
    exact mul_le_mul_of_nonneg_left denominatorAbove.le (twoPow_pos _).le
  unfold binaryExponent
  dsimp only
  split
  · rename_i less
    rw [sub_add_cancel]
    exact ⟨below, less⟩
  · rename_i atLeast
    exact ⟨not_lt.mp atLeast, above⟩

theorem binaryExponent_le {value : ℚ} {bound : ℤ} (nonzero : value ≠ 0) (less : |value| < twoPow bound) :
    binaryExponent value < bound :=
  twoPow_lt.mp ((binaryExponent_spec nonzero).1.trans_lt less)

theorem binaryExponent_mono {value larger : ℚ} (nonzero : value ≠ 0) (atMost : |value| ≤ |larger|) :
    binaryExponent value ≤ binaryExponent larger := by
  have largerNonzero : larger ≠ 0 := by
    rintro rfl
    rw [abs_zero] at atMost
    exact nonzero (abs_nonpos_iff.mp atMost)
  exact Int.lt_add_one_iff.mp
    (binaryExponent_le nonzero (atMost.trans_lt (binaryExponent_spec largerNonzero).2))

theorem binaryExponent_neg (value : ℚ) : binaryExponent (-value) = binaryExponent value := by
  unfold binaryExponent
  rw [Rat.num_neg_eq_neg_num, Int.natAbs_neg, Rat.den_neg_eq_den, abs_neg]

end Powers

/-! ### Formats -/

/-- A format: how many binary digits its numbers have, and the exponent of their least unit. -/
structure BinaryFormat where
  digits : ℕ
  least : ℤ
  digitsPositive : 0 < digits

namespace BinaryFormat

/-- The double-precision format. -/
def binary64 : BinaryFormat where
  digits := 53
  least := -1074
  digitsPositive := by decide

variable (format : BinaryFormat)

/-- The exponent of the last digit of a number. -/
def unitExponent (value : ℚ) : ℤ :=
  max (binaryExponent value - (format.digits - 1)) format.least

/-- **The nearest number of the format**, of two the even one. -/
def round (value : ℚ) : ℚ :=
  nearestEven (value / twoPow (format.unitExponent value)) * twoPow (format.unitExponent value)

/-- A number of the format. -/
def Represents (value : ℚ) : Prop :=
  ∃ (digits exponent : ℤ), value = digits * twoPow exponent ∧ |digits| ≤ 2 ^ format.digits ∧
    format.least ≤ exponent

variable {format} {value larger : ℚ}

@[simp] theorem round_zero : format.round 0 = 0 := by
  unfold round
  rw [zero_div, ← Int.cast_zero, nearestEven_intCast, Int.cast_zero, zero_mul]

theorem round_neg (value : ℚ) : format.round (-value) = -format.round value := by
  unfold round unitExponent
  rw [binaryExponent_neg, neg_div, nearestEven_neg, Int.cast_neg, neg_mul]

theorem least_le_unitExponent (value : ℚ) : format.least ≤ format.unitExponent value :=
  le_max_right _ _

theorem abs_lt_units (nonzero : value ≠ 0) : |value| < twoPow (format.unitExponent value + format.digits) := by
  refine (binaryExponent_spec nonzero).2.trans_le (twoPow_le.mpr ?_)
  have unit : binaryExponent value - (format.digits - 1) ≤ format.unitExponent value := le_max_left _ _
  omega

theorem round_le_of_le {exponent : ℤ} (reaches : format.unitExponent value ≤ exponent)
    (atMost : value ≤ twoPow exponent) : format.round value ≤ twoPow exponent := by
  have positive := twoPow_pos (format.unitExponent value)
  have scaled : value / twoPow (format.unitExponent value) ≤
      ((2 ^ (exponent - format.unitExponent value).toNat : ℤ) : ℚ) := by
    rw [← twoPow_div reaches]
    exact div_le_div_of_nonneg_right atMost positive.le
  have rounded := nearestEven_mono scaled
  rw [nearestEven_intCast] at rounded
  unfold round
  rw [← le_div_iff₀ positive, twoPow_div reaches]
  exact_mod_cast rounded

theorem le_round_of_le {exponent : ℤ} (reaches : format.unitExponent value ≤ exponent)
    (atLeast : twoPow exponent ≤ value) : twoPow exponent ≤ format.round value := by
  have positive := twoPow_pos (format.unitExponent value)
  have scaled : ((2 ^ (exponent - format.unitExponent value).toNat : ℤ) : ℚ) ≤
      value / twoPow (format.unitExponent value) := by
    rw [← twoPow_div reaches]
    exact div_le_div_of_nonneg_right atLeast positive.le
  have rounded := nearestEven_mono scaled
  rw [nearestEven_intCast] at rounded
  unfold round
  rw [← div_le_iff₀ positive, twoPow_div reaches]
  exact_mod_cast rounded

theorem round_nonneg (nonneg : 0 ≤ value) : 0 ≤ format.round value := by
  have rounded := nearestEven_mono (div_nonneg nonneg (twoPow_pos (format.unitExponent value)).le)
  rw [← Int.cast_zero, nearestEven_intCast] at rounded
  exact mul_nonneg (by exact_mod_cast rounded) (twoPow_pos _).le

theorem round_mono_nonneg (nonneg : 0 ≤ value) (atMost : value ≤ larger) :
    format.round value ≤ format.round larger := by
  rcases nonneg.eq_or_lt with rfl | positive
  · rw [round_zero]
    exact round_nonneg atMost
  have largerPositive : 0 < larger := positive.trans_le atMost
  have magnitudes : |value| ≤ |larger| := by
    rwa [abs_of_pos positive, abs_of_pos largerPositive]
  have exponents : format.unitExponent value ≤ format.unitExponent larger :=
    max_le_max_right _ (sub_le_sub_right (binaryExponent_mono positive.ne' magnitudes) _)
  rcases exponents.eq_or_lt with same | less
  · unfold round
    rw [same]
    have unit := (twoPow_pos (format.unitExponent larger)).le
    refine mul_le_mul_of_nonneg_right ?_ unit
    exact_mod_cast nearestEven_mono (div_le_div_of_nonneg_right atMost unit)
  · -- The power of two between them is a number of the format.
    have unit : format.unitExponent larger = binaryExponent larger - (format.digits - 1) := by
      have atLeast : format.least ≤ format.unitExponent value := least_le_unitExponent value
      unfold unitExponent at less atLeast ⊢
      omega
    have digits := format.digitsPositive
    refine le_trans (b := twoPow (binaryExponent larger)) (round_le_of_le ?_ ?_) (le_round_of_le ?_ ?_)
    · omega
    · have units : |value| < twoPow (format.unitExponent value + format.digits) := abs_lt_units positive.ne'
      refine (le_abs_self value).trans (units.le.trans ?_)
      exact twoPow_le.mpr (by omega)
    · omega
    · have above := (binaryExponent_spec largerPositive.ne').1
      rwa [abs_of_pos largerPositive] at above

/-- **Rounding keeps the order.** -/
theorem round_mono (atMost : value ≤ larger) : format.round value ≤ format.round larger := by
  rcases le_or_gt 0 value with nonneg | negative
  · exact round_mono_nonneg nonneg atMost
  · rcases le_or_gt 0 larger with largerNonneg | largerNegative
    · have opposite : 0 ≤ format.round (-value) := round_nonneg (by linarith)
      rw [round_neg] at opposite
      exact (neg_nonneg.mp opposite).trans (round_nonneg largerNonneg)
    · have opposite : format.round (-larger) ≤ format.round (-value) :=
        round_mono_nonneg (by linarith) (neg_le_neg atMost)
      rw [round_neg, round_neg] at opposite
      exact neg_le_neg_iff.mp opposite

/-- **A number of the format is rounded to itself.** -/
theorem round_represented (represents : format.Represents value) : format.round value = value := by
  obtain ⟨digits, exponent, rfl, few, least⟩ := represents
  by_cases zero : (digits : ℚ) * twoPow exponent = 0
  · rw [zero, round_zero]
  have positive := twoPow_pos exponent
  have digitsPositive := format.digitsPositive
  have magnitude : |(digits : ℚ) * twoPow exponent| = ((|digits| : ℤ) : ℚ) * twoPow exponent := by
    rw [abs_mul, abs_of_pos positive, Int.cast_abs]
  have whole : ∀ unit ≤ exponent, ∃ scaled : ℤ, (digits : ℚ) * twoPow exponent / twoPow unit = scaled := by
    intro unit reaches
    refine ⟨digits * 2 ^ (exponent - unit).toNat, ?_⟩
    rw [mul_div_assoc, twoPow_div reaches]
    push_cast
    rfl
  have fixed : ∀ unit, (∃ scaled : ℤ, (digits : ℚ) * twoPow exponent / twoPow unit = scaled) →
      (nearestEven ((digits : ℚ) * twoPow exponent / twoPow unit) : ℚ) * twoPow unit =
        digits * twoPow exponent := by
    rintro unit ⟨scaled, isScaled⟩
    rw [isScaled, nearestEven_intCast, ← isScaled, div_mul_cancel₀ _ (twoPow_pos unit).ne']
  unfold round
  rcases few.lt_or_eq with fewer | full
  · -- The unit of the number is at most its own exponent.
    refine fixed _ (whole _ (max_le ?_ least))
    have bounded : |(digits : ℚ) * twoPow exponent| < twoPow (exponent + format.digits) := by
      rw [magnitude, add_comm, twoPow_add]
      refine mul_lt_mul_of_pos_right ?_ positive
      rw [twoPow_natCast]
      exact_mod_cast fewer
    have exponentLess := binaryExponent_le zero bounded
    omega
  · -- All digits and one more: a power of two, one exponent further.
    refine fixed _ ?_
    have power : (digits : ℚ) = twoPow format.digits ∨ (digits : ℚ) = -twoPow format.digits := by
      rw [twoPow_natCast]
      rcases (abs_eq (by positivity)).mp full with isPower | isPower
      · exact .inl (by rw [isPower])
      · exact .inr (by rw [isPower, Int.cast_neg])
    have bounded : |(digits : ℚ) * twoPow exponent| < twoPow (exponent + format.digits + 1) := by
      rw [magnitude, full, show exponent + (format.digits : ℤ) + 1 = (format.digits : ℤ) + 1 + exponent by ring,
        twoPow_add]
      refine mul_lt_mul_of_pos_right ?_ positive
      show _ < ((2 ^ (format.digits + 1) : ℕ) : ℚ)
      exact_mod_cast Nat.pow_lt_pow_right (by decide) (Nat.lt_succ_self _)
    have exponentLess := binaryExponent_le zero bounded
    have reaches : format.unitExponent ((digits : ℚ) * twoPow exponent) ≤ exponent + format.digits :=
      max_le (by omega) (by omega)
    rcases power with isPower | isPower
    · refine ⟨2 ^ (exponent + format.digits - format.unitExponent (digits * twoPow exponent)).toNat, ?_⟩
      rw [← twoPow_div reaches, add_comm exponent, twoPow_add, isPower]
    · refine ⟨-2 ^ (exponent + format.digits - format.unitExponent (digits * twoPow exponent)).toNat, ?_⟩
      rw [Int.cast_neg, ← twoPow_div reaches, add_comm exponent, twoPow_add, isPower, neg_mul, neg_div]

theorem represents_round (value : ℚ) : format.Represents (format.round value) := by
  refine ⟨_, _, rfl, ?_, least_le_unitExponent value⟩
  by_cases zero : value = 0
  · rw [zero, zero_div, ← Int.cast_zero, nearestEven_intCast, abs_zero]
    positivity
  have positive := twoPow_pos (format.unitExponent value)
  have scaled : |value / twoPow (format.unitExponent value)| ≤ ((2 ^ format.digits : ℤ) : ℚ) := by
    rw [abs_div, abs_of_pos positive, div_le_iff₀ positive]
    have bounded : |value| ≤ twoPow (format.unitExponent value + format.digits) := (abs_lt_units zero).le
    rw [add_comm, twoPow_add] at bounded
    rwa [twoPow_natCast] at bounded
  obtain ⟨low, high⟩ := abs_le.mp scaled
  have above := nearestEven_mono high
  have below := nearestEven_mono low
  rw [← Int.cast_neg, nearestEven_intCast] at below
  rw [nearestEven_intCast] at above
  exact abs_le.mpr ⟨below, above⟩

theorem round_round (value : ℚ) : format.round (format.round value) = format.round value :=
  round_represented (represents_round value)

theorem round_intCast (whole : format.least ≤ 0) {value : ℤ} (few : |value| ≤ 2 ^ format.digits) :
    format.round value = value :=
  round_represented ⟨value, 0, by rw [twoPow_eq, zpow_zero, mul_one], few, whole⟩

end BinaryFormat
