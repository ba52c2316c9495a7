/-
**What the stores take from PostgreSQL and its driver.**

* `DbError`: the errors a statement raises; each aborts its transaction;
* `varchar`: the assignment of a text to a `VARCHAR(n)` column;
* `jsonb`: a value for a `JSONB` column;
* `numeric`: the assignment of a number to a `NUMERIC(_, n)` column.

Instants are microseconds since the epoch, as the columns hold them.
-/

import CosMonitor.Base.Uuid
import Mathlib.Algebra.Order.Floor.Ring
import Mathlib.Data.Rat.Floor
import Mathlib.Tactic.Linarith
import Mathlib.Tactic.Positivity

namespace CosMonitor

/-- Microseconds since the epoch, in UTC. -/
abbrev Timestamp := Int

/-- One second, in the unit of `Timestamp`. -/
def second : Timestamp := 1000000

/-- An error raised by a statement. -/
inductive DbError where
  | uniqueViolation (constraint : String)
  | foreignKeyViolation (column : String)
  | valueTooLong (limit : Nat)
  | missingBind (parameter : String)
  | badArgument
  | nulCharacter
  | invalidJson
  deriving DecidableEq, Repr

/-- Assign a text to a `VARCHAR(limit)` column: only spaces may be cut off. -/
def varchar (limit : Nat) (text : String) : Except DbError String :=
  if text.length ≤ limit then .ok text
  else if (text.toList.drop limit).all (· == ' ') then .ok (String.ofList (text.toList.take limit))
  else .error (.valueTooLong limit)

theorem varchar_fits {limit : Nat} {text : String} (fits : text.length ≤ limit) :
    varchar limit text = .ok text := by
  unfold varchar
  rw [if_pos fits]

theorem varchar_length {limit : Nat} {text stored : String} (assigned : varchar limit text = .ok stored) :
    stored.length ≤ limit := by
  unfold varchar at assigned
  split at assigned
  · rename_i fits
    rw [← Except.ok.inj assigned]
    exact fits
  · split at assigned
    · rw [← Except.ok.inj assigned, String.length_ofList]
      exact List.length_take_le _ _
    · cases assigned

mutual

/-- A text of the value holds the character that PostgreSQL texts cannot hold. -/
def hasNul : Json → Bool
  | .str text => text.toList.contains '\x00'
  | .arr items => hasNulItems items
  | .obj fields => hasNulFields fields
  | _ => false

def hasNulItems : List Json → Bool
  | [] => false
  | item :: rest => hasNul item || hasNulItems rest

def hasNulFields : List (String × Json) → Bool
  | [] => false
  | (key, value) :: rest => key.toList.contains '\x00' || hasNul value || hasNulFields rest

end

/-- Bind a value to a JSONB parameter. -/
def jsonb (value : Json) : Except DbError Json :=
  if hasNul value then .error .nulCharacter else .ok value

/-- Round to `digits` decimals, halves away from zero, as `NUMERIC` columns do. -/
def numeric (digits : Nat) (value : ℚ) : ℚ :=
  if 0 ≤ value then (⌊value * 10 ^ digits + 1 / 2⌋ : ℚ) / 10 ^ digits
  else -((⌊-value * 10 ^ digits + 1 / 2⌋ : ℚ) / 10 ^ digits)

/-- A score of the unit interval, as the models and the columns of scores require. -/
abbrev UnitScore := { value : ℚ // 0 ≤ value ∧ value ≤ 1 }

theorem zero_isUnit : (0 : ℚ) ≤ 0 ∧ (0 : ℚ) ≤ 1 := by norm_num

theorem half_isUnit : (0 : ℚ) ≤ 1 / 2 ∧ (1 / 2 : ℚ) ≤ 1 := by norm_num

theorem threeFifths_isUnit : (0 : ℚ) ≤ 3 / 5 ∧ (3 / 5 : ℚ) ≤ 1 := by norm_num

theorem fourFifths_isUnit : (0 : ℚ) ≤ 4 / 5 ∧ (4 / 5 : ℚ) ≤ 1 := by norm_num

theorem sevenEighths_isUnit : (0 : ℚ) ≤ 7 / 8 ∧ (7 / 8 : ℚ) ≤ 1 := by norm_num

theorem one_isUnit : (0 : ℚ) ≤ 1 ∧ (1 : ℚ) ≤ 1 := by norm_num

theorem numeric_unit (digits : Nat) {value : ℚ} (low : 0 ≤ value) (high : value ≤ 1) :
    0 ≤ numeric digits value ∧ numeric digits value ≤ 1 := by
  have scale : (0 : ℚ) < 10 ^ digits := by positivity
  unfold numeric
  rw [if_pos low]
  constructor
  · refine div_nonneg ?_ scale.le
    exact_mod_cast Int.floor_nonneg.mpr (by positivity)
  · rw [div_le_one scale]
    have below : value * 10 ^ digits + 1 / 2 < ((10 ^ digits : ℤ) + 1 : ℤ) := by
      push_cast
      nlinarith
    have floored := Int.lt_add_one_iff.mp (Int.floor_lt.mpr below)
    exact_mod_cast floored

/-- A score as a `NUMERIC(_, digits)` column stores it. -/
def UnitScore.numeric (digits : Nat) (score : UnitScore) : UnitScore :=
  ⟨CosMonitor.numeric digits score.val, numeric_unit digits score.property.1 score.property.2⟩

end CosMonitor
