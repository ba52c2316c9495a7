/-
**The texts of numbers.**

* `IsNumeral`: a text of digits, signs, points and exponents that begins with a digit or a minus;
* `isNumeral_int`: the decimal text of an integer is one;
* `Stdlib.WritesNumerals`: so is the `repr` of every finite float;
* `intText_injective`, `Stdlib.ReadsFloatsBack`: an integer is told by its text, and so is a float, whose text
  no integer has.
-/

import CosMonitor.Base.Stdlib

namespace CosMonitor

/-- A character of a numeral. -/
def numeralChar (character : Char) : Bool :=
  character.isDigit || character ∈ ['-', '+', '.', 'e']

/-- The text of a number. -/
structure IsNumeral (text : List Char) : Prop where
  characters : ∀ character ∈ text, numeralChar character = true
  leads : ∃ first rest, text = first :: rest ∧ (first.isDigit = true ∨ first = '-')

/-- `repr(value)` of a finite float is a numeral. -/
def Stdlib.WritesNumerals (std : Stdlib) : Prop :=
  ∀ value, IsNumeral (std.floatRepr value).toList

theorem numeralChar_digit {character : Char} (digit : character.isDigit = true) :
    numeralChar character = true := by
  unfold numeralChar
  rw [digit]
  rfl

theorem isNumeral_digits (value : Nat) :
    (∀ character ∈ Nat.toDigits 10 value, character.isDigit = true) ∧
      ∃ first rest, Nat.toDigits 10 value = first :: rest ∧ first.isDigit = true := by
  have digits : ∀ character ∈ Nat.toDigits 10 value, character.isDigit = true := fun character member =>
    Nat.isDigit_of_mem_toDigits (by decide) (by decide) member
  refine ⟨digits, ?_⟩
  cases written : Nat.toDigits 10 value with
  | nil => exact absurd written Nat.toDigits_ne_nil
  | cons first rest =>
      refine ⟨first, rest, rfl, digits first ?_⟩
      rw [written]
      exact List.mem_cons_self

theorem toList_ofNat (magnitude : Nat) :
    (toString (Int.ofNat magnitude)).toList = Nat.toDigits 10 magnitude :=
  Nat.toList_repr

theorem toList_negSucc (magnitude : Nat) :
    (toString (Int.negSucc magnitude)).toList = '-' :: Nat.toDigits 10 (magnitude + 1) := by
  show ("-" ++ Nat.repr (magnitude + 1)).toList = _
  rw [String.toList_append, Nat.toList_repr]
  rfl

/-- **The text of an integer is a numeral.** -/
theorem isNumeral_int (value : Int) : IsNumeral (toString value).toList := by
  cases value with
  | ofNat magnitude =>
      obtain ⟨digits, first, rest, same, digit⟩ := isNumeral_digits magnitude
      rw [toList_ofNat]
      exact ⟨fun character member => numeralChar_digit (digits character member),
        first, rest, same, .inl digit⟩
  | negSucc magnitude =>
      obtain ⟨digits, -⟩ := isNumeral_digits (magnitude + 1)
      rw [toList_negSucc]
      refine ⟨List.forall_mem_cons.mpr ⟨rfl, fun character member => ?_⟩, '-', _, rfl, .inr rfl⟩
      exact numeralChar_digit (digits character member)

theorem toDigits_injective {magnitude other : Nat}
    (same : Nat.toDigits 10 magnitude = Nat.toDigits 10 other) : magnitude = other := by
  have read : ∀ value, Nat.ofDigitChars 10 (Nat.toDigits 10 value) 0 = value :=
    fun value => Nat.ofDigitChars_toDigits (by decide) (by decide)
  rw [← read magnitude, same, read other]

/-- **An integer is told by its text.** -/
theorem intText_injective {first second : Int} (same : toString first = toString second) :
    first = second := by
  have apart : ∀ magnitude other, Nat.toDigits 10 magnitude ≠ '-' :: Nat.toDigits 10 (other + 1) := by
    intro magnitude other equal
    have isDigit := (isNumeral_digits magnitude).1 '-' (by rw [equal]; exact List.mem_cons_self)
    cases isDigit
  have texts := congrArg String.toList same
  cases first with
  | ofNat magnitude =>
      cases second with
      | ofNat other =>
          rw [toList_ofNat, toList_ofNat] at texts
          rw [toDigits_injective texts]
      | negSucc other =>
          rw [toList_ofNat, toList_negSucc] at texts
          exact absurd texts (apart magnitude other)
  | negSucc magnitude =>
      cases second with
      | ofNat other =>
          rw [toList_ofNat, toList_negSucc] at texts
          exact absurd texts.symm (apart other magnitude)
      | negSucc other =>
          rw [toList_negSucc, toList_negSucc] at texts
          have equal := toDigits_injective (List.cons.inj texts).2
          rw [Nat.succ.inj equal]

theorem intText_characters (number : Int) :
    ∀ character ∈ (toString number).toList, character.isDigit = true ∨ character = '-' := by
  intro character member
  cases number with
  | ofNat magnitude =>
      rw [toList_ofNat] at member
      exact .inl ((isNumeral_digits magnitude).1 character member)
  | negSucc magnitude =>
      rw [toList_negSucc] at member
      rcases List.mem_cons.mp member with minus | digit
      · exact .inr minus
      · exact .inl ((isNumeral_digits (magnitude + 1)).1 character digit)

/-- `float(repr(value))` is the value, and `repr(value)` of a finite float has a point or an exponent. -/
structure Stdlib.ReadsFloatsBack (std : Stdlib) : Prop where
  numerals : std.WritesNumerals
  injective : Function.Injective std.floatRepr
  fraction : ∀ value, '.' ∈ (std.floatRepr value).toList ∨ 'e' ∈ (std.floatRepr value).toList

theorem Stdlib.ReadsFloatsBack.apart {std : Stdlib} (reads : std.ReadsFloatsBack) (number : Int)
    (value : ℚ) : toString number ≠ std.floatRepr value := by
  have characters := intText_characters number
  intro same
  rw [same] at characters
  rcases reads.fraction value with point | exponent
  · rcases characters '.' point with digit | minus
    · cases digit
    · cases minus
  · rcases characters 'e' exponent with digit | minus
    · cases digit
    · cases minus

end CosMonitor
