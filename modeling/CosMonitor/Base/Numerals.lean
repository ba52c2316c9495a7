/-
**Texts that are no numerals.**

* `StartsInWords`: a text begins like a sentence, and not like `inf` or `nan`;
* `parseFloat_words`, `ofName_words`: such a text is no number for `float()`.
-/

import CosMonitor.Base.PyFloat
import Mathlib.Data.List.DropRight

namespace CosMonitor

/-- The first two letters of a text that begins like a sentence. -/
def wordStart (first second : Char) : Bool :=
  first.isUpper && !(first.toLower == 'i' && second.toLower == 'n') &&
    !(first.toLower == 'n' && second.toLower == 'a')

/-- The text begins like a sentence. -/
def StartsInWords (text : String) : Prop :=
  ∃ first second rest, text.toList = first :: second :: rest ∧ wordStart first second = true

theorem startsInWords_ofList {first second : Char} {rest : List Char}
    (start : wordStart first second = true) :
    StartsInWords (String.ofList (first :: second :: rest)) :=
  ⟨first, second, rest, String.toList_ofList, start⟩

theorem StartsInWords.append {text : String} (more : String) (words : StartsInWords text) :
    StartsInWords (text ++ more) := by
  obtain ⟨first, second, rest, characters, start⟩ := words
  refine ⟨first, second, rest ++ more.toList, ?_, start⟩
  rw [String.toList_append, characters]
  rfl

theorem wordStart_upper {first second : Char} (start : wordStart first second = true) :
    first.isUpper = true := by
  unfold wordStart at start
  simp only [Bool.and_eq_true] at start
  exact start.1.1

theorem isUpper_plain {first : Char} (upper : first.isUpper = true) :
    (asciiNumeral first = first ∧ isNumeralSpace first = false) ∧ first.isDigit = false ∧ first ≠ '_' ∧
      first ≠ '-' ∧ first ≠ '+' ∧ first ≠ '.' := by
  have range : 65 ≤ first.toNat ∧ first.toNat ≤ 90 := by
    unfold Char.isUpper at upper
    simp only [decide_eq_true_eq] at upper
    exact ⟨UInt32.le_iff_toNat_le.mp upper.1, UInt32.le_iff_toNat_le.mp upper.2⟩
  have differs : ∀ other : Char, other.toNat < 65 ∨ 90 < other.toNat → first ≠ other := by
    rintro other outside rfl
    omega
  refine ⟨⟨?_, ?_⟩, ?_, differs '_' (by decide), differs '-' (by decide), differs '+' (by decide),
    differs '.' (by decide)⟩
  · unfold asciiNumeral
    rw [if_pos (by omega)]
  · unfold isNumeralSpace
    simp only [decide_eq_false_iff_not, List.mem_cons, List.not_mem_nil, or_false]
    omega
  · unfold Char.isDigit
    simp only [Bool.and_eq_false_iff, decide_eq_false_iff_not]
    refine .inr fun low => ?_
    have low' : first.toNat ≤ 57 := UInt32.le_iff_toNat_le.mp low
    omega

theorem asciiNumeral_lower {character letter : Char} (isLetter : letter = 'n' ∨ letter = 'a')
    (same : (asciiNumeral character).toLower = letter) : character.toLower = letter := by
  have digits : ∀ value < 10, (Char.ofNat (48 + value)).toLower ≠ 'n' ∧
      (Char.ofNat (48 + value)).toLower ≠ 'a' := by decide
  unfold asciiNumeral at same
  split at same
  · exact same
  · split at same
    · rcases isLetter with rfl | rfl
      · exact absurd same (by decide)
      · exact absurd same (by decide)
    · split at same
      · rename_i digitZero found
        have within := List.find?_some found
        simp only [Bool.and_eq_true, decide_eq_true_eq] at within
        obtain ⟨notN, notA⟩ := digits (character.toNat - digitZero) (by omega)
        rcases isLetter with rfl | rfl
        · exact absurd same notN
        · exact absurd same notA
      · rcases isLetter with rfl | rfl
        · exact absurd same (by decide)
        · exact absurd same (by decide)

theorem wordStart_ascii {first second : Char} (start : wordStart first second = true) :
    wordStart first (asciiNumeral second) = true := by
  unfold wordStart at start ⊢
  simp only [Bool.and_eq_true, Bool.not_eq_true', Bool.and_eq_false_iff, beq_eq_false_iff_ne] at start ⊢
  refine ⟨⟨start.1.1, ?_⟩, ?_⟩
  · exact start.1.2.imp_right fun apart same => apart (asciiNumeral_lower (.inl rfl) same)
  · exact start.2.imp_right fun apart same => apart (asciiNumeral_lower (.inr rfl) same)

theorem numeralText_words {first second : Char} {rest : List Char} (upper : first.isUpper = true) :
    numeralText (first :: second :: rest) <+: first :: asciiNumeral second :: rest.map asciiNumeral := by
  obtain ⟨⟨same, notSpace⟩, -⟩ := isUpper_plain upper
  have kept : ((first :: second :: rest).map asciiNumeral).dropWhile isNumeralSpace =
      first :: asciiNumeral second :: rest.map asciiNumeral := by
    rw [List.map_cons, List.map_cons, same, List.dropWhile_cons, notSpace]
    rfl
  unfold numeralText
  rw [kept]
  exact List.rdropWhile_prefix isNumeralSpace _

theorem parseDigits_upper {first : Char} {rest : List Char} (upper : first.isUpper = true) :
    parseDigits (first :: rest) = none := by
  obtain ⟨-, notDigit, notUnderscore, -⟩ := isUpper_plain upper
  have splits : (first :: rest).splitOn '_' =
      List.modifyHead (List.cons first) (rest.splitOn '_') := by
    unfold List.splitOn
    rw [List.splitOnP_cons_eq_if_modifyHead, if_neg (by simpa using notUnderscore)]
  unfold parseDigits
  dsimp only
  rw [splits, if_neg]
  cases groups : rest.splitOn '_' with
  | nil => exact absurd groups (List.splitOn_ne_nil _ _)
  | cons group others => simp [notDigit]

theorem parseMantissa_upper {characters : List Char}
    (upper : ∀ first ∈ characters.head?, first.isUpper = true) : parseMantissa characters = none := by
  cases characters with
  | nil => rfl
  | cons first more =>
      have letter : first.isUpper = true := upper first rfl
      obtain ⟨-, -, -, -, -, notDot⟩ := isUpper_plain letter
      have spans : (first :: more).span (· != '.') =
          (first :: more.takeWhile (· != '.'), more.dropWhile (· != '.')) := by
        rw [List.span_eq_takeWhile_dropWhile, List.takeWhile_cons_of_pos (by simpa using notDot),
          List.dropWhile_cons_of_pos (by simpa using notDot)]
      have noDigits : parseDigits (first :: more.takeWhile (· != '.')) = none :=
        parseDigits_upper letter
      unfold parseMantissa
      rw [spans]
      dsimp only
      split
      · rw [noDigits]
        rfl
      · rename_i whole rest
        rw [← whole, noDigits]
        rfl
      · rename_i isNil rest
        cases isNil
      · rw [noDigits]
        rfl

theorem StartsInWords.stripped {text : String} (words : StartsInWords text) :
    numeralText text.toList = [] ∨ ∃ first more, numeralText text.toList = first :: more ∧
      first.isUpper = true ∧ (more = [] ∨ ∃ second rest, more = second :: rest ∧
        wordStart first second = true) := by
  obtain ⟨first, second, rest, characters, start⟩ := words
  have kept : numeralText (first :: second :: rest) <+: first :: asciiNumeral second :: rest.map asciiNumeral :=
    numeralText_words (wordStart_upper start)
  rw [characters]
  cases stripped : numeralText (first :: second :: rest) with
  | nil => exact .inl rfl
  | cons head more =>
      rw [stripped] at kept
      obtain ⟨rfl, within⟩ := List.cons_prefix_cons.mp kept
      refine .inr ⟨head, more, rfl, wordStart_upper start, ?_⟩
      cases more with
      | nil => exact .inl rfl
      | cons next others =>
          obtain ⟨rfl, -⟩ := List.cons_prefix_cons.mp within
          exact .inr ⟨_, others, rfl, wordStart_ascii start⟩

theorem splitSign_upper {characters : List Char}
    (upper : ∀ first ∈ characters.head?, first.isUpper = true) :
    splitSign characters = (1, characters) := by
  cases characters with
  | nil => rfl
  | cons first more =>
      obtain ⟨-, -, -, notMinus, notPlus, -⟩ := isUpper_plain (upper first rfl)
      unfold splitSign
      split
      · rename_i same
        exact absurd (List.cons.inj same).1 notMinus
      · rename_i same
        exact absurd (List.cons.inj same).1 notPlus
      · rfl

theorem StartsInWords.head {text : String} (words : StartsInWords text) :
    ∀ first ∈ (numeralText text.toList).head?, first.isUpper = true := by
  rcases words.stripped with empty | ⟨first, more, same, upper, -⟩
  · rw [empty]
    rintro _ ⟨⟩
  · rw [same]
    rintro _ ⟨⟩
    exact upper

/-- **A text in words is no decimal literal.** -/
theorem parseFloat_words {text : String} (words : StartsInWords text) : parseFloat text = none := by
  unfold parseFloat
  rw [splitSign_upper words.head]
  dsimp only
  rw [List.span_eq_takeWhile_dropWhile]
  have mantissa : parseMantissa ((numeralText text.toList).takeWhile
      fun c => c != 'e' && c != 'E') = none := by
    refine parseMantissa_upper fun first isFirst => words.head first ?_
    cases stripped : numeralText text.toList with
    | nil =>
        rw [stripped] at isFirst
        cases isFirst
    | cons head more =>
        rw [stripped, List.takeWhile_cons] at isFirst
        split at isFirst
        · exact isFirst
        · cases isFirst
  dsimp only
  split
  · rw [mantissa]
    rfl
  · rw [mantissa]
    rfl

/-- **A text in words names no infinity and no `nan`.** -/
theorem ofName_words {text : String} (words : StartsInWords text) : PyFloat.ofName text = none := by
  have differs : ∀ {first second : Char} {more : List Char} {name : String},
      name.toList = first :: second :: more →
      (first = 'i' ∧ second = 'n') ∨ (first = 'n' ∧ second = 'a') →
        (String.ofList (numeralText text.toList)).toLower ≠ name := by
    intro first second more name characters special same
    have lowered : (numeralText text.toList).map Char.toLower = first :: second :: more := by
      rw [← characters, ← same]
      show _ = (String.map Char.toLower (String.ofList (numeralText text.toList))).toList
      rw [String.toList_map, String.toList_ofList]
    rcases words.stripped with empty | ⟨head, others, stripped, -, shape⟩
    · rw [empty] at lowered
      cases lowered
    rw [stripped, List.map_cons, List.cons.injEq] at lowered
    rcases shape with rfl | ⟨next, rest, rfl, start⟩
    · cases lowered.2
    · obtain ⟨isFirst, lowered⟩ := lowered
      rw [List.map_cons, List.cons.injEq] at lowered
      unfold wordStart at start
      rw [isFirst, lowered.1] at start
      rcases special with ⟨rfl, rfl⟩ | ⟨rfl, rfl⟩
      · simp at start
      · simp at start
  have notInf : (String.ofList (numeralText text.toList)).toLower ≠ "inf" :=
    differs rfl (.inl ⟨rfl, rfl⟩)
  have notInfinity : (String.ofList (numeralText text.toList)).toLower ≠ "infinity" :=
    differs rfl (.inl ⟨rfl, rfl⟩)
  have notNan : (String.ofList (numeralText text.toList)).toLower ≠ "nan" :=
    differs rfl (.inr ⟨rfl, rfl⟩)
  unfold PyFloat.ofName
  rw [splitSign_upper words.head]
  simp [notInf, notInfinity, notNan]

end CosMonitor
