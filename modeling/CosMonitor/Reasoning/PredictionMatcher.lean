/-
**The prediction matcher of `evaluate_hypothesis`.**

A prediction is looked for in the lower case of the evidence as `json.dumps` writes it, where quotation
marks, backslashes, control characters and everything outside ASCII are escaped.

* `dumps`, `evidenceMatchesPrediction`: the serialised evidence and the matcher;
* `Json.texts`: the strings inside a value, keys among them;
* `quoted_within`: each of them is written in the text of the value, escaped;
* `dumps_printable`: nothing outside the printable ASCII characters is.
-/

import CosMonitor.Base.JsonTexts
import CosMonitor.Base.Lowering
import CosMonitor.Base.NumeralTexts
import CosMonitor.Foundation.Escaping

namespace CosMonitor

/-! ### The serialised evidence -/

section Dumps

variable (std : Stdlib)

/-- What `json.dumps` writes by default. -/
def defaultStyle : JsonStyle where
  floatText := std.floatRepr
  ascii := true
  keyAscii := true
  gap := [' ']
  sortKeys := false

/-- `json.dumps(value, default=str)` on a JSON value. -/
def dumps (value : Json) : List Char :=
  (defaultStyle std).chars value

end Dumps

namespace Json

mutual

/-- The strings inside a value, the keys of its objects among them. -/
def texts : Json → List String
  | .null | .bool _ | .int _ | .float _ => []
  | .str text => [text]
  | .arr items => textsItems items
  | .obj fields => textsFields fields

/-- The strings inside the items of an array. -/
def textsItems : List Json → List String
  | [] => []
  | item :: rest => texts item ++ textsItems rest

/-- The strings inside the fields of an object. -/
def textsFields : List (String × Json) → List String
  | [] => []
  | (key, value) :: rest => key :: (texts value ++ textsFields rest)

end

end Json

/-! ### The matcher -/

section Matcher

variable (std : Stdlib) (lowering : Lowering) (evidence : List (String × Json))

/-- `phrase.lower() in json.dumps(evidence, default=str).lower()`. -/
def evidenceMentionsPhrase (phrase : String) : Bool :=
  decide (lowering.lower phrase.toList <:+: lowering.lower (dumps std (.obj evidence)))

/-- `_evidence_matches_prediction`. -/
def evidenceMatchesPrediction (prediction : String) : Bool :=
  evidenceMentionsPhrase std lowering evidence prediction

/-- `_evidence_matches_falsification`. -/
def evidenceMatchesFalsification (falsificationCriterion : String) : Bool :=
  evidenceMentionsPhrase std lowering evidence falsificationCriterion

/-- Some string inside the evidence contains the prediction, whatever the case. -/
def Mentioned (prediction : String) : Prop :=
  ∃ text ∈ (Json.obj evidence).texts, lowering.lower prediction.toList <:+: lowering.lower text.toList

end Matcher

/-! ### Strings inside a value -/

section Texts

variable {std : Stdlib} {text : String}

mutual

/-- **A string inside a value is written in its text**, in quotation marks. -/
theorem quoted_within : (value : Json) → text ∈ value.texts → dumpsText true text <:+: dumps std value
  | .null, inside | .bool _, inside | .int _, inside | .float _, inside => nomatch inside
  | .str other, inside => by
      rw [Json.texts, List.mem_singleton] at inside
      rw [inside, dumps, JsonStyle.chars]
      exact List.infix_rfl
  | .arr items, inside => by
      rw [Json.texts] at inside
      obtain ⟨item, member, within⟩ := quoted_within_items items inside
      rw [dumps, JsonStyle.chars_arr]
      exact (within.trans (Readable.infix_spaced member)).trans (List.suffix_cons _ _).isInfix
  | .obj fields, inside => by
      rw [Json.texts] at inside
      obtain ⟨field, member, within⟩ := quoted_within_fields fields inside
      rw [dumps, JsonStyle.chars_obj]
      exact (within.trans (Readable.infix_spaced ((JsonStyle.ordered_perm fields).mem_iff.mpr member))).trans
        (List.suffix_cons _ _).isInfix

theorem quoted_within_items : (items : List Json) → text ∈ Json.textsItems items →
    ∃ item ∈ items, dumpsText true text <:+: dumps std item
  | [], inside => nomatch inside
  | item :: rest, inside => by
      rw [Json.textsItems, List.mem_append] at inside
      rcases inside with here | later
      · exact ⟨item, List.mem_cons_self, quoted_within item here⟩
      · obtain ⟨other, member, within⟩ := quoted_within_items rest later
        exact ⟨other, List.mem_cons_of_mem _ member, within⟩

theorem quoted_within_fields : (fields : List (String × Json)) → text ∈ Json.textsFields fields →
    ∃ field ∈ fields, dumpsText true text <:+: (defaultStyle std).fieldChars field
  | [], inside => nomatch inside
  | (key, value) :: rest, inside => by
      rw [Json.textsFields, List.mem_cons, List.mem_append] at inside
      rcases inside with rfl | here | later
      · exact ⟨_, List.mem_cons_self, List.infix_append_left⟩
      · refine ⟨_, List.mem_cons_self, (quoted_within value here).trans ?_⟩
        exact (List.suffix_append [' '] _).isInfix.trans
          ((List.suffix_cons _ _).isInfix.trans List.infix_append_right)
      · obtain ⟨other, member, within⟩ := quoted_within_fields rest later
        exact ⟨other, List.mem_cons_of_mem _ member, within⟩

end

end Texts

/-! ### Printable characters -/

section Printable

/-- A printable ASCII character. -/
def printable (character : Char) : Bool :=
  decide (32 ≤ character.toNat ∧ character.toNat ≤ 126)

/-- A character that JSON escapes among the printable ones. -/
def specialChar (character : Char) : Bool :=
  character == '"' || character == '\\'

theorem printable_ascii {character : Char} (isPrintable : printable character = true) :
    character.toNat < 128 := by
  have range := of_decide_eq_true isPrintable
  omega

theorem escapeChar_printable {character : Char} (isPrintable : printable character = true) :
    escapeChar true character = Escaping.escapeSymbol '\\' specialChar character :=
  @Lowering.forall_ascii (fun character => printable character = true →
    escapeChar true character = Escaping.escapeSymbol '\\' specialChar character)
    (by decide +kernel) character (printable_ascii isPrintable) isPrintable

theorem flatMap_escapeChar {text : List Char} (isPrintable : ∀ character ∈ text, printable character = true) :
    text.flatMap (escapeChar true) = Escaping.escape '\\' specialChar text :=
  List.flatMap_congr fun character member => escapeChar_printable (isPrintable character member)

theorem hexDigits_printable (width value : Nat) :
    ∀ character ∈ hexDigits width value, printable character = true := by
  induction width generalizing value with
  | zero => exact fun _ absent => (nomatch absent)
  | succ width ih =>
      have digit : ∀ code < 16, printable (hexChar code) = true := by decide
      refine List.forall_mem_append.mpr ⟨ih _, List.forall_mem_singleton.mpr ?_⟩
      exact digit _ (Nat.mod_lt _ (by decide))

theorem unicodeEscape_printable (code : Nat) :
    ∀ character ∈ unicodeEscape code, printable character = true :=
  List.forall_mem_cons.mpr ⟨rfl, List.forall_mem_cons.mpr ⟨rfl, hexDigits_printable 4 code⟩⟩

/-- **What is written for a character is printable.** -/
theorem escapeChar_isPrintable (character : Char) :
    ∀ written ∈ escapeChar true character, printable written = true := by
  by_cases isPrintable : printable character = true
  · rw [escapeChar_printable isPrintable]
    unfold Escaping.escapeSymbol
    split
    · exact List.forall_mem_cons.mpr ⟨rfl, List.forall_mem_singleton.mpr isPrintable⟩
    · exact List.forall_mem_singleton.mpr isPrintable
  · by_cases small : character.toNat < 128
    · exact List.all_eq_true.mp (@Lowering.forall_ascii (fun character =>
        (escapeChar true character).all printable = true) (by decide +kernel) character small)
    · have high : 126 < character.toNat := by omega
      unfold escapeChar
      split
      · exact List.all_eq_true.mp (by decide)
      · exact List.all_eq_true.mp (by decide)
      · exact List.all_eq_true.mp (by decide)
      · exact List.all_eq_true.mp (by decide)
      · exact List.all_eq_true.mp (by decide)
      · rename_i other
        dsimp only
        rw [if_neg (by omega), if_neg (by omega), if_neg (by omega), if_pos ⟨rfl, high⟩]
        split
        · exact unicodeEscape_printable _
        · exact List.forall_mem_append.mpr ⟨unicodeEscape_printable _, unicodeEscape_printable _⟩

theorem dumpsText_printable (text : String) : ∀ written ∈ dumpsText true text, printable written = true := by
  refine List.forall_mem_cons.mpr ⟨rfl, List.forall_mem_append.mpr ⟨fun written member => ?_,
    List.forall_mem_singleton.mpr rfl⟩⟩
  obtain ⟨character, -, inside⟩ := List.mem_flatMap.mp member
  exact escapeChar_isPrintable character written inside

theorem IsNumeral.printable {text : List Char} (numeral : IsNumeral text) :
    ∀ character ∈ text, CosMonitor.printable character = true := by
  intro character member
  have small : character.toNat < 128 := by
    have isChar := numeral.characters character member
    unfold numeralChar at isChar
    rw [Bool.or_eq_true, decide_eq_true_eq] at isChar
    rcases isChar with digit | other
    · unfold Char.isDigit at digit
      simp only [Bool.and_eq_true, decide_eq_true_eq] at digit
      have low : character.toNat ≤ 57 := UInt32.le_iff_toNat_le.mp digit.2
      omega
    · simp only [List.mem_cons, List.not_mem_nil, or_false] at other
      rcases other with rfl | rfl | rfl | rfl <;> decide
  exact @Lowering.forall_ascii (fun character => numeralChar character = true →
    CosMonitor.printable character = true) (by decide +kernel) character small
    (numeral.characters character member)

variable {std : Stdlib}

mutual

/-- **The serialised evidence is printable ASCII text.** -/
theorem dumps_printable (numerals : std.WritesNumerals) : (value : Json) →
    ∀ written ∈ dumps std value, printable written = true
  | .null => by
      rw [dumps, JsonStyle.chars]
      exact List.all_eq_true.mp (by decide)
  | .bool value => by
      rw [dumps, JsonStyle.chars]
      cases value with
      | true => exact List.all_eq_true.mp (by decide)
      | false => exact List.all_eq_true.mp (by decide)
  | .int value => by
      rw [dumps, JsonStyle.chars]
      exact (isNumeral_int value).printable
  | .float value => by
      rw [dumps, JsonStyle.chars]
      exact (numerals value).printable
  | .str text => by
      rw [dumps, JsonStyle.chars]
      exact dumpsText_printable text
  | .arr items => by
      rw [dumps, JsonStyle.chars_arr]
      exact List.forall_mem_cons.mpr ⟨rfl, Readable.forall_mem_spaced rfl rfl
        (List.forall_mem_singleton.mpr rfl) (dumps_printable_items numerals items)⟩
  | .obj fields => by
      rw [dumps, JsonStyle.chars_obj]
      exact List.forall_mem_cons.mpr ⟨rfl, Readable.forall_mem_spaced rfl rfl
        (List.forall_mem_singleton.mpr rfl) (dumps_printable_fields numerals fields)⟩

theorem dumps_printable_items (numerals : std.WritesNumerals) : (items : List Json) →
    ∀ item ∈ items, ∀ written ∈ dumps std item, printable written = true
  | [] => fun _ absent => nomatch absent
  | item :: rest => List.forall_mem_cons.mpr
      ⟨dumps_printable numerals item, dumps_printable_items numerals rest⟩

theorem dumps_printable_fields (numerals : std.WritesNumerals) : (fields : List (String × Json)) →
    ∀ field ∈ fields, ∀ written ∈ (defaultStyle std).fieldChars field, printable written = true
  | [] => fun _ absent => nomatch absent
  | (key, value) :: rest => List.forall_mem_cons.mpr
      ⟨List.forall_mem_append.mpr ⟨dumpsText_printable key, List.forall_mem_cons.mpr ⟨rfl,
        List.forall_mem_cons.mpr ⟨rfl, dumps_printable numerals value⟩⟩⟩,
      dumps_printable_fields numerals rest⟩

end

end Printable

end CosMonitor
