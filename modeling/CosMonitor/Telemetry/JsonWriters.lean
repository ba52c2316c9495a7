/-
**What JSON texts determine.**

The text that a style writes for a value determines the value, up to what it says of numbers and to the order
of the keys.

* `JsonStyle.numeral`, `JsonStyle.WritesNumerals`: the texts of the numbers are numerals;
* `TreeRelation`: a relation between values that goes down from a value to its parts;
* `JsonStyle.announces`: every text begins with a character that announces the kind of its value;
* `JsonStyle.determines`: every value is determined by its text, up to every such relation.
-/

import CosMonitor.Base.NumeralTexts
import CosMonitor.Telemetry.EscapedTexts

namespace CosMonitor

/-! ### Kinds of values -/

/-- What a text is, by its first character. -/
inductive JsonKind where
  | null
  | true
  | false
  | number
  | text
  | array
  | object
  deriving DecidableEq

/-- The kind of a value. -/
def Json.kind : Json → JsonKind
  | .null => .null
  | .bool value => if value then .true else .false
  | .int _ | .float _ => .number
  | .str _ => .text
  | .arr _ => .array
  | .obj _ => .object

/-- The kind that a character announces. -/
def announced (character : Char) : JsonKind :=
  match character with
  | 'n' => .null
  | 't' => .true
  | 'f' => .false
  | '"' => .text
  | '[' => .array
  | '\x7b' => .object
  | _ => .number

theorem announced_numeral {character : Char} (leads : character.isDigit = true ∨ character = '-') :
    announced character = .number := by
  unfold announced
  split <;> first | rfl | (rcases leads with digit | minus <;> contradiction)

/-- What follows a value does not go on with a numeral. -/
def Ends (rest : List Char) : Prop :=
  ∀ next ∈ rest.head?, numeralChar next = false

theorem ends_nil : Ends [] := fun _ absent => nomatch absent

theorem ends_cons {next : Char} (apart : numeralChar next = false) (word : List Char) : Ends (next :: word) :=
  fun _ first => Option.some.inj first ▸ apart

/-! ### Numbers -/

/-- The text of a number. -/
def JsonStyle.numeral (style : JsonStyle) : Json → Option String
  | .int value => some (toString value)
  | .float value => some (style.floatText value)
  | .null | .bool _ | .str _ | .arr _ | .obj _ => none

/-- The texts of floats are numerals. -/
def JsonStyle.WritesNumerals (style : JsonStyle) : Prop :=
  ∀ value, IsNumeral (style.floatText value).toList

/-- A relation that holds between numbers of one numeral, and otherwise between values of one form whose
parts are related, the fields of an object in some order. -/
structure TreeRelation (numeral : Json → Option String) (alike : Json → Json → Prop) : Prop where
  null : alike .null .null
  bool : ∀ truth, alike (.bool truth) (.bool truth)
  number : ∀ {first second text}, numeral first = some text → numeral second = some text →
    alike first second
  str : ∀ text, alike (.str text) (.str text)
  arr : ∀ {items others}, List.Forall₂ alike items others → alike (.arr items) (.arr others)
  obj : ∀ {fields ordered others otherOrdered : List (String × Json)}, fields.Perm ordered →
    others.Perm otherOrdered →
    List.Forall₂ (fun field other => field.1 = other.1 ∧ alike field.2 other.2) ordered otherOrdered →
    alike (.obj fields) (.obj others)

namespace JsonStyle

variable {style : JsonStyle} {alike : Json → Json → Prop} {value other : Json} {text : String}
  {rest after : List Char} {items : List Json} {fields : List (String × Json)}

theorem chars_numeral (isNumber : style.numeral value = some text) : style.chars value = text.toList := by
  cases value with
  | int number | float number => rw [chars, ← Option.some.inj isNumber]
  | null | bool | str | arr | obj => cases isNumber

theorem isNumeral_numeral (numerals : style.WritesNumerals) (isNumber : style.numeral value = some text) :
    IsNumeral text.toList := by
  cases value with
  | int number =>
      rw [← Option.some.inj isNumber]
      exact isNumeral_int number
  | float number =>
      rw [← Option.some.inj isNumber]
      exact numerals number
  | null | bool | str | arr | obj => cases isNumber

theorem exists_numeral (number : value.kind = .number) : ∃ text, style.numeral value = some text := by
  cases value with
  | int value | float value => exact ⟨_, rfl⟩
  | bool value => cases value <;> cases number
  | null | str | arr | obj => cases number

/-! ### Texts announce kinds -/

theorem number_announces (numerals : style.WritesNumerals) (number : value.kind = .number) :
    ∃ head tail, style.chars value = head :: tail ∧ announced head = .number ∧ head ≠ ']' := by
  obtain ⟨text, isNumber⟩ := exists_numeral number
  obtain ⟨-, head, tail, characters, leads⟩ := isNumeral_numeral numerals isNumber
  refine ⟨head, tail, (chars_numeral isNumber).trans characters, announced_numeral leads, ?_⟩
  rintro rfl
  rcases leads with digit | minus <;> contradiction

/-- **Every text announces the kind of its value**, and does not begin as an array ends. -/
theorem announces (numerals : style.WritesNumerals) (value : Json) :
    ∃ head tail, style.chars value = head :: tail ∧ announced head = value.kind ∧ head ≠ ']' := by
  cases value with
  | null => exact ⟨'n', _, by rw [chars], rfl, by decide⟩
  | bool value =>
      cases value with
      | true => exact ⟨'t', _, by rw [chars, if_pos rfl], rfl, by decide⟩
      | false => exact ⟨'f', _, by rw [chars, if_neg Bool.false_ne_true], rfl, by decide⟩
  | int value => exact number_announces numerals rfl
  | float value => exact number_announces numerals rfl
  | str text => exact ⟨'"', _, by rw [chars, dumpsText], rfl, by decide⟩
  | arr items => exact ⟨'[', _, chars_arr items, rfl, by decide⟩
  | obj fields => exact ⟨'\x7b', _, chars_obj fields, rfl, by decide⟩

theorem same_kind (numerals : style.WritesNumerals)
    (same : style.chars value ++ rest = style.chars other ++ after) : value.kind = other.kind := by
  obtain ⟨head, tail, text, kind, -⟩ := announces numerals value
  obtain ⟨otherHead, otherTail, otherText, otherKind, -⟩ := announces numerals other
  rw [text, otherText] at same
  rw [← kind, ← otherKind, (List.cons.inj same).1]

/-! ### Texts determine values -/

theorem determines_null (numerals : style.WritesNumerals) (relation : TreeRelation style.numeral alike) :
    Readable.Determines Ends style.chars alike .null := by
  intro other rest after _ _ same
  have kinds := same_kind numerals same
  cases other with
  | null => exact ⟨relation.null, List.append_cancel_left same⟩
  | bool value => cases value <;> cases kinds
  | int | float | str | arr | obj => cases kinds

theorem determines_bool (numerals : style.WritesNumerals) (relation : TreeRelation style.numeral alike)
    (truth : Bool) : Readable.Determines Ends style.chars alike (.bool truth) := by
  intro other rest after _ _ same
  have kinds := same_kind numerals same
  cases other with
  | bool value =>
      obtain rfl : truth = value := by
        cases truth <;> cases value <;> first | rfl | cases kinds
      exact ⟨relation.bool truth, List.append_cancel_left same⟩
  | null | int | float | str | arr | obj => cases truth <;> cases kinds

/-- **A number is determined**, up to its numeral, where no numeral goes on. -/
theorem determines_number (numerals : style.WritesNumerals) (relation : TreeRelation style.numeral alike)
    (number : value.kind = .number) : Readable.Determines Ends style.chars alike value := by
  intro other rest after ends otherEnds same
  have otherNumber : other.kind = .number := (same_kind numerals same).symm.trans number
  obtain ⟨text, isNumber⟩ := exists_numeral number
  obtain ⟨otherText, isOther⟩ := exists_numeral otherNumber
  rw [chars_numeral isNumber, chars_numeral isOther] at same
  obtain ⟨texts, rests⟩ := Readable.span_unique (isNumeral_numeral numerals isNumber).characters
    (isNumeral_numeral numerals isOther).characters ends otherEnds same
  rw [← String.toList_injective texts] at isOther
  exact ⟨relation.number isNumber isOther, rests⟩

theorem determines_str (numerals : style.WritesNumerals) (relation : TreeRelation style.numeral alike)
    (text : String) : Readable.Determines Ends style.chars alike (.str text) := by
  intro other rest after _ _ same
  have kinds := same_kind numerals same
  cases other with
  | str otherText =>
      rw [chars, chars] at same
      obtain ⟨rfl, rests⟩ := dumpsText_unique same
      exact ⟨relation.str text, rests⟩
  | bool value => cases value <;> cases kinds
  | null | int | float | arr | obj => cases kinds

/-- **An array is determined** when its items are. -/
theorem determines_arr (numerals : style.WritesNumerals) (relation : TreeRelation style.numeral alike)
    (determined : ∀ item ∈ items, Readable.Determines Ends style.chars alike item) :
    Readable.Determines Ends style.chars alike (.arr items) := by
  intro other rest after _ _ same
  have kinds := same_kind numerals same
  cases other with
  | arr others =>
      rw [chars_arr, chars_arr] at same
      have opens : ∀ item, ∃ head tail, style.chars item = head :: tail ∧ head ≠ ']' := fun item => by
        obtain ⟨head, tail, text, -, differs⟩ := announces numerals item
        exact ⟨head, tail, text, differs⟩
      obtain ⟨itemsSame, rests⟩ := Readable.Determines.spaced (by decide)
        (ends_cons (by decide)) (ends_cons (by decide)) opens determined (List.cons.inj same).2
      exact ⟨relation.arr itemsSame, rests⟩
  | bool value => cases value <;> cases kinds
  | null | int | float | str | obj => cases kinds

theorem determines_field {field : String × Json}
    (determined : Readable.Determines Ends style.chars alike field.2) :
    Readable.Determines Ends style.fieldChars
      (fun field other => field.1 = other.1 ∧ alike field.2 other.2) field := by
  intro other rest after ends otherEnds same
  unfold fieldChars fieldText at same
  rw [List.append_assoc, List.append_assoc] at same
  obtain ⟨keys, texts⟩ := dumpsText_unique same
  obtain ⟨values, rests⟩ := determined.gap style.gap other.2 rest after ends otherEnds (List.cons.inj texts).2
  exact ⟨⟨keys, values⟩, rests⟩

/-- **An object is determined**, up to the order of its keys, when its values are. -/
theorem determines_obj (numerals : style.WritesNumerals) (relation : TreeRelation style.numeral alike)
    (determined : ∀ field ∈ fields, Readable.Determines Ends style.chars alike field.2) :
    Readable.Determines Ends style.chars alike (.obj fields) := by
  intro other rest after _ _ same
  have kinds := same_kind numerals same
  cases other with
  | obj others =>
      rw [chars_obj, chars_obj] at same
      have opens : ∀ field : String × Json, ∃ head tail,
          style.fieldChars field = head :: tail ∧ head ≠ '\x7d' := fun field =>
        ⟨'"', _, rfl, by decide⟩
      obtain ⟨fieldsSame, rests⟩ := Readable.Determines.spaced (by decide)
        (ends_cons (by decide)) (ends_cons (by decide)) opens
        (fun field member => determines_field (determined field ((ordered_perm fields).mem_iff.mp member)))
        (List.cons.inj same).2
      exact ⟨relation.obj (ordered_perm fields).symm (ordered_perm others).symm fieldsSame, rests⟩
  | bool value => cases value <;> cases kinds
  | null | int | float | str | arr => cases kinds

mutual

/-- **Every value is determined** by its text, as a tree. -/
theorem determines (numerals : style.WritesNumerals) (relation : TreeRelation style.numeral alike) :
    (value : Json) → Readable.Determines Ends style.chars alike value
  | .null => determines_null numerals relation
  | .bool truth => determines_bool numerals relation truth
  | .int _ => determines_number numerals relation rfl
  | .float _ => determines_number numerals relation rfl
  | .str text => determines_str numerals relation text
  | .arr items => determines_arr numerals relation (determines_items numerals relation items)
  | .obj fields => determines_obj numerals relation (determines_fields numerals relation fields)

theorem determines_items (numerals : style.WritesNumerals) (relation : TreeRelation style.numeral alike) :
    (items : List Json) → ∀ item ∈ items, Readable.Determines Ends style.chars alike item
  | [] => fun _ absent => nomatch absent
  | item :: rest => List.forall_mem_cons.mpr
      ⟨determines numerals relation item, determines_items numerals relation rest⟩

theorem determines_fields (numerals : style.WritesNumerals) (relation : TreeRelation style.numeral alike) :
    (fields : List (String × Json)) → ∀ field ∈ fields, Readable.Determines Ends style.chars alike field.2
  | [] => fun _ absent => nomatch absent
  | (_, value) :: rest => List.forall_mem_cons.mpr
      ⟨determines numerals relation value, determines_fields numerals relation rest⟩

end

end JsonStyle

end CosMonitor
