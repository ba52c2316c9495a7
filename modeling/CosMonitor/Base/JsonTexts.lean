/-
**JSON texts.**

Every text that the program writes for a JSON value comes from one writer, that differs in its floats, in what
it escapes, in the gap after its commas and colons, and in the order of its keys.

* `JsonStyle`: these differences; `JsonStyle.chars`: the text of a value;
* `chars_arr`, `chars_obj`: arrays and objects, item by item.
-/

import CosMonitor.Base.Stdlib
import CosMonitor.Foundation.Readable
import CosMonitor.Foundation.Sorting
import Mathlib.Data.String.Basic

namespace CosMonitor

open Sorting

/-! ### Texts in quotation marks -/

section Quoted

theorem scalar_range (character : Char) :
    character.toNat < 55296 ∨ (57343 < character.toNat ∧ character.toNat < 1114112) :=
  character.valid

/-- `\uXXXX`. -/
def unicodeEscape (code : Nat) : List Char :=
  '\\' :: 'u' :: hexDigits 4 code

/-- A character of a JSON text; `ascii` escapes everything outside the printable ASCII range. -/
def escapeChar (ascii : Bool) (character : Char) : List Char :=
  match character with
  | '"' => ['\\', '"']
  | '\\' => ['\\', '\\']
  | '\n' => ['\\', 'n']
  | '\r' => ['\\', 'r']
  | '\t' => ['\\', 't']
  | other =>
      let code := other.toNat
      if code = 8 then ['\\', 'b']
      else if code = 12 then ['\\', 'f']
      else if code < 32 then unicodeEscape code
      else if ascii ∧ 126 < code then
        if code < 65536 then unicodeEscape code
        else unicodeEscape (55296 + (code - 65536) / 1024) ++
          unicodeEscape (56320 + (code - 65536) % 1024)
      else [other]

/-- `json.dumps(text)`. -/
def dumpsText (ascii : Bool) (text : String) : List Char :=
  '"' :: (text.toList.flatMap (escapeChar ascii) ++ ['"'])

end Quoted

/-! ### Values -/

/-- How JSON is written. -/
structure JsonStyle where
  /-- the text of a float -/
  floatText : ℚ → String
  /-- texts are escaped outside ASCII -/
  ascii : Bool
  /-- keys are escaped outside ASCII -/
  keyAscii : Bool
  /-- what stands after a comma, and after the colon of a key -/
  gap : List Char
  /-- the keys of every object are sorted -/
  sortKeys : Bool

namespace JsonStyle

variable (style : JsonStyle)

/-- The fields of an object in the order in which they are written. -/
def ordered {Value : Type} (fields : List (String × Value)) : List (String × Value) :=
  if style.sortKeys then sortBy Prod.fst fields else fields

/-- A field, from its key and the text of its value. -/
def fieldText (field : String × List Char) : List Char :=
  dumpsText style.keyAscii field.1 ++ ':' :: (style.gap ++ field.2)

mutual

/-- The text of a value. -/
def chars : Json → List Char
  | .null => ['n', 'u', 'l', 'l']
  | .bool value => if value then ['t', 'r', 'u', 'e'] else ['f', 'a', 'l', 's', 'e']
  | .int value => (toString value).toList
  | .float value => (style.floatText value).toList
  | .str text => dumpsText style.ascii text
  | .arr items => '[' :: ((',' :: style.gap).intercalate (itemTexts items) ++ [']'])
  | .obj fields =>
      '\x7b' :: ((',' :: style.gap).intercalate ((style.ordered (fieldTexts fields)).map style.fieldText) ++
        ['\x7d'])

def itemTexts : List Json → List (List Char)
  | [] => []
  | item :: rest => chars item :: itemTexts rest

def fieldTexts : List (String × Json) → List (String × List Char)
  | [] => []
  | (key, value) :: rest => (key, chars value) :: fieldTexts rest

end

/-- What is written for a field. -/
def fieldChars (field : String × Json) : List Char :=
  style.fieldText (field.1, style.chars field.2)

variable {style}

theorem ordered_perm {Value : Type} (fields : List (String × Value)) : (style.ordered fields).Perm fields := by
  unfold ordered
  split
  · exact sortBy_perm _ _
  · exact List.Perm.refl _

theorem ordered_map {Value Other : Type} (change : Value → Other) (fields : List (String × Value)) :
    style.ordered (fields.map fun field => (field.1, change field.2)) =
      (style.ordered fields).map fun field => (field.1, change field.2) := by
  unfold ordered
  split
  · exact (map_sortBy _ _).symm
  · rfl

theorem itemTexts_eq_map (items : List Json) : style.itemTexts items = items.map style.chars := by
  induction items with
  | nil => rfl
  | cons item rest ih => rw [itemTexts, ih, List.map_cons]

theorem fieldTexts_eq_map (fields : List (String × Json)) :
    style.fieldTexts fields = fields.map fun field => (field.1, style.chars field.2) := by
  induction fields with
  | nil => rfl
  | cons field rest ih =>
      obtain ⟨key, value⟩ := field
      rw [fieldTexts, ih, List.map_cons]

theorem fieldTexts_keys (fields : List (String × Json)) :
    (style.fieldTexts fields).map Prod.fst = fields.map Prod.fst := by
  rw [fieldTexts_eq_map, List.map_map]
  rfl

/-- Sorted fields do not depend on the order in which they came, if their keys are different. -/
theorem ordered_congr {fields others : List (String × Json)} (sorts : style.sortKeys = true)
    (together : fields.Perm others) (distinct : (fields.map Prod.fst).Nodup) :
    style.ordered (style.fieldTexts fields) = style.ordered (style.fieldTexts others) := by
  have texts : (style.fieldTexts fields).Perm (style.fieldTexts others) := by
    rw [fieldTexts_eq_map, fieldTexts_eq_map]
    exact together.map _
  rw [ordered, ordered, if_pos sorts, if_pos sorts]
  have differ : ((style.fieldTexts others).map Prod.fst).Nodup := by
    rw [fieldTexts_keys]
    exact (together.map Prod.fst).nodup_iff.mp distinct
  exact sortBy_congr texts differ

theorem chars_arr (items : List Json) :
    style.chars (.arr items) = '[' :: Readable.spaced ',' ']' style.gap style.chars items := by
  rw [chars, itemTexts_eq_map, Readable.spaced_eq_intercalate]

theorem chars_obj (fields : List (String × Json)) :
    style.chars (.obj fields) =
      '\x7b' :: Readable.spaced ',' '\x7d' style.gap style.fieldChars (style.ordered fields) := by
  rw [chars, fieldTexts_eq_map, ordered_map, List.map_map, Readable.spaced_eq_intercalate]
  rfl

end JsonStyle

end CosMonitor
