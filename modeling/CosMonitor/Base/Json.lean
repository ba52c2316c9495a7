/-
**JSON values as Python holds them, and the coercions the services apply to them.**

`json.loads` yields `None`, `bool`, `int`, `float`, `str`, `list` and `dict`; `Json` has one
constructor for each. Floats are exact rationals: a value is what the double denotes, and non-finite
doubles are outside the model. A `dict` is its association list in insertion order.
-/

import Mathlib.Algebra.Order.Field.Rat
import Mathlib.Data.List.Basic

namespace CosMonitor

/-- The built-in exceptions that Python code of the repository raises without naming them. -/
inductive PyError where
  | keyError (key : String)
  | valueError (message : String)
  | typeError
  | zeroDivisionError
  | overflowError
  | attributeError (name : String)
  | unboundLocalError (name : String)
  deriving DecidableEq, Repr

/-- A JSON value decoded by Python's `json` module. -/
inductive Json where
  | null
  | bool (value : Bool)
  | int (value : Int)
  | float (value : ℚ)
  | str (text : String)
  | arr (items : List Json)
  | obj (fields : List (String × Json))
  deriving Repr

namespace Json

mutual

def decEq : (first second : Json) → Decidable (first = second)
  | .null, .null => isTrue rfl
  | .bool a, .bool b => decidable_of_iff (a = b) (by simp)
  | .int a, .int b => decidable_of_iff (a = b) (by simp)
  | .float a, .float b => decidable_of_iff (a = b) (by simp)
  | .str a, .str b => decidable_of_iff (a = b) (by simp)
  | .arr a, .arr b =>
      match decEqItems a b with
      | isTrue same => isTrue (by rw [same])
      | isFalse differ => isFalse (by simpa using differ)
  | .obj a, .obj b =>
      match decEqFields a b with
      | isTrue same => isTrue (by rw [same])
      | isFalse differ => isFalse (by simpa using differ)
  | .null, .bool _ | .null, .int _ | .null, .float _ | .null, .str _ | .null, .arr _
  | .null, .obj _ | .bool _, .null | .bool _, .int _ | .bool _, .float _ | .bool _, .str _
  | .bool _, .arr _ | .bool _, .obj _ | .int _, .null | .int _, .bool _ | .int _, .float _
  | .int _, .str _ | .int _, .arr _ | .int _, .obj _ | .float _, .null | .float _, .bool _
  | .float _, .int _ | .float _, .str _ | .float _, .arr _ | .float _, .obj _ | .str _, .null
  | .str _, .bool _ | .str _, .int _ | .str _, .float _ | .str _, .arr _ | .str _, .obj _
  | .arr _, .null | .arr _, .bool _ | .arr _, .int _ | .arr _, .float _ | .arr _, .str _
  | .arr _, .obj _ | .obj _, .null | .obj _, .bool _ | .obj _, .int _ | .obj _, .float _
  | .obj _, .str _ | .obj _, .arr _ => isFalse (by simp)

def decEqItems : (first second : List Json) → Decidable (first = second)
  | [], [] => isTrue rfl
  | [], _ :: _ | _ :: _, [] => isFalse (by simp)
  | a :: as, b :: bs =>
      match decEq a b, decEqItems as bs with
      | isTrue head, isTrue tail => isTrue (by rw [head, tail])
      | isFalse differ, _ => isFalse (by simp [differ])
      | _, isFalse differ => isFalse (by simp [differ])

def decEqFields : (first second : List (String × Json)) → Decidable (first = second)
  | [], [] => isTrue rfl
  | [], _ :: _ | _ :: _, [] => isFalse (by simp)
  | (k, a) :: as, (l, b) :: bs =>
      match (inferInstance : Decidable (k = l)), decEq a b, decEqFields as bs with
      | isTrue key, isTrue head, isTrue tail => isTrue (by rw [key, head, tail])
      | isFalse differ, _, _ => isFalse (by simp [differ])
      | _, isFalse differ, _ => isFalse (by simp [differ])
      | _, _, isFalse differ => isFalse (by simp [differ])

end

instance : DecidableEq Json := decEq

/-- `dict.get(key)` on an object; `none` for an absent key. -/
def lookup (key : String) : Json → Option Json
  | .obj fields => fields.lookup key
  | _ => none

/-- `dict.get(key)` as Python returns it: `None` for an absent key. -/
def get (key : String) (value : Json) : Json :=
  (value.lookup key).getD .null

/-- `dict[key]`. -/
def item (key : String) (value : Json) : Except PyError Json :=
  match value.lookup key with
  | some found => .ok found
  | none => .error (.keyError key)

/-- `fields[key] = value`. -/
def setField (key : String) (value : Json) : List (String × Json) → List (String × Json)
  | [] => [(key, value)]
  | (other, old) :: rest =>
      if other = key then (other, value) :: rest else (other, old) :: setField key value rest

/-- `fields.update(extra)`. -/
def updateFields (fields extra : List (String × Json)) : List (String × Json) :=
  extra.foldl (fun updated field => setField field.1 field.2 updated) fields

/-- `isinstance(value, dict)`. -/
def isDict : Json → Bool
  | .obj _ => true
  | _ => false

/-- Python truth value testing. -/
def truthy : Json → Bool
  | .null => false
  | .bool value => value
  | .int value => value != 0
  | .float value => value != 0
  | .str text => text != ""
  | .arr items => !items.isEmpty
  | .obj fields => !fields.isEmpty

/-- The `or` operator of Python: the first operand when it is true, else the second. -/
def or (first second : Json) : Json :=
  if first.truthy then first else second

end Json

/-! ### `float()` on text -/

/-- The white space that `str.strip` removes. -/
def isPySpace (character : Char) : Bool :=
  character.toNat ∈ [9, 10, 11, 12, 13, 28, 29, 30, 31, 32, 133, 160, 5760, 8232, 8233, 8239, 8287,
    12288] || (8192 ≤ character.toNat && character.toNat ≤ 8202)

/-- `str.strip()` on the characters of a text. -/
def stripChars (characters : List Char) : List Char :=
  ((characters.dropWhile isPySpace).reverse.dropWhile isPySpace).reverse

/-- The zeros of the decimal digits beyond ASCII, as `unicodedata.decimal` of Python 3.11 has them. -/
def digitZeros : List Nat :=
  [0x660, 0x6f0, 0x7c0, 0x966, 0x9e6, 0xa66, 0xae6, 0xb66, 0xbe6, 0xc66, 0xce6, 0xd66, 0xde6, 0xe50, 0xed0,
    0xf20, 0x1040, 0x1090, 0x17e0, 0x1810, 0x1946, 0x19d0, 0x1a80, 0x1a90, 0x1b50, 0x1bb0, 0x1c40, 0x1c50,
    0xa620, 0xa8d0, 0xa900, 0xa9d0, 0xa9f0, 0xaa50, 0xabf0, 0xff10, 0x104a0, 0x10d30, 0x11066, 0x110f0,
    0x11136, 0x111d0, 0x112f0, 0x11450, 0x114d0, 0x11650, 0x116c0, 0x11730, 0x118e0, 0x11950, 0x11c50,
    0x11d50, 0x11da0, 0x16a60, 0x16ac0, 0x16b50, 0x1d7ce, 0x1d7d8, 0x1d7e2, 0x1d7ec, 0x1d7f6, 0x1e140,
    0x1e2f0, 0x1e950, 0x1fbf0]

/-- A character of a numeral in ASCII: a digit of any script is that digit, other white space a blank. -/
def asciiNumeral (character : Char) : Char :=
  if character.toNat < 127 then character
  else if isPySpace character then ' '
  else match digitZeros.find? fun zero => zero ≤ character.toNat && character.toNat < zero + 10 with
    | some zero => Char.ofNat (48 + (character.toNat - zero))
    | none => '?'

/-- The white space that may stand around a numeral in ASCII. -/
def isNumeralSpace (character : Char) : Bool :=
  character.toNat ∈ [9, 10, 11, 12, 13, 32]

/-- What `int()` and `float()` read of a text. -/
def numeralText (characters : List Char) : List Char :=
  (((characters.map asciiNumeral).dropWhile isNumeralSpace).reverse.dropWhile isNumeralSpace).reverse

/-- A digit part of a Python numeral: digits with single underscores between them. -/
def parseDigits (characters : List Char) : Option (List Nat) :=
  let groups := characters.splitOn '_'
  if groups.all (fun group => !group.isEmpty && group.all Char.isDigit) then
    some (groups.flatten.map fun digit => digit.toNat - 48)
  else none

/-- The number a list of decimal digits denotes. -/
def decimalValue (digits : List Nat) : Nat :=
  digits.foldl (fun value digit => value * 10 + digit) 0

/-- A sign, if there is one, and the rest. -/
def splitSign : List Char → Int × List Char
  | '-' :: rest => (-1, rest)
  | '+' :: rest => (1, rest)
  | rest => (1, rest)

/-- A signed integer literal: the exponent of a float literal, or the text of `int(text)`. -/
def parseInteger (characters : List Char) : Option Int :=
  let (sign, digits) := splitSign characters
  (parseDigits digits).map fun found => sign * decimalValue found

/-- The mantissa of a float literal: `12`, `12.`, `.5` or `12.5`. -/
def parseMantissa (characters : List Char) : Option ℚ :=
  let (whole, rest) := characters.span (· != '.')
  match whole, rest with
  | whole, [] | whole@(_ :: _), ['.'] =>
      (parseDigits whole).map fun found => (decimalValue found : ℚ)
  | [], _ :: fraction =>
      (parseDigits fraction).map fun found => (decimalValue found : ℚ) / 10 ^ found.length
  | whole, _ :: fraction => do
      let before ← parseDigits whole
      let after ← parseDigits fraction
      return (decimalValue before : ℚ) + (decimalValue after : ℚ) / 10 ^ after.length

/-- The number of a decimal literal that `float(text)` reads; `none` is Python's `ValueError`. -/
def parseFloat (text : String) : Option ℚ :=
  let (sign, unsigned) := splitSign (numeralText text.toList)
  let (mantissa, exponent) := unsigned.span (fun c => c != 'e' && c != 'E')
  match exponent with
  | [] => (parseMantissa mantissa).map fun value => sign * value
  | _ :: digits => do
      let value ← parseMantissa mantissa
      let power ← parseInteger digits
      return sign * value * (10 : ℚ) ^ power

end CosMonitor
