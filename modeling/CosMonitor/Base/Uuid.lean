/-
**`uuid.UUID` — identifiers, their canonical text and the texts the constructor accepts.**

* `uuidText`: `str(id)`, 32 lower-case hexadecimal digits in groups of 8-4-4-4-12;
* `parseUuid`: `uuid.UUID(text)`, with the prefixes, braces and dashes it ignores;
* `parseUuid_uuidText`: every identifier is read back from its text, so `uuidText` is injective.
-/

import CosMonitor.Base.Json
import Mathlib.Data.List.Sort

namespace CosMonitor

/-- A 128-bit identifier. -/
abbrev Uuid := Fin (2 ^ 128)

instance neZero_uuidRange : NeZero (2 ^ 128) := ⟨by decide⟩

instance lawfulBEq_uuid : LawfulBEq Uuid := inferInstance

/-! ### Hexadecimal digits -/

section Hex

/-- The lower-case character of a hexadecimal digit. -/
def hexChar (digit : Nat) : Char :=
  if digit < 10 then Char.ofNat (48 + digit) else Char.ofNat (87 + digit)

/-- The digit of an ASCII hexadecimal character. -/
def hexValue (character : Char) : Option Nat :=
  if '0' ≤ character ∧ character ≤ '9' then some (character.toNat - 48)
  else if 'a' ≤ character ∧ character ≤ 'f' then some (character.toNat - 87)
  else if 'A' ≤ character ∧ character ≤ 'F' then some (character.toNat - 55)
  else none

/-- The last `width` hexadecimal digits of a number, most significant first. -/
def hexDigits : (width value : Nat) → List Char
  | 0, _ => []
  | width + 1, value => hexDigits width (value / 16) ++ [hexChar (value % 16)]

/-- The number that hexadecimal characters denote, after the digits already read. -/
def readHex : (sofar : Nat) → List Char → Option Nat
  | sofar, [] => some sofar
  | sofar, character :: rest => do
      let digit ← hexValue character
      readHex (sofar * 16 + digit) rest

theorem hexValue_hexChar {digit : Nat} (small : digit < 16) :
    hexValue (hexChar digit) = some digit := by
  revert digit
  decide

@[simp] theorem length_hexDigits (width value : Nat) : (hexDigits width value).length = width := by
  induction width generalizing value with
  | zero => rfl
  | succ width ih => simp [hexDigits, ih]

theorem readHex_append (sofar : Nat) (first second : List Char) :
    readHex sofar (first ++ second) =
      (readHex sofar first).bind fun value => readHex value second := by
  induction first generalizing sofar with
  | nil => rfl
  | cons character rest ih =>
      rw [List.cons_append, readHex, readHex]
      cases hexValue character with
      | none => rfl
      | some digit => exact ih _

/-- **A number below `16 ^ width` is read back from its digits.** -/
theorem readHex_hexDigits {width value : Nat} (bounded : value < 16 ^ width) :
    readHex 0 (hexDigits width value) = some value := by
  induction width generalizing value with
  | zero =>
      have zero : value = 0 := by simpa using bounded
      rw [zero]
      rfl
  | succ width ih =>
      have upper : value / 16 < 16 ^ width := by
        rw [Nat.div_lt_iff_lt_mul (by decide)]
        rwa [pow_succ] at bounded
      rw [hexDigits, readHex_append, ih upper, Option.bind_some, readHex,
        hexValue_hexChar (Nat.mod_lt _ (by decide))]
      show some (value / 16 * 16 + value % 16) = some value
      rw [Nat.div_add_mod']

theorem hexValue_of_mem_hexDigits {width value : Nat} {character : Char}
    (member : character ∈ hexDigits width value) : ∃ digit < 16, character = hexChar digit := by
  induction width generalizing value with
  | zero => cases member
  | succ width ih =>
      rcases List.mem_append.mp member with upper | last
      · exact ih upper
      · exact ⟨value % 16, Nat.mod_lt _ (by decide), List.mem_singleton.mp last⟩

end Hex

/-! ### The text of an identifier -/

section Text

/-- The characters of `str(id)`. -/
def uuidChars (id : Uuid) : List Char :=
  let digits := hexDigits 32 id.val
  digits.take 8 ++ '-' :: (digits.drop 8).take 4 ++ '-' :: (digits.drop 12).take 4 ++
    '-' :: (digits.drop 16).take 4 ++ '-' :: digits.drop 20

/-- `str(id)`. -/
def uuidText (id : Uuid) : String :=
  String.ofList (uuidChars id)

/-- Ids in ascending order, with commas between them. -/
def joinedIds (ids : List Uuid) : String :=
  ",".intercalate ((ids.insertionSort (· ≤ ·)).map uuidText)

/-- `text.replace(pattern, "")` on characters; `skip` characters of a match are still to be cut. -/
def removePattern (pattern : List Char) : (skip : Nat) → List Char → List Char
  | _, [] => []
  | skip + 1, _ :: rest => removePattern pattern skip rest
  | 0, character :: rest =>
      if pattern.isPrefixOf (character :: rest) then removePattern pattern (pattern.length - 1) rest
      else character :: removePattern pattern 0 rest

/-- `text.strip(characters)`. -/
def stripOf (cut : List Char) (text : List Char) : List Char :=
  ((text.dropWhile (· ∈ cut)).reverse.dropWhile (· ∈ cut)).reverse

/-- The digits after the `0x` that `int(text, 16)` allows. -/
def dropHexPrefix : List Char → List Char
  | '0' :: 'x' :: '_' :: rest | '0' :: 'X' :: '_' :: rest => rest
  | '0' :: 'x' :: rest | '0' :: 'X' :: rest => rest
  | rest => rest

/-- `int(text, 16)`, with single underscores between the digits. -/
def parseHexInt (text : List Char) : Option Int :=
  let (sign, unsigned) := splitSign (numeralText text)
  let groups := (dropHexPrefix unsigned).splitOn '_'
  if groups.all (fun group => !group.isEmpty) then
    (readHex 0 groups.flatten).map fun value => sign * value
  else none

/-- `uuid.UUID(text)`; `none` is its `ValueError`. -/
def parseUuid (text : String) : Option Uuid :=
  let bare := removePattern ['u', 'u', 'i', 'd', ':'] 0 (removePattern ['u', 'r', 'n', ':'] 0 text.toList)
  let hex := (stripOf ['{', '}'] bare).filter (· != '-')
  if hex.length = 32 then
    match parseHexInt hex with
    | some value =>
        if bounded : 0 ≤ value ∧ value < 2 ^ 128 then some ⟨value.toNat, by omega⟩ else none
    | none => none
  else none

end Text

/-! ### Round trip -/

section RoundTrip

theorem removePattern_of_absent {first : Char} {pattern text : List Char}
    (absent : first ∉ text) : removePattern (first :: pattern) 0 text = text := by
  induction text with
  | nil => rfl
  | cons character rest ih =>
      obtain ⟨differ, later⟩ : first ≠ character ∧ first ∉ rest := by simpa using absent
      rw [removePattern, if_neg (by simp [differ]), ih later]

theorem dropWhile_of_absent {cut : Char → Bool} {text : List Char}
    (absent : ∀ character ∈ text, cut character = false) : text.dropWhile cut = text := by
  cases text with
  | nil => rfl
  | cons character rest =>
      rw [List.dropWhile_cons_of_neg]
      simp [absent character List.mem_cons_self]

theorem stripOf_of_absent {cut text : List Char}
    (absent : ∀ character ∈ text, character ∉ cut) : stripOf cut text = text := by
  have kept : ∀ part : List Char, (∀ character ∈ part, character ∈ text) →
      part.dropWhile (· ∈ cut) = part := fun part inside =>
    dropWhile_of_absent fun character member => by simpa using absent character (inside _ member)
  unfold stripOf
  rw [kept text fun _ member => member, kept _ fun _ member => List.mem_reverse.mp member,
    List.reverse_reverse]

theorem numeralText_of_plain {text : List Char}
    (plain : ∀ character ∈ text, asciiNumeral character = character ∧ isNumeralSpace character = false) :
    numeralText text = text := by
  have kept : text.map asciiNumeral = text :=
    (List.map_congr_left fun character member => (plain character member).1).trans (List.map_id _)
  have back : text.reverse.dropWhile isNumeralSpace = text.reverse :=
    dropWhile_of_absent fun character member => (plain character (List.mem_reverse.mp member)).2
  unfold numeralText
  rw [kept, dropWhile_of_absent fun character member => (plain character member).2, back,
    List.reverse_reverse]

theorem hexChar_plain {digit : Nat} (small : digit < 16) :
    (asciiNumeral (hexChar digit) = hexChar digit ∧ isNumeralSpace (hexChar digit) = false) ∧
      hexChar digit ≠ '-' ∧ hexChar digit ≠ '+' ∧
      hexChar digit ≠ '_' ∧ hexChar digit ≠ 'x' ∧ hexChar digit ≠ 'X' ∧ hexChar digit ≠ 'u' ∧
        hexChar digit ≠ '{' ∧ hexChar digit ≠ '}' := by
  revert digit
  decide

@[simp] theorem length_uuidChars (id : Uuid) : (uuidChars id).length = 36 := by
  simp [uuidChars]

theorem mem_uuidChars {id : Uuid} {character : Char} (member : character ∈ uuidChars id) :
    character = '-' ∨ character ∈ hexDigits 32 id.val := by
  simp only [uuidChars, List.mem_append, List.mem_cons] at member
  have taken : ∀ count start : Nat, character ∈ ((hexDigits 32 id.val).drop start).take count →
      character ∈ hexDigits 32 id.val := fun count start inside =>
    List.mem_of_mem_drop (List.mem_of_mem_take inside)
  rcases member with (((first | dash | second) | dash | third) | dash | fourth) | dash | last
  · exact .inr (List.mem_of_mem_take first)
  · exact .inl dash
  · exact .inr (taken 4 8 second)
  · exact .inl dash
  · exact .inr (taken 4 12 third)
  · exact .inl dash
  · exact .inr (taken 4 16 fourth)
  · exact .inl dash
  · exact .inr (List.mem_of_mem_drop last)

theorem filter_uuidChars (id : Uuid) :
    (uuidChars id).filter (· != '-') = hexDigits 32 id.val := by
  have kept : ∀ part : List Char, (∀ character ∈ part, character ∈ hexDigits 32 id.val) →
      part.filter (· != '-') = part := by
    intro part inside
    refine List.filter_eq_self.mpr fun character member => ?_
    obtain ⟨digit, small, rfl⟩ := hexValue_of_mem_hexDigits (inside character member)
    simp [(hexChar_plain small).2.1]
  have piece : ∀ count start : Nat,
      (((hexDigits 32 id.val).drop start).take count).filter (· != '-') =
        ((hexDigits 32 id.val).drop start).take count := fun count start =>
    kept _ fun character member => List.mem_of_mem_drop (List.mem_of_mem_take member)
  have first := piece 8 0
  rw [List.drop_zero] at first
  have last : ((hexDigits 32 id.val).drop 20).filter (· != '-') = (hexDigits 32 id.val).drop 20 :=
    kept _ fun character member => List.mem_of_mem_drop member
  simp only [uuidChars, List.filter_append, List.filter_cons, bne_self_eq_false,
    Bool.false_eq_true, if_false, first, piece, last, List.append_assoc]
  have step : ∀ count start : Nat, ((hexDigits 32 id.val).drop start).take count ++
      (hexDigits 32 id.val).drop (start + count) = (hexDigits 32 id.val).drop start := by
    intro count start
    rw [← List.drop_drop, List.take_append_drop]
  rw [step 4 16, step 4 12, step 4 8, List.take_append_drop]

theorem parseHexInt_hexDigits (id : Uuid) :
    parseHexInt (hexDigits 32 id.val) = some (id.val : Int) := by
  have plain : ∀ character ∈ hexDigits 32 id.val,
      (asciiNumeral character = character ∧ isNumeralSpace character = false) ∧ character ≠ '-' ∧
      character ≠ '+' ∧ character ≠ '_' ∧ character ≠ 'x' ∧ character ≠ 'X' := by
    intro character member
    obtain ⟨digit, small, rfl⟩ := hexValue_of_mem_hexDigits member
    obtain ⟨space, minus, plus, under, lower, upper, -⟩ := hexChar_plain small
    exact ⟨space, minus, plus, under, lower, upper⟩
  have stripped := numeralText_of_plain fun character member => (plain character member).1
  have long := length_hexDigits 32 id.val
  have bounded : id.val < 16 ^ 32 := lt_of_lt_of_eq id.isLt (by decide)
  have value := readHex_hexDigits bounded
  generalize hexDigits 32 id.val = digits at plain stripped long value
  have unsigned : splitSign digits = (1, digits) := by
    unfold splitSign
    split
    · exact absurd rfl (plain _ List.mem_cons_self).2.1
    · exact absurd rfl (plain _ List.mem_cons_self).2.2.1
    · rfl
  have unprefixed : dropHexPrefix digits = digits := by
    unfold dropHexPrefix
    split
    all_goals first
      | rfl
      | exact absurd rfl (plain _ (List.mem_cons_of_mem _ List.mem_cons_self)).2.2.2.2.1
      | exact absurd rfl (plain _ (List.mem_cons_of_mem _ List.mem_cons_self)).2.2.2.2.2
  have single : digits.splitOn '_' = [digits] :=
    List.splitOnP_eq_singleton fun character member => by simp [(plain character member).2.2.2.1]
  unfold parseHexInt
  rw [stripped, unsigned]
  simp only [unprefixed, single, List.all_cons, List.all_nil, Bool.and_true, List.flatten_cons,
    List.flatten_nil, List.append_nil, value, one_mul]
  cases digits with
  | nil => cases long
  | cons head tail => rfl

/-- **Every identifier is read back from its text.** -/
theorem parseUuid_uuidText (id : Uuid) : parseUuid (uuidText id) = some id := by
  have plain : ∀ character ∈ uuidChars id, character ≠ 'u' ∧ character ∉ ['{', '}'] := by
    intro character member
    rcases mem_uuidChars member with rfl | digit
    · decide
    · obtain ⟨value, small, rfl⟩ := hexValue_of_mem_hexDigits digit
      obtain ⟨-, -, -, -, -, -, notU, opening, closing⟩ := hexChar_plain small
      exact ⟨notU, by simp [opening, closing]⟩
  have noUrn : removePattern ['u', 'r', 'n', ':'] 0 (uuidChars id) = uuidChars id :=
    removePattern_of_absent fun member => (plain _ member).1 rfl
  have noUuid : removePattern ['u', 'u', 'i', 'd', ':'] 0 (uuidChars id) = uuidChars id :=
    removePattern_of_absent fun member => (plain _ member).1 rfl
  have bound := id.isLt
  have stripped := stripOf_of_absent fun character member => (plain character member).2
  unfold parseUuid uuidText
  simp only [String.toList_ofList, noUrn, noUuid, stripped, filter_uuidChars, length_hexDigits,
    if_true, parseHexInt_hexDigits]
  rw [dif_pos ⟨Int.natCast_nonneg _, by exact_mod_cast bound⟩]
  simp

theorem uuidText_injective : Function.Injective uuidText := by
  intro first second same
  have read := congrArg parseUuid same
  rw [parseUuid_uuidText, parseUuid_uuidText, Option.some.injEq] at read
  exact read

end RoundTrip

end CosMonitor
