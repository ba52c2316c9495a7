/-
**What a `JSONB` column keeps of a loaded value.**

A value is bound as the text that `json.dumps` writes, with escapes for everything that is not ASCII. PostgreSQL
reads a pair of surrogates as one character, and refuses NUL, a surrogate without its pair, `NaN` and `Infinity`.

* `Loaded.stored`, `jsonbLoaded`: the value in the column;
* `Loaded.Storable`: the column takes it; so it does then with everything inside (`Loaded.Storable.lookup`).
-/

import CosMonitor.Base.Database
import CosMonitor.Telemetry.LoadedBodies

namespace CosMonitor

/-! ### Texts -/

section Texts

/-- The first half of a pair. -/
def isHighSurrogate (point : CodePoint) : Bool :=
  decide (55296 ≤ point.val ∧ point.val < 56320)

/-- The second half of a pair. -/
def isLowSurrogate (point : CodePoint) : Bool :=
  decide (56320 ≤ point.val ∧ point.val < 57344)

/-- The character of a pair. -/
def pairedChar (high low : CodePoint) : Char :=
  Char.ofNat (65536 + (high.val - 55296) * 1024 + (low.val - 56320))

/-- The characters that PostgreSQL reads from the escapes of a text. -/
def jsonbChars : PyText → Option (List Char)
  | [] => some []
  | [point] => if isSurrogate point || point.val == 0 then none else some [Char.ofNat point.val]
  | point :: next :: rest =>
      if isHighSurrogate point && isLowSurrogate next then
        (jsonbChars rest).map fun characters => pairedChar point next :: characters
      else if isSurrogate point || point.val == 0 then none
      else (jsonbChars (next :: rest)).map fun characters => Char.ofNat point.val :: characters

/-- The text in a `JSONB` column. -/
def jsonbText (text : PyText) : Option String :=
  (jsonbChars text).map String.ofList

theorem isHighSurrogate_codePoint (character : Char) : isHighSurrogate (codePoint character) = false := by
  have plain := of_decide_eq_false (isSurrogate_codePoint character)
  refine decide_eq_false fun high => plain ⟨high.1, ?_⟩
  exact high.2.trans (by decide)

theorem jsonbChars_map {characters : List Char} (clean : '\x00' ∉ characters) :
    jsonbChars (characters.map codePoint) = some characters := by
  have kept : ∀ character ∈ characters,
      (isSurrogate (codePoint character) || (codePoint character).val == 0) = false := by
    intro character member
    rw [isSurrogate_codePoint, Bool.false_or]
    refine beq_eq_false_iff_ne.mpr fun nul => clean ?_
    have same : character.toNat = '\x00'.toNat := nul
    rwa [← Char.toNat_inj.mp same]
  induction characters with
  | nil => rfl
  | cons character rest ih =>
      have later := ih (fun inside => clean (List.mem_cons_of_mem _ inside))
        fun other member => kept other (List.mem_cons_of_mem _ member)
      have first := kept character List.mem_cons_self
      have same : Char.ofNat (codePoint character).val = character := Char.ofNat_toNat character
      cases rest with
      | nil =>
          rw [List.map_cons, List.map_nil, jsonbChars, first, if_neg Bool.false_ne_true, same]
      | cons next others =>
          rw [List.map_cons] at later ⊢
          rw [List.map_cons, jsonbChars, isHighSurrogate_codePoint, Bool.false_and, if_neg Bool.false_ne_true,
            first, if_neg Bool.false_ne_true, same]
          rw [later]
          rfl

theorem jsonbText_pyText {text : String} (clean : '\x00' ∉ text.toList) :
    jsonbText (pyText text) = some text := by
  rw [jsonbText, pyText, jsonbChars_map clean, Option.map_some, String.ofList_toList]

/-- A text without surrogates that can be read has no NUL. -/
theorem jsonbChars_clean {text : PyText} (read : (jsonbChars text).isSome = true) :
    (text.any fun point => point.val == 0) = false := by
  induction text using jsonbChars.induct with
  | case1 => rfl
  | case2 point refused =>
      rw [jsonbChars, if_pos refused] at read
      cases read
  | case3 point kept =>
      simp only [Bool.or_eq_true, not_or] at kept
      simpa using kept.2
  | case4 point next rest pair ih =>
      rw [jsonbChars, if_pos pair, Option.isSome_map] at read
      simp only [isHighSurrogate, isLowSurrogate, Bool.and_eq_true, decide_eq_true_eq] at pair
      have high : (point.val == 0) = false := beq_eq_false_iff_ne.mpr (by omega)
      have low : (next.val == 0) = false := beq_eq_false_iff_ne.mpr (by omega)
      rw [List.any_cons, List.any_cons, high, low, ih read]
      rfl
  | case5 point next rest unpaired refused =>
      rw [jsonbChars, if_neg unpaired, if_pos refused] at read
      cases read
  | case6 point next rest unpaired kept ih =>
      rw [jsonbChars, if_neg unpaired, if_neg kept, Option.isSome_map] at read
      simp only [Bool.or_eq_true, not_or] at kept
      rw [List.any_cons, ih read, Bool.or_false]
      simpa using kept.2

end Texts

/-! ### Values -/

section Values

/-- An object in a `JSONB` column has the last of the values of a key. -/
def lastOfKeys : List (String × Json) → List (String × Json)
  | [] => []
  | field :: rest =>
      if rest.any fun other => other.1 == field.1 then lastOfKeys rest else field :: lastOfKeys rest

mutual

/-- The value in a `JSONB` column, if it takes it. -/
def Loaded.stored : Loaded → Option Json
  | .null => some .null
  | .bool truth => some (.bool truth)
  | .int number => some (.int number)
  | .float (.finite number) => some (.float number)
  | .float _ => none
  | .str text => (jsonbText text).map .str
  | .arr items => (storedItems items).map .arr
  | .obj fields => (storedFields fields).map fun kept => .obj (lastOfKeys kept)

def storedItems : List Loaded → Option (List Json)
  | [] => some []
  | item :: rest => do
      let kept ← item.stored
      let others ← storedItems rest
      return kept :: others

def storedFields : List (PyText × Loaded) → Option (List (String × Json))
  | [] => some []
  | (key, value) :: rest => do
      let name ← jsonbText key
      let kept ← value.stored
      let others ← storedFields rest
      return (name, kept) :: others

end

/-- Bind `json.dumps(value)` to a `JSONB` parameter. -/
def jsonbLoaded (value : Loaded) : Except DbError Json :=
  match value.stored with
  | some kept => .ok kept
  | none => .error .invalidJson

/-- A `JSONB` column takes the value. -/
def Loaded.Storable (value : Loaded) : Prop :=
  value.stored.isSome = true

instance (value : Loaded) : Decidable value.Storable :=
  inferInstanceAs (Decidable (value.stored.isSome = true))

variable {items : List Loaded} {fields : List (PyText × Loaded)} {value found : Loaded} {kept : Json}

theorem jsonbLoaded_eq_ok : jsonbLoaded value = .ok kept ↔ value.stored = some kept := by
  unfold jsonbLoaded
  cases value.stored with
  | none => exact iff_of_false (fun impossible => nomatch impossible) fun impossible => nomatch impossible
  | some other =>
      exact ⟨fun same => congrArg some (Except.ok.inj same), fun same => congrArg Except.ok (Option.some.inj same)⟩

theorem jsonbLoaded_returned_iff : (∃ kept, jsonbLoaded value = .ok kept) ↔ value.Storable := by
  simp only [jsonbLoaded_eq_ok, Loaded.Storable, Option.isSome_iff_exists]

theorem storedItems_isSome : (storedItems items).isSome = true ↔ ∀ item ∈ items, item.Storable := by
  induction items with
  | nil => simp [storedItems]
  | cons item rest ih =>
      rw [List.forall_mem_cons, ← ih, storedItems, Loaded.Storable]
      cases item.stored with
      | none => simp
      | some kept => cases storedItems rest <;> simp

theorem storedFields_isSome : (storedFields fields).isSome = true ↔
    ∀ field ∈ fields, (jsonbText field.1).isSome = true ∧ field.2.Storable := by
  induction fields with
  | nil => simp [storedFields]
  | cons field rest ih =>
      obtain ⟨key, value⟩ := field
      rw [List.forall_mem_cons, ← ih, storedFields, Loaded.Storable]
      cases jsonbText key with
      | none => simp
      | some name =>
          cases value.stored with
          | none => simp
          | some kept => cases storedFields rest <;> simp

theorem storable_obj : (Loaded.obj fields).Storable ↔
    ∀ field ∈ fields, (jsonbText field.1).isSome = true ∧ field.2.Storable := by
  rw [Loaded.Storable, Loaded.stored, Option.isSome_map, storedFields_isSome]

theorem storable_pyText {text : String} (clean : '\x00' ∉ text.toList) : (Loaded.str (pyText text)).Storable := by
  rw [Loaded.Storable, Loaded.stored, jsonbText_pyText clean]
  rfl

/-- **What is inside a value is taken where the value is.** -/
theorem Loaded.Storable.lookup {key : String} (storable : value.Storable)
    (lookedUp : value.lookup key = some found) : found.Storable := by
  cases value with
  | obj fields =>
      obtain ⟨before, after, same, -⟩ := List.lookup_eq_some_iff.mp lookedUp
      obtain rfl : fields = before ++ (pyText key, found) :: after := same
      exact (storable_obj.mp storable _ (List.mem_append_right _ List.mem_cons_self)).2
  | null => cases lookedUp
  | bool truth => cases lookedUp
  | int number => cases lookedUp
  | float number => cases lookedUp
  | str text => cases lookedUp
  | arr items => cases lookedUp

theorem Loaded.Storable.getD {key : String} {fallback : Loaded} (storable : value.Storable)
    (plain : fallback.Storable) : ((value.lookup key).getD fallback).Storable := by
  cases lookedUp : value.lookup key with
  | none => exact plain
  | some found => exact storable.lookup lookedUp

end Values

end CosMonitor
