/-
**Request bodies as `json.loads` returns them, and their canonical bytes.**

`json.loads` also returns what no JSON writer means: floats that are infinite or no number, texts with lone
surrogates, and values nested as deeply as the body was.

* `Loaded`: such values;
* `serializeLoaded`, `canonicalLoaded`: the canonical payload, with everything it can raise;
* `Loaded.Renders`, `Loaded.Encodable`: all floats are finite and the call stack suffices; no text value has a
  surrogate;
* `canonicalLoaded_returns_iff`: the canonical payload returns exactly on fields with both.
-/

import CosMonitor.Base.PyFloat
import CosMonitor.Foundation.Result
import CosMonitor.Foundation.Sorting
import CosMonitor.Telemetry.Canonical

namespace CosMonitor

open Result

/-! ### Texts -/

section Points

/-- A code point of a Python text; the surrogates are among them. -/
abbrev CodePoint := Fin 1114112

/-- A Python text. -/
abbrev PyText := List CodePoint

/-- A code point that UTF-8 cannot encode. -/
def isSurrogate (point : CodePoint) : Bool :=
  decide (55296 ≤ point.val ∧ point.val < 57344)

theorem scalar_lt (character : Char) : character.toNat < 1114112 := by
  have scalar := scalar_range character
  omega

/-- The code point of a character. -/
def codePoint (character : Char) : CodePoint :=
  ⟨character.toNat, scalar_lt character⟩

/-- A text without surrogates. -/
def pyText (text : String) : PyText :=
  text.toList.map codePoint

/-- `text.encode("utf-8")` returns. -/
def Encodes (text : PyText) : Prop :=
  ∀ point ∈ text, isSurrogate point = false

/-- The text as characters, if UTF-8 encodes it. -/
def textOf (text : PyText) : Option String :=
  if text.all fun point => !isSurrogate point then
    some (String.ofList (text.map fun point => Char.ofNat point.val))
  else none

theorem isSurrogate_codePoint (character : Char) : isSurrogate (codePoint character) = false := by
  have scalar := scalar_range character
  refine decide_eq_false ?_
  show ¬(55296 ≤ character.toNat ∧ character.toNat < 57344)
  omega

theorem encodes_map (characters : List Char) : Encodes (characters.map codePoint) :=
  List.forall_mem_map.mpr fun character _ => isSurrogate_codePoint character

theorem encodes_append {first second : PyText} :
    Encodes (first ++ second) ↔ Encodes first ∧ Encodes second :=
  List.forall_mem_append

theorem textOf_pyText (text : String) : textOf (pyText text) = some text := by
  have encodes : ((pyText text).all fun point => !isSurrogate point) = true := by
    rw [List.all_eq_true]
    intro point member
    rw [encodes_map _ point member]
    rfl
  have characters : (pyText text).map (fun point => Char.ofNat point.val) = text.toList := by
    unfold pyText
    rw [List.map_map]
    conv_rhs => rw [← List.map_id text.toList]
    exact List.map_congr_left fun character _ => Char.ofNat_toNat character
  rw [textOf, if_pos encodes, characters, String.ofList_toList]

/-- What `json.dumps` writes for a code point. -/
def escapePoint (ascii : Bool) (point : CodePoint) : PyText :=
  if isSurrogate point then
    if ascii then (unicodeEscape point.val).map codePoint else [point]
  else (escapeChar ascii (Char.ofNat point.val)).map codePoint

/-- `json.dumps(text)`. -/
def dumpsPoints (ascii : Bool) (text : PyText) : PyText :=
  codePoint '"' :: (text.flatMap (escapePoint ascii) ++ [codePoint '"'])

theorem encodes_dumpsPoints_ascii (text : PyText) : Encodes (dumpsPoints true text) := by
  refine List.forall_mem_cons.mpr ⟨isSurrogate_codePoint _, List.forall_mem_append.mpr
    ⟨fun point member => ?_, List.forall_mem_singleton.mpr (isSurrogate_codePoint _)⟩⟩
  obtain ⟨original, -, written⟩ := List.mem_flatMap.mp member
  unfold escapePoint at written
  rw [if_pos rfl] at written
  split at written
  · exact encodes_map _ point written
  · exact encodes_map _ point written

theorem encodes_dumpsPoints {text : PyText} : Encodes (dumpsPoints false text) ↔ Encodes text := by
  constructor
  · intro encodes original member
    by_contra surrogate
    rw [Bool.not_eq_false] at surrogate
    have written : original ∈ dumpsPoints false text := by
      refine List.mem_cons_of_mem _ (List.mem_append_left _ (List.mem_flatMap.mpr ⟨original, member, ?_⟩))
      rw [escapePoint, if_pos surrogate, if_neg Bool.false_ne_true]
      exact List.mem_singleton.mpr rfl
    rw [encodes original written] at surrogate
    cases surrogate
  · intro encodes
    refine List.forall_mem_cons.mpr ⟨isSurrogate_codePoint _, List.forall_mem_append.mpr
      ⟨fun point member => ?_, List.forall_mem_singleton.mpr (isSurrogate_codePoint _)⟩⟩
    obtain ⟨original, inText, written⟩ := List.mem_flatMap.mp member
    rw [escapePoint, encodes original inText, if_neg Bool.false_ne_true] at written
    exact encodes_map _ point written

end Points

/-! ### Values -/

/-- A value that `json.loads` can return. -/
inductive Loaded where
  | null
  | bool (value : Bool)
  | int (value : Int)
  | float (value : PyFloat)
  | str (text : PyText)
  | arr (items : List Loaded)
  | obj (fields : List (PyText × Loaded))

namespace Loaded

/-- `isinstance(value, dict)`. -/
def isDict : Loaded → Bool
  | .obj _ => true
  | _ => false

def fields : Loaded → List (PyText × Loaded)
  | .obj fields => fields
  | _ => []

/-- `dict.get(key)`; `none` for an absent key. -/
def lookup (key : String) (value : Loaded) : Option Loaded :=
  value.fields.lookup (pyText key)

/-- `dict.get(key)` as Python returns it. -/
def get (key : String) (value : Loaded) : Loaded :=
  (value.lookup key).getD .null

end Loaded

/-! ### The canonical payload -/

/-- What can be raised that is no `ValidationError`. -/
inductive EscapingError where
  /-- `CanonicalFloatError` -/
  | canonicalFloat (value : PyFloat)
  /-- `UnicodeEncodeError` -/
  | unicodeEncode
  /-- `RecursionError` -/
  | recursion
  /-- `TypeError` -/
  | typeError
  deriving DecidableEq, Repr

/-- What the validation of a body takes from the interpreter. -/
structure BodyRuntime where
  std : Stdlib
  /-- `str(value)` of a value that is neither a text nor an integer -/
  strOther : Loaded → PyText
  /-- `datetime.fromisoformat(text)`; `none` is its `ValueError` -/
  fromisoformat : PyText → Option PyDatetime
  /-- `str(value)` exceeds the recursion limit -/
  strOverflows : Loaded → Bool
  /-- `_serialize_value(value)`, called at a nesting depth, exceeds it before it reaches a nested value -/
  serializeOverflows : Nat → Loaded → Bool

section Canonical

variable (runtime : BodyRuntime)

/-- `canonical_float`. -/
def canonicalLoadedFloat : PyFloat → Except EscapingError PyText
  | .finite value => .ok (pyText (canonicalFloat runtime.std value))
  | other => .error (.canonicalFloat other)

/-- The text of an object, from its rendered fields in the order of their keys. -/
def joinLoaded (rendered : List (PyText × Except EscapingError PyText)) : Except EscapingError PyText := do
  let parts ← (Sorting.sortBy Prod.fst rendered).mapM fun field =>
    field.2.map fun text => dumpsPoints true field.1 ++ codePoint ':' :: text
  return codePoint '\x7b' :: ([codePoint ','].intercalate parts ++ [codePoint '\x7d'])

/-- A call of `_serialize_value`, if the call stack suffices. -/
def called (depth : Nat) (value : Loaded) (text : Except EscapingError PyText) :
    Except EscapingError PyText :=
  if runtime.serializeOverflows depth value then .error .recursion else text

mutual

/-- `_serialize_value`. -/
def serializeLoaded (depth : Nat) : Loaded → Except EscapingError PyText
  | .null => called runtime depth .null (.ok (pyText "null"))
  | .bool truth => called runtime depth (.bool truth) (.ok (pyText (if truth then "true" else "false")))
  | .int number => called runtime depth (.int number) (.ok (pyText (toString number)))
  | .float number => called runtime depth (.float number) (canonicalLoadedFloat runtime number)
  | .str text => called runtime depth (.str text) (.ok (dumpsPoints false text))
  | .arr items => called runtime depth (.arr items) (do
      let parts ← serializeLoadedItems (depth + 1) items
      return codePoint '[' :: ([codePoint ','].intercalate parts ++ [codePoint ']']))
  | .obj fields =>
      called runtime depth (.obj fields) (joinLoaded (serializeLoadedFields (depth + 1) fields))

def serializeLoadedItems (depth : Nat) : List Loaded → Except EscapingError (List PyText)
  | [] => .ok []
  | item :: rest => do
      let text ← serializeLoaded depth item
      let others ← serializeLoadedItems depth rest
      return text :: others

def serializeLoadedFields (depth : Nat) :
    List (PyText × Loaded) → List (PyText × Except EscapingError PyText)
  | [] => []
  | (key, value) :: rest => (key, serializeLoaded depth value) :: serializeLoadedFields depth rest

end

/-- `canonical_payload`: the text, once it is encoded. -/
def canonicalLoaded (body : List (PyText × Loaded)) : Except EscapingError PyText := do
  let text ← joinLoaded (serializeLoadedFields runtime 0
    (body.filter fun field => decide (field.1 ≠ pyText "batch_id")))
  if text.all fun point => !isSurrogate point then return text
  else throw .unicodeEncode

end Canonical

/-! ### When it returns -/

section Outcomes

mutual

/-- Every float of a value is finite, and the call stack suffices for it at a nesting depth. -/
def Loaded.Renders (runtime : BodyRuntime) (depth : Nat) : Loaded → Prop
  | .null => runtime.serializeOverflows depth .null = false ∧ True
  | .bool truth => runtime.serializeOverflows depth (.bool truth) = false ∧ True
  | .int number => runtime.serializeOverflows depth (.int number) = false ∧ True
  | .float number =>
      runtime.serializeOverflows depth (.float number) = false ∧ ∃ value, number = .finite value
  | .str text => runtime.serializeOverflows depth (.str text) = false ∧ True
  | .arr items =>
      runtime.serializeOverflows depth (.arr items) = false ∧ RendersItems runtime (depth + 1) items
  | .obj fields =>
      runtime.serializeOverflows depth (.obj fields) = false ∧ RendersFields runtime (depth + 1) fields

def RendersItems (runtime : BodyRuntime) (depth : Nat) : List Loaded → Prop
  | [] => True
  | item :: rest => item.Renders runtime depth ∧ RendersItems runtime depth rest

def RendersFields (runtime : BodyRuntime) (depth : Nat) : List (PyText × Loaded) → Prop
  | [] => True
  | (_, value) :: rest => value.Renders runtime depth ∧ RendersFields runtime depth rest

end

mutual

/-- No text of a value has a surrogate; its keys may. -/
def Loaded.Encodable : Loaded → Prop
  | .str text => Encodes text
  | .arr items => EncodableItems items
  | .obj fields => EncodableFields fields
  | .null | .bool _ | .int _ | .float _ => True

def EncodableItems : List Loaded → Prop
  | [] => True
  | item :: rest => item.Encodable ∧ EncodableItems rest

def EncodableFields : List (PyText × Loaded) → Prop
  | [] => True
  | (_, value) :: rest => value.Encodable ∧ EncodableFields rest

end

variable {runtime : BodyRuntime} {depth : Nat} {renders encodable : Prop}
  {result : Except EscapingError PyText} {items : List Loaded} {fields : List (PyText × Loaded)}

theorem rendersItems_iff : RendersItems runtime depth items ↔ ∀ item ∈ items, item.Renders runtime depth := by
  induction items with
  | nil => simp [RendersItems]
  | cons item rest ih => rw [RendersItems, ih, List.forall_mem_cons]

theorem rendersFields_iff :
    RendersFields runtime depth fields ↔ ∀ field ∈ fields, field.2.Renders runtime depth := by
  induction fields with
  | nil => simp [RendersFields]
  | cons field rest ih =>
      obtain ⟨key, value⟩ := field
      rw [RendersFields, ih, List.forall_mem_cons]

theorem encodableItems_iff : EncodableItems items ↔ ∀ item ∈ items, item.Encodable := by
  induction items with
  | nil => simp [EncodableItems]
  | cons item rest ih => rw [EncodableItems, ih, List.forall_mem_cons]

theorem encodableFields_iff : EncodableFields fields ↔ ∀ field ∈ fields, field.2.Encodable := by
  induction fields with
  | nil => simp [EncodableFields]
  | cons field rest ih =>
      obtain ⟨key, value⟩ := field
      rw [EncodableFields, ih, List.forall_mem_cons]

/-- A rendering returns exactly under one condition, and UTF-8 encodes what it returns exactly under
another. -/
def Outcome (renders encodable : Prop) : Except EscapingError PyText → Prop
  | .ok text => renders ∧ (Encodes text ↔ encodable)
  | .error _ => ¬renders

theorem Outcome.ok {text : PyText} (encodes : Encodes text) : Outcome True True (.ok text) :=
  ⟨trivial, iff_of_true encodes trivial⟩

theorem Outcome.called {value : Loaded} (outcome : Outcome renders encodable result) :
    Outcome (runtime.serializeOverflows depth value = false ∧ renders) encodable
      (called runtime depth value result) := by
  unfold CosMonitor.called
  cases overflows : runtime.serializeOverflows depth value with
  | true => exact fun both => Bool.noConfusion both.1
  | false =>
      rw [if_neg Bool.false_ne_true]
      cases result with
      | ok text => exact ⟨⟨rfl, outcome.1⟩, outcome.2⟩
      | error failure => exact fun both => outcome both.2

theorem Outcome.wrap {wrap : PyText → PyText} (encodes : ∀ text, Encodes (wrap text) ↔ Encodes text)
    (outcome : Outcome renders encodable result) : Outcome renders encodable (result.map wrap) := by
  cases result with
  | ok text => exact ⟨outcome.1, (encodes text).trans outcome.2⟩
  | error failure => exact outcome

theorem encodes_intercalate {separator : CodePoint} (encoded : isSurrogate separator = false)
    {texts : List PyText} :
    Encodes ([separator].intercalate texts) ↔ ∀ text ∈ texts, Encodes text := by
  induction texts with
  | nil => exact iff_of_true (fun _ absent => nomatch absent) fun _ absent => nomatch absent
  | cons text rest ih =>
      cases rest with
      | nil =>
          rw [List.intercalate_singleton]
          exact ⟨List.forall_mem_singleton.mpr, List.forall_mem_singleton.mp⟩
      | cons next others =>
          rw [List.intercalate_cons_cons, encodes_append, encodes_append, ih]
          constructor
          · rintro ⟨⟨first, -⟩, later⟩
            exact List.forall_mem_cons.mpr ⟨first, later⟩
          · intro all
            obtain ⟨first, later⟩ := List.forall_mem_cons.mp all
            exact ⟨⟨first, List.forall_mem_singleton.mpr encoded⟩, later⟩

/-- **A joined list** returns when all of its texts do. -/
theorem Outcome.joined {Item : Type} {convert : Item → Except EscapingError PyText}
    {itemRenders itemEncodable : Item → Prop} {items : List Item} (opening closing : Char)
    (each : ∀ item ∈ items, Outcome (itemRenders item) (itemEncodable item) (convert item)) :
    Outcome (∀ item ∈ items, itemRenders item) (∀ item ∈ items, itemEncodable item) (do
      let parts ← items.mapM convert
      return codePoint opening :: ([codePoint ','].intercalate parts ++ [codePoint closing])) := by
  cases mapped : items.mapM convert with
  | error failure =>
      obtain ⟨item, member, raised, isRaised⟩ := mapM_raises.mp ⟨failure, mapped⟩
      have outcome := each item member
      rw [isRaised] at outcome
      exact fun all => outcome (all item member)
  | ok parts =>
      have texts := mapM_eq_ok.mp mapped
      have whole : Encodes (codePoint opening :: ([codePoint ','].intercalate parts ++ [codePoint closing])) ↔
          ∀ text ∈ parts, Encodes text := by
        rw [← encodes_intercalate (isSurrogate_codePoint ',')]
        constructor
        · intro encodes point member
          exact encodes point (List.mem_cons_of_mem _ (List.mem_append_left _ member))
        · intro encodes
          exact List.forall_mem_cons.mpr ⟨isSurrogate_codePoint _, encodes_append.mpr
            ⟨encodes, List.forall_mem_singleton.mpr (isSurrogate_codePoint _)⟩⟩
      refine ⟨fun item member => ?_, whole.trans ?_⟩
      · obtain ⟨text, returned⟩ := mapM_returns mapped member
        have outcome := each item member
        rw [returned] at outcome
        exact outcome.1
      · constructor
        · intro all item member
          obtain ⟨text, returned⟩ := mapM_returns mapped member
          have outcome := each item member
          rw [returned] at outcome
          exact outcome.2.mp (all text ((mem_mapM mapped).mpr ⟨item, member, returned⟩))
        · intro all text member
          obtain ⟨item, isItem, returned⟩ := (mem_mapM mapped).mp member
          have outcome := each item isItem
          rw [returned] at outcome
          exact outcome.2.mpr (all item isItem)

theorem serializeLoadedItems_eq_mapM (items : List Loaded) :
    serializeLoadedItems runtime depth items = items.mapM (serializeLoaded runtime depth) := by
  induction items with
  | nil => rfl
  | cons item rest ih => rw [serializeLoadedItems, ih, List.mapM_cons]

theorem serializeLoadedFields_eq_map (fields : List (PyText × Loaded)) :
    serializeLoadedFields runtime depth fields =
      fields.map fun field => (field.1, serializeLoaded runtime depth field.2) := by
  induction fields with
  | nil => rfl
  | cons field rest ih =>
      obtain ⟨key, value⟩ := field
      rw [serializeLoadedFields, ih, List.map_cons]

theorem encodes_field (key : PyText) (text : PyText) :
    Encodes (dumpsPoints true key ++ codePoint ':' :: text) ↔ Encodes text := by
  rw [encodes_append]
  constructor
  · exact fun both => (List.forall_mem_cons.mp both.2).2
  · exact fun encodes => ⟨encodes_dumpsPoints_ascii key,
      List.forall_mem_cons.mpr ⟨isSurrogate_codePoint _, encodes⟩⟩

/-- **An object** returns when all of its values do. -/
theorem Outcome.object
    (each : ∀ field ∈ fields,
      Outcome (field.2.Renders runtime depth) field.2.Encodable (serializeLoaded runtime depth field.2)) :
    Outcome (RendersFields runtime depth fields) (EncodableFields fields)
      (joinLoaded (serializeLoadedFields runtime depth fields)) := by
  have sorted : Sorting.sortBy Prod.fst (serializeLoadedFields runtime depth fields) =
      (Sorting.sortBy Prod.fst fields).map fun field => (field.1, serializeLoaded runtime depth field.2) := by
    rw [serializeLoadedFields_eq_map]
    exact (Sorting.map_sortBy _ fields).symm
  have wrapped : ∀ field ∈ Sorting.sortBy Prod.fst fields,
      Outcome (field.2.Renders runtime depth) field.2.Encodable
        ((serializeLoaded runtime depth field.2).map fun text =>
          dumpsPoints true field.1 ++ codePoint ':' :: text) := fun field member =>
    (each field (Sorting.mem_sortBy.mp member)).wrap (encodes_field field.1)
  have joined := Outcome.joined '\x7b' '\x7d' wrapped
  simp only [Sorting.mem_sortBy] at joined
  rw [rendersFields_iff, encodableFields_iff, joinLoaded, sorted, List.mapM_map]
  exact joined

/-- Every value that is to be serialised, at any depth. -/
abbrev HasOutcome (runtime : BodyRuntime) (value : Loaded) : Prop :=
  ∀ depth, Outcome (value.Renders runtime depth) value.Encodable (serializeLoaded runtime depth value)

theorem Outcome.float (number : PyFloat) :
    Outcome (∃ value, number = .finite value) True (canonicalLoadedFloat runtime number) := by
  cases number with
  | finite value => exact ⟨⟨value, rfl⟩, iff_of_true (encodes_map _) trivial⟩
  | infinite negative => exact fun ⟨value, same⟩ => nomatch same
  | nan => exact fun ⟨value, same⟩ => nomatch same

theorem Outcome.array (each : ∀ item ∈ items, HasOutcome runtime item) :
    HasOutcome runtime (.arr items) := by
  intro depth
  have joined := Outcome.joined '[' ']' fun item member => each item member (depth + 1)
  rw [serializeLoaded, serializeLoadedItems_eq_mapM, Loaded.Renders, Loaded.Encodable, rendersItems_iff,
    encodableItems_iff]
  exact joined.called

mutual

/-- **What the serialisation of a value does**, one case per kind of value. -/
theorem serializeLoaded_outcome : (value : Loaded) → HasOutcome runtime value
  | .null => fun depth => by
      rw [serializeLoaded]
      exact (Outcome.ok (encodes_map _)).called
  | .bool truth => fun depth => by
      rw [serializeLoaded]
      exact (Outcome.ok (encodes_map _)).called
  | .int number => fun depth => by
      rw [serializeLoaded]
      exact (Outcome.ok (encodes_map _)).called
  | .float number => fun depth => by
      rw [serializeLoaded]
      exact (Outcome.float number).called
  | .str text => fun depth => by
      have written : Outcome True (Encodes text) (.ok (dumpsPoints false text)) :=
        ⟨trivial, encodes_dumpsPoints⟩
      rw [serializeLoaded]
      exact written.called
  | .arr items => .array (serializeLoadedItems_outcome items)
  | .obj fields => fun depth => by
      rw [serializeLoaded]
      exact (Outcome.object fun field member =>
        serializeLoadedFields_outcome fields field member (depth + 1)).called

theorem serializeLoadedItems_outcome : (items : List Loaded) → ∀ item ∈ items, HasOutcome runtime item
  | [] => fun _ absent => nomatch absent
  | item :: rest =>
      List.forall_mem_cons.mpr ⟨serializeLoaded_outcome item, serializeLoadedItems_outcome rest⟩

theorem serializeLoadedFields_outcome :
    (fields : List (PyText × Loaded)) → ∀ field ∈ fields, HasOutcome runtime field.2
  | [] => fun _ absent => nomatch absent
  | (_, value) :: rest =>
      List.forall_mem_cons.mpr ⟨serializeLoaded_outcome value, serializeLoadedFields_outcome rest⟩

end

def payloadFields (body : List (PyText × Loaded)) : List (PyText × Loaded) :=
  body.filter fun field => decide (field.1 ≠ pyText "batch_id")

/-- **When the canonical payload returns**: the floats of the payload are finite, the call stack suffices for
its nesting, and its texts have no surrogates. -/
theorem canonicalLoaded_returns_iff (body : List (PyText × Loaded)) :
    (∃ text, canonicalLoaded runtime body = .ok text) ↔
      RendersFields runtime 0 (payloadFields body) ∧ EncodableFields (payloadFields body) := by
  have outcome : Outcome (RendersFields runtime 0 (payloadFields body)) (EncodableFields (payloadFields body))
      (joinLoaded (serializeLoadedFields runtime 0 (payloadFields body))) :=
    Outcome.object fun field member => serializeLoaded_outcome field.2 0
  show (∃ text, (joinLoaded (serializeLoadedFields runtime 0 (payloadFields body)) >>= _) = .ok text) ↔ _
  cases joined : joinLoaded (serializeLoadedFields runtime 0 (payloadFields body)) with
  | error failure =>
      rw [joined] at outcome
      refine iff_of_false ?_ fun both => outcome both.1
      rintro ⟨text, returned⟩
      rw [error_bind] at returned
      cases returned
  | ok text =>
      rw [joined] at outcome
      obtain ⟨renders, encodes⟩ := outcome
      rw [ok_bind, and_iff_right renders, ← encodes]
      have checked : (text.all fun point => !isSurrogate point) = true ↔ Encodes text := by
        rw [List.all_eq_true]
        exact forall₂_congr fun point _ => by rw [Bool.not_eq_true']
      constructor
      · rintro ⟨written, returned⟩
        split at returned
        · rename_i all
          exact checked.mp all
        · cases returned
      · intro encoded
        exact ⟨text, if_pos (checked.mpr encoded)⟩

end Outcomes

end CosMonitor
