/-
**`json.dumps(value, sort_keys=True)` as a form of JSON trees.**

* `dumpsSpaced`: sorted keys, a blank after commas and colons, floats by `repr`, everything outside ASCII escaped;
* `SameTree`: two JSON trees up to the order of the keys of their objects, as `==` of Python compares them;
* `dumpsSpaced_unique`: the texts determine the tree.
-/

import CosMonitor.Telemetry.JsonWriters

namespace CosMonitor

/-! ### Writing -/

section Write

variable (std : Stdlib)

/-- Sorted keys, and the separators that `json.dumps` has by default. -/
def sortedStyle : JsonStyle where
  floatText := std.floatRepr
  ascii := true
  keyAscii := true
  gap := [' ']
  sortKeys := true

/-- `json.dumps(value, sort_keys=True)`. -/
def dumpsSpaced (value : Json) : String :=
  String.ofList ((sortedStyle std).chars value)

end Write

/-! ### The same tree -/

section Trees

mutual

/-- Two values are the same JSON tree, up to the order of the keys of their objects. -/
inductive SameTree : Json → Json → Prop
  | null : SameTree .null .null
  | bool (value : Bool) : SameTree (.bool value) (.bool value)
  | int (value : Int) : SameTree (.int value) (.int value)
  | float (value : ℚ) : SameTree (.float value) (.float value)
  | str (text : String) : SameTree (.str text) (.str text)
  | arr {items others : List Json} (same : SameTrees items others) : SameTree (.arr items) (.arr others)
  | obj {fields ordered others otherOrdered : List (String × Json)} (order : fields.Perm ordered)
      (otherOrder : others.Perm otherOrdered) (same : SameEntries ordered otherOrdered) :
      SameTree (.obj fields) (.obj others)

/-- Two arrays have the same items. -/
inductive SameTrees : List Json → List Json → Prop
  | nil : SameTrees [] []
  | cons {item other : Json} {items others : List Json} (head : SameTree item other)
      (tail : SameTrees items others) : SameTrees (item :: items) (other :: others)

/-- Two objects have the same fields, in one order. -/
inductive SameEntries : List (String × Json) → List (String × Json) → Prop
  | nil : SameEntries [] []
  | cons {key : String} {value other : Json} {fields others : List (String × Json)}
      (head : SameTree value other) (tail : SameEntries fields others) :
      SameEntries ((key, value) :: fields) ((key, other) :: others)

end

variable {std : Stdlib} {items others : List Json} {fields otherFields : List (String × Json)}

theorem SameTrees.of_forall₂ (same : List.Forall₂ SameTree items others) : SameTrees items others := by
  induction same with
  | nil => exact .nil
  | cons head _ ih => exact .cons head ih

theorem SameEntries.of_forall₂
    (same : List.Forall₂ (fun field other => field.1 = other.1 ∧ SameTree field.2 other.2) fields
      otherFields) : SameEntries fields otherFields := by
  induction same with
  | nil => exact .nil
  | @cons field other _ _ head _ ih =>
      obtain ⟨key, value⟩ := field
      obtain ⟨otherKey, otherValue⟩ := other
      obtain ⟨rfl, sameValue⟩ := head
      exact .cons sameValue ih

theorem SameTree.of_numeral (reads : std.ReadsFloatsBack) {first second : Json} {text : String}
    (isNumber : (sortedStyle std).numeral first = some text)
    (otherNumber : (sortedStyle std).numeral second = some text) :
    SameTree first second := by
  cases first with
  | int value =>
      have written := Option.some.inj isNumber
      cases second with
      | int other =>
          obtain rfl := intText_injective (written.trans (Option.some.inj otherNumber).symm)
          exact .int value
      | float other => exact absurd (written.trans (Option.some.inj otherNumber).symm) (reads.apart value other)
      | null | bool | str | arr | obj => cases otherNumber
  | float value =>
      have written := Option.some.inj isNumber
      cases second with
      | int other => exact absurd ((Option.some.inj otherNumber).trans written.symm) (reads.apart other value)
      | float other =>
          obtain rfl := reads.injective (written.trans (Option.some.inj otherNumber).symm)
          exact .float value
      | null | bool | str | arr | obj => cases otherNumber
  | null | bool | str | arr | obj => cases isNumber

theorem sameTree_relation (reads : std.ReadsFloatsBack) :
    TreeRelation (sortedStyle std).numeral SameTree where
  null := .null
  bool := .bool
  number := .of_numeral reads
  str := .str
  arr same := .arr (.of_forall₂ same)
  obj order otherOrder same := .obj order otherOrder (.of_forall₂ same)

/-- **A value is determined by its text**, up to the order of the keys of its objects. -/
theorem dumpsSpaced_unique (reads : std.ReadsFloatsBack) {value other : Json}
    (same : dumpsSpaced std value = dumpsSpaced std other) : SameTree value other := by
  have texts : (sortedStyle std).chars value = (sortedStyle std).chars other := String.ofList_injective same
  refine (@JsonStyle.determines (sortedStyle std) _ reads.numerals (sameTree_relation reads) value other [] []
    ends_nil ends_nil ?_).1
  rw [texts]

end Trees

end CosMonitor
