/-
**The canonical payload as a canonical form.**

* `SameJson`: two JSON trees up to the order of the keys of their objects, with each number replaced by its
  canonical numeral;
* `serializeValue_unique`: the serialised texts determine the tree in this sense;
* `SameJson.chars`: trees that are the same in this sense have one text;
* `canonicalPayload_eq_iff`: so two bodies have the same canonical bytes exactly when they are the same tree,
  `batch_id` apart.
-/

import CosMonitor.Telemetry.Canonical
import CosMonitor.Telemetry.JsonWriters

namespace CosMonitor

/-! ### The same tree -/

section Trees

mutual

/-- The keys of every object of a value are different, as those of a `dict` are. -/
def Json.Keyed : Json → Prop
  | .arr items => KeyedItems items
  | .obj fields => (fields.map Prod.fst).Nodup ∧ KeyedFields fields
  | .null | .bool _ | .int _ | .float _ | .str _ => True

def KeyedItems : List Json → Prop
  | [] => True
  | item :: rest => item.Keyed ∧ KeyedItems rest

def KeyedFields : List (String × Json) → Prop
  | [] => True
  | (_, value) :: rest => value.Keyed ∧ KeyedFields rest

end

/-- The canonical numeral of a number. -/
def Json.numeral (std : Stdlib) : Json → Option String :=
  (canonicalStyle std).numeral

mutual

/-- Two values are the same JSON tree, up to the order of the keys of their objects and the numerals of their
numbers. -/
inductive SameJson (std : Stdlib) : Json → Json → Prop
  | null : SameJson std .null .null
  | bool (value : Bool) : SameJson std (.bool value) (.bool value)
  | number {first second : Json} {numeral : String} (isNumeral : first.numeral std = some numeral)
      (sameNumeral : second.numeral std = some numeral) : SameJson std first second
  | str (text : String) : SameJson std (.str text) (.str text)
  | arr {items others : List Json} (same : SameItems std items others) :
      SameJson std (.arr items) (.arr others)
  | obj {fields ordered others otherOrdered : List (String × Json)} (order : fields.Perm ordered)
      (otherOrder : others.Perm otherOrdered) (same : SameFields std ordered otherOrdered) :
      SameJson std (.obj fields) (.obj others)

/-- Two arrays have the same items. -/
inductive SameItems (std : Stdlib) : List Json → List Json → Prop
  | nil : SameItems std [] []
  | cons {item other : Json} {items others : List Json} (head : SameJson std item other)
      (tail : SameItems std items others) : SameItems std (item :: items) (other :: others)

/-- Two objects have the same fields, in one order. -/
inductive SameFields (std : Stdlib) : List (String × Json) → List (String × Json) → Prop
  | nil : SameFields std [] []
  | cons {key : String} {value other : Json} {fields others : List (String × Json)}
      (head : SameJson std value other) (tail : SameFields std fields others) :
      SameFields std ((key, value) :: fields) ((key, other) :: others)

end

/-- Two bodies are the same tree, `batch_id` apart. -/
def SamePayload (std : Stdlib) (body other : List (String × Json)) : Prop :=
  SameJson std (.obj (body.filter (·.1 != "batch_id"))) (.obj (other.filter (·.1 != "batch_id")))

variable {std : Stdlib} {items others : List Json} {fields otherFields : List (String × Json)}

theorem keyedFields_iff : KeyedFields fields ↔ ∀ field ∈ fields, field.2.Keyed := by
  induction fields with
  | nil => simp [KeyedFields]
  | cons field rest ih =>
      obtain ⟨key, value⟩ := field
      rw [KeyedFields, ih, List.forall_mem_cons]

theorem SameItems.of_forall₂ (same : List.Forall₂ (SameJson std) items others) :
    SameItems std items others := by
  induction same with
  | nil => exact .nil
  | cons head _ ih => exact .cons head ih

theorem SameFields.of_forall₂
    (same : List.Forall₂ (fun field other => field.1 = other.1 ∧ SameJson std field.2 other.2) fields
      otherFields) : SameFields std fields otherFields := by
  induction same with
  | nil => exact .nil
  | @cons field other _ _ head _ ih =>
      obtain ⟨key, value⟩ := field
      obtain ⟨otherKey, otherValue⟩ := other
      obtain ⟨rfl, sameValue⟩ := head
      exact .cons sameValue ih

end Trees

/-! ### Numerals -/

section Numerals

variable {std : Stdlib}

theorem trimmed_prefix (text : List Char) (cut : Char) :
    (text.reverse.dropWhile (· == cut)).reverse <+: text := by
  rw [← List.reverse_suffix, List.reverse_reverse]
  exact List.dropWhile_suffix _

theorem mem_trimmed {text : List Char} {kept cut : Char} (member : kept ∈ text) (differs : kept ≠ cut) :
    kept ∈ (text.reverse.dropWhile (· == cut)).reverse := by
  rw [List.mem_reverse]
  have inside : kept ∈ text.reverse.takeWhile (· == cut) ++ text.reverse.dropWhile (· == cut) := by
    rw [List.takeWhile_append_dropWhile]
    exact List.mem_reverse.mpr member
  refine (List.mem_append.mp inside).resolve_left fun isCut => differs ?_
  exact beq_iff_eq.mp (List.all_eq_true.mp List.all_takeWhile kept isCut)

/-- **What `canonical_float` writes is a numeral.** -/
theorem isNumeral_canonicalFloat (numerals : std.WritesNumerals) (value : ℚ) :
    IsNumeral (canonicalFloat std value).toList := by
  obtain ⟨characters, first, rest, text, leads⟩ := numerals value
  rw [text] at characters
  unfold canonicalFloat
  dsimp only
  rw [text]
  split
  · rename_i point
    have notPoint : first ≠ '.' := by
      rintro rfl
      rcases leads with digit | minus
      · cases digit
      · exact absurd minus (by decide)
    -- The point is left after the zeros are cut, and the first character after the points are.
    have zerosCut := trimmed_prefix (first :: rest) '0'
    have pointLeft := mem_trimmed point.1 (show '.' ≠ '0' by decide)
    obtain ⟨shorter, isShorter⟩ : ∃ shorter,
        ((first :: rest).reverse.dropWhile (· == '0')).reverse = first :: shorter := by
      rcases List.prefix_cons_iff.mp zerosCut with isNil | ⟨shorter, isCons, -⟩
      · rw [isNil] at pointLeft
        cases pointLeft
      · exact ⟨shorter, isCons⟩
    rw [isShorter] at zerosCut ⊢
    have pointsCut := trimmed_prefix (first :: shorter) '.'
    have firstLeft := mem_trimmed (show first ∈ first :: shorter from List.mem_cons_self) notPoint
    rw [String.toList_ofList]
    refine ⟨fun character member => characters character
      (zerosCut.subset (pointsCut.subset member)), ?_⟩
    rcases List.prefix_cons_iff.mp pointsCut with isNil | ⟨final, isCons, -⟩
    · rw [isNil] at firstLeft
      cases firstLeft
    · exact ⟨first, final, isCons, leads⟩
  · rw [String.toList_ofList]
    exact ⟨characters, first, rest, rfl, leads⟩

end Numerals

/-! ### Texts -/

section Texts

theorem sameJson_tree (std : Stdlib) : TreeRelation (Json.numeral std) (SameJson std) where
  null := .null
  bool := .bool
  number := .number
  str := .str
  arr same := .arr (.of_forall₂ same)
  obj order otherOrder same := .obj order otherOrder (.of_forall₂ same)

/-- **A value is determined by its text**, as a tree. -/
theorem serializeValue_unique (numerals : std.WritesNumerals) {value other : Json}
    (same : serializeValue std value = serializeValue std other) : SameJson std value other := by
  have texts : (canonicalStyle std).chars value = (canonicalStyle std).chars other :=
    String.ofList_injective same
  refine (@JsonStyle.determines (canonicalStyle std) _ (isNumeral_canonicalFloat numerals)
    (sameJson_tree std) value other [] [] ends_nil ends_nil ?_).1
  rw [texts]

end Texts

/-! ### The same tree has one text -/

section Canonical

variable {std : Stdlib}

mutual

/-- **The same tree has one text.** -/
theorem SameJson.chars {value other : Json} (keyed : value.Keyed) :
    SameJson std value other → (canonicalStyle std).chars value = (canonicalStyle std).chars other
  | .null => rfl
  | .bool _ => rfl
  | .number isNumber isOther =>
      (JsonStyle.chars_numeral isNumber).trans (JsonStyle.chars_numeral isOther).symm
  | .str _ => rfl
  | .arr same => by
      rw [JsonStyle.chars, JsonStyle.chars, SameItems.itemTexts keyed same]
  | @SameJson.obj _ fields ordered others otherOrdered order otherOrder same => by
      have orderedKeyed : KeyedFields ordered := keyedFields_iff.mpr fun field member =>
        keyedFields_iff.mp keyed.2 field (order.mem_iff.mpr member)
      have texts := SameFields.fieldTexts orderedKeyed same
      have otherDistinct : (otherOrdered.map Prod.fst).Nodup := by
        rw [← JsonStyle.fieldTexts_keys otherOrdered, ← texts, JsonStyle.fieldTexts_keys]
        exact (order.map Prod.fst).nodup_iff.mp keyed.1
      have sorted : (canonicalStyle std).ordered ((canonicalStyle std).fieldTexts fields) =
          (canonicalStyle std).ordered ((canonicalStyle std).fieldTexts others) :=
        calc (canonicalStyle std).ordered ((canonicalStyle std).fieldTexts fields)
            = (canonicalStyle std).ordered ((canonicalStyle std).fieldTexts ordered) :=
              JsonStyle.ordered_congr rfl order keyed.1
          _ = (canonicalStyle std).ordered ((canonicalStyle std).fieldTexts otherOrdered) := by rw [texts]
          _ = (canonicalStyle std).ordered ((canonicalStyle std).fieldTexts others) :=
              JsonStyle.ordered_congr rfl otherOrder.symm otherDistinct
      rw [JsonStyle.chars, JsonStyle.chars, sorted]

theorem SameItems.itemTexts {items others : List Json} (keyed : KeyedItems items) :
    SameItems std items others → (canonicalStyle std).itemTexts items = (canonicalStyle std).itemTexts others
  | .nil => rfl
  | .cons head tail => by
      rw [JsonStyle.itemTexts, JsonStyle.itemTexts, SameJson.chars keyed.1 head,
        SameItems.itemTexts keyed.2 tail]

theorem SameFields.fieldTexts {fields others : List (String × Json)} (keyed : KeyedFields fields) :
    SameFields std fields others →
      (canonicalStyle std).fieldTexts fields = (canonicalStyle std).fieldTexts others
  | .nil => rfl
  | .cons head tail => by
      rw [JsonStyle.fieldTexts, JsonStyle.fieldTexts, SameJson.chars keyed.1 head,
        SameFields.fieldTexts keyed.2 tail]

end

theorem keyed_filter {body : List (String × Json)} (keyed : (Json.obj body).Keyed) :
    (Json.obj (body.filter (·.1 != "batch_id"))).Keyed := by
  refine ⟨keyed.1.sublist (List.filter_sublist.map _), keyedFields_iff.mpr fun field member => ?_⟩
  exact keyedFields_iff.mp keyed.2 field (List.mem_filter.mp member).1

/-- **The canonical payload is a canonical form.** Two bodies have the same canonical bytes exactly when they
are the same JSON tree, up to the order of the keys of their objects at every depth, `batch_id`, and the
canonical numerals of their numbers. -/
theorem canonicalPayload_eq_iff (std : Stdlib) (numerals : std.WritesNumerals)
    {body other : List (String × Json)} (keyed : (Json.obj body).Keyed) :
    (canonicalPayload std body).toUTF8 = (canonicalPayload std other).toUTF8 ↔
      SamePayload std body other := by
  have bytes : (canonicalPayload std body).toUTF8 = (canonicalPayload std other).toUTF8 ↔
      canonicalPayload std body = canonicalPayload std other := String.toByteArray_inj
  rw [bytes]
  constructor
  · exact serializeValue_unique numerals
  · exact fun same => congrArg String.ofList (SameJson.chars (keyed_filter keyed) same)

/-- A body with a float, and the same body with an integer, its keys in the other order and no `batch_id`. -/
theorem canonicalPayload_eq_reordered :
    (canonicalPayload .constant [("batch_id", .str "b1"), ("a", .float 0), ("b", .null)]).toUTF8 =
      (canonicalPayload .constant [("b", .null), ("a", .int 0)]).toUTF8 := by
  have numerals : Stdlib.constant.WritesNumerals := fun _ => by
    have written : "0.0".toList = ['0', '.', '0'] := rfl
    show IsNumeral "0.0".toList
    rw [written]
    exact ⟨List.all_eq_true.mp (by decide), '0', _, rfl, .inl rfl⟩
  have keyed : (Json.obj [("batch_id", .str "b1"), ("a", .float 0), ("b", .null)]).Keyed := by
    simp [Json.Keyed, KeyedFields]
  have zero : Json.numeral .constant (.float 0) = some "0" := by decide +kernel
  have otherZero : Json.numeral .constant (.int 0) = some "0" := by decide +kernel
  refine (canonicalPayload_eq_iff .constant numerals keyed).mpr ?_
  show SameJson .constant (.obj [("a", .float 0), ("b", .null)]) (.obj [("b", .null), ("a", .int 0)])
  exact .obj (List.Perm.refl _) (List.Perm.swap _ _ _) (.cons (.number zero otherZero) (.cons .null .nil))

end Canonical

end CosMonitor
