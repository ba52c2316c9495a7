/-
**Ordinary JSON values, as `json.loads` returns them.**

* `Loaded.ofJson`: such a value, whose floats are finite and whose texts have no surrogates;
* `serializeLoaded_ofJson`: it is serialised as `serializeValue` says, where the call stack suffices;
* `canonicalLoaded_ofJson`: and the canonical payload of a body of such values is `canonicalPayload`.
-/

import CosMonitor.Telemetry.LoadedBodies

namespace CosMonitor

open Sorting

section Values

mutual

/-- A JSON value, as `json.loads` returns it. -/
def Loaded.ofJson : Json → Loaded
  | .null => .null
  | .bool truth => .bool truth
  | .int number => .int number
  | .float number => .float (.finite number)
  | .str text => .str (pyText text)
  | .arr items => .arr (ofJsonItems items)
  | .obj fields => .obj (ofJsonFields fields)

def ofJsonItems : List Json → List Loaded
  | [] => []
  | item :: rest => Loaded.ofJson item :: ofJsonItems rest

def ofJsonFields : List (String × Json) → List (PyText × Loaded)
  | [] => []
  | (key, value) :: rest => (pyText key, Loaded.ofJson value) :: ofJsonFields rest

end

/-- A text that UTF-8 encodes. -/
def points (text : List Char) : PyText :=
  text.map codePoint

theorem points_intercalate (texts : List (List Char)) :
    points ([','].intercalate texts) = [codePoint ','].intercalate (texts.map points) := by
  induction texts with
  | nil => rfl
  | cons text rest ih =>
      cases rest with
      | nil => rw [List.intercalate_singleton, List.map_cons, List.map_nil, List.intercalate_singleton]
      | cons next others =>
          rw [List.intercalate_cons_cons, List.map_cons, List.map_cons, List.intercalate_cons_cons,
            ← List.map_cons, ← ih, points, List.map_append, List.map_append]
          rfl

theorem dumpsPoints_pyText (ascii : Bool) (text : String) :
    dumpsPoints ascii (pyText text) = points (dumpsText ascii text) := by
  have escaped : (pyText text).flatMap (escapePoint ascii) = points (text.toList.flatMap (escapeChar ascii)) := by
    rw [pyText, List.flatMap_map, points, List.map_flatMap]
    refine List.flatMap_congr fun character _ => ?_
    rw [escapePoint, isSurrogate_codePoint, if_neg Bool.false_ne_true]
    exact congrArg (fun other => (escapeChar ascii other).map codePoint) (Char.ofNat_toNat character)
  rw [dumpsPoints, escaped, dumpsText, points, points, List.map_cons, List.map_append]
  rfl

/-- Texts are in one order as texts and as code points. -/
theorem pyText_le {first second : String} : pyText first ≤ pyText second ↔ first ≤ second := by
  have grows : StrictMono fun text : List Char => text.map codePoint :=
    fun _ _ less => List.map_lt (fun _ _ lesser => lesser) less
  rw [String.le_iff_toList_le]
  exact grows.le_iff_le

theorem sortBy_pyText {Value Other : Type} (change : Value → Other) (fields : List (String × Value)) :
    sortBy Prod.fst (fields.map fun field => (pyText field.1, change field.2)) =
      (sortBy Prod.fst fields).map fun field => (pyText field.1, change field.2) :=
  (List.map_insertionSort (fun first second : String × Value => first.1 ≤ second.1)
    (fun first second : PyText × Other => first.1 ≤ second.1) _ _ fun _ _ _ _ => pyText_le.symm).symm

variable {runtime : BodyRuntime} {depth : Nat}

theorem joinLoaded_points (std : Stdlib) (fields : List (String × List Char)) :
    joinLoaded (fields.map fun field => (pyText field.1, Except.ok (points field.2))) =
      .ok (points ('\x7b' :: ([','].intercalate ((sortBy Prod.fst fields).map (canonicalStyle std).fieldText) ++
        ['\x7d']))) := by
  have parts : ((sortBy Prod.fst fields).map fun field => (pyText field.1, Except.ok (points field.2))).mapM
      (fun field => field.2.map fun text => dumpsPoints true field.1 ++ codePoint ':' :: text) =
        (.ok (((sortBy Prod.fst fields).map (canonicalStyle std).fieldText).map points) :
          Except EscapingError (List PyText)) := by
    rw [List.mapM_map, List.map_map, Result.mapM_eq_ok, List.forall₂_map_right_iff, List.forall₂_same]
    intro field _
    have written : points ((canonicalStyle std).fieldText field) =
        dumpsPoints true (pyText field.1) ++ codePoint ':' :: points field.2 := by
      rw [dumpsPoints_pyText]
      exact List.map_append
    exact congrArg Except.ok written.symm
  rw [joinLoaded, sortBy_pyText (fun text => Except.ok (points text)), parts, points, List.map_cons,
    List.map_append, ← points, points_intercalate]
  rfl

theorem called_returns {value : Loaded} {text : Except EscapingError PyText}
    (enough : runtime.serializeOverflows depth value = false) : called runtime depth value text = text := by
  rw [called, enough, if_neg Bool.false_ne_true]

mutual

/-- **An ordinary value is serialised as JSON**, where the call stack suffices. -/
theorem serializeLoaded_ofJson : (value : Json) → {depth : Nat} → (Loaded.ofJson value).Renders runtime depth →
    serializeLoaded runtime depth (Loaded.ofJson value) =
      .ok (points ((canonicalStyle runtime.std).chars value))
  | .null, depth, renders => by
      rw [Loaded.ofJson, serializeLoaded, called_returns renders.1, JsonStyle.chars]
      rfl
  | .bool truth, depth, renders => by
      rw [Loaded.ofJson, serializeLoaded, called_returns renders.1, JsonStyle.chars]
      cases truth <;> rfl
  | .int number, depth, renders => by
      rw [Loaded.ofJson, serializeLoaded, called_returns renders.1, JsonStyle.chars]
      rfl
  | .float number, depth, renders => by
      rw [Loaded.ofJson, serializeLoaded, called_returns renders.1, JsonStyle.chars]
      rfl
  | .str text, depth, renders => by
      rw [Loaded.ofJson, serializeLoaded, called_returns renders.1, JsonStyle.chars, dumpsPoints_pyText]
      rfl
  | .arr items, depth, renders => by
      rw [Loaded.ofJson, Loaded.Renders] at renders
      rw [Loaded.ofJson, serializeLoaded, called_returns renders.1, serializeLoaded_ofJsonItems items renders.2,
        JsonStyle.chars, points, List.map_cons, List.map_append, ← points]
      show Except.ok _ = _
      rw [← points_intercalate]
      rfl
  | .obj fields, depth, renders => by
      rw [Loaded.ofJson, Loaded.Renders] at renders
      rw [Loaded.ofJson, serializeLoaded, called_returns renders.1, serializeLoaded_ofJsonFields fields renders.2,
        joinLoaded_points, JsonStyle.chars]
      rfl

theorem serializeLoaded_ofJsonItems : (items : List Json) → {depth : Nat} →
    RendersItems runtime depth (ofJsonItems items) →
      serializeLoadedItems runtime depth (ofJsonItems items) =
        .ok (((canonicalStyle runtime.std).itemTexts items).map points)
  | [], depth, _ => rfl
  | item :: rest, depth, renders => by
      rw [ofJsonItems, RendersItems] at renders
      rw [ofJsonItems, serializeLoadedItems, serializeLoaded_ofJson item renders.1,
        serializeLoaded_ofJsonItems rest renders.2, JsonStyle.itemTexts]
      rfl

theorem serializeLoaded_ofJsonFields : (fields : List (String × Json)) → {depth : Nat} →
    RendersFields runtime depth (ofJsonFields fields) →
      serializeLoadedFields runtime depth (ofJsonFields fields) =
        ((canonicalStyle runtime.std).fieldTexts fields).map fun field =>
          (pyText field.1, .ok (points field.2))
  | [], depth, _ => rfl
  | (key, value) :: rest, depth, renders => by
      rw [ofJsonFields, RendersFields] at renders
      rw [ofJsonFields, serializeLoadedFields, serializeLoaded_ofJson value renders.1,
        serializeLoaded_ofJsonFields rest renders.2, JsonStyle.fieldTexts]
      rfl

end

theorem payloadFields_ofJson (body : List (String × Json)) :
    payloadFields (ofJsonFields body) = ofJsonFields (body.filter (·.1 != "batch_id")) := by
  induction body with
  | nil => rfl
  | cons field rest ih =>
      obtain ⟨key, value⟩ := field
      have sameKey : decide (pyText key ≠ pyText "batch_id") = (key != "batch_id") := by
        by_cases isBatch : key = "batch_id"
        · simp [isBatch]
        · have differ : pyText key ≠ pyText "batch_id" := fun same =>
            isBatch (le_antisymm (pyText_le.mp same.le) (pyText_le.mp same.ge))
          rw [decide_eq_true differ, bne_iff_ne.mpr isBatch]
      unfold payloadFields at ih ⊢
      rw [ofJsonFields, List.filter_cons, List.filter_cons, sameKey, ih]
      cases key != "batch_id" with
      | true => rfl
      | false => rfl

/-- **The canonical payload of an ordinary body** is that of its JSON value, where the call stack suffices. -/
theorem canonicalLoaded_ofJson (body : List (String × Json))
    (renders : RendersFields runtime 0 (payloadFields (ofJsonFields body))) :
    canonicalLoaded runtime (ofJsonFields body) = .ok (pyText (canonicalPayload runtime.std body)) := by
  rw [payloadFields_ofJson] at renders
  have written : joinLoaded (serializeLoadedFields runtime 0 (payloadFields (ofJsonFields body))) =
      .ok (pyText (canonicalPayload runtime.std body)) := by
    rw [payloadFields_ofJson, serializeLoaded_ofJsonFields _ renders, joinLoaded_points, canonicalPayload,
      serializeValue, JsonStyle.chars, pyText, String.toList_ofList]
    rfl
  have encodes : ((pyText (canonicalPayload runtime.std body)).all fun point => !isSurrogate point) = true := by
    rw [List.all_eq_true]
    intro point member
    rw [encodes_map _ point member]
    rfl
  show (joinLoaded (serializeLoadedFields runtime 0 (payloadFields (ofJsonFields body))) >>= _) = _
  rw [written]
  exact if_pos encodes

end Values

end CosMonitor
