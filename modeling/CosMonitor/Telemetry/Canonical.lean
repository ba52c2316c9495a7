/-
**The canonical payload of a batch.**

* `serializeValue`: sorted keys, no white space, floats without trailing zeros;
* `canonicalPayload`: the request body without its `batch_id`.
-/

import CosMonitor.Base.JsonTexts

namespace CosMonitor

section Canonical

variable (std : Stdlib)

/-- `canonical_float`: the repr without trailing zeros after its point. -/
def canonicalFloat (value : ℚ) : String :=
  let text := (std.floatRepr value).toList
  if '.' ∈ text ∧ 'e' ∉ text ∧ 'E' ∉ text then
    let trimmed := (text.reverse.dropWhile (· == '0')).reverse
    String.ofList (trimmed.reverse.dropWhile (· == '.')).reverse
  else String.ofList text

/-- The canonical texts: sorted keys, no white space, floats without trailing zeros. -/
def canonicalStyle : JsonStyle where
  floatText := canonicalFloat std
  ascii := false
  keyAscii := true
  gap := []
  sortKeys := true

/-- `_serialize_value`. -/
def serializeValue (value : Json) : String :=
  String.ofList ((canonicalStyle std).chars value)

/-- `canonical_payload`. -/
def canonicalPayload (body : List (String × Json)) : String :=
  serializeValue std (.obj (body.filter (·.1 != "batch_id")))

end Canonical

end CosMonitor
