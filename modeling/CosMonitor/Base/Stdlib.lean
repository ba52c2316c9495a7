/-
**What the services take from Python's standard library without looking into it.**

`Stdlib` collects the text of floats and composite values, hashes, and the ISO 8601 codec of
datetimes. A result for every `Stdlib` holds for the library of any Python version.
-/

import CosMonitor.Base.Database

namespace CosMonitor

/-- A `datetime`: its instant, with the offset in microseconds of an aware one. The instant of a naive
datetime is its wall clock read as UTC. -/
structure PyDatetime where
  instant : Timestamp
  offset : Option Int
  deriving DecidableEq, Repr

namespace PyDatetime

/-- An aware datetime in UTC. -/
def utc (instant : Timestamp) : PyDatetime where
  instant
  offset := some 0

end PyDatetime

/-- The standard library functions whose values no proof looks into. -/
structure Stdlib where
  /-- `repr(value)` of a float -/
  floatRepr : ℚ → String
  /-- `str(value)` of a value that is neither a text nor an integer -/
  strOther : Json → String
  /-- `hashlib.sha256(text.encode()).hexdigest()` -/
  sha256Hex : String → String
  /-- `uuid.uuid5(namespace, name)` -/
  uuid5 : Uuid → String → Uuid
  /-- `uuid.uuid5(namespace, name)` of bytes; `none` before Python 3.12, where it raises a `TypeError` -/
  uuid5Bytes : Option (Uuid → List UInt8 → Uuid)
  /-- `struct.pack("!d", value)` -/
  packDouble : ℚ → List UInt8
  /-- `datetime.fromisoformat(text)`; `none` is its `ValueError` -/
  fromisoformat : String → Option PyDatetime
  /-- `value.isoformat()` -/
  isoformat : PyDatetime → String

/-- `str(value)`. -/
def Stdlib.str (std : Stdlib) : Json → String
  | .str text => text
  | .int value => toString value
  | other => std.strOther other

/-- `uuid.uuid5(namespace, name)` of bytes. -/
def Stdlib.uuid5OfBytes (std : Stdlib) (namespaceId : Uuid) (name : List UInt8) : Except PyError Uuid :=
  match std.uuid5Bytes with
  | some hash => .ok (hash namespaceId name)
  | none => .error .typeError

theorem Stdlib.uuid5OfBytes_eq_ok {std : Stdlib} {namespaceId : Uuid} {name : List UInt8} {id : Uuid} :
    std.uuid5OfBytes namespaceId name = .ok id ↔
      ∃ hash, std.uuid5Bytes = some hash ∧ hash namespaceId name = id := by
  unfold uuid5OfBytes
  rcases std.uuid5Bytes with _ | hash
  · simp
  · simp

/-- A library of constants, for runs on fixed inputs that do not depend on it. -/
def Stdlib.constant : Stdlib where
  floatRepr := fun _ => "0.0"
  strOther := fun _ => ""
  sha256Hex := fun _ => ""
  uuid5 := fun _ _ => 0
  uuid5Bytes := some fun _ _ => 0
  packDouble := fun _ => []
  fromisoformat := fun _ => none
  isoformat := fun _ => ""

/-- An id that adds up the characters of a name. -/
def characterSum (name : String) : Uuid :=
  Fin.ofNat _ (name.toList.map Char.toNat).sum

/-- A library whose ids are such sums. -/
def countingStd : Stdlib :=
  { Stdlib.constant with uuid5 := fun _ name => characterSum name }

end CosMonitor
