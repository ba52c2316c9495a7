/-
**Observations: the facts that the bus carries.**
-/

import CosMonitor.Base.Stdlib

namespace CosMonitor

/-- The quality classes, from direct measurement to a single anecdotal source. -/
inductive QualityClass where
  | q1
  | q2
  | q3
  | q4
  deriving DecidableEq, Repr

namespace QualityClass

/-- The text of a quality class. -/
def name : QualityClass → String
  | q1 => "Q1"
  | q2 => "Q2"
  | q3 => "Q3"
  | q4 => "Q4"

/-- The quality class of a text. -/
def ofName (text : String) : Option QualityClass :=
  [q1, q2, q3, q4].find? fun quality => quality.name == text

end QualityClass

/-- An immutable observation. -/
structure Observation where
  id : Uuid
  tenantId : Uuid
  sourceId : Uuid
  sourceType : String
  factType : String
  factValue : List (String × Json)
  unit : String
  capturedAt : PyDatetime
  qualityClass : QualityClass
  rawPayload : List (String × Json)
  deriving DecidableEq, Repr

end CosMonitor
