/-
**Evidence: observations organised under a type, with a content-addressed id.**

* `evidenceId`: the id hashes the tenant, the type and the observation ids;
* `saveEvidence`: `INSERT … ON CONFLICT (id) DO NOTHING`, so a row is never changed.
-/

import CosMonitor.Foundation.Table
import CosMonitor.Perception.Observation
import Mathlib.Data.List.Sort

namespace CosMonitor

open Table

/-- An immutable organisation of one or more observations. -/
structure Evidence where
  id : Uuid
  tenantId : Uuid
  observationIds : List Uuid
  organizationType : String
  description : String
  qualityClass : QualityClass
  weight : UnitScore
  organizedAt : Timestamp
  deriving DecidableEq

/-- A creation request for an evidence. -/
structure EvidenceCreate where
  tenantId : Uuid
  observationIds : List Uuid
  organizationType : String
  description : String
  qualityClass : QualityClass
  weight : UnitScore
  deriving DecidableEq

/-- The namespace of evidence ids. -/
def evidenceNamespace : Uuid := 0x7b

/-- The text that the id of an evidence hashes. -/
def evidencePreimage (tenantId : Uuid) (organizationType : String) (observationIds : List Uuid) : String :=
  uuidText tenantId ++ ":" ++ organizationType ++ ":" ++ joinedIds observationIds

/-- Derive the id from the content; the order of the observations does not matter. -/
def evidenceId (std : Stdlib) (tenantId : Uuid) (organizationType : String)
    (observationIds : List Uuid) : Uuid :=
  std.uuid5 evidenceNamespace (evidencePreimage tenantId organizationType observationIds)

/-- Materialise an evidence; its organisation time is the time of the call. -/
def buildEvidence (std : Stdlib) (now : Timestamp) (create : EvidenceCreate) : Evidence where
  id := evidenceId std create.tenantId create.organizationType create.observationIds
  tenantId := create.tenantId
  observationIds := create.observationIds
  organizationType := create.organizationType
  description := create.description
  qualityClass := create.qualityClass
  weight := create.weight
  organizedAt := now

/-- Insert one evidence; the row, or `none` when its id is stored already. -/
def saveEvidence (evidence : Evidence) (rows : List Evidence) : Option Evidence × List Evidence :=
  insertAbsent Evidence.id evidence rows

end CosMonitor
