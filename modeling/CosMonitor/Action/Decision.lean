/-
**Decisions: commitments with falsifiable expected outcomes.**
-/

import CosMonitor.Base.Database
import CosMonitor.Base.Json

namespace CosMonitor

/-- A committed decision. The outcomes are lists of JSON objects; `actualOutcomes`, `outcomeStatus`,
`status` and `executedAt` are its lifecycle. -/
structure Decision where
  id : Uuid
  tenantId : Uuid
  recommendationId : Uuid
  confidenceId : Uuid
  authorityId : Uuid
  commitment : String
  expectedOutcomes : List Json
  riskTolerance : String
  status : String
  committedAt : Timestamp
  executedAt : Option Timestamp
  actualOutcomes : Option (List Json)
  outcomeStatus : String
  deriving DecidableEq

end CosMonitor
