/-
**Anomalies and hypotheses: the artifacts of the reasoning layer.**

* `hypothesisId`: the id hashes the tenant, what the hypothesis accounts for and its description;
* `listHypotheses`: a page of a tenant's hypotheses, the oldest first.
-/

import CosMonitor.Base.Stdlib
import CosMonitor.Foundation.Sorting

namespace CosMonitor

/-- A detected deviation of a context from its expected pattern. -/
structure Anomaly where
  id : Uuid
  tenantId : Uuid
  contextId : Uuid
  patternId : Uuid
  deviationScore : ℚ
  toleranceThreshold : ℚ
  anomalyClass : String
  detectedAt : Timestamp
  deriving DecidableEq

/-- A candidate explanation of anomalies. -/
structure Hypothesis where
  id : Uuid
  tenantId : Uuid
  anomalyIds : List Uuid
  patternIds : List Uuid
  description : String
  predictedConsequences : List String
  falsificationCriterion : String
  coherenceScore : UnitScore
  status : String
  generatedAt : Timestamp
  deriving DecidableEq

/-- A creation request for a hypothesis. -/
structure HypothesisCreate where
  tenantId : Uuid
  anomalyIds : List Uuid
  patternIds : List Uuid
  description : String
  predictedConsequences : List String
  falsificationCriterion : String
  coherenceScore : UnitScore
  status : String
  generatedAt : Timestamp
  deriving DecidableEq

/-- The namespace of hypothesis ids. -/
def hypothesisNamespace : Uuid := 0x7f

/-- The text that the id of a hypothesis hashes. -/
def hypothesisPreimage (tenantId : Uuid) (anomalyIds patternIds : List Uuid) (description : String) :
    String :=
  uuidText tenantId ++ ":" ++ joinedIds anomalyIds ++ ":" ++ joinedIds patternIds ++ ":" ++ description

/-- `hypothesis_id`: the order of the anomalies and of the patterns does not matter. -/
def hypothesisId (std : Stdlib) (tenantId : Uuid) (anomalyIds patternIds : List Uuid)
    (description : String) : Uuid :=
  std.uuid5 hypothesisNamespace (hypothesisPreimage tenantId anomalyIds patternIds description)

/-- `build_hypothesis`. -/
def buildHypothesis (std : Stdlib) (create : HypothesisCreate) : Hypothesis where
  id := hypothesisId std create.tenantId create.anomalyIds create.patternIds create.description
  tenantId := create.tenantId
  anomalyIds := create.anomalyIds
  patternIds := create.patternIds
  description := create.description
  predictedConsequences := create.predictedConsequences
  falsificationCriterion := create.falsificationCriterion
  coherenceScore := create.coherenceScore
  status := create.status
  generatedAt := create.generatedAt

/-- `list_hypotheses`: a page of the rows of a tenant in the order of `generated_at`. -/
def listHypotheses (tenantId : Uuid) (limit offset : Nat) (rows : List Hypothesis) :
    List Hypothesis :=
  ((Sorting.sortBy Hypothesis.generatedAt
    (rows.filter fun row => decide (row.tenantId = tenantId))).drop offset).take limit

theorem mem_listHypotheses {tenantId : Uuid} {limit offset : Nat} {rows : List Hypothesis}
    {hypothesis : Hypothesis} (listed : hypothesis ∈ listHypotheses tenantId limit offset rows) :
    hypothesis ∈ rows ∧ hypothesis.tenantId = tenantId := by
  have inside := List.mem_of_mem_drop (List.mem_of_mem_take listed)
  rw [Sorting.mem_sortBy, List.mem_filter, decide_eq_true_iff] at inside
  exact inside

end CosMonitor
