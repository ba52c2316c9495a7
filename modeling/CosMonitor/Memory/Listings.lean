/-
**The listings of a tenant — what the readers of the learning loop see.**

Every reader lists the rows of a tenant, the newest first, and gives its first page unless it is asked for
another one. The artifacts behind a decision are looked up in such listings.

* `patternsOf`, `contextTargets`, `insightTargets`: the artifacts behind a decision, in some listings;
* `byId_eq_some`: what is looked up in a table with a key.
-/

import CosMonitor.Action.Decision
import CosMonitor.Action.Formulator
import CosMonitor.Foundation.Paging
import CosMonitor.Perception.ContextStore
import CosMonitor.Reasoning.Hypothesis
import CosMonitor.Reasoning.Pattern

namespace CosMonitor

/-! ### Rows -/

/-- A journaled transformation. The driver delivers `mentalModelUpdate` as an object or as a text. -/
structure Insight where
  id : Uuid
  tenantId : Uuid
  contextId : Uuid
  description : String
  priorUnderstanding : Option String
  mentalModelUpdate : Json
  generatedAt : Timestamp
  deriving DecidableEq

/-! ### Listings -/

/-- Rows of the six tables. -/
structure Listings where
  decisions : List Decision
  recommendations : List Recommendation
  hypotheses : List Hypothesis
  patterns : List Pattern
  contexts : List Context
  insights : List Insight

/-- No two rows of a table have one id. -/
structure Listings.Keyed (listings : Listings) : Prop where
  decisions : (listings.decisions.map Decision.id).Nodup
  recommendations : (listings.recommendations.map Recommendation.id).Nodup
  hypotheses : (listings.hypotheses.map Hypothesis.id).Nodup
  patterns : (listings.patterns.map Pattern.id).Nodup
  contexts : (listings.contexts.map Context.id).Nodup
  insights : (listings.insights.map Insight.id).Nodup

/-- `{row["id"]: row for row in rows}.get(wanted)`: the last row with the id. -/
def byId {Row : Type} (id : Row → Uuid) (wanted : Uuid) (rows : List Row) : Option Row :=
  rows.reverse.find? fun row => decide (id row = wanted)

/-! ### The artifacts behind a decision -/

namespace Listings

variable (listings : Listings) (decision : Decision)

/-- The recommendation of a decision. -/
def recommendationOf : Option Recommendation :=
  byId Recommendation.id decision.recommendationId listings.recommendations

/-- The hypothesis of its recommendation. -/
def hypothesisOf : Option Hypothesis :=
  (listings.recommendationOf decision).bind fun recommendation =>
    byId Hypothesis.id recommendation.hypothesisId listings.hypotheses

/-- The patterns of its hypothesis; an id that is not listed is skipped. -/
def patternsOf : List Pattern :=
  match listings.hypothesisOf decision with
  | none => []
  | some hypothesis => hypothesis.patternIds.filterMap fun id => byId Pattern.id id listings.patterns

/-- The ids of its patterns, as often as its hypothesis names them. -/
def patternTargets : List Uuid :=
  (listings.patternsOf decision).map Pattern.id

/-- The ids of their contexts, once for each pattern. -/
def contextTargets : List Uuid :=
  (listings.patternsOf decision).map Pattern.contextId

/-- The id of the insight of its recommendation. -/
def insightTargets : List Uuid :=
  ((listings.recommendationOf decision).bind (·.insightId)).toList

end Listings

/-! ### Parts of listings -/

section Parts

variable {Row : Type} {id : Row → Uuid} {wanted : Uuid} {rows : List Row} {row : Row}

theorem byId_eq_some (distinct : (rows.map id).Nodup) :
    byId id wanted rows = some row ↔ row ∈ rows ∧ id row = wanted := by
  unfold byId
  rw [Paging.find_key_eq_some (by rwa [List.map_reverse, List.nodup_reverse]), List.mem_reverse]

end Parts

end CosMonitor
