/-
**The recommendation formulator — an offer drawn from an explicit action space.**

* `ActionSpaceEntry`: the permitted actions of a domain, never empty;
* `formulate`: the leading action of the domain, offered with its texts, the alternatives and the
  calibrated score of the hypothesis;
* `formulate_consequences`: the expected consequences of an offer are those of a permitted action.
-/

import CosMonitor.Action.FormulatorTables
import CosMonitor.Base.PyFloat
import CosMonitor.Foundation.Result
import CosMonitor.Learning.Confidence
import CosMonitor.Perception.ContextStore
import CosMonitor.Reasoning.Hypothesis

namespace CosMonitor

/-! ### The action space -/

/-- `DOMAINS`. -/
def actionDomains : List String :=
  ["storage", "compute", "security", "backup", "network", "observability"]

/-- The permitted actions of one domain and of the purposes that they apply to; no purpose is every
purpose. -/
structure ActionSpaceEntry where
  actionId : String
  domain : String
  allowedActions : List String
  purposes : List String
  known : domain ∈ actionDomains
  named : stripChars actionId.toList ≠ []
  permits : allowedActions ≠ []

namespace ActionSpaceEntry

/-- `sorted(allowed_actions)`. -/
def sortedActions (entry : ActionSpaceEntry) : List String :=
  entry.allowedActions.dedup.insertionSort (· ≤ ·)

theorem mem_sortedActions {entry : ActionSpaceEntry} {action : String} :
    action ∈ entry.sortedActions ↔ action ∈ entry.allowedActions := by
  unfold sortedActions
  rw [List.mem_insertionSort, List.mem_dedup]

theorem sortedActions_ne_nil (entry : ActionSpaceEntry) : entry.sortedActions ≠ [] := by
  obtain ⟨action, member⟩ := List.exists_mem_of_ne_nil _ entry.permits
  exact List.ne_nil_of_mem (mem_sortedActions.mpr member)

/-- The leading action of the domain when it is permitted, otherwise the first permitted one. -/
def leading (entry : ActionSpaceEntry) (domain : String) : String :=
  let first := entry.sortedActions.head entry.sortedActions_ne_nil
  match leadingActionByDomain.lookup domain with
  | none => first
  | some action => if action ∈ entry.allowedActions then action else first

theorem leading_mem (entry : ActionSpaceEntry) (domain : String) :
    entry.leading domain ∈ entry.allowedActions := by
  have first := mem_sortedActions.mp (List.head_mem entry.sortedActions_ne_nil)
  unfold leading
  cases leadingActionByDomain.lookup domain with
  | none => exact first
  | some action =>
      by_cases permitted : action ∈ entry.allowedActions
      · simpa only [if_pos permitted] using permitted
      · simpa only [if_neg permitted] using first

end ActionSpaceEntry

/-! ### Recommendations -/

/-- An alternative that was considered. -/
structure AlternativeRecord where
  action : String
  rationale : String
  rejectedReason : String
  confidence : ℚ
  deriving DecidableEq

/-- A creation request for a recommendation. -/
structure RecommendationCreate where
  tenantId : Uuid
  hypothesisId : Uuid
  insightId : Option Uuid
  confidenceId : Uuid
  actionDescription : String
  rationale : String
  expectedConsequences : List String
  alternativesConsidered : List AlternativeRecord
  confidenceScore : UnitScore
  status : String
  proposedAt : Timestamp
  deriving DecidableEq

/-- A proposed recommendation. -/
structure Recommendation extends RecommendationCreate where
  id : Uuid
  deriving DecidableEq

/-- The namespace of recommendation ids. -/
def recommendationNamespace : Uuid := 0x81

/-- Derive the id from the content of a recommendation. -/
def recommendationId (std : Stdlib) (tenantId hypothesisId confidenceId : Uuid)
    (actionDescription : String) : Uuid :=
  std.uuid5 recommendationNamespace (uuidText tenantId ++ ":" ++ uuidText hypothesisId ++ ":" ++
    uuidText confidenceId ++ ":" ++ actionDescription)

/-- Materialise a recommendation. -/
def buildRecommendation (std : Stdlib) (create : RecommendationCreate) : Recommendation :=
  { create with
    id := recommendationId std create.tenantId create.hypothesisId create.confidenceId
      create.actionDescription }

/-! ### The formulator -/

/-- How values are written in a rationale. -/
structure TextFormats where
  /-- `repr(text)` -/
  repr : String → String
  /-- `format(value, ".4f")` -/
  fixed4 : ℚ → String
  /-- the text of a calibration justification -/
  justification : Justification → String

/-- Resolve the domain of a context: its mental model first, then its purpose. -/
def resolveDomain (context : Context) : Option String :=
  mentalModelDomains.lookup context.mentalModelId <|> purposeDomains.lookup context.purpose

/-- Guard the traceability of an offer. -/
def validateOffer (hypothesis : Hypothesis) (confidence : Confidence) (context : Context) :
    Except PyError Unit :=
  if confidence.targetType ≠ .hypothesis then
    .error (.valueError ("confidence target_type must be 'hypothesis', got '" ++
      confidence.targetType.name ++ "'"))
  else if confidence.targetId ≠ hypothesis.id then
    .error (.valueError "confidence must calibrate the leading hypothesis (target_id mismatch)")
  else if confidence.tenantId ≠ hypothesis.tenantId ∨ context.tenantId ≠ hypothesis.tenantId then
    .error (.valueError "tenant mismatch across hypothesis/confidence/context")
  else .ok ()

/-- One record for each alternative. -/
def alternativeRecords (alternatives : List String) (confidence : Confidence) :
    List AlternativeRecord :=
  alternatives.map fun action => {
    action
    rationale := (considerationRationale.lookup action).getD
      "Opción considerada dentro del action space explícito."
    rejectedReason := (rejectionReasons.lookup action).getD
      "No elegida como acción principal en esta formulación."
    confidence := roundHalfEven 4 confidence.confidenceScore }

/-- The rationale of an offer. -/
def offerRationale (formats : TextFormats) (hypothesis : Hypothesis) (confidence : Confidence)
    (context : Context) (entry : ActionSpaceEntry) (leading : String) : String :=
  let joined := String.intercalate "; " hypothesis.predictedConsequences
  let consequences := if joined = "" then "ninguna" else joined
  "Recomendación para el contexto activo " ++ formats.repr context.mentalModelId ++
    " (propósito " ++ formats.repr context.purpose ++ ", coherencia de activación " ++
    formats.fixed4 context.coherenceScore ++ "). Derivada de la hipótesis candidata " ++
    uuidText hypothesis.id ++ " - " ++ formats.repr hypothesis.description ++
    " - con consecuencias observables declaradas (" ++ consequences ++
    ") y criterio de falsificación " ++ formats.repr hypothesis.falsificationCriterion ++
    ". Confidence calibrada " ++ formats.fixed4 confidence.confidenceScore ++ " (id " ++
    uuidText confidence.id ++ "): " ++ formats.justification confidence.calibrationJustification ++
    " Acción propuesta " ++ formats.repr leading ++ ", elegida dentro del action space explícito " ++
    formats.repr entry.actionId ++ " del dominio " ++ formats.repr entry.domain ++
    ". La propuesta es advisory y reversible: no se ejecuta nada (P6); el compromiso y la " ++
    "autoridad residen en la Decision (Sprint 10)."

/-- Derive the offer of a hypothesis; `none` when the action space does not apply. -/
def formulate (formats : TextFormats) (hypothesis : Hypothesis) (confidence : Confidence)
    (context : Context) (actionSpace : ActionSpaceEntry) (now : Timestamp) :
    Except PyError (Option RecommendationCreate) := do
  validateOffer hypothesis confidence context
  match resolveDomain context with
  | none => return none
  | some domain =>
      if domain ≠ actionSpace.domain then return none
      else if actionSpace.purposes ≠ [] ∧ context.purpose ∉ actionSpace.purposes then return none
      else
        let leading := actionSpace.leading domain
        let alternatives := actionSpace.sortedActions.filter (· != leading)
        return some {
          tenantId := hypothesis.tenantId
          hypothesisId := hypothesis.id
          insightId := none
          confidenceId := confidence.id
          actionDescription := (actionDescriptionTemplates.lookup leading).getD leading
          rationale := offerRationale formats hypothesis confidence context actionSpace leading
          expectedConsequences := (consequenceTemplates.lookup leading).getD []
          alternativesConsidered := alternativeRecords alternatives confidence
          confidenceScore := confidence.confidenceScore
          status := "proposed"
          proposedAt := now }

/-- **The expected consequences of an offer** are those of a permitted action. -/
theorem formulate_consequences {formats : TextFormats} {hypothesis : Hypothesis}
    {confidence : Confidence} {context : Context} {actionSpace : ActionSpaceEntry} {now : Timestamp}
    {create : RecommendationCreate}
    (formulated : formulate formats hypothesis confidence context actionSpace now =
      .ok (some create)) :
    ∃ action ∈ actionSpace.allowedActions,
      create.expectedConsequences = (consequenceTemplates.lookup action).getD [] := by
  unfold formulate at formulated
  obtain ⟨-, -, formulated⟩ := Result.bind_eq_ok.mp formulated
  cases resolved : resolveDomain context with
  | none =>
      rw [resolved] at formulated
      cases formulated
  | some domain =>
      rw [resolved] at formulated
      dsimp only at formulated
      split at formulated
      · cases formulated
      split at formulated
      · cases formulated
      · rw [← Option.some.inj (Result.pure_eq_ok.mp formulated)]
        exact ⟨_, actionSpace.leading_mem domain, rfl⟩

end CosMonitor
