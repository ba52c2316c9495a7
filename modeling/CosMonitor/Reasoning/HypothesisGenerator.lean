/-
**The hypothesis generator — competing explanations of one anomaly.**

The generator resolves the scope of an anomaly through its context, picks the templates that cover the scope
and the class of the anomaly, and instantiates each of them with measured facts. It refuses to return a
single explanation.

* `HypothesisTemplate`: a candidate explanation, with what `__post_init__` checks as fields;
* `generate`: one creation request for each template that matches, or none;
* `generate_spec`: what is generated, nothing or several explanations of one anomaly;
* `generate_unresolved`, `generate_uncovered`, `generate_covered`: what decides it.
-/

import CosMonitor.Reasoning.AnomalyDetector
import CosMonitor.Reasoning.Hypothesis

namespace CosMonitor

/-! ### Templates -/

/-- The text of an anomaly class. -/
def AnomalyClass.name : AnomalyClass → String
  | point => "point"
  | contextual => "contextual"
  | collective => "collective"

/-- A candidate explanation. An empty `scopePurposes` stands for every purpose. -/
structure HypothesisTemplate where
  templateId : String
  scopeAnomalyClass : AnomalyClass
  scopeMentalModels : List String
  scopePurposes : List String
  descriptionTemplate : String
  consequenceTemplates : List String
  falsificationTemplates : List String
  coherenceEstimate : UnitScore
  described : stripChars descriptionTemplate.toList ≠ []
  predicts : consequenceTemplates ≠ []
  falsifiable : falsificationTemplates ≠ []

/-- What ends the generation for an anomaly. -/
inductive GenerationError where
  | python (failure : PyError)
  | assertionError (message : String)
  deriving DecidableEq, Repr

/-- The message of the assertion at the end of `generate`. -/
def prematureConvergence : String :=
  "premature convergence: a scope must expose at least two competing " ++
    "templates (framework: premature convergence is a cognitive failure)"

namespace HypothesisGenerator

/-! ### The generator -/

/-- How the generator writes and dates what it creates: `template.format(**facts)`, and the clock. -/
structure GeneratorEnv where
  template : String → List (String × Json) → Except PyError String
  now : Timestamp

/-- `_anomaly_scope`: through the context of the anomaly. -/
def anomalyScope (anomaly : Anomaly) (contexts : List Context) : Option (String × String) :=
  (contexts.find? fun context => decide (context.id = anomaly.contextId)).map Context.scope

/-- `_expected_pattern`. -/
def expectedPattern (anomaly : Anomaly) (patterns : List PatternRecord) : Option PatternRecord :=
  patterns.find? fun pattern => decide (pattern.id = anomaly.patternId)

/-- A template covers a class of anomalies in a scope. -/
def covers (template : HypothesisTemplate) (anomalyClass : String)
    (scope : String × String) : Bool :=
  decide (template.scopeAnomalyClass.name = anomalyClass) &&
    template.scopeMentalModels.contains scope.1 &&
    (template.scopePurposes.isEmpty || template.scopePurposes.contains scope.2)

/-- `_matching_templates`. -/
def matchingTemplates (anomalyClass : String) (scope : String × String)
    (library : List HypothesisTemplate) : List HypothesisTemplate :=
  library.filter fun template => covers template anomalyClass scope

/-- `_facts`. -/
def hypothesisFacts (anomaly : Anomaly) (scope : String × String) (pattern : Option PatternRecord) :
    List (String × Json) :=
  [("scope", .str (scope.1 ++ " para " ++ scope.2)), ("anomaly_class", .str anomaly.anomalyClass),
    ("deviation_score", .float anomaly.deviationScore),
    ("frequency", .str ((pattern.map PatternRecord.frequency).getD "desconocida"))]

/-- One round of the loop over the templates. -/
def instantiate (env : GeneratorEnv) (anomaly : Anomaly) (facts : List (String × Json))
    (pattern : Option PatternRecord) (template : HypothesisTemplate) : Except PyError HypothesisCreate := do
  let description ← env.template template.descriptionTemplate facts
  let consequences ← template.consequenceTemplates.mapM fun consequence => env.template consequence facts
  let falsification ← env.template (template.falsificationTemplates.head template.falsifiable) facts
  return {
    tenantId := anomaly.tenantId
    anomalyIds := [anomaly.id]
    patternIds := (pattern.map fun found => found.id).toList
    description
    predictedConsequences := consequences
    falsificationCriterion := falsification
    coherenceScore := template.coherenceEstimate
    status := "candidate"
    generatedAt := env.now }

/-- `generate`. -/
def generate (env : GeneratorEnv) (anomaly : Anomaly) (contexts : List Context)
    (patterns : List PatternRecord) (library : List HypothesisTemplate) :
    Except GenerationError (List HypothesisCreate) :=
  match anomalyScope anomaly contexts with
  | none => .ok []
  | some scope =>
      match matchingTemplates anomaly.anomalyClass scope library with
      | [] => .ok []
      | templates =>
          let pattern := expectedPattern anomaly patterns
          match templates.mapM (instantiate env anomaly (hypothesisFacts anomaly scope pattern) pattern) with
          | .error failure => .error (.python failure)
          | .ok creations =>
              if 2 ≤ creations.length then .ok creations
              else .error (.assertionError prematureConvergence)

section Generator

variable {env : GeneratorEnv} {anomaly : Anomaly} {contexts : List Context} {patterns : List PatternRecord}
  {library : List HypothesisTemplate} {creations : List HypothesisCreate}

theorem instantiate_spec {facts : List (String × Json)} {pattern : Option PatternRecord}
    {template : HypothesisTemplate} {create : HypothesisCreate}
    (instantiated : instantiate env anomaly facts pattern template = .ok create) :
    create.tenantId = anomaly.tenantId ∧ create.anomalyIds = [anomaly.id] ∧
      create.patternIds = (pattern.map fun found => found.id).toList ∧
      create.predictedConsequences ≠ [] ∧ create.status = "candidate" := by
  unfold instantiate at instantiated
  obtain ⟨description, -, instantiated⟩ := Result.bind_eq_ok.mp instantiated
  obtain ⟨consequences, predicted, instantiated⟩ := Result.bind_eq_ok.mp instantiated
  obtain ⟨falsification, -, instantiated⟩ := Result.bind_eq_ok.mp instantiated
  cases Result.pure_eq_ok.mp instantiated
  refine ⟨rfl, rfl, rfl, fun nothing => template.predicts ?_, rfl⟩
  have same := (Result.mapM_eq_ok.mp predicted).length_eq
  rw [List.length_eq_zero_iff.mpr nothing] at same
  exact List.length_eq_zero_iff.mp same

theorem generate_unresolved (unresolved : anomalyScope anomaly contexts = none) :
    generate env anomaly contexts patterns library = .ok [] := by
  unfold generate
  rw [unresolved]

theorem generate_uncovered {scope : String × String} (resolved : anomalyScope anomaly contexts = some scope)
    (uncovered : matchingTemplates anomaly.anomalyClass scope library = []) :
    generate env anomaly contexts patterns library = .ok [] := by
  unfold generate
  rw [resolved]
  dsimp only
  rw [uncovered]

theorem generate_covered {scope : String × String} (resolved : anomalyScope anomaly contexts = some scope)
    (covered : matchingTemplates anomaly.anomalyClass scope library ≠ []) :
    generate env anomaly contexts patterns library =
      ((matchingTemplates anomaly.anomalyClass scope library).mapM (instantiate env anomaly
        (hypothesisFacts anomaly scope (expectedPattern anomaly patterns))
        (expectedPattern anomaly patterns))).mapError .python >>= fun creations =>
          if 2 ≤ creations.length then .ok creations else .error (.assertionError prematureConvergence) := by
  unfold generate
  rw [resolved]
  dsimp only
  rcases matching : matchingTemplates anomaly.anomalyClass scope library with _ | ⟨template, rest⟩
  · exact absurd matching covered
  · dsimp only
    rcases (template :: rest).mapM (instantiate env anomaly
        (hypothesisFacts anomaly scope (expectedPattern anomaly patterns))
        (expectedPattern anomaly patterns)) with failure | creations
    · rfl
    · rfl

/-- **What is generated for an anomaly**: nothing, or several explanations of it. -/
theorem generate_spec (generated : generate env anomaly contexts patterns library = .ok creations) :
    creations = [] ∨ 2 ≤ creations.length ∧ ∀ create ∈ creations,
      create.tenantId = anomaly.tenantId ∧ create.anomalyIds = [anomaly.id] ∧
        create.patternIds = ((expectedPattern anomaly patterns).map fun found => found.id).toList ∧
        create.predictedConsequences ≠ [] ∧ create.status = "candidate" := by
  unfold generate at generated
  split at generated
  · exact .inl (Except.ok.inj generated).symm
  · split at generated
    · exact .inl (Except.ok.inj generated).symm
    · dsimp only at generated
      split at generated
      · cases generated
      · rename_i instantiated
        split at generated
        · rename_i several
          cases Except.ok.inj generated
          refine .inr ⟨several, fun create member => ?_⟩
          obtain ⟨template, -, made⟩ := (Result.mem_mapM instantiated).mp member
          exact instantiate_spec made
        · cases generated

end Generator

end HypothesisGenerator

end CosMonitor
