/-
**Insights — hypotheses that compete over one active context.**

`generate_insights` groups a tenant's hypotheses by the active contexts that they trace to (hypothesis,
anomaly, context) and applies every rule to each group. The rules speak of candidate hypotheses; the status
of a hypothesis is not read.

* `TenantKnowledge`: the rows of a tenant, each table with its primary key;
* `restructurings_perm`: whatever the order of the rows and of Python's sets, the rules are applied to the
  hypotheses that trace to an active context, once for each rule and context that has enough of them;
* `YieldsCompetitive`: one insight for each rule and active context with enough candidates;
* `yieldsCompetitive_iff`: it holds exactly when the hypotheses that a rule is applied to are candidates,
  and its templates take their facts;
* `falsified_hypothesis_counts`: a falsified hypothesis counts, and is restructured.
-/

import CosMonitor.Foundation.Grouping
import CosMonitor.Foundation.Result
import CosMonitor.Perception.ContextStore
import CosMonitor.Reasoning.Hypothesis
import Mathlib.Data.List.TakeWhile

namespace CosMonitor

/-! ### Rules -/

/-- `InsightRule`, with what `__post_init__` requires. -/
structure InsightRule where
  ruleId : String
  name : String
  minHypotheses : Nat
  descriptionTemplate : String
  priorUnderstandingTemplate : String
  frame : String
  competitive : 2 ≤ minHypotheses
  described : stripChars descriptionTemplate.toList ≠ []
  understood : stripChars priorUnderstandingTemplate.toList ≠ []
  framed : stripChars frame.toList ≠ []

/-- A creation request for an insight. -/
structure InsightCreate where
  tenantId : Uuid
  contextId : Uuid
  hypothesisIds : List Uuid
  description : String
  priorUnderstanding : Option String
  mentalModelUpdate : Option (List (String × Json))
  generatedAt : Timestamp

/-- `_scope`. -/
def insightScope (context : Context) : String :=
  context.mentalModelId ++ " para " ++ context.purpose

/-- `_anomaly_ids`: the anomalies that the hypotheses account for. -/
def insightAnomalyIds (hypotheses : List Hypothesis) : List String :=
  Sorting.sortBy id (hypotheses.flatMap fun hypothesis => hypothesis.anomalyIds.map uuidText).dedup

/-- `_descriptions`. -/
def insightDescriptions (hypotheses : List Hypothesis) : String :=
  "; ".intercalate (hypotheses.map Hypothesis.description)

/-- The facts that the templates are filled with. -/
def insightFacts (context : Context) (hypotheses : List Hypothesis) : List (String × Json) :=
  [("scope", .str (insightScope context)), ("context_id", .str (uuidText context.id)),
    ("n", .int hypotheses.length),
    ("anomaly_ids", .str (", ".intercalate (insightAnomalyIds hypotheses))),
    ("descriptions", .str (insightDescriptions hypotheses))]

/-- How a generator writes and dates what it creates: `template.format(**facts)`, and the clock. -/
structure InsightEnv where
  template : String → List (String × Json) → Except PyError String
  now : Timestamp

/-- `build_insight`. -/
def buildInsight (env : InsightEnv) (rule : InsightRule) (tenantId : Uuid) (context : Context)
    (hypotheses : List Hypothesis) : Except PyError InsightCreate := do
  let facts := insightFacts context hypotheses
  let description ← env.template rule.descriptionTemplate facts
  let priorUnderstanding ← env.template rule.priorUnderstandingTemplate facts
  return {
    tenantId
    contextId := context.id
    hypothesisIds := hypotheses.map Hypothesis.id
    description
    priorUnderstanding := some priorUnderstanding
    mentalModelUpdate := some [("frame", .str rule.frame), ("context_id", .str (uuidText context.id)),
      ("scope", .str (insightScope context)),
      ("hypothesis_ids", .arr (hypotheses.map fun hypothesis => .str (uuidText hypothesis.id))),
      ("anomaly_ids", .arr ((insightAnomalyIds hypotheses).map .str))]
    generatedAt := env.now }

/-! ### The generator -/

/-- The rows of a tenant, in the order in which they were read; each table has its primary key. -/
structure TenantKnowledge where
  hypotheses : List Hypothesis
  anomalies : List Anomaly
  contexts : List Context
  hypothesesKeyed : (hypotheses.map Hypothesis.id).Nodup
  anomaliesKeyed : (anomalies.map Anomaly.id).Nodup
  contextsKeyed : (contexts.map Context.id).Nodup

/-- The order in which Python reads a set of texts. -/
structure SetOrder where
  read : List String → List String
  each : ∀ texts, (read texts).Perm texts.dedup

namespace TenantKnowledge

variable (order : SetOrder) (knowledge : TenantKnowledge)

/-- `_active_context`: the active contexts that an anomaly of a hypothesis belongs to, under their ids. -/
def activeContext : List (String × Context) :=
  let anomalyIds := knowledge.hypotheses.flatMap Hypothesis.anomalyIds
  let ctxByAnomaly := (knowledge.anomalies.filter fun anomaly => decide (anomaly.id ∈ anomalyIds)).map
    fun anomaly => uuidText anomaly.contextId
  (knowledge.contexts.filter fun context =>
    context.isActive && decide (uuidText context.id ∈ ctxByAnomaly)).map
      fun context => (uuidText context.id, context)

/-- The contexts that a hypothesis traces to, by their ids. -/
def ctxIds (hypothesis : Hypothesis) : List String :=
  order.read ((knowledge.anomalies.filter fun anomaly => decide (anomaly.id ∈ hypothesis.anomalyIds)).map
    fun anomaly => uuidText anomaly.contextId)

/-- `_competitive_frames`. -/
def competitiveFrames : List (Context × List Hypothesis) :=
  let active := knowledge.activeContext
  if active = [] then []
  else
    let byContext := Grouping.groupBy Prod.fst (knowledge.hypotheses.flatMap fun hypothesis =>
      ((knowledge.ctxIds order hypothesis).filter fun ctxId => active.any fun entry => entry.1 == ctxId).map
        fun ctxId => (ctxId, hypothesis))
    byContext.filterMap fun (ctxId, grouped) =>
      if 2 ≤ grouped.length then
        (active.find? fun entry => entry.1 == ctxId).map fun entry => (entry.2, grouped.map Prod.snd)
      else none

/-- What `build_insight` is called for: the rules that fire in each frame, with its hypotheses by their
ids. -/
def restructurings (rules : List InsightRule) : List (InsightRule × Context × List Hypothesis) :=
  (knowledge.competitiveFrames order).flatMap fun (context, grouped) =>
    (rules.filter fun rule => decide (rule.minHypotheses ≤ grouped.length)).map fun rule =>
      (rule, context, Sorting.sortBy Hypothesis.id grouped)

/-- `generate_insights`. -/
def generateInsights (env : InsightEnv) (tenantId : Uuid) (rules : List InsightRule) :
    Except PyError (List InsightCreate) :=
  (knowledge.restructurings order rules).mapM fun (rule, context, hypotheses) =>
    buildInsight env rule tenantId context hypotheses

/-! ### Frames -/

/-- A hypothesis accounts for an anomaly of the context. -/
def Traces (context : Context) (hypothesis : Hypothesis) : Prop :=
  ∃ anomaly ∈ knowledge.anomalies, anomaly.id ∈ hypothesis.anomalyIds ∧ anomaly.contextId = context.id

instance (context : Context) (hypothesis : Hypothesis) : Decidable (knowledge.Traces context hypothesis) :=
  inferInstanceAs (Decidable (∃ _ ∈ _, _))

/-- The hypotheses that trace to a context. -/
def tracing (context : Context) : List Hypothesis :=
  knowledge.hypotheses.filter fun hypothesis => decide (knowledge.Traces context hypothesis)

/-- Those of them that are candidates. -/
def candidates (context : Context) : List Hypothesis :=
  (knowledge.tracing context).filter fun hypothesis => decide (hypothesis.status = "candidate")

def activeContexts : List Context :=
  knowledge.contexts.filter Context.isActive

/-- Each rule with each active context for which enough hypotheses are counted. -/
def firingPairs (counted : Context → List Hypothesis) (rules : List InsightRule) :
    List (InsightRule × Context) :=
  knowledge.activeContexts.flatMap fun context =>
    (rules.filter fun rule => decide (rule.minHypotheses ≤ (counted context).length)).map (·, context)

/-- A rule and a context, with the hypotheses that the rule is applied to. -/
def restructuring (pair : InsightRule × Context) : InsightRule × Context × List Hypothesis :=
  (pair.1, pair.2, Sorting.sortBy Hypothesis.id (knowledge.tracing pair.2))

variable {order knowledge} {context : Context} {hypothesis : Hypothesis} {rules : List InsightRule}

theorem mem_ctxIds :
    uuidText context.id ∈ knowledge.ctxIds order hypothesis ↔ knowledge.Traces context hypothesis := by
  unfold ctxIds Traces
  rw [(order.each _).mem_iff, List.mem_dedup, List.mem_map]
  simp only [List.mem_filter, decide_eq_true_eq, uuidText_injective.eq_iff, and_assoc]

theorem ctxIds_nodup : (knowledge.ctxIds order hypothesis).Nodup :=
  (order.each _).nodup_iff.mpr (List.nodup_dedup _)

theorem context_eq {other : Context} (member : context ∈ knowledge.contexts)
    (otherIn : other ∈ knowledge.contexts) (same : context.id = other.id) : context = other :=
  List.inj_on_of_nodup_map knowledge.contextsKeyed member otherIn same

theorem mem_activeContext {entry : String × Context} (listed : entry ∈ knowledge.activeContext) :
    entry.1 = uuidText entry.2.id ∧ entry.2 ∈ knowledge.contexts ∧ entry.2.isActive = true := by
  obtain ⟨context, member, rfl⟩ := List.mem_map.mp listed
  obtain ⟨inside, accepted⟩ := List.mem_filter.mp member
  exact ⟨rfl, inside, (Bool.and_eq_true _ _ |>.mp accepted).1⟩

theorem find_activeContext (member : context ∈ knowledge.contexts) (active : context.isActive = true)
    (hypothesisIn : hypothesis ∈ knowledge.hypotheses) (traces : knowledge.Traces context hypothesis) :
    knowledge.activeContext.find? (fun entry => entry.1 == uuidText context.id) =
      some (uuidText context.id, context) := by
  obtain ⟨anomaly, anomalyIn, accounts, ofContext⟩ := traces
  have listed : (uuidText context.id, context) ∈ knowledge.activeContext := by
    unfold activeContext
    simp only [List.mem_map, List.mem_filter, List.mem_flatMap, Bool.and_eq_true, decide_eq_true_eq]
    exact ⟨context, ⟨member, active, anomaly, ⟨anomalyIn, hypothesis, hypothesisIn, accounts⟩,
      congrArg uuidText ofContext⟩, rfl⟩
  rcases found : knowledge.activeContext.find? (fun entry => entry.1 == uuidText context.id) with - | entry
  · have refused := List.find?_eq_none.mp found _ listed
    simp only [beq_self_eq_true, not_true_eq_false] at refused
  · obtain ⟨key, inside, -⟩ := mem_activeContext (List.mem_of_find?_eq_some found)
    have isKey : entry.1 = uuidText context.id := by simpa using List.find?_some found
    have same : entry.2 = context := context_eq inside member (uuidText_injective (key.symm.trans isKey))
    rw [found, Option.some.injEq, Prod.ext_iff]
    exact ⟨isKey, same⟩

theorem competitiveFrames_eq : knowledge.competitiveFrames order =
    (Grouping.groupBy Prod.fst (Grouping.labelled (fun hypothesis =>
      (knowledge.ctxIds order hypothesis).filter fun ctxId =>
        knowledge.activeContext.any fun entry => entry.1 == ctxId) knowledge.hypotheses)).filterMap
      fun group => if 2 ≤ group.2.length then
        (knowledge.activeContext.find? fun entry => entry.1 == group.1).map fun entry =>
          (entry.2, group.2.map Prod.snd)
      else none := by
  unfold competitiveFrames
  dsimp only
  by_cases none : knowledge.activeContext = []
  · rw [if_pos none, none]
    have nothing : Grouping.labelled (fun hypothesis => (knowledge.ctxIds order hypothesis).filter
        fun ctxId => ([] : List (String × Context)).any fun entry => entry.1 == ctxId)
        knowledge.hypotheses = [] := by
      unfold Grouping.labelled
      simp
    rw [nothing]
    rfl
  · rw [if_neg none]
    rfl

/-- **The frames**: the active contexts that several hypotheses trace to, with these hypotheses. -/
theorem mem_competitiveFrames {grouped : List Hypothesis} :
    (context, grouped) ∈ knowledge.competitiveFrames order ↔
      context ∈ knowledge.activeContexts ∧ 2 ≤ (knowledge.tracing context).length ∧
        grouped = knowledge.tracing context := by
  have once : ∀ hypothesis, ((knowledge.ctxIds order hypothesis).filter fun ctxId =>
      knowledge.activeContext.any fun entry => entry.1 == ctxId).Nodup := fun _ => ctxIds_nodup.filter _
  -- The hypotheses under the id of a listed context are those that trace to it.
  have ofContext : ∀ {context : Context}, (uuidText context.id, context) ∈ knowledge.activeContext →
      ((Grouping.labelled (fun hypothesis => (knowledge.ctxIds order hypothesis).filter fun ctxId =>
        knowledge.activeContext.any fun entry => entry.1 == ctxId) knowledge.hypotheses).filter
          fun entry => decide (entry.1 = uuidText context.id)).map Prod.snd =
        knowledge.tracing context := by
    intro context listed
    rw [Grouping.map_snd_labelled once]
    refine List.filter_congr fun hypothesis _ => decide_eq_decide.mpr ?_
    rw [List.mem_filter, mem_ctxIds, and_iff_left]
    exact List.any_eq_true.mpr ⟨_, listed, beq_iff_eq.mpr rfl⟩
  rw [competitiveFrames_eq, List.mem_filterMap]
  constructor
  · rintro ⟨⟨ctxId, group⟩, inGroups, produced⟩
    obtain ⟨several, produced⟩ := Option.ite_none_right_eq_some.mp produced
    obtain ⟨entry, found, same⟩ := Option.map_eq_some_iff.mp produced
    obtain ⟨rfl, rfl⟩ := Prod.mk.inj same
    have listed := List.mem_of_find?_eq_some found
    obtain ⟨key, inside, active⟩ := mem_activeContext listed
    have isKey : entry.1 = ctxId := by simpa using List.find?_some found
    have isTracing : group.map Prod.snd = knowledge.tracing entry.2 := by
      rw [(Grouping.mem_groupBy inGroups).1, ← isKey, key]
      refine ofContext ?_
      rw [← key]
      exact listed
    refine ⟨List.mem_filter.mpr ⟨inside, active⟩, ?_, isTracing⟩
    rw [← isTracing, List.length_map]
    exact several
  · rintro ⟨active, several, rfl⟩
    obtain ⟨inside, isActive⟩ := List.mem_filter.mp active
    obtain ⟨hypothesis, traced⟩ := List.exists_mem_of_length_pos (Nat.lt_of_lt_of_le Nat.two_pos several)
    obtain ⟨hypothesisIn, traces⟩ := List.mem_filter.mp traced
    have found := find_activeContext inside isActive hypothesisIn (of_decide_eq_true traces)
    have isTracing := ofContext (List.mem_of_find?_eq_some found)
    refine ⟨(uuidText context.id, _), Grouping.mem_groupBy_iff.mpr ⟨rfl, fun empty => ?_⟩, ?_⟩
    · rw [empty] at isTracing
      rw [← isTracing] at several
      cases several
    · rw [← List.length_map Prod.snd, isTracing, if_pos several, found]
      rfl

theorem competitiveFrames_nodup : (knowledge.competitiveFrames order).Nodup := by
  rw [competitiveFrames_eq]
  refine List.Pairwise.filterMap _ ?_ (Grouping.pairwise_groupBy _)
  have keyOf : ∀ (group : String × List (String × Hypothesis)) (frame : Context × List Hypothesis),
      (if 2 ≤ group.2.length then
        (knowledge.activeContext.find? fun entry => entry.1 == group.1).map fun entry =>
          (entry.2, group.2.map Prod.snd)
      else none) = some frame → group.1 = uuidText frame.1.id := by
    intro group frame produced
    obtain ⟨-, produced⟩ := Option.ite_none_right_eq_some.mp produced
    obtain ⟨entry, found, rfl⟩ := Option.map_eq_some_iff.mp produced
    obtain ⟨key, -⟩ := mem_activeContext (List.mem_of_find?_eq_some found)
    have isKey : entry.1 = group.1 := by simpa using List.find?_some found
    exact isKey.symm.trans key
  rintro first second apart frame produced other otherProduced rfl
  exact apart ((keyOf first frame produced).trans (keyOf second frame otherProduced).symm)

theorem contexts_nodup : knowledge.contexts.Nodup :=
  List.Nodup.of_map _ knowledge.contextsKeyed

theorem competitiveFrames_perm : (knowledge.competitiveFrames order).Perm
    ((knowledge.activeContexts.filter fun context => decide (2 ≤ (knowledge.tracing context).length)).map
      fun context => (context, knowledge.tracing context)) := by
  have distinct : ((knowledge.activeContexts.filter fun context =>
      decide (2 ≤ (knowledge.tracing context).length)).map
        fun context => (context, knowledge.tracing context)).Nodup :=
    ((contexts_nodup.filter _).filter _).map fun _ _ same => (Prod.mk.inj same).1
  refine (List.perm_ext_iff_of_nodup competitiveFrames_nodup distinct).mpr ?_
  rintro ⟨context, grouped⟩
  rw [mem_competitiveFrames, List.mem_map]
  constructor
  · rintro ⟨active, several, rfl⟩
    exact ⟨context, List.mem_filter.mpr ⟨active, decide_eq_true several⟩, rfl⟩
  · rintro ⟨other, member, same⟩
    obtain ⟨rfl, rfl⟩ := Prod.mk.inj same
    obtain ⟨active, several⟩ := List.mem_filter.mp member
    exact ⟨active, of_decide_eq_true several, rfl⟩

/-- **What the rules are applied to**: the hypotheses that trace to an active context, once for each rule
that needs no more of them. -/
theorem restructurings_perm : (knowledge.restructurings order rules).Perm
    ((knowledge.firingPairs knowledge.tracing rules).map knowledge.restructuring) := by
  refine (competitiveFrames_perm.flatMap_right _).trans (List.Perm.of_eq ?_)
  unfold firingPairs
  rw [List.flatMap_map, List.map_flatMap]
  induction knowledge.activeContexts with
  | nil => rfl
  | cons context rest ih =>
      have head : ((rules.filter fun rule => decide (rule.minHypotheses ≤
          (knowledge.tracing context).length)).map (·, context)).map knowledge.restructuring =
          (rules.filter fun rule => decide (rule.minHypotheses ≤ (knowledge.tracing context).length)).map
            fun rule => (rule, context, Sorting.sortBy Hypothesis.id (knowledge.tracing context)) :=
        List.map_map ..
      rw [List.flatMap_cons, head, ← ih]
      by_cases several : 2 ≤ (knowledge.tracing context).length
      · rw [List.filter_cons, if_pos (decide_eq_true several), List.flatMap_cons]
      · -- No rule fires for fewer than two hypotheses.
        have none : (rules.filter fun rule => decide (rule.minHypotheses ≤
            (knowledge.tracing context).length)) = [] :=
          List.filter_eq_nil_iff.mpr fun rule _ fires =>
            several (rule.competitive.trans (of_decide_eq_true fires))
        rw [List.filter_cons, if_neg fun enough => several (of_decide_eq_true enough), none]
        rfl

/-! ### The order of the rows -/

/-- The same rows in another order. -/
structure Reordered (knowledge other : TenantKnowledge) : Prop where
  hypotheses : other.hypotheses.Perm knowledge.hypotheses
  anomalies : other.anomalies.Perm knowledge.anomalies
  contexts : other.contexts.Perm knowledge.contexts

section Reordered

variable {other : TenantKnowledge} (same : knowledge.Reordered other)

include same

theorem Reordered.tracing (context : Context) :
    (other.tracing context).Perm (knowledge.tracing context) := by
  have traces : ∀ hypothesis, other.Traces context hypothesis ↔ knowledge.Traces context hypothesis := by
    intro hypothesis
    unfold Traces
    simp only [same.anomalies.mem_iff]
  unfold TenantKnowledge.tracing
  simp only [traces]
  exact same.hypotheses.filter _

theorem Reordered.restructuring (pair : InsightRule × Context) :
    other.restructuring pair = knowledge.restructuring pair := by
  unfold TenantKnowledge.restructuring
  rw [Sorting.sortBy_congr (same.tracing pair.2)]
  exact (List.filter_sublist.map _).nodup knowledge.hypothesesKeyed

/-- **The rules are applied to the same hypotheses**, in whatever order the rows and the sets are read. -/
theorem Reordered.restructurings (order otherOrder : SetOrder) (rules : List InsightRule) :
    (other.restructurings otherOrder rules).Perm (knowledge.restructurings order rules) := by
  refine restructurings_perm.trans (List.Perm.trans ?_ restructurings_perm.symm)
  have pairs : (other.firingPairs other.tracing rules).Perm
      (knowledge.firingPairs knowledge.tracing rules) := by
    unfold firingPairs
    simp only [(same.tracing _).length_eq]
    exact (same.contexts.filter _).flatMap_right _
  rw [List.map_congr_left fun pair _ => same.restructuring pair]
  exact pairs.map _

end Reordered

end TenantKnowledge

/-! ### Insights for candidates -/

section Candidates

variable {env : InsightEnv} {tenantId : Uuid} {rule : InsightRule} {context : Context}
  {hypotheses : List Hypothesis} {insight : InsightCreate}

/-- The templates of a rule take the facts. -/
def InsightRule.Renders (env : InsightEnv) (rule : InsightRule) (context : Context)
    (hypotheses : List Hypothesis) : Prop :=
  (∃ text, env.template rule.descriptionTemplate (insightFacts context hypotheses) = .ok text) ∧
    ∃ text, env.template rule.priorUnderstandingTemplate (insightFacts context hypotheses) = .ok text

theorem buildInsight_returns :
    (∃ insight, buildInsight env rule tenantId context hypotheses = .ok insight) ↔
      rule.Renders env context hypotheses := by
  constructor
  · rintro ⟨insight, built⟩
    obtain ⟨description, described, rest⟩ := Result.bind_eq_ok.mp built
    obtain ⟨understanding, understood, -⟩ := Result.bind_eq_ok.mp rest
    exact ⟨⟨description, described⟩, understanding, understood⟩
  · rintro ⟨⟨description, described⟩, understanding, understood⟩
    exact ⟨_, Result.bind_eq_ok.mpr ⟨description, described,
      Result.bind_eq_ok.mpr ⟨understanding, understood, rfl⟩⟩⟩

theorem buildInsight_spec (built : buildInsight env rule tenantId context hypotheses = .ok insight) :
    insight.contextId = context.id ∧ insight.hypothesisIds = hypotheses.map Hypothesis.id := by
  obtain ⟨description, described, rest⟩ := Result.bind_eq_ok.mp built
  obtain ⟨understanding, understood, created⟩ := Result.bind_eq_ok.mp rest
  rw [← Result.pure_eq_ok.mp created]
  exact ⟨rfl, rfl⟩

/-- An insight is what a rule makes of the hypotheses that are counted for a context. -/
structure Restructures (env : InsightEnv) (tenantId : Uuid) (counted : Context → List Hypothesis)
    (pair : InsightRule × Context) (insight : InsightCreate) : Prop where
  built : buildInsight env pair.1 tenantId pair.2
    (Sorting.sortBy Hypothesis.id (counted pair.2)) = .ok insight
  context : insight.contextId = pair.2.id
  hypotheses : insight.hypothesisIds.Perm ((counted pair.2).map Hypothesis.id)

theorem restructures_of_built {counted : Context → List Hypothesis} {pair : InsightRule × Context}
    (built : buildInsight env pair.1 tenantId pair.2
      (Sorting.sortBy Hypothesis.id (counted pair.2)) = .ok insight) :
    Restructures env tenantId counted pair insight := by
  obtain ⟨context, hypotheses⟩ := buildInsight_spec built
  refine ⟨built, context, ?_⟩
  rw [hypotheses]
  exact (Sorting.sortBy_perm _ _).map _

/-- **One insight for each rule and active context with enough candidates**, about exactly these candidates,
whatever the order of the rows. -/
def YieldsCompetitive (env : InsightEnv) (tenantId : Uuid) (order : SetOrder) (knowledge : TenantKnowledge)
    (rules : List InsightRule) : Prop :=
  ∃ insights, knowledge.generateInsights order env tenantId rules = .ok insights ∧
    (∃ pairs, pairs.Perm (knowledge.firingPairs knowledge.candidates rules) ∧
      List.Forall₂ (Restructures env tenantId knowledge.candidates) pairs insights) ∧
    ∀ otherOrder other, knowledge.Reordered other →
      ∃ others, other.generateInsights otherOrder env tenantId rules = .ok others ∧ others.Perm insights

/-- Where enough hypotheses trace to an active context for a rule, they are all candidates, and the rule's
templates take the facts. -/
def OnlyCandidatesCompete (env : InsightEnv) (knowledge : TenantKnowledge) (rules : List InsightRule) : Prop :=
  ∀ rule ∈ rules, ∀ context ∈ knowledge.activeContexts,
    rule.minHypotheses ≤ (knowledge.tracing context).length →
      (∀ hypothesis ∈ knowledge.tracing context, hypothesis.status = "candidate") ∧
        rule.Renders env context (Sorting.sortBy Hypothesis.id (knowledge.tracing context))

variable {order : SetOrder} {knowledge : TenantKnowledge} {rules : List InsightRule}

theorem mem_firingPairs {counted : Context → List Hypothesis} :
    (rule, context) ∈ knowledge.firingPairs counted rules ↔
      rule ∈ rules ∧ context ∈ knowledge.activeContexts ∧
        rule.minHypotheses ≤ (counted context).length := by
  unfold TenantKnowledge.firingPairs
  simp only [List.mem_flatMap, List.mem_map, List.mem_filter, decide_eq_true_eq, Prod.mk.injEq]
  constructor
  · rintro ⟨_, active, _, ⟨member, enough⟩, rfl, rfl⟩
    exact ⟨member, active, enough⟩
  · rintro ⟨member, active, enough⟩
    exact ⟨context, active, rule, ⟨member, enough⟩, rfl, rfl⟩

/-- **What is generated**: the insights of the rules and contexts that enough hypotheses trace to, of
whatever status. -/
theorem generateInsights_eq_ok {insights : List InsightCreate} {counted : Context → List Hypothesis}
    (agree : ∀ pair ∈ knowledge.firingPairs knowledge.tracing rules,
      counted pair.2 = knowledge.tracing pair.2)
    (generated : knowledge.generateInsights order env tenantId rules = .ok insights) :
    ∃ pairs, pairs.Perm (knowledge.firingPairs knowledge.tracing rules) ∧
      List.Forall₂ (Restructures env tenantId counted) pairs insights := by
  have applied := @TenantKnowledge.restructurings_perm order knowledge rules
  refine ⟨(knowledge.restructurings order rules).map fun job => (job.1, job.2.1), ?_, ?_⟩
  · have paired := applied.map fun job => (job.1, job.2.1)
    rw [List.map_map] at paired
    exact paired.trans (List.Perm.of_eq (List.map_id _))
  · rw [List.forall₂_map_left_iff]
    refine ((List.forall₂_and_left _ _).mpr ⟨fun job member => applied.mem_iff.mp member,
      Result.mapM_eq_ok.mp generated⟩).imp ?_
    rintro job insight ⟨member, built⟩
    obtain ⟨pair, fires, rfl⟩ := List.mem_map.mp member
    refine restructures_of_built ?_
    dsimp only [TenantKnowledge.restructuring]
    rw [agree pair fires]
    exact built

theorem candidates_length_le : (knowledge.candidates context).length ≤ (knowledge.tracing context).length :=
  List.length_filter_le _ _

theorem candidates_eq_tracing_iff :
    knowledge.candidates context = knowledge.tracing context ↔
      ∀ hypothesis ∈ knowledge.tracing context, hypothesis.status = "candidate" := by
  unfold TenantKnowledge.candidates
  simp only [List.filter_eq_self, decide_eq_true_eq]

theorem yieldsCompetitive_of_only (only : OnlyCandidatesCompete env knowledge rules) :
    YieldsCompetitive env tenantId order knowledge rules := by
  have agree : ∀ pair ∈ knowledge.firingPairs knowledge.tracing rules,
      knowledge.candidates pair.2 = knowledge.tracing pair.2 := by
    rintro ⟨rule, context⟩ fires
    obtain ⟨member, active, enough⟩ := mem_firingPairs.mp fires
    exact candidates_eq_tracing_iff.mpr (only rule member context active enough).1
  have returns : ∃ insights, knowledge.generateInsights order env tenantId rules = .ok insights := by
    refine Result.mapM_returned_iff.mpr fun job member => ?_
    obtain ⟨⟨rule, context⟩, fires, rfl⟩ :=
      List.mem_map.mp (TenantKnowledge.restructurings_perm.mem_iff.mp member)
    obtain ⟨ruleIn, active, enough⟩ := mem_firingPairs.mp fires
    exact buildInsight_returns.mpr (only rule ruleIn context active enough).2
  obtain ⟨insights, generated⟩ := returns
  have samePairs : knowledge.firingPairs knowledge.candidates rules =
      knowledge.firingPairs knowledge.tracing rules := by
    refine List.flatMap_congr fun context active => congrArg _ (List.filter_congr fun rule member => ?_)
    refine decide_eq_decide.mpr ⟨fun enough => enough.trans candidates_length_le, fun enough => ?_⟩
    rw [candidates_eq_tracing_iff.mpr (only rule member context active enough).1]
    exact enough
  refine ⟨insights, generated, ?_, fun otherOrder other same => ?_⟩
  · rw [samePairs]
    exact generateInsights_eq_ok agree generated
  · exact Result.mapM_perm (same.restructurings order otherOrder rules) generated

theorem YieldsCompetitive.only (yields : YieldsCompetitive env tenantId order knowledge rules) :
    OnlyCandidatesCompete env knowledge rules := by
  obtain ⟨insights, generated, ⟨pairs, isPairs, restructure⟩, -⟩ := yields
  intro rule member context active enough
  -- The insight that the generator builds for the rule and the context.
  have job : knowledge.restructuring (rule, context) ∈ knowledge.restructurings order rules :=
    TenantKnowledge.restructurings_perm.mem_iff.mpr
      (List.mem_map.mpr ⟨_, mem_firingPairs.mpr ⟨member, active, enough⟩, rfl⟩)
  obtain ⟨insight, built⟩ := Result.mapM_returns generated job
  have inside : insight ∈ insights := (Result.mem_mapM generated).mpr ⟨_, job, built⟩
  obtain ⟨ofContext, ofAll⟩ := buildInsight_spec built
  obtain ⟨⟨otherRule, other⟩, otherIn, asked⟩ := Result.forall₂_right restructure inside
  obtain ⟨-, otherActive, -⟩ := mem_firingPairs.mp (isPairs.mem_iff.mp otherIn)
  obtain rfl : other = context :=
    TenantKnowledge.context_eq (List.mem_filter.mp otherActive).1 (List.mem_filter.mp active).1
      (asked.context.symm.trans ofContext)
  refine ⟨candidates_eq_tracing_iff.mp ?_, buildInsight_returns.mp ⟨insight, built⟩⟩
  have length : (knowledge.candidates other).length = (knowledge.tracing other).length := by
    have counted := asked.hypotheses.length_eq
    rw [ofAll] at counted
    simpa [TenantKnowledge.restructuring] using counted.symm
  exact List.filter_sublist.eq_of_length length

/-- **Insights for candidates**: the generator yields one insight for each rule and active context with enough
candidates exactly when every hypothesis that a rule is applied to is a candidate, and the rule's templates
take its facts. -/
theorem yieldsCompetitive_iff (env : InsightEnv) (tenantId : Uuid) (order : SetOrder)
    (knowledge : TenantKnowledge) (rules : List InsightRule) :
    YieldsCompetitive env tenantId order knowledge rules ↔ OnlyCandidatesCompete env knowledge rules :=
  ⟨YieldsCompetitive.only, yieldsCompetitive_of_only⟩

end Candidates

/-! ### A falsified hypothesis -/

theorem stripChars_ne_nil {text : List Char} {character : Char} (member : character ∈ text)
    (printed : isPySpace character = false) : stripChars text ≠ [] := by
  intro stripped
  have rest : text.dropWhile isPySpace ≠ [] := by
    intro blank
    rw [List.dropWhile_eq_nil_iff.mp blank character member] at printed
    cases printed
  have spaces := List.dropWhile_eq_nil_iff.mp (List.reverse_eq_nil_iff.mp stripped)
  have space := spaces _ (List.mem_reverse.mpr (List.head_mem rest))
  cases space.symm.trans (List.head_dropWhile_not isPySpace rest)

/-- The rule of the library. -/
def competitiveFrame : InsightRule where
  ruleId := "competitive_frame_v1"
  name := "Competitive frame resolution"
  minHypotheses := 2
  descriptionTemplate :=
    "El marco actual mantiene {n} hipótesis candidatas en competencia " ++
      "sobre el scope {scope} (contexto {context_id}): la explicación no " ++
      "ha convergido prematuramente en una única causa. La organización " ++
      "del conocimiento se reestructura tratando esas {n} explicaciones " ++
      "como interpretaciones alternativas de una misma desviación " ++
      "observada (anomalías {anomaly_ids}) en lugar de problemas " ++
      "independientes."
  priorUnderstandingTemplate :=
    "Comprensión previa: {n} hipótesis tratadas de forma independiente " ++
      "sobre el scope {scope} - {descriptions}"
  frame := "single-deviation-multi-explanation"
  competitive := Nat.le_refl 2
  described := by
    have first : 'E' ∈ "El marco actual mantiene {n} hipótesis candidatas en competencia ".toList := by
      decide
    refine stripChars_ne_nil ?_ (show isPySpace 'E' = false by decide)
    simp only [String.toList_append, List.mem_append, first, true_or]
  understood := by decide
  framed := by decide

/-- `INSIGHT_RULE_LIBRARY`. -/
def insightRuleLibrary : List InsightRule :=
  [competitiveFrame]

/-- A hypothesis about the first anomaly, with a status. -/
def rivalHypothesis (id : Uuid) (status : String) : Hypothesis where
  id
  tenantId := 1
  anomalyIds := [1]
  patternIds := []
  description := "the service leaks memory"
  predictedConsequences := ["memory grows"]
  falsificationCriterion := "usage drops"
  coherenceScore := ⟨1, one_isUnit⟩
  status
  generatedAt := 0

/-- Two hypotheses about an anomaly of one active context; the second one was falsified. -/
def oneFalsified : TenantKnowledge where
  hypotheses := [rivalHypothesis 1 "candidate", rivalHypothesis 2 "falsified"]
  anomalies := [{
    id := 1
    tenantId := 1
    contextId := 1
    patternId := 1
    deviationScore := 2
    toleranceThreshold := 1
    anomalyClass := "point"
    detectedAt := 0 }]
  contexts := [{
    id := 1
    tenantId := 1
    evidenceIds := []
    mentalModelId := "resource_pressure"
    purpose := "infrastructure_health"
    coherenceScore := ⟨1, one_isUnit⟩
    competingModels := []
    activatedAt := 0
    isActive := true }]
  hypothesesKeyed := by decide
  anomaliesKeyed := by decide
  contextsKeyed := by decide

/-- **A falsified hypothesis counts**: the rule of the library restructures it with the only candidate. -/
theorem falsified_hypothesis_counts :
    ¬YieldsCompetitive ⟨fun template _ => .ok template, 0⟩ 1 ⟨List.dedup, fun _ => .refl _⟩ oneFalsified
      insightRuleLibrary := by
  intro yields
  have all := (yields.only competitiveFrame List.mem_cons_self (oneFalsified.contexts.head (by decide))
    (by decide) (by decide)).1
  exact absurd (all (rivalHypothesis 2 "falsified") (by decide)) (by decide)

end CosMonitor
