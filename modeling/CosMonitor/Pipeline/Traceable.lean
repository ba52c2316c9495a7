/-
**What a row of the cognitive tables refers to.**

`Traceable` is the invariant of the tables: every row names rows of the layer below, of its own tenant.
Evidence names stored observations, a context its evidence, a pattern and an anomaly their contexts, a
hypothesis one anomaly with its pattern, an insight several hypotheses about its own context.

* `EvidenceTraced` … `InsightTraced`: what is asked of one row; each stays true in the tables above;
* `Traceable`: of every row;
* `saveObservation_leads` … `saveInsight_leads`: a save of a traced row leads up and keeps the invariant,
  whether it stores the row, skips it or raises.
-/

import CosMonitor.Collector.Delivery
import CosMonitor.Pipeline.Knowledge

namespace CosMonitor

open Table Result

namespace Knowledge

/-! ### One row -/

section Rows

variable (knowledge : Knowledge)

/-- The evidence organises stored observations. -/
def EvidenceTraced (evidence : Evidence) : Prop :=
  evidence.observationIds ≠ [] ∧
    ∀ id ∈ evidence.observationIds, ∃ observation ∈ knowledge.observations, observation.id = id

/-- The context was chosen over stored evidence of its tenant. -/
def ContextTraced (context : Context) : Prop :=
  context.evidenceIds ≠ [] ∧
    ∀ id ∈ context.evidenceIds, ∃ evidence ∈ knowledge.evidence,
      evidence.id = id ∧ evidence.tenantId = context.tenantId

/-- A context of a tenant is stored under an id, with a scope. -/
def Anchored (tenantId contextId : Uuid) (scope : String × String) : Prop :=
  ∃ context ∈ knowledge.contexts.rows,
    context.id = contextId ∧ context.tenantId = tenantId ∧ context.scope = scope

/-- The pattern is anchored in a context of its tenant. -/
def PatternTraced (pattern : PatternRecord) : Prop :=
  ∃ scope, knowledge.Anchored pattern.tenantId pattern.contextId scope

/-- The anomaly is about a context and a pattern of its tenant, and the pattern is about the scope of the
context. -/
def AnomalyTraced (anomaly : Anomaly) : Prop :=
  ∃ pattern ∈ knowledge.patterns, pattern.id = anomaly.patternId ∧ pattern.tenantId = anomaly.tenantId ∧
    ∃ scope, knowledge.Anchored anomaly.tenantId anomaly.contextId scope ∧
      knowledge.Anchored anomaly.tenantId pattern.contextId scope

/-- The hypothesis explains one anomaly of its tenant, with the pattern that the anomaly deviates from. -/
def HypothesisTraced (hypothesis : Hypothesis) : Prop :=
  hypothesis.predictedConsequences ≠ [] ∧ ∃ anomaly ∈ knowledge.anomalies,
    anomaly.tenantId = hypothesis.tenantId ∧ hypothesis.anomalyIds = [anomaly.id] ∧
      hypothesis.patternIds = [anomaly.patternId]

/-- A hypothesis of a tenant is stored under an id, about a context. -/
def Explains (tenantId contextId id : Uuid) : Prop :=
  ∃ hypothesis ∈ knowledge.hypotheses, hypothesis.id = id ∧ hypothesis.tenantId = tenantId ∧
    ∃ anomaly ∈ knowledge.anomalies, anomaly.id ∈ hypothesis.anomalyIds ∧ anomaly.contextId = contextId

/-- The insight restructures several hypotheses of its tenant, all of them about its context. -/
def InsightTraced (insight : InsightRecord) : Prop :=
  2 ≤ insight.hypothesisIds.length ∧ insight.hypothesisIds.Nodup ∧
    (∃ scope, knowledge.Anchored insight.tenantId insight.contextId scope) ∧
    ∀ id ∈ insight.hypothesisIds, knowledge.Explains insight.tenantId insight.contextId id

/-- **Every row is traced.** -/
structure Traceable : Prop where
  evidence : ∀ row ∈ knowledge.evidence, knowledge.EvidenceTraced row
  contexts : ∀ row ∈ knowledge.contexts.rows, knowledge.ContextTraced row
  patterns : ∀ row ∈ knowledge.patterns, knowledge.PatternTraced row
  anomalies : ∀ row ∈ knowledge.anomalies, knowledge.AnomalyTraced row
  hypotheses : ∀ row ∈ knowledge.hypotheses, knowledge.HypothesisTraced row
  insights : ∀ row ∈ knowledge.insights, knowledge.InsightTraced row

end Rows

/-! ### In the tables above -/

section Above

variable {before after : Knowledge} (grown : before ≤ after)

include grown

theorem EvidenceTraced.mono {evidence : Evidence} (traced : before.EvidenceTraced evidence) :
    after.EvidenceTraced evidence := by
  refine ⟨traced.1, fun id member => ?_⟩
  obtain ⟨observation, stored, same⟩ := traced.2 id member
  exact ⟨observation, grown.observations.subset stored, same⟩

theorem ContextTraced.mono {context : Context} (traced : before.ContextTraced context) :
    after.ContextTraced context := by
  refine ⟨traced.1, fun id member => ?_⟩
  obtain ⟨evidence, stored, same⟩ := traced.2 id member
  exact ⟨evidence, grown.evidence.subset stored, same⟩

theorem Anchored.mono {tenantId contextId : Uuid} {scope : String × String}
    (anchored : before.Anchored tenantId contextId scope) : after.Anchored tenantId contextId scope := by
  obtain ⟨context, stored, sameId, sameTenant, sameScope⟩ := anchored
  obtain ⟨row, rowIn, same⟩ := grown.context stored
  refine ⟨row, rowIn, ?_, ?_, ?_⟩
  · rw [Context.field_eq same Context.id fun _ => rfl, sameId]
  · rw [Context.field_eq same Context.tenantId fun _ => rfl, sameTenant]
  · rw [Context.field_eq same Context.scope fun _ => rfl, sameScope]

theorem PatternTraced.mono {pattern : PatternRecord} (traced : before.PatternTraced pattern) :
    after.PatternTraced pattern := by
  obtain ⟨scope, anchored⟩ := traced
  exact ⟨scope, anchored.mono grown⟩

theorem AnomalyTraced.mono {anomaly : Anomaly} (traced : before.AnomalyTraced anomaly) :
    after.AnomalyTraced anomaly := by
  obtain ⟨pattern, stored, sameId, sameTenant, scope, own, expected⟩ := traced
  exact ⟨pattern, grown.patterns.subset stored, sameId, sameTenant, scope, own.mono grown,
    expected.mono grown⟩

theorem HypothesisTraced.mono {hypothesis : Hypothesis} (traced : before.HypothesisTraced hypothesis) :
    after.HypothesisTraced hypothesis := by
  obtain ⟨predicts, anomaly, stored, explained⟩ := traced
  exact ⟨predicts, anomaly, grown.anomalies.subset stored, explained⟩

theorem Explains.mono_of_hypothesis {tenantId contextId : Uuid} {hypothesis : Hypothesis} {anomaly : Anomaly}
    (stored : hypothesis ∈ before.hypotheses) (ofTenant : hypothesis.tenantId = tenantId)
    (anomalyIn : anomaly ∈ after.anomalies) (accounts : anomaly.id ∈ hypothesis.anomalyIds)
    (about : anomaly.contextId = contextId) : after.Explains tenantId contextId hypothesis.id := by
  obtain ⟨row, rowIn, same⟩ := grown.hypothesis stored
  refine ⟨row, rowIn, ?_, ?_, anomaly, anomalyIn, ?_, about⟩
  · exact Hypothesis.field_eq same Hypothesis.id fun _ => rfl
  · rw [Hypothesis.field_eq same Hypothesis.tenantId fun _ => rfl, ofTenant]
  · rw [Hypothesis.field_eq same Hypothesis.anomalyIds fun _ => rfl]
    exact accounts

theorem Explains.mono {tenantId contextId id : Uuid} (explains : before.Explains tenantId contextId id) :
    after.Explains tenantId contextId id := by
  obtain ⟨hypothesis, stored, rfl, ofTenant, anomaly, anomalyIn, accounts, about⟩ := explains
  exact mono_of_hypothesis grown stored ofTenant (grown.anomalies.subset anomalyIn) accounts about

theorem InsightTraced.mono {insight : InsightRecord} (traced : before.InsightTraced insight) :
    after.InsightTraced insight := by
  obtain ⟨several, distinct, ⟨scope, anchored⟩, explained⟩ := traced
  exact ⟨several, distinct, ⟨scope, anchored.mono grown⟩, fun id member => (explained id member).mono grown⟩

end Above

/-! ### Saves -/

/-- Every row of the tables was there before, with another flag or status perhaps, or it is traced. -/
structure Traced (before after : Knowledge) : Prop where
  evidence : ∀ row ∈ after.evidence, row ∈ before.evidence ∨ before.EvidenceTraced row
  contexts : ∀ row ∈ after.contexts.rows,
    (∃ old ∈ before.contexts.rows, row.deactivated = old.deactivated) ∨ before.ContextTraced row
  patterns : ∀ row ∈ after.patterns, row ∈ before.patterns ∨ before.PatternTraced row
  anomalies : ∀ row ∈ after.anomalies, row ∈ before.anomalies ∨ before.AnomalyTraced row
  hypotheses : ∀ row ∈ after.hypotheses,
    (∃ old ∈ before.hypotheses, row.unjudged = old.unjudged) ∨ before.HypothesisTraced row
  insights : ∀ row ∈ after.insights, row ∈ before.insights ∨ before.InsightTraced row

theorem Traced.refl (knowledge : Knowledge) : knowledge.Traced knowledge where
  evidence _ member := .inl member
  contexts row member := .inl ⟨row, member, rfl⟩
  patterns _ member := .inl member
  anomalies _ member := .inl member
  hypotheses row member := .inl ⟨row, member, rfl⟩
  insights _ member := .inl member

section Saves

variable {before after knowledge : Knowledge} {tenants : List Uuid}

theorem ContextTraced.of_deactivated {row old : Context} (same : row.deactivated = old.deactivated)
    (traced : before.ContextTraced old) : before.ContextTraced row := by
  unfold ContextTraced
  rw [Context.field_eq same Context.evidenceIds fun _ => rfl,
    Context.field_eq same Context.tenantId fun _ => rfl]
  exact traced

theorem HypothesisTraced.of_unjudged {row old : Hypothesis} (same : row.unjudged = old.unjudged)
    (traced : before.HypothesisTraced old) : before.HypothesisTraced row := by
  unfold HypothesisTraced
  rw [Hypothesis.field_eq same Hypothesis.predictedConsequences fun _ => rfl,
    Hypothesis.field_eq same Hypothesis.tenantId fun _ => rfl,
    Hypothesis.field_eq same Hypothesis.anomalyIds fun _ => rfl,
    Hypothesis.field_eq same Hypothesis.patternIds fun _ => rfl]
  exact traced

/-- **Traced rows are traced in the tables above.** -/
theorem Traceable.extend (traceable : before.Traceable) (grown : before ≤ after)
    (traced : before.Traced after) : after.Traceable where
  evidence row member := by
    rcases traced.evidence row member with old | new
    · exact (traceable.evidence row old).mono grown
    · exact new.mono grown
  contexts row member := by
    rcases traced.contexts row member with ⟨old, oldIn, same⟩ | new
    · exact ((traceable.contexts old oldIn).of_deactivated same).mono grown
    · exact new.mono grown
  patterns row member := by
    rcases traced.patterns row member with old | new
    · exact (traceable.patterns row old).mono grown
    · exact new.mono grown
  anomalies row member := by
    rcases traced.anomalies row member with old | new
    · exact (traceable.anomalies row old).mono grown
    · exact new.mono grown
  hypotheses row member := by
    rcases traced.hypotheses row member with ⟨old, oldIn, same⟩ | new
    · exact ((traceable.hypotheses old oldIn).of_unjudged same).mono grown
    · exact new.mono grown
  insights row member := by
    rcases traced.insights row member with old | new
    · exact (traceable.insights row old).mono grown
    · exact new.mono grown

/-- What a save does to tables that are traced: it leads up to traced tables. -/
def Leads (before after : Knowledge) : Prop :=
  before ≤ after ∧ after.Traceable

theorem Traceable.leads (traceable : before.Traceable) (grown : before ≤ after)
    (traced : before.Traced after) : before.Leads after :=
  ⟨grown, traceable.extend grown traced⟩

theorem Traceable.leads_self (traceable : knowledge.Traceable) : knowledge.Leads knowledge :=
  ⟨le_refl knowledge, traceable⟩

theorem saveObservation_leads (traceable : knowledge.Traceable) (observation : Observation) :
    knowledge.Leads (saveObservation tenants observation knowledge).2 ∧
      ∀ stored, (saveObservation tenants observation knowledge).1 = .ok stored →
        ∃ row ∈ (saveObservation tenants observation knowledge).2.observations,
          row.id = observation.id := by
  unfold saveObservation
  split
  · exact ⟨traceable.leads_self, nofun⟩
  · rename_i observations saved
    obtain ⟨row, sameKey, -, rfl⟩ := saveObservation_adds saved
    refine ⟨traceable.leads ?_ ?_, fun _ _ => ⟨row, ?_, congrArg Prod.fst sameKey⟩⟩
    · exact { Grown.refl knowledge with observations := List.prefix_append _ _ }
    · exact { Traced.refl knowledge with }
    · exact List.mem_append_right _ List.mem_cons_self

variable (tenants) in
theorem savePattern_leads (traceable : knowledge.Traceable) {pattern : PatternRecord}
    (traced : knowledge.PatternTraced pattern) :
    knowledge.Leads (savePattern tenants pattern knowledge).2 := by
  unfold savePattern
  dsimp only
  split
  · exact traceable.leads_self
  · rename_i stored patterns inserted
    rcases insertReferring_eq_ok inserted with ⟨-, rfl, -⟩ | ⟨-, row, assigned, -, fresh, rfl⟩
    · exact traceable.leads_self
    · obtain ⟨-, sameTenant, sameContext⟩ := PatternRecord.toRow_spec assigned
      refine traceable.leads ?_ ?_
      · exact { Grown.refl knowledge with patterns := List.prefix_append _ _ }
      · refine { Traced.refl knowledge with patterns := fun other member => ?_ }
        rcases List.mem_append.mp member with old | new
        · exact .inl old
        · right
          rw [List.mem_singleton.mp new]
          unfold PatternTraced
          rw [sameTenant, sameContext]
          exact traced

variable (tenants) in
theorem saveAnomaly_leads (traceable : knowledge.Traceable) {anomaly : Anomaly}
    (traced : knowledge.AnomalyTraced anomaly) :
    knowledge.Leads (saveAnomaly tenants anomaly knowledge).2 := by
  unfold saveAnomaly
  dsimp only
  split
  · exact traceable.leads_self
  · rename_i stored anomalies inserted
    rcases insertReferring_eq_ok inserted with ⟨-, rfl, -⟩ | ⟨-, row, assigned, -, fresh, rfl⟩
    · exact traceable.leads_self
    · obtain ⟨-, sameTenant, sameContext, samePattern⟩ := Anomaly.toRow_spec assigned
      refine traceable.leads ?_ ?_
      · exact { Grown.refl knowledge with anomalies := List.prefix_append _ _ }
      · refine { Traced.refl knowledge with anomalies := fun other member => ?_ }
        rcases List.mem_append.mp member with old | new
        · exact .inl old
        · right
          rw [List.mem_singleton.mp new]
          unfold AnomalyTraced
          rw [sameTenant, sameContext, samePattern]
          exact traced

variable (tenants) in
theorem saveHypothesis_leads (traceable : knowledge.Traceable) {hypothesis : Hypothesis}
    (traced : knowledge.HypothesisTraced hypothesis) :
    knowledge.Leads (saveHypothesis tenants hypothesis knowledge).2 := by
  unfold saveHypothesis
  dsimp only
  split
  · exact traceable.leads_self
  · rename_i stored hypotheses inserted
    rcases insertReferring_eq_ok inserted with ⟨-, rfl, -⟩ | ⟨-, row, assigned, -, fresh, rfl⟩
    · exact traceable.leads_self
    · obtain ⟨-, sameTenant, sameAnomalies, samePatterns, sameConsequences⟩ :=
        Hypothesis.toRow_spec assigned
      refine traceable.leads ?_ ?_
      · refine { Grown.refl knowledge with hypotheses := ?_ }
        rw [List.map_append]
        exact List.prefix_append _ _
      · refine { Traced.refl knowledge with hypotheses := fun other member => ?_ }
        rcases List.mem_append.mp member with old | new
        · exact .inl ⟨other, old, rfl⟩
        · right
          rw [List.mem_singleton.mp new]
          unfold HypothesisTraced
          rw [sameTenant, sameAnomalies, samePatterns, sameConsequences]
          exact traced

variable (tenants) in
theorem saveInsight_leads (traceable : knowledge.Traceable) {insight : InsightRecord}
    (traced : knowledge.InsightTraced insight) :
    knowledge.Leads (saveInsight tenants insight knowledge).2 := by
  unfold saveInsight
  dsimp only
  split
  · exact traceable.leads_self
  · rename_i stored insights inserted
    rcases insertReferring_eq_ok inserted with ⟨-, rfl, -⟩ | ⟨-, row, assigned, -, fresh, rfl⟩
    · exact traceable.leads_self
    · obtain ⟨-, sameTenant, sameContext, sameHypotheses⟩ := InsightRecord.toRow_spec assigned
      refine traceable.leads ?_ ?_
      · exact { Grown.refl knowledge with insights := List.prefix_append _ _ }
      · refine { Traced.refl knowledge with insights := fun other member => ?_ }
        rcases List.mem_append.mp member with old | new
        · exact .inl old
        · right
          rw [List.mem_singleton.mp new]
          unfold InsightTraced
          rw [sameTenant, sameContext, sameHypotheses]
          exact traced

variable (tenants) in
theorem saveEvidence_leads (traceable : knowledge.Traceable) {evidence : Evidence}
    (traced : knowledge.EvidenceTraced evidence) :
    knowledge.Leads (saveEvidence tenants evidence knowledge).2 := by
  unfold saveEvidence
  split
  · exact traceable.leads_self
  · rename_i rows inserted
    rcases insertEvidence_eq_ok inserted with rfl | ⟨fresh, rfl⟩
    · exact traceable.leads_self
    · refine traceable.leads ?_ ?_
      · exact { Grown.refl knowledge with evidence := List.prefix_append _ _ }
      · refine { Traced.refl knowledge with evidence := fun other member => ?_ }
        rcases List.mem_append.mp member with old | new
        · exact .inl old
        · right
          rw [List.mem_singleton.mp new]
          exact traced

theorem map_deactivated_updateWhere (selected : Context → Bool) (rows : List Context) :
    (updateWhere selected Context.deactivated rows).map Context.deactivated =
      rows.map Context.deactivated :=
  updateWhere_map Context.deactivated fun _ _ _ => rfl

variable (tenants) in
theorem saveContext_leads (traceable : knowledge.Traceable) {context : Context}
    (traced : knowledge.ContextTraced context) :
    knowledge.Leads (saveContext tenants context knowledge).2 := by
  unfold saveContext
  split
  · exact traceable.leads_self
  · rename_i stored contexts saved
    -- What the deactivation leaves: the same contexts, with other flags.
    obtain ⟨superseded, sameContent, saved⟩ : ∃ superseded : ContextTable,
        superseded.rows.map Context.deactivated = knowledge.contexts.rows.map Context.deactivated ∧
          superseded.insertContext tenants context = .ok (stored, contexts) := by
      unfold CosMonitor.saveContext at saved
      dsimp only at saved
      split at saved
      · exact ⟨_, map_deactivated_updateWhere _ _, saved⟩
      · exact ⟨_, rfl, saved⟩
    have known : ∀ row ∈ superseded.rows, ∃ old ∈ knowledge.contexts.rows,
        row.deactivated = old.deactivated := by
      intro row member
      have kept := List.mem_map_of_mem (f := Context.deactivated) member
      rw [sameContent] at kept
      obtain ⟨old, oldIn, same⟩ := List.mem_map.mp kept
      exact ⟨old, oldIn, same.symm⟩
    rcases insertContext_cases saved with ⟨-, rfl, -⟩ | ⟨row, -, assigned, added, -, -⟩
    · refine traceable.leads ?_ ?_
      · exact { Grown.refl knowledge with contexts := by rw [sameContent] }
      · exact { Traced.refl knowledge with contexts := fun row member => .inl (known row member) }
    · refine traceable.leads ?_ ?_
      · refine { Grown.refl knowledge with contexts := ?_ }
        dsimp only
        rw [added, List.map_append, sameContent]
        exact List.prefix_append _ _
      · refine { Traced.refl knowledge with contexts := fun other member => ?_ }
        dsimp only at member
        rw [added] at member
        rcases List.mem_append.mp member with old | new
        · exact .inl (known other old)
        · right
          rw [List.mem_singleton.mp new]
          unfold ContextTraced
          obtain ⟨-, sameTenant, -, -⟩ := Context.toRow_spec assigned
          rw [sameTenant, Context.toRow_evidenceIds assigned]
          exact traced

theorem map_unjudged_setStatus (tenantId hypothesisId : Uuid) (status : String) (rows : List Hypothesis) :
    (setStatus tenantId hypothesisId status rows).map Hypothesis.unjudged = rows.map Hypothesis.unjudged :=
  updateWhere_map Hypothesis.unjudged fun _ _ _ => rfl

theorem updateHypothesisStatus_leads (traceable : knowledge.Traceable) (tenantId hypothesisId : Uuid)
    (status : String) :
    knowledge.Leads (updateHypothesisStatus tenantId hypothesisId status knowledge).2 := by
  unfold updateHypothesisStatus
  split
  · have sameContent := map_unjudged_setStatus tenantId hypothesisId status knowledge.hypotheses
    refine traceable.leads ?_ ?_
    · exact { Grown.refl knowledge with hypotheses := by rw [sameContent] }
    · refine { Traced.refl knowledge with hypotheses := fun row member => .inl ?_ }
      have kept := List.mem_map_of_mem (f := Hypothesis.unjudged) member
      rw [sameContent] at kept
      obtain ⟨old, oldIn, same⟩ := List.mem_map.mp kept
      exact ⟨old, oldIn, same.symm⟩
  · exact traceable.leads_self

end Saves

end Knowledge

end CosMonitor
