/-
**The context service — one competition, and the context that it leaves active.**

`_activate` runs the competition of a purpose over the evidence of a tenant and saves the context of the
winner. A competition with evidence and a compatible model has a winner, also when no model explains any
of the evidence: its score is zero then, and its context supersedes the active one all the same.

* `winner_positive_iff`: the winner explains some evidence exactly when a compatible model does;
* `winner_unexplained`: otherwise the smallest id among the compatible models wins, with score zero;
* `activate_eq_none_iff`: no context without evidence or without a compatible model, and only then;
* `activateContext_supersedes`: what an activation leaves active in its tenant and purpose;
* `activation_winner`: these together, for one call of `_activate`.
-/

import CosMonitor.Foundation.Result
import CosMonitor.Perception.Competition

namespace CosMonitor

open Sorting Table

/-! ### Explained evidence -/

/-- The model explains an item of the evidence that carries weight. -/
def Explains (model : MentalModel) (evidence : List Evidence) : Prop :=
  ∃ item ∈ evidence, item.organizationType ∈ model.explains ∧ 0 < item.weight.val

instance (model : MentalModel) (evidence : List Evidence) : Decidable (Explains model evidence) :=
  inferInstanceAs (Decidable (∃ item ∈ evidence, _))

section Explained

variable {evidence : List Evidence} {purpose : String} {models : List MentalModel}
  {model : MentalModel} {competition : CompetitionResult}

theorem sum_weights_pos_iff (items : List Evidence) :
    0 < (items.map fun item => item.weight.val).sum ↔ ∃ item ∈ items, 0 < item.weight.val := by
  induction items with
  | nil => simp
  | cons item rest ih =>
      have whole := totalWeight_nonneg rest
      unfold totalWeight at whole
      have nonneg := item.weight.property.1
      rw [List.map_cons, List.sum_cons, List.exists_mem_cons_iff, ← ih]
      constructor
      · intro positive
        by_contra! neither
        linarith [neither.1, neither.2]
      · rintro (head | tail)
        · linarith
        · linarith

/-- **A model is coherent with a batch exactly when it explains some of it.** -/
theorem coherence_pos_iff (model : MentalModel) (evidence : List Evidence) :
    0 < coherence model evidence ↔ Explains model evidence := by
  have explained : 0 < ((evidence.filter fun item => item.organizationType ∈ model.explains).map
      fun item => item.weight.val).sum ↔ Explains model evidence := by
    rw [sum_weights_pos_iff]
    simp only [List.mem_filter, decide_eq_true_eq, Explains, and_assoc]
  rw [← explained]
  unfold coherence
  constructor
  · intro positive
    by_contra nothing
    have none : ((evidence.filter fun item => item.organizationType ∈ model.explains).map
        fun item => item.weight.val).sum ≤ 0 := not_lt.mp nothing
    exact absurd positive (not_lt.mpr (div_nonpos_of_nonpos_of_nonneg none
      (totalWeight_nonneg evidence)))
  · intro positive
    refine div_pos positive ((sum_weights_pos_iff evidence).mpr ?_)
    obtain ⟨item, member, -, weighs⟩ := explained.mp positive
    exact ⟨item, member, weighs⟩

theorem mem_candidates_iff (competed : compete evidence purpose models = some competition)
    (score : ModelScore) :
    score ∈ competition.candidates ↔ ∃ model ∈ models, purpose ∈ model.purposes ∧
      scoreModel model (weightsByType evidence) (totalWeight evidence) = score := by
  rw [(compete_candidates competed).1, rankedScores, mem_sortBy, List.mem_map]
  simp only [List.mem_filter, decide_eq_true_eq, and_assoc]

/-- **The winner explains some evidence exactly when a compatible model does.** -/
theorem winner_positive_iff (competed : compete evidence purpose models = some competition) :
    0 < competition.winner.coherenceScore ↔
      ∃ model ∈ models, purpose ∈ model.purposes ∧ Explains model evidence := by
  obtain ⟨won, strongest⟩ := winner_strongest competed
  constructor
  · intro positive
    obtain ⟨model, member, serves, scored⟩ := (mem_candidates_iff competed _).mp won
    rw [← scored, scoreModel_coherence, coherence_pos_iff] at positive
    exact ⟨model, member, serves, positive⟩
  · rintro ⟨model, member, serves, explains⟩
    have below := strongest _ ((mem_candidates_iff competed _).mpr ⟨model, member, serves, rfl⟩)
    rw [scoreModel_coherence] at below
    exact lt_of_lt_of_le ((coherence_pos_iff model evidence).mpr explains) below

/-- **Without explained evidence the smallest id wins**, with score zero. -/
theorem winner_unexplained (competed : compete evidence purpose models = some competition)
    (unexplained : ¬∃ model ∈ models, purpose ∈ model.purposes ∧ Explains model evidence) :
    competition.winner.coherenceScore = 0 ∧
      ∀ model ∈ models, purpose ∈ model.purposes →
        competition.winner.mentalModelId ≤ model.modelId := by
  have zero : competition.winner.coherenceScore = 0 := le_antisymm
    (not_lt.mp fun positive => unexplained ((winner_positive_iff competed).mp positive))
    (winner_unit competed).1
  refine ⟨zero, fun model member serves => ?_⟩
  obtain ⟨listed, others, headed⟩ := compete_candidates competed
  have candidate := (mem_candidates_iff competed _).mpr ⟨model, member, serves, rfl⟩
  have noScore : (scoreModel model (weightsByType evidence) (totalWeight evidence)).coherenceScore =
      0 := by
    rw [scoreModel_coherence]
    refine le_antisymm (not_lt.mp fun positive => ?_) ?_
    · exact unexplained ⟨model, member, serves, (coherence_pos_iff model evidence).mp positive⟩
    · rw [← scoreModel_coherence]
      exact (scoreModel_unit model evidence).1
  have sorted := pairwise_sortBy competitionKey ((models.filter fun model =>
    purpose ∈ model.purposes).map fun model =>
      scoreModel model (weightsByType evidence) (totalWeight evidence))
  change (rankedScores evidence purpose models).Pairwise _ at sorted
  rw [← listed, headed] at sorted
  rw [headed] at candidate
  rcases List.mem_cons.mp candidate with first | later
  · rw [← first]
    exact le_rfl
  · rcases Prod.Lex.toLex_le_toLex.mp (List.rel_of_pairwise_cons sorted later) with below | ⟨-, smaller⟩
    · rw [zero, noScore] at below
      exact absurd below (lt_irrefl _)
    · exact smaller

/-- **No context exactly without evidence or without a compatible model.** -/
theorem activate_eq_none_iff :
    activate models evidence purpose = none ↔
      evidence = [] ∨ ∀ model ∈ models, purpose ∉ model.purposes := by
  constructor
  · intro missing
    by_contra! possible
    obtain ⟨present, compatible⟩ := possible
    obtain ⟨winner, others, -, competed⟩ := compete_outcome present compatible
    obtain ⟨create, created, -⟩ := activate_of_compete competed present
    rw [missing] at created
    cases created
  · intro impossible
    have missing : compete evidence purpose models = none := by
      unfold compete
      rcases impossible with rfl | incompatible
      · rw [if_pos rfl]
      · have nobody : (models.filter fun model => purpose ∈ model.purposes) = [] :=
          List.filter_eq_nil_iff.mpr fun model member => by simpa using incompatible model member
        split
        · rfl
        · simp [rankedScores, nobody, sortBy]
    unfold activate
    split
    · rfl
    · rename_i competition competed
      rw [missing] at competed
      cases competed

end Explained

/-! ### The service -/

/-- What a service is started with: its engine's models and the rows of `tenants`. -/
structure ContextEnv where
  std : Stdlib
  dumps : Json → String
  tenants : List Uuid
  models : List MentalModel

/-- The counters of a service, and the table of its store. -/
structure ContextService where
  table : ContextTable
  contextsActivated : Nat
  contextsDuplicates : Nat
  errors : Nat
  byMentalModel : String → Nat
  byPurpose : String → Nat

/-- `_activate`: run one competition and persist the selected context. -/
def activateContext (env : ContextEnv) (tenantId : Uuid) (evidence : List Evidence) (purpose : String)
    (now : Timestamp) (service : ContextService) : Except DbError ContextService :=
  match activate env.models evidence purpose with
  | none => .ok service
  | some create =>
      if create.tenantId ≠ tenantId then .ok service
      else
        let context := buildContext env.std env.dumps now create
        match saveContext env.tenants context service.table with
        | .error failure => .error failure
        | .ok (some _, table) => .ok { service with
            table
            contextsActivated := service.contextsActivated + 1
            byMentalModel := Function.update service.byMentalModel context.mentalModelId
              (service.byMentalModel context.mentalModelId + 1)
            byPurpose := Function.update service.byPurpose context.purpose
              (service.byPurpose context.purpose + 1) }
        | .ok (none, table) => .ok { service with
            table
            contextsDuplicates := service.contextsDuplicates + 1 }

section Service

variable {env : ContextEnv} {tenantId : Uuid} {evidence : List Evidence} {purpose : String}
  {now : Timestamp} {service after : ContextService} {create : ContextCreate}

theorem activate_scope (activated : activate env.models evidence purpose = some create) :
    create.purpose = purpose ∧ evidence.head?.map Evidence.tenantId = some create.tenantId := by
  unfold activate at activated
  split at activated
  · cases activated
  · obtain ⟨first, head, built⟩ := Option.bind_eq_some_iff.mp activated
    obtain rfl := Option.some.inj built
    exact ⟨rfl, by rw [head]; rfl⟩

theorem activateContext_saved (activated : activate env.models evidence purpose = some create)
    (own : create.tenantId = tenantId)
    (returned : activateContext env tenantId evidence purpose now service = .ok after) :
    ∃ row, saveContext env.tenants (buildContext env.std env.dumps now create) service.table =
      .ok (row, after.table) := by
  unfold activateContext at returned
  rw [activated] at returned
  simp only [own, ne_eq, not_true_eq_false, if_false] at returned
  split at returned
  · cases returned
  · rename_i row table saved
    cases returned
    exact ⟨some row, saved⟩
  · rename_i table saved
    cases returned
    exact ⟨none, saved⟩

/-- **What is active after an activation**: in its tenant and purpose only the activated context. -/
theorem activateContext_supersedes
    (activated : activate env.models evidence purpose = some create) (own : create.tenantId = tenantId)
    (returned : activateContext env tenantId evidence purpose now service = .ok after) :
    ∀ row ∈ after.table.rows, row.group = (tenantId, purpose) → row.isActive = true →
      row.id = contextId env.std env.dumps create := by
  obtain ⟨result, saved⟩ := activateContext_saved activated own returned
  obtain ⟨samePurpose, -⟩ := activate_scope activated
  have active : (buildContext env.std env.dumps now create).isActive = true := rfl
  have group : (buildContext env.std env.dumps now create).group = (tenantId, purpose) := by
    rw [← own, ← samePurpose]
    rfl
  have named : (buildContext env.std env.dumps now create).id =
      contextId env.std env.dumps create := rfl
  generalize buildContext env.std env.dumps now create = context at saved active group named
  rw [← group, ← named]
  intro row member sameGroup isActive
  unfold saveContext at saved
  rw [if_pos active] at saved
  rcases insertContext_cases saved with ⟨-, same, -⟩ | ⟨stored, -, toRow, rows, -, -⟩
  · rw [same] at member
    exact deactivateContext_remaining member isActive sameGroup
  · rw [rows] at member
    rcases List.mem_append.mp member with old | new
    · exact deactivateContext_remaining old isActive sameGroup
    · rw [List.mem_singleton.mp new]
      exact (Context.toRow_spec toRow).1

/-- **A context of a new identity** is stored as active, and what was active in its tenant and purpose is not any
more. -/
theorem activateContext_inserted
    (activated : activate env.models evidence purpose = some create) (own : create.tenantId = tenantId)
    (returned : activateContext env tenantId evidence purpose now service = .ok after)
    (unsaved : Unsaved service.table (contextId env.std env.dumps create)) :
    ∃ row, (buildContext env.std env.dumps now create).toRow = .ok row ∧ row.isActive = true ∧
      after.table.rows = updateWhere
        (ContextTable.deactivates tenantId purpose (contextId env.std env.dumps create))
        Context.deactivated service.table.rows ++ [row] := by
  obtain ⟨result, saved⟩ := activateContext_saved activated own returned
  obtain ⟨samePurpose, -⟩ := activate_scope activated
  unfold saveContext at saved
  rw [if_pos (show (buildContext env.std env.dumps now create).isActive = true from rfl)] at saved
  rcases insertContext_cases saved with ⟨-, -, stored⟩ | ⟨row, -, toRow, rows, -, -⟩
  · exact absurd (deactivateContext_unsaved.mpr unsaved) stored
  · refine ⟨row, toRow, (Context.toRow_spec toRow).2.2.1, ?_⟩
    rw [rows, ← own, ← samePurpose]
    rfl

/-- **One call of `_activate`.** Without evidence, without a compatible model or for the evidence of
another tenant nothing changes. Otherwise the context of the winner is saved: under a new identity it is
stored as active and supersedes what was active, and no other context of its tenant and purpose is active
after the call. The winner explains some of the evidence exactly when a compatible model does, and scores zero
with the smallest id when none does. -/
theorem activation_winner (env : ContextEnv) (tenantId : Uuid) (evidence : List Evidence)
    (purpose : String) (now : Timestamp) (service after : ContextService)
    (returned : activateContext env tenantId evidence purpose now service = .ok after) :
    ((evidence = [] ∨ (∀ model ∈ env.models, purpose ∉ model.purposes) ∨
        evidence.head?.map Evidence.tenantId ≠ some tenantId) → after = service) ∧
      (evidence.head?.map Evidence.tenantId = some tenantId →
        (∃ model ∈ env.models, purpose ∈ model.purposes) →
          ∃ competition create, compete evidence purpose env.models = some competition ∧
            activate env.models evidence purpose = some create ∧
            create.mentalModelId = competition.winner.mentalModelId ∧
            (0 < competition.winner.coherenceScore ↔
              ∃ model ∈ env.models, purpose ∈ model.purposes ∧ Explains model evidence) ∧
            ((¬∃ model ∈ env.models, purpose ∈ model.purposes ∧ Explains model evidence) →
              competition.winner.coherenceScore = 0 ∧
                ∀ model ∈ env.models, purpose ∈ model.purposes →
                  competition.winner.mentalModelId ≤ model.modelId) ∧
            (Unsaved service.table (contextId env.std env.dumps create) →
              ∃ row, (buildContext env.std env.dumps now create).toRow = .ok row ∧ row.isActive = true ∧
                after.table.rows = updateWhere
                  (ContextTable.deactivates tenantId purpose (contextId env.std env.dumps create))
                  Context.deactivated service.table.rows ++ [row]) ∧
            ∀ row ∈ after.table.rows, row.group = (tenantId, purpose) → row.isActive = true →
              row.id = contextId env.std env.dumps create) := by
  constructor
  · intro nothing
    cases activated : activate env.models evidence purpose with
    | none =>
        unfold activateContext at returned
        rw [activated] at returned
        exact (Except.ok.inj returned).symm
    | some create =>
        have foreign : create.tenantId ≠ tenantId := by
          rintro rfl
          rcases nothing with missing | incompatible | foreign
          · rw [activate_eq_none_iff.mpr (.inl missing)] at activated
            cases activated
          · rw [activate_eq_none_iff.mpr (.inr incompatible)] at activated
            cases activated
          · exact foreign (activate_scope activated).2
        unfold activateContext at returned
        rw [activated] at returned
        simp only [ne_eq, foreign, not_false_eq_true, if_true] at returned
        exact (Except.ok.inj returned).symm
  · intro headed compatible
    have present : evidence ≠ [] := by
      rintro rfl
      cases headed
    obtain ⟨winner, others, -, competed⟩ := compete_outcome present compatible
    obtain ⟨create, activated, model, -⟩ := activate_of_compete competed present
    have own : create.tenantId = tenantId :=
      Option.some.inj ((activate_scope activated).2.symm.trans headed)
    exact ⟨_, create, competed, activated, model, winner_positive_iff competed,
      winner_unexplained competed, activateContext_inserted activated own returned,
      activateContext_supersedes activated own returned⟩

end Service

/-! ### Evidence that no model explains -/

/-- A service of tenant 1 with the models of the catalogue. -/
def catalogEnv : ContextEnv where
  std := countingStd
  dumps := fun _ => ""
  tenants := [1]
  models := mentalModelCatalog

/-- The service before its first call. -/
def idleService : ContextService where
  table := ContextTable.empty
  contextsActivated := 0
  contextsDuplicates := 0
  errors := 0
  byMentalModel := fun _ => 0
  byPurpose := fun _ => 0

/-- The security posture, activated for one evidence. -/
def activatePosture (evidence : Evidence) (now : Timestamp) (service : ContextService) :
    Option ContextService :=
  (activateContext catalogEnv 1 [evidence] "security_posture" now service).toOption

/-- The model, the score and the flag of every stored context. -/
def storedContexts (service : ContextService) : List (String × ℚ × Bool) :=
  service.table.rows.map fun row => (row.mentalModelId, row.coherenceScore.val, row.isActive)

/-- A network anomaly: no model of the security posture explains it, and the winner, with a score of zero, is
the first active context. -/
theorem activation_winner_network :
    ∃ after, activateContext catalogEnv 1 [wholeEvidence 2 "network_anomaly_evidence"]
        "security_posture" 1 idleService = .ok after ∧
      (∃ competition, compete [wholeEvidence 2 "network_anomaly_evidence"] "security_posture"
          mentalModelCatalog = some competition ∧
        competition.winner.coherenceScore = 0) ∧
      ∃ row, row.isActive = true ∧ after.table.rows = [row] := by
  obtain ⟨after, ran⟩ := Option.isSome_iff_exists.mp
    (show (activatePosture (wholeEvidence 2 "network_anomaly_evidence") 1 idleService).isSome = true
      by decide +kernel)
  have returned := Result.toOption_eq_some ran
  obtain ⟨competition, _, competed, -, -, -, unexplained, inserted, -⟩ :=
    (activation_winner catalogEnv 1 [wholeEvidence 2 "network_anomaly_evidence"] "security_posture" 1
      idleService after returned).2 rfl (by decide +kernel)
  obtain ⟨row, -, isActive, rows⟩ := inserted (List.forall_mem_nil _)
  exact ⟨after, returned, ⟨competition, competed, (unexplained (by decide +kernel)).1⟩, row, isActive, rows⟩

/-- An account lockout activates `auth_compromise`. A network anomaly, which no model of the security
posture explains, then activates it again with score zero and leaves the first context inactive. -/
theorem unexplained_evidence_supersedes :
    (∀ model ∈ mentalModelCatalog, "security_posture" ∈ model.purposes →
      ¬Explains model [wholeEvidence 2 "network_anomaly_evidence"]) ∧
      (activatePosture (wholeEvidence 1 "auth_anomaly_evidence") 0 idleService).map storedContexts =
        some [("auth_compromise", 1, true)] ∧
      ((activatePosture (wholeEvidence 1 "auth_anomaly_evidence") 0 idleService).bind
        (activatePosture (wholeEvidence 2 "network_anomaly_evidence") 1)).map storedContexts =
          some [("auth_compromise", 1, false), ("auth_compromise", 0, true)] :=
  ⟨List.forall_iff_forall_mem.mp (by decide +kernel), by decide +kernel, by decide +kernel⟩

end CosMonitor
