/-
**Three routes that write outcomes.**

`DecisionReadStore.submit_outcomes`, `DecisionStore.update_outcomes` and
`LearningExecutionStore.submit_outcomes_with_revision` each build an update of the same columns.

* `gatewayRoute`, `decisionRoute`, `executionRoute`: the table that a route leaves where it accepts;
* `outcomeRoute_leaves`: a route that accepts leaves the submitted row;
* `outcome_routes_agree_iff`: they agree exactly when the outcomes of a decision that is there are not
  empty: only the gateway refuses an empty list.
-/

import CosMonitor.Action.DecisionStore
import CosMonitor.Gateway.SubmitOutcomes

set_option linter.unusedSectionVars false

namespace CosMonitor

/-- The columns of a decision that a route writes. -/
structure OutcomeColumns where
  actualOutcomes : Option (List Json)
  outcomeStatus : String
  executedAt : Option Timestamp
  deriving DecidableEq

/-- The columns of the row of a decision. -/
def outcomeColumns (tenantId decisionId : Uuid) (decisions : List Decision) : Option OutcomeColumns :=
  (findDecision tenantId decisionId decisions).map fun row =>
    { actualOutcomes := row.actualOutcomes
      outcomeStatus := row.outcomeStatus
      executedAt := row.executedAt }

section Routes

variable {Worker : Type} [DecidableEq Worker] [Fintype Worker]

/-- `DecisionReadStore.submit_outcomes`: the table after it, where it does not raise. -/
def gatewayRoute (tenantId decisionId : Uuid) (call : OutcomesCall) (state : LoopState Worker) :
    Option (List Decision) :=
  match submitOutcomes tenantId decisionId call none state with
  | (.ok _, next) => some next.decisions
  | (.error _, _) => none

/-- `DecisionStore.update_outcomes`: the table after it, where it returns a row. -/
def decisionRoute (tenantId decisionId : Uuid) (call : OutcomesCall) (state : LoopState Worker) :
    Option (List Decision) :=
  match DecisionStore.updateOutcomes decisionId tenantId
    ⟨some call.actualOutcomes, call.executedAt, none⟩ state.decisions with
  | (.ok (some _), decisions) => some decisions
  | (.ok none, _) | (.error _, _) => none

/-- `submit_outcomes_with_revision`: the table after it, where it does not raise. -/
def executionRoute (tenantId decisionId : Uuid) (call : OutcomesCall) (now : Timestamp) (fresh : Uuid)
    (state : LoopState Worker) : Option (List Decision) :=
  match submitOutcomesWithRevision tenantId decisionId call.actualOutcomes call.executedAt now fresh
    state with
  | .ok (_, next) => some next.decisions
  | .error _ => none

/-- The three routes. -/
def outcomeRoutes (tenantId decisionId : Uuid) (call : OutcomesCall) (now : Timestamp) (fresh : Uuid)
    (state : LoopState Worker) : List (Option (List Decision)) :=
  [gatewayRoute tenantId decisionId call state, decisionRoute tenantId decisionId call state,
    executionRoute tenantId decisionId call now fresh state]

/-- **The routes agree**: they accept alike, and leave the same columns in the row of the decision. -/
def OutcomeRoutesAgree (tenantId decisionId : Uuid) (call : OutcomesCall) (now : Timestamp)
    (fresh : Uuid) (state : LoopState Worker) : Prop :=
  ∀ first ∈ outcomeRoutes tenantId decisionId call now fresh state,
    ∀ second ∈ outcomeRoutes tenantId decisionId call now fresh state,
      first.map (outcomeColumns tenantId decisionId) = second.map (outcomeColumns tenantId decisionId)

/-! ### What a route leaves -/

/-- The driver binds the outcomes of a call. -/
def OutcomesCall.Storable (call : OutcomesCall) : Prop :=
  ∃ stored, jsonb (.arr call.actualOutcomes) = .ok stored

variable {tenantId decisionId : Uuid} {call : OutcomesCall} {now : Timestamp} {fresh : Uuid}
  {state : LoopState Worker} {table : List Decision}

theorem storable_cases (call : OutcomesCall) :
    (call.Storable ∧ ∃ stored, jsonb (.arr call.actualOutcomes) = .ok stored) ∨
      ¬call.Storable ∧ ∃ failure, jsonb (.arr call.actualOutcomes) = .error failure := by
  cases bound : jsonb (.arr call.actualOutcomes) with
  | error failure =>
      refine .inr ⟨?_, failure, rfl⟩
      rintro ⟨stored, accepted⟩
      cases bound.symm.trans accepted
  | ok stored => exact .inl ⟨⟨stored, bound⟩, stored, rfl⟩

/-- **The gateway accepts** outcomes that are not empty, of a decision that is there. -/
theorem gatewayRoute_eq_some :
    gatewayRoute tenantId decisionId call state = some table ↔
      (call.Storable ∧ (findDecision tenantId decisionId state.decisions).isSome ∧
        call.actualOutcomes ≠ []) ∧ table = updateOutcomes tenantId decisionId call state.decisions := by
  unfold gatewayRoute submitOutcomes
  by_cases empty : call.actualOutcomes = []
  · simp [empty]
  · rw [if_neg empty]
    cases found : findDecision tenantId decisionId state.decisions with
    | none => simp
    | some row =>
        rcases storable_cases call with ⟨storable, stored, bound⟩ | ⟨refused, failure, raised⟩
        · simp [bound, storable, empty, eq_comm]
        · simp [raised, refused]

theorem updateDecision_outcomes (decisions : List Decision) :
    updateDecision decisionId tenantId
        (OutcomesUpdate.apply ⟨some call.actualOutcomes, call.executedAt, none⟩) decisions =
      updateOutcomes tenantId decisionId call decisions := by
  unfold updateDecision updateOutcomes Table.updateWhere
  refine List.map_congr_left fun row _ => ?_
  by_cases own : row.id = decisionId ∧ row.tenantId = tenantId
  · rw [if_pos (decide_eq_true own), if_pos own]
    rfl
  · rw [if_neg (by simpa using own), if_neg own]

/-- **The decision store accepts** outcomes of a decision that is there. -/
theorem decisionRoute_eq_some :
    decisionRoute tenantId decisionId call state = some table ↔
      (call.Storable ∧ (findDecision tenantId decisionId state.decisions).isSome) ∧
        table = updateOutcomes tenantId decisionId call state.decisions := by
  unfold decisionRoute DecisionStore.updateOutcomes
  rw [if_neg fun nothing => Option.some_ne_none _ nothing.1]
  rcases storable_cases call with ⟨storable, stored, bound⟩ | ⟨refused, failure, raised⟩
  · have returned : (updateDecision decisionId tenantId
          (OutcomesUpdate.apply ⟨some call.actualOutcomes, call.executedAt, none⟩)
          state.decisions).find? (fun row => decide (row.id = decisionId ∧ row.tenantId = tenantId)) =
        (findDecision tenantId decisionId state.decisions).map
          (OutcomesUpdate.apply ⟨some call.actualOutcomes, call.executedAt, none⟩) :=
      find_updateDecision fun row => ⟨rfl, rfl⟩
    have assigned : (none : Option String).mapM (varchar 20) = .ok none := rfl
    simp only [Option.getD_some, bound, assigned, returned]
    rw [updateDecision_outcomes]
    cases findDecision tenantId decisionId state.decisions with
    | none => simp
    | some row => simp [storable, eq_comm]
  · simp [raised, refused]

/-- **The execution store accepts** outcomes of a decision that is there, with a new revision. -/
theorem executionRoute_eq_some :
    executionRoute tenantId decisionId call now fresh state = some table ↔
      (call.Storable ∧ (findDecision tenantId decisionId state.decisions).isSome ∧
        ∀ revision ∈ state.store.revisions, revision.id ≠ fresh) ∧
          table = updateOutcomes tenantId decisionId call state.decisions := by
  unfold executionRoute submitOutcomesWithRevision
  rcases storable_cases call with ⟨storable, stored, bound⟩ | ⟨refused, failure, raised⟩
  · rw [bound]
    dsimp only
    by_cases taken : ∃ revision ∈ state.store.revisions, revision.id = fresh
    · obtain ⟨revision, member, same⟩ := taken
      rw [if_pos ⟨revision, member, same⟩]
      refine iff_of_false (fun accepted => Option.some_ne_none _ accepted.symm) ?_
      rintro ⟨⟨-, -, unused⟩, -⟩
      exact unused revision member same
    · rw [if_neg taken]
      push Not at taken
      cases findDecision tenantId decisionId state.decisions with
      | none => simp
      | some row =>
          refine Iff.trans (Option.some_inj.trans eq_comm) ?_
          exact ⟨fun same => ⟨⟨storable, rfl, taken⟩, same⟩, fun both => both.2⟩
  · simp [raised, refused]

/-- **A route that accepts leaves the submitted row.** -/
theorem outcomeRoute_leaves {route : Option (List Decision)}
    (member : route ∈ outcomeRoutes tenantId decisionId call now fresh state)
    (accepted : route = some table) :
    table = updateOutcomes tenantId decisionId call state.decisions := by
  rw [outcomeRoutes, List.mem_cons, List.mem_pair] at member
  rcases member with rfl | rfl | rfl
  · exact (gatewayRoute_eq_some.mp accepted).2
  · exact (decisionRoute_eq_some.mp accepted).2
  · exact (executionRoute_eq_some.mp accepted).2

theorem outcomeRoutes_same {first second : Option (List Decision)}
    (firstIn : first ∈ outcomeRoutes tenantId decisionId call now fresh state)
    (secondIn : second ∈ outcomeRoutes tenantId decisionId call now fresh state) :
    first.map (outcomeColumns tenantId decisionId) = second.map (outcomeColumns tenantId decisionId) ↔
      (first.isSome ↔ second.isSome) := by
  cases isFirst : first with
  | none => cases second <;> simp
  | some left =>
      cases isSecond : second with
      | none => simp
      | some right =>
          rw [outcomeRoute_leaves firstIn isFirst, outcomeRoute_leaves secondIn isSecond]
          simp

/-- **When the routes agree**: the outcomes of a decision that is there are not empty, and the database
generates a new id for their revision; or all three refuse the call. -/
theorem outcome_routes_agree_iff (tenantId decisionId : Uuid) (call : OutcomesCall) (now : Timestamp)
    (fresh : Uuid) (state : LoopState Worker) :
    OutcomeRoutesAgree tenantId decisionId call now fresh state ↔
      (call.Storable → (findDecision tenantId decisionId state.decisions).isSome →
        call.actualOutcomes ≠ [] ∧ ∀ revision ∈ state.store.revisions, revision.id ≠ fresh) := by
  have gatewayIn : gatewayRoute tenantId decisionId call state ∈
      outcomeRoutes tenantId decisionId call now fresh state := by simp [outcomeRoutes]
  have decisionIn : decisionRoute tenantId decisionId call state ∈
      outcomeRoutes tenantId decisionId call now fresh state := by simp [outcomeRoutes]
  have executionIn : executionRoute tenantId decisionId call now fresh state ∈
      outcomeRoutes tenantId decisionId call now fresh state := by simp [outcomeRoutes]
  have gateway : (gatewayRoute tenantId decisionId call state).isSome ↔
      call.Storable ∧ (findDecision tenantId decisionId state.decisions).isSome ∧
        call.actualOutcomes ≠ [] := by
    simp [Option.isSome_iff_exists, gatewayRoute_eq_some]
  have decision : (decisionRoute tenantId decisionId call state).isSome ↔
      call.Storable ∧ (findDecision tenantId decisionId state.decisions).isSome := by
    simp [Option.isSome_iff_exists, decisionRoute_eq_some]
  have execution : (executionRoute tenantId decisionId call now fresh state).isSome ↔
      call.Storable ∧ (findDecision tenantId decisionId state.decisions).isSome ∧
        ∀ revision ∈ state.store.revisions, revision.id ≠ fresh := by
    simp [Option.isSome_iff_exists, executionRoute_eq_some]
  constructor
  · intro agree storable known
    have accepts := decision.mpr ⟨storable, known⟩
    exact ⟨(gateway.mp (((outcomeRoutes_same gatewayIn decisionIn).mp
        (agree _ gatewayIn _ decisionIn)).mpr accepts)).2.2,
      (execution.mp (((outcomeRoutes_same executionIn decisionIn).mp
        (agree _ executionIn _ decisionIn)).mpr accepts)).2.2⟩
  · intro honoured
    -- Every route accepts exactly what the decision store accepts.
    have like : ∀ route ∈ outcomeRoutes tenantId decisionId call now fresh state,
        route.isSome ↔ call.Storable ∧ (findDecision tenantId decisionId state.decisions).isSome := by
      intro route member
      rw [outcomeRoutes, List.mem_cons, List.mem_pair] at member
      rcases member with rfl | rfl | rfl
      · exact gateway.trans ⟨fun accepted => ⟨accepted.1, accepted.2.1⟩,
          fun both => ⟨both.1, both.2, (honoured both.1 both.2).1⟩⟩
      · exact decision
      · exact execution.trans ⟨fun accepted => ⟨accepted.1, accepted.2.1⟩,
          fun both => ⟨both.1, both.2, (honoured both.1 both.2).2⟩⟩
    intro first firstIn second secondIn
    exact (outcomeRoutes_same firstIn secondIn).mpr ((like first firstIn).trans (like second secondIn).symm)

end Routes

/-- **An empty list**: the gateway refuses it, the other two mark the decision as observed. -/
theorem empty_outcomes_differ :
    ¬ ∀ (tenantId decisionId : Uuid) (call : OutcomesCall) (now : Timestamp) (fresh : Uuid)
      (state : LoopState (Fin 1)), OutcomeRoutesAgree tenantId decisionId call now fresh state := by
  intro agree
  have refused := agree 1 2 { outcomesCall 2 with actualOutcomes := [] } 1 21 (freshLoop plainDecision)
    none (by decide +kernel)
    (some (updateOutcomes 1 2 { outcomesCall 2 with actualOutcomes := [] } [plainDecision]))
    (by decide +kernel)
  cases refused

end CosMonitor
