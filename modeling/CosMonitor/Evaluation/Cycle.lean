/-
**The evaluation cycles, statement by statement.**

A cycle starts a task for every tenant with a hypothesis. A task goes through the tenant's hypotheses page
by page; every statement of it is one step, next to those of the other tasks and of the services around
them, and it can fail between any two of them. A crash of the process fails every task.

* `EvaluationTables`: the tables, with the primary keys and the foreign key that the database checks;
* `advance`: the next statement of a task;
* `evaluationCycles`: the system of all steps;
* `EvaluationMove`, `evaluation_move`: everything a step can do to the hypotheses, the evaluations and the
  tasks.
-/

import CosMonitor.Evaluation.Policy
import CosMonitor.Foundation.Sorting
import CosMonitor.Foundation.Tasks
import CosMonitor.Foundation.Transition

namespace CosMonitor

open Table

/-! ### Tables -/

/-- The tables of an evaluation. -/
structure EvaluationTables where
  hypotheses : List Hypothesis
  evidence : List Evidence
  confidences : List Confidence
  evaluations : List Evaluation
  hypothesesKeyed : (hypotheses.map Hypothesis.id).Nodup
  evaluationsKeyed : (evaluations.map Evaluation.id).Nodup
  /-- `hypothesis_id UUID NOT NULL REFERENCES hypotheses(id)` -/
  referenced : ∀ evaluation ∈ evaluations, evaluation.hypothesisId ∈ hypotheses.map Hypothesis.id

/-- `UPDATE hypotheses SET status = :status WHERE id = :id AND tenant_id = :tenant_id`. -/
def setStatus (tenantId hypothesisId : Uuid) (status : String) (rows : List Hypothesis) :
    List Hypothesis :=
  updateWhere (fun row => decide (row.id = hypothesisId ∧ row.tenantId = tenantId))
    (fun row => { row with status }) rows

theorem setStatus_ids (tenantId hypothesisId : Uuid) (status : String) (rows : List Hypothesis) :
    (setStatus tenantId hypothesisId status rows).map Hypothesis.id = rows.map Hypothesis.id :=
  updateWhere_map Hypothesis.id fun _ _ _ => rfl

theorem mem_setStatus {tenantId hypothesisId : Uuid} {status : String} {rows : List Hypothesis}
    {row : Hypothesis} :
    row ∈ setStatus tenantId hypothesisId status rows ↔
      (∃ old ∈ rows, (old.id = hypothesisId ∧ old.tenantId = tenantId) ∧ { old with status } = row) ∨
        (row ∈ rows ∧ ¬(row.id = hypothesisId ∧ row.tenantId = tenantId)) := by
  unfold setStatus
  rw [mem_updateWhere]
  simp only [decide_eq_true_iff, decide_eq_false_iff_not]

theorem referenced_insertAbsent {hypotheses : List Hypothesis} {evaluations : List Evaluation}
    {evaluation : Evaluation} (known : evaluation.hypothesisId ∈ hypotheses.map Hypothesis.id)
    (referenced : ∀ other ∈ evaluations, other.hypothesisId ∈ hypotheses.map Hypothesis.id) :
    ∀ other ∈ (insertAbsent Evaluation.id evaluation evaluations).2,
      other.hypothesisId ∈ hypotheses.map Hypothesis.id := by
  intro other stored
  rcases mem_insertAbsent stored with old | rfl
  · exact referenced other old
  · exact known

theorem referenced_ids {hypotheses more : List Hypothesis} {evaluations : List Evaluation}
    (kept : hypotheses.map Hypothesis.id ⊆ more.map Hypothesis.id)
    (referenced : ∀ other ∈ evaluations, other.hypothesisId ∈ hypotheses.map Hypothesis.id) :
    ∀ other ∈ evaluations, other.hypothesisId ∈ more.map Hypothesis.id :=
  fun other stored => kept (referenced other stored)

namespace EvaluationTables

variable (tables : EvaluationTables)

/-- `save_hypothesis`: an insert that a stored id leaves alone. -/
def saveHypothesis (hypothesis : Hypothesis) : EvaluationTables :=
  { tables with
    hypotheses := (insertAbsent Hypothesis.id hypothesis tables.hypotheses).2
    hypothesesKeyed := insertAbsent_nodup _ tables.hypothesesKeyed
    referenced := referenced_ids (List.map_subset _ (subset_insertAbsent _ _ _)) tables.referenced }

/-- `save_evaluation`: whether the row was inserted, and the tables. `none` is an error of the database:
the hypothesis is not stored. -/
def saveEvaluation (evaluation : Evaluation) : Option (Bool × EvaluationTables) :=
  if known : evaluation.hypothesisId ∈ tables.hypotheses.map Hypothesis.id then
    some ((insertAbsent Evaluation.id evaluation tables.evaluations).1.isSome,
      { tables with
        evaluations := (insertAbsent Evaluation.id evaluation tables.evaluations).2
        evaluationsKeyed := insertAbsent_nodup _ tables.evaluationsKeyed
        referenced := referenced_insertAbsent known tables.referenced })
  else none

/-- `update_hypothesis_status`: the updated row, if there is one, and the tables. -/
def updateHypothesisStatus (tenantId hypothesisId : Uuid) (status : String) :
    Except PyError (Option Hypothesis × EvaluationTables) :=
  if status ∈ terminalStatuses then
    let updated := setStatus tenantId hypothesisId status tables.hypotheses
    .ok (updated.find? fun row => decide (row.id = hypothesisId ∧ row.tenantId = tenantId),
      { tables with
        hypotheses := updated
        hypothesesKeyed := (setStatus_ids _ _ _ _).symm ▸ tables.hypothesesKeyed
        referenced := referenced_ids (fun _ member => (setStatus_ids _ _ _ _).symm ▸ member)
          tables.referenced })
  else .error (.valueError "Invalid status transition")

end EvaluationTables

/-! ### Tasks -/

/-- `list_evidence_since`: the evidence of a tenant from an instant on, the newest first. -/
def listEvidenceSince (tenantId : Uuid) (since : Timestamp) (rows : List Evidence) : List Evidence :=
  (Sorting.sortByDesc Evidence.organizedAt
    (rows.filter fun row => decide (row.tenantId = tenantId))).filter fun row =>
      decide (since ≤ row.organizedAt)

/-- `_get_confidences_for_hypotheses`: the listed confidences of the hypotheses. -/
def confidencesForHypotheses (hypotheses : List Hypothesis) (listed : List Confidence) :
    List Confidence :=
  listed.filter fun row =>
    decide (row.targetType = .hypothesis ∧ row.targetId ∈ hypotheses.map Hypothesis.id)

/-- `confidences.get(hypothesis.id)`: the first one of a hypothesis was kept. -/
def confidenceFor (hypothesis : Hypothesis) (confidences : List Confidence) : Option Confidence :=
  confidences.find? fun row => decide (row.targetId = hypothesis.id)

/-- The candidates of a page that a task has still to evaluate. -/
structure TenantBatch where
  tenantId : Uuid
  offset : Nat
  candidates : List Hypothesis

/-- The task of a tenant between two of its statements. -/
inductive EvaluationTask where
  | listing (tenantId : Uuid) (offset : Nat)
  | candidatesRead (batch : TenantBatch)
  | evidenceRead (batch : TenantBatch) (evidence : List Evidence)
  | evaluating (batch : TenantBatch) (evidence : List Evidence) (confidences : List Confidence)
  /-- the evaluation was inserted, and the status is not updated yet -/
  | concluding (hypothesis : Hypothesis) (result : EvaluationResult)
      (concludes : result.concludes = true) (batch : TenantBatch) (evidence : List Evidence)
      (confidences : List Confidence)

namespace EvaluationTask

/-- The tenant of a task. -/
def tenantId : EvaluationTask → Uuid
  | listing tenantId _ => tenantId
  | candidatesRead batch | evidenceRead batch _ | evaluating batch _ _ | concluding _ _ _ batch _ _ =>
      batch.tenantId

/-- The rows that a task has read and not finished with. -/
def held : EvaluationTask → List Hypothesis
  | listing _ _ => []
  | candidatesRead batch | evidenceRead batch _ | evaluating batch _ _ => batch.candidates
  | concluding hypothesis _ _ batch _ _ => hypothesis :: batch.candidates

/-- The conclusion that a task has inserted, and has not carried over to the hypothesis. -/
def pending : EvaluationTask → Option (Hypothesis × EvaluationResult)
  | concluding hypothesis result _ _ _ _ => some (hypothesis, result)
  | _ => none

end EvaluationTask

/-- The tables and the running tasks. -/
structure EvaluationState extends EvaluationTables where
  tasks : List EvaluationTask

/-- The tables without a running task. -/
def EvaluationTables.idle (tables : EvaluationTables) : EvaluationState where
  toEvaluationTables := tables
  tasks := []

/-- The configuration of the service. -/
structure EvaluationService where
  std : Stdlib
  formats : EvaluationFormats
  batchSize : Nat
  evidenceBasisReliable : Bool

/-! ### Steps -/

namespace EvaluationState

/-- A task goes on, next to some tables. -/
def goOn (state : EvaluationState) (tables : EvaluationTables) (index : Nat)
    (next : Option EvaluationTask) : EvaluationState where
  toEvaluationTables := tables
  tasks := Tasks.resume index next state.tasks

end EvaluationState

section Steps

variable (service : EvaluationService)

/-- The candidates of a page. -/
def listCandidates (tenantId : Uuid) (offset : Nat) (rows : List Hypothesis) : List Hypothesis :=
  (listHypotheses tenantId service.batchSize offset rows).filter fun row =>
    decide (row.status = statusCandidate)

/-- What a task does with a page of `list_hypotheses`. -/
def pageListed (tenantId : Uuid) (offset : Nat) (rows : List Hypothesis) : Option EvaluationTask :=
  if listHypotheses tenantId service.batchSize offset rows = [] then none
  else
    match listCandidates service tenantId offset rows with
    | [] => some (.listing tenantId (offset + service.batchSize))
    | candidates => some (.candidatesRead { tenantId, offset, candidates })

/-- The evaluation of a hypothesis: what `_evaluate_hypothesis` does before its first statement. -/
def evaluateHypothesis (now : Timestamp) (tenantId : Uuid) (hypothesis : Hypothesis)
    (evidence : List Evidence) (confidences : List Confidence) : Evaluation :=
  let confidence := confidenceFor hypothesis confidences
  createEvaluation service.std now tenantId hypothesis evidence confidence
    (applyEvaluationPolicy service.formats service.evidenceBasisReliable hypothesis evidence confidence)

/-- What a task does after `save_evaluation`. -/
def evaluationSaved (inserted : Bool) (hypothesis : Hypothesis) (result : EvaluationResult)
    (batch : TenantBatch) (evidence : List Evidence) (confidences : List Confidence) :
    EvaluationTask :=
  if concludes : inserted = true ∧ result.concludes = true then
    .concluding hypothesis result concludes.2 batch evidence confidences
  else .evaluating batch evidence confidences

/-- The next statement of a task. -/
def advanceEvaluation (now : Timestamp) (state : EvaluationState) (index : Nat) :
    EvaluationTask → EvaluationState
  | .listing tenantId offset =>
      state.goOn state.toEvaluationTables index (pageListed service tenantId offset state.hypotheses)
  | .candidatesRead batch =>
      -- `min` of the candidates; there is always one.
      match batch.candidates with
      | [] => state.goOn state.toEvaluationTables index none
      | first :: rest =>
          let oldestGenerated := (rest.map Hypothesis.generatedAt).foldl min first.generatedAt
          state.goOn state.toEvaluationTables index (some (.evidenceRead batch
            (listEvidenceSince batch.tenantId oldestGenerated state.evidence)))
  | .evidenceRead batch evidence =>
      state.goOn state.toEvaluationTables index (some (.evaluating batch evidence
        (confidencesForHypotheses batch.candidates
          (listConfidence batch.tenantId 500 0 state.confidences))))
  | .evaluating batch evidence confidences =>
      match batch.candidates with
      | [] =>
          state.goOn state.toEvaluationTables index
            (some (.listing batch.tenantId (batch.offset + service.batchSize)))
      | hypothesis :: rest =>
          let evaluation :=
            evaluateHypothesis service now batch.tenantId hypothesis evidence confidences
          match state.saveEvaluation evaluation with
          | none => state.goOn state.toEvaluationTables index none
          | some saved =>
              state.goOn saved.2 index (some (evaluationSaved saved.1 hypothesis evaluation.result
                { batch with candidates := rest } evidence confidences))
  | .concluding hypothesis result _ batch evidence confidences =>
      match state.updateHypothesisStatus batch.tenantId hypothesis.id result.name with
      | .error _ => state.goOn state.toEvaluationTables index none
      | .ok updated => state.goOn updated.2 index (some (.evaluating batch evidence confidences))

/-- What can happen next. -/
inductive EvaluationEvent where
  /-- `save_hypothesis` -/
  | generate (hypothesis : Hypothesis)
  /-- `save_evidence` -/
  | organize (evidence : Evidence)
  /-- `save_confidence` -/
  | calibrate (now : Timestamp) (confidence : Confidence)
  /-- `update_hypothesis_status`, called by anyone else -/
  | updateStatus (tenantId hypothesisId : Uuid) (status : String)
  /-- `run_evaluation_cycle` starts a task for every tenant -/
  | cycle
  /-- the next statement of a task -/
  | advance (index : Nat) (now : Timestamp)
  /-- a task fails -/
  | fail (index : Nat)

/-- `list_tenant_ids`. -/
def listTenantIds (rows : List Hypothesis) : List Uuid :=
  (rows.map Hypothesis.tenantId).dedup

/-- Any interleaving of the tasks and of the services around them. -/
def evaluationCycles : Transition.System EvaluationState EvaluationEvent where
  step := fun state event =>
    match event with
    | .generate hypothesis =>
        some { state with toEvaluationTables := state.saveHypothesis hypothesis }
    | .organize evidence =>
        some { state with evidence := (saveEvidence evidence state.evidence).2 }
    | .calibrate now confidence =>
        some { state with confidences := (saveConfidence now confidence state.confidences).2 }
    | .updateStatus tenantId hypothesisId status =>
        match state.updateHypothesisStatus tenantId hypothesisId status with
        | .error _ => some state
        | .ok updated => some { state with toEvaluationTables := updated.2 }
    | .cycle =>
        some { state with tasks := state.tasks ++
          (listTenantIds state.hypotheses).map fun tenantId => .listing tenantId 0 }
    | .advance index now =>
        (state.tasks[index]?).map fun task => advanceEvaluation service now state index task
    | .fail index => some (state.goOn state.toEvaluationTables index none)

end Steps

/-! ### What a step can do -/

section Moves

variable (service : EvaluationService)

/-- What a task goes on as: its rows are among those that it held, or it has just listed them. -/
structure EvaluationTask.Follows (before : EvaluationState) (task next : EvaluationTask) : Prop where
  sameTenant : next.tenantId = task.tenantId
  held : next.held.Sublist task.held ∨
    ∃ offset, next.held = listCandidates service task.tenantId offset before.hypotheses

/-- Everything a step can do to the hypotheses, the evaluations and the tasks. -/
inductive EvaluationMove (before : EvaluationState) : EvaluationEvent → EvaluationState → Prop
  /-- another service writes -/
  | wrote {event : EvaluationEvent} {after : EvaluationState}
      (hypotheses : after.hypotheses = before.hypotheses ∨ ∃ hypothesis,
        after.hypotheses = (insertAbsent Hypothesis.id hypothesis before.hypotheses).2)
      (evaluations : after.evaluations = before.evaluations) (tasks : after.tasks = before.tasks) :
      EvaluationMove before event after
  /-- a status is set from outside -/
  | updated {tenantId hypothesisId : Uuid} {status : String} {after : EvaluationState}
      (hypotheses : after.hypotheses = setStatus tenantId hypothesisId status before.hypotheses)
      (evaluations : after.evaluations = before.evaluations) (tasks : after.tasks = before.tasks) :
      EvaluationMove before (.updateStatus tenantId hypothesisId status) after
  | cycled {after : EvaluationState} (hypotheses : after.hypotheses = before.hypotheses)
      (evaluations : after.evaluations = before.evaluations)
      (tasks : after.tasks = before.tasks ++
        (listTenantIds before.hypotheses).map fun tenantId => .listing tenantId 0) :
      EvaluationMove before .cycle after
  /-- a task reads, or has nothing more to do -/
  | wentOn {index : Nat} {now : Timestamp} {task : EvaluationTask} {next : Option EvaluationTask}
      {after : EvaluationState} (current : before.tasks[index]? = some task)
      (settled : task.pending = none) (hypotheses : after.hypotheses = before.hypotheses)
      (evaluations : after.evaluations = before.evaluations)
      (tasks : after.tasks = Tasks.resume index next before.tasks)
      (follows : ∀ other, next = some other →
        other.pending = none ∧ task.Follows service before other) :
      EvaluationMove before (.advance index now) after
  /-- a task saves an evaluation -/
  | evaluated {index : Nat} {now : Timestamp} {task next : EvaluationTask} {hypothesis : Hypothesis}
      {evaluation : Evaluation} {after : EvaluationState} (current : before.tasks[index]? = some task)
      (settled : task.pending = none) (held : hypothesis ∈ task.held)
      (about : evaluation.hypothesisId = hypothesis.id)
      (hypotheses : after.hypotheses = before.hypotheses)
      (evaluations : after.evaluations =
        (insertAbsent Evaluation.id evaluation before.evaluations).2)
      (tasks : after.tasks = Tasks.resume index (some next) before.tasks)
      (follows : task.Follows service before next)
      (outcome : next.pending = some (hypothesis, evaluation.result) ∨ next.pending = none ∧
        (evaluation.result.concludes = false ∨ after.evaluations = before.evaluations)) :
      EvaluationMove before (.advance index now) after
  /-- a task carries its conclusion over -/
  | concluded {index : Nat} {now : Timestamp} {task next : EvaluationTask} {hypothesis : Hypothesis}
      {result : EvaluationResult} {after : EvaluationState}
      (current : before.tasks[index]? = some task) (pending : task.pending = some (hypothesis, result))
      (held : task.held = hypothesis :: next.held)
      (hypotheses : after.hypotheses =
        setStatus task.tenantId hypothesis.id result.name before.hypotheses)
      (evaluations : after.evaluations = before.evaluations)
      (tasks : after.tasks = Tasks.resume index (some next) before.tasks)
      (sameTenant : next.tenantId = task.tenantId) (settled : next.pending = none) :
      EvaluationMove before (.advance index now) after
  | failed {index : Nat} {after : EvaluationState} (hypotheses : after.hypotheses = before.hypotheses)
      (evaluations : after.evaluations = before.evaluations)
      (tasks : after.tasks = Tasks.resume index none before.tasks) :
      EvaluationMove before (.fail index) after

variable {service} {before after : EvaluationState}

theorem pageListed_follows {tenantId : Uuid} {offset : Nat} {next : EvaluationTask}
    (listed : pageListed service tenantId offset before.hypotheses = some next) :
    next.pending = none ∧ (EvaluationTask.listing tenantId offset).Follows service before next := by
  unfold pageListed at listed
  split at listed
  · cases listed
  · split at listed
    · rw [← Option.some.inj listed]
      exact ⟨rfl, rfl, .inl (List.Sublist.refl [])⟩
    · rw [← Option.some.inj listed]
      exact ⟨rfl, rfl, .inr ⟨offset, rfl⟩⟩

theorem saveEvaluation_accepted {tables : EvaluationTables} {evaluation : Evaluation}
    {saved : Bool × EvaluationTables} (accepted : tables.saveEvaluation evaluation = some saved) :
    saved.1 = (insertAbsent Evaluation.id evaluation tables.evaluations).1.isSome ∧
      saved.2.hypotheses = tables.hypotheses ∧
      saved.2.evaluations = (insertAbsent Evaluation.id evaluation tables.evaluations).2 := by
  unfold EvaluationTables.saveEvaluation at accepted
  split at accepted
  · rw [← Option.some.inj accepted]
    exact ⟨rfl, rfl, rfl⟩
  · cases accepted

theorem updateHypothesisStatus_accepted {tables : EvaluationTables} {tenantId hypothesisId : Uuid}
    {status : String} {updated : Option Hypothesis × EvaluationTables}
    (accepted : tables.updateHypothesisStatus tenantId hypothesisId status = .ok updated) :
    status ∈ terminalStatuses ∧
      updated.2.hypotheses = setStatus tenantId hypothesisId status tables.hypotheses ∧
      updated.2.evaluations = tables.evaluations := by
  unfold EvaluationTables.updateHypothesisStatus at accepted
  split at accepted
  · rename_i terminal
    rw [← Except.ok.inj accepted]
    exact ⟨terminal, rfl, rfl⟩
  · cases accepted

theorem evaluationSaved_follows (service : EvaluationService) (before : EvaluationState)
    (tenantId : Uuid) (offset : Nat) (hypothesis : Hypothesis) (rest : List Hypothesis)
    (evaluation : Evaluation) (evidence : List Evidence) (confidences : List Confidence) :
    let inserted := insertAbsent Evaluation.id evaluation before.evaluations
    let next := evaluationSaved inserted.1.isSome hypothesis evaluation.result
      ⟨tenantId, offset, rest⟩ evidence confidences
    (EvaluationTask.evaluating ⟨tenantId, offset, hypothesis :: rest⟩ evidence confidences).Follows
        service before next ∧
      (next.pending = some (hypothesis, evaluation.result) ∨ next.pending = none ∧
        (evaluation.result.concludes = false ∨ inserted.2 = before.evaluations)) := by
  intro inserted next
  by_cases concludes : inserted.1.isSome = true ∧ evaluation.result.concludes = true
  · have isNext : next = .concluding hypothesis evaluation.result concludes.2
        ⟨tenantId, offset, rest⟩ evidence confidences := dif_pos concludes
    rw [isNext]
    exact ⟨⟨rfl, .inl (List.Sublist.refl _)⟩, .inl rfl⟩
  · have isNext : next = .evaluating ⟨tenantId, offset, rest⟩ evidence confidences :=
      dif_neg concludes
    rw [isNext]
    refine ⟨⟨rfl, .inl (List.sublist_cons_self _ _)⟩, .inr ⟨rfl, ?_⟩⟩
    rcases insertAbsent_cases Evaluation.id evaluation before.evaluations with ⟨-, ran⟩ | ⟨-, ran⟩
    · exact .inr (congrArg Prod.snd ran)
    · have isInserted : inserted.1.isSome = true := by
        show (insertAbsent _ _ _).1.isSome = true
        rw [ran]
        rfl
      exact .inl (by simpa [isInserted] using concludes)

theorem EvaluationMove.goOn {index : Nat} {now : Timestamp} {task : EvaluationTask}
    {next : Option EvaluationTask} (current : before.tasks[index]? = some task)
    (settled : task.pending = none)
    (follows : ∀ other, next = some other →
      other.pending = none ∧ task.Follows service before other) :
    EvaluationMove service before (.advance index now)
      (before.goOn before.toEvaluationTables index next) :=
  .wentOn current settled rfl rfl rfl follows

theorem EvaluationMove.goOn_holding {index : Nat} {now : Timestamp} {task next : EvaluationTask}
    (current : before.tasks[index]? = some task) (settled : task.pending = none)
    (nextSettled : next.pending = none) (sameTenant : next.tenantId = task.tenantId)
    (held : next.held.Sublist task.held) :
    EvaluationMove service before (.advance index now)
      (before.goOn before.toEvaluationTables index (some next)) := by
  refine .goOn current settled fun other isNext => ?_
  rw [← Option.some.inj isNext]
  exact ⟨nextSettled, sameTenant, .inl held⟩

theorem EvaluationMove.ended {index : Nat} {now : Timestamp} {task : EvaluationTask}
    (current : before.tasks[index]? = some task) (settled : task.pending = none) :
    EvaluationMove service before (.advance index now)
      (before.goOn before.toEvaluationTables index none) :=
  .goOn current settled fun _ isNext => nomatch isNext

theorem advanceEvaluation_move {index : Nat} {now : Timestamp} {task : EvaluationTask}
    (current : before.tasks[index]? = some task) :
    EvaluationMove service before (.advance index now)
      (advanceEvaluation service now before index task) := by
  match task with
  | .listing tenantId offset =>
      show EvaluationMove service before _ (before.goOn before.toEvaluationTables index _)
      exact .goOn current rfl fun next listed => pageListed_follows listed
  | .candidatesRead batch =>
      rw [advanceEvaluation]
      split
      · exact .ended current rfl
      · exact .goOn_holding current rfl rfl rfl (List.Sublist.refl _)
  | .evidenceRead batch evidence =>
      show EvaluationMove service before _ (before.goOn before.toEvaluationTables index (some _))
      exact .goOn_holding current rfl rfl rfl (List.Sublist.refl _)
  | .evaluating ⟨tenantId, offset, []⟩ evidence confidences =>
      show EvaluationMove service before _ (before.goOn before.toEvaluationTables index (some _))
      exact .goOn_holding current rfl rfl rfl (List.Sublist.refl _)
  | .evaluating ⟨tenantId, offset, hypothesis :: rest⟩ evidence confidences =>
      rw [advanceEvaluation]
      simp only
      let evaluation := evaluateHypothesis service now tenantId hypothesis evidence confidences
      split
      · exact .ended current rfl
      · rename_i saved accepted
        obtain ⟨inserted, hypotheses, evaluations⟩ := saveEvaluation_accepted accepted
        obtain ⟨follows, outcome⟩ := evaluationSaved_follows service before tenantId offset hypothesis
          rest evaluation evidence confidences
        rw [inserted]
        rw [← evaluations] at outcome
        exact .evaluated current rfl List.mem_cons_self rfl hypotheses evaluations rfl follows outcome
  | .concluding hypothesis result concludes batch evidence confidences =>
      rw [advanceEvaluation]
      split
      · rename_i refused
        rw [EvaluationTables.updateHypothesisStatus, if_pos (EvaluationResult.name_terminal concludes)]
          at refused
        cases refused
      · rename_i updated accepted
        obtain ⟨-, hypotheses, evaluations⟩ := updateHypothesisStatus_accepted accepted
        exact .concluded current rfl rfl hypotheses evaluations rfl rfl rfl

/-- **Everything a step can do.** -/
theorem evaluation_move {event : EvaluationEvent}
    (stepped : (evaluationCycles service).step before event = some after) :
    EvaluationMove service before event after := by
  match event with
  | .generate hypothesis =>
      rw [← Option.some.inj stepped]
      exact .wrote (.inr ⟨hypothesis, rfl⟩) rfl rfl
  | .organize evidence =>
      rw [← Option.some.inj stepped]
      exact .wrote (.inl rfl) rfl rfl
  | .calibrate now confidence =>
      rw [← Option.some.inj stepped]
      exact .wrote (.inl rfl) rfl rfl
  | .updateStatus tenantId hypothesisId status =>
      simp only [evaluationCycles] at stepped
      split at stepped
      · rw [← Option.some.inj stepped]
        exact .wrote (.inl rfl) rfl rfl
      · rename_i updated accepted
        rw [← Option.some.inj stepped]
        obtain ⟨-, hypotheses, evaluations⟩ := updateHypothesisStatus_accepted accepted
        exact .updated hypotheses evaluations rfl
  | .cycle =>
      rw [← Option.some.inj stepped]
      exact .cycled rfl rfl rfl
  | .advance index now =>
      obtain ⟨task, current, ran⟩ := Option.map_eq_some_iff.mp stepped
      rw [← ran]
      exact advanceEvaluation_move current
  | .fail index =>
      rw [← Option.some.inj stepped]
      exact .failed rfl rfl rfl

end Moves

end CosMonitor
