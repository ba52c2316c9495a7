/-
**The confidence that an evaluation uses.**

A task lists the first 500 confidences of its tenant, the oldest first, and keeps the first one of every
candidate. `get_confidence` answers with the most recent row of a target.

* `confidenceFor_eq_some`: the row that is kept, the oldest one of the hypothesis, if it is on the page;
* `confidenceFor_latest_iff`: when this is the row that `get_confidence` answers with;
* `EvaluationState.Reachable.keyed`: in every run the ids of the confidences stay different;
* `most_recent_used_iff`: a task keeps the most recent confidence of a hypothesis exactly when the hypothesis
  has none, or a single one, which is on the page.
-/

import CosMonitor.Evaluation.Runs

namespace CosMonitor

open Table

/-! ### The two choices -/

section Choices

/-- A row is a confidence of a hypothesis of a tenant. -/
def Confidence.IsOf (tenantId hypothesisId : Uuid) (row : Confidence) : Prop :=
  row.tenantId = tenantId ∧ row.targetType = .hypothesis ∧ row.targetId = hypothesisId

instance (tenantId hypothesisId : Uuid) : DecidablePred (Confidence.IsOf tenantId hypothesisId) :=
  fun row => inferInstanceAs (Decidable (row.tenantId = tenantId ∧ _ ∧ _))

variable {rows : List Confidence} {tenantId : Uuid} {hypothesis : Hypothesis} {batch : List Hypothesis}
  {row : Confidence}

theorem precedes_total (distinct : (rows.map Confidence.id).Nodup) {first second : Confidence}
    (firstIn : first ∈ rows) (secondIn : second ∈ rows) (notBefore : ¬first.Precedes second)
    (notAfter : ¬second.Precedes first) : first = second := by
  rw [Confidence.precedes_iff, not_lt] at notBefore notAfter
  have keys : first.listingKey = second.listingKey := le_antisymm notAfter notBefore
  exact List.inj_on_of_nodup_map distinct firstIn secondIn (congrArg Prod.snd keys)

theorem confidenceFor_batch (inBatch : hypothesis ∈ batch) (listed : List Confidence) :
    confidenceFor hypothesis (confidencesForHypotheses batch listed) = listed.find? fun row =>
      decide (row.targetType = .hypothesis ∧ row.targetId = hypothesis.id) := by
  have known : hypothesis.id ∈ batch.map Hypothesis.id := List.mem_map_of_mem inBatch
  unfold confidenceFor confidencesForHypotheses
  rw [List.find?_filter]
  refine congrArg (fun kind => List.find? kind listed) (funext fun row => ?_)
  rw [Bool.eq_iff_iff, decide_eq_true_iff, decide_eq_true_iff, decide_eq_true_iff, decide_eq_true_iff]
  constructor
  · rintro ⟨⟨isHypothesis, -⟩, target⟩
    exact ⟨isHypothesis, target⟩
  · rintro ⟨isHypothesis, target⟩
    exact ⟨⟨isHypothesis, target ▸ known⟩, target⟩

/-- **The row that is kept** is the oldest one of the hypothesis, if the page reaches it. -/
theorem confidenceFor_eq_some (distinct : (rows.map Confidence.id).Nodup)
    (inBatch : hypothesis ∈ batch) {limit : Nat} :
    confidenceFor hypothesis
        (confidencesForHypotheses batch (listConfidence tenantId limit 0 rows)) = some row ↔
      row ∈ rows ∧ row.IsOf tenantId hypothesis.id ∧ row.rank rows < limit ∧
        ∀ other ∈ rows, other.IsOf tenantId hypothesis.id → ¬other.Precedes row := by
  have own : ∀ other, other ∈ orderedConfidence tenantId rows ↔
      other ∈ rows ∧ other.tenantId = tenantId := fun other => by
    rw [(orderedConfidence_perm tenantId rows).mem_iff, List.mem_filter, beq_iff_eq]
  rw [confidenceFor_batch inBatch, listConfidence_first, Paging.find_take_eq_some,
    ← listConfidence_first, mem_listConfidence distinct,
    Paging.find_first_eq_some (fun other same => lt_irrefl _ (Confidence.precedes_iff.mp same))
      (orderedConfidence_pairwise distinct tenantId), own, decide_eq_true_iff]
  constructor
  · rintro ⟨⟨⟨member, isTenant⟩, about, minimal⟩, -, -, early⟩
    refine ⟨member, ⟨isTenant, about⟩, early, fun other otherIn otherIs => ?_⟩
    exact minimal other ((own other).mpr ⟨otherIn, otherIs.1⟩) (decide_eq_true otherIs.2)
  · rintro ⟨member, ⟨isTenant, about⟩, early, minimal⟩
    refine ⟨⟨⟨member, isTenant⟩, about, fun other listed kind => ?_⟩, member, isTenant, early⟩
    obtain ⟨otherIn, otherTenant⟩ := (own other).mp listed
    exact minimal other otherIn ⟨otherTenant, of_decide_eq_true kind⟩

/-- **The two choices agree** exactly on hypotheses with no confidence, or a single one on the page. -/
theorem confidenceFor_latest_iff (distinct : (rows.map Confidence.id).Nodup)
    (inBatch : hypothesis ∈ batch) {limit : Nat} :
    confidenceFor hypothesis
        (confidencesForHypotheses batch (listConfidence tenantId limit 0 rows)) =
        getConfidence tenantId .hypothesis hypothesis.id rows ↔
      (∀ row ∈ rows, ¬row.IsOf tenantId hypothesis.id) ∨
        ∃ row ∈ rows, row.IsOf tenantId hypothesis.id ∧ row.rank rows < limit ∧
          ∀ other ∈ rows, other.IsOf tenantId hypothesis.id → other = row := by
  cases latest : getConfidence tenantId .hypothesis hypothesis.id rows with
  | none =>
      have none : ∀ row ∈ rows, ¬row.IsOf tenantId hypothesis.id := by
        rintro row member ⟨isTenant, isHypothesis, target⟩
        obtain ⟨answer, found⟩ := getConfidence_isSome member ⟨isHypothesis, target, isTenant⟩
        rw [latest] at found
        cases found
      refine iff_of_true (Option.eq_none_iff_forall_ne_some.mpr fun row kept => ?_) (.inl none)
      obtain ⟨member, isRow, -⟩ := (confidenceFor_eq_some distinct inBatch).mp kept
      exact none row member isRow
  | some row =>
      obtain ⟨member, isHypothesis, target, isTenant, last⟩ := getConfidence_spec latest
      rw [confidenceFor_eq_some distinct inBatch]
      constructor
      · rintro ⟨-, isRow, early, first⟩
        refine .inr ⟨row, member, isRow, early, fun other otherIn otherIs => ?_⟩
        exact precedes_total distinct otherIn member (first other otherIn otherIs)
          (last other otherIn otherIs.2.1 otherIs.2.2 otherIs.1)
      · have isRow : row.IsOf tenantId hypothesis.id := ⟨isTenant, isHypothesis, target⟩
        rintro (none | ⟨only, -, -, early, single⟩)
        · exact absurd isRow (none row member)
        · have same : row = only := single row member isRow
          refine ⟨member, isRow, same ▸ early, fun other otherIn otherIs => ?_⟩
          rw [single other otherIn otherIs, same, Confidence.precedes_iff]
          exact lt_irrefl _

end Choices

/-! ### Runs -/

section Runs

variable {service : EvaluationService} {start state before after : EvaluationState}

/-- `id UUID PRIMARY KEY` of the confidences. -/
def EvaluationState.ConfidencesKeyed (state : EvaluationState) : Prop :=
  (state.confidences.map Confidence.id).Nodup

theorem saveEvaluation_confidences {tables : EvaluationTables} {evaluation : Evaluation}
    {saved : Bool × EvaluationTables} (accepted : tables.saveEvaluation evaluation = some saved) :
    saved.2.confidences = tables.confidences := by
  unfold EvaluationTables.saveEvaluation at accepted
  split at accepted
  · rw [← Option.some.inj accepted]
  · cases accepted

theorem updateHypothesisStatus_confidences {tables : EvaluationTables} {tenantId hypothesisId : Uuid}
    {status : String} {updated : Option Hypothesis × EvaluationTables}
    (accepted : tables.updateHypothesisStatus tenantId hypothesisId status = .ok updated) :
    updated.2.confidences = tables.confidences := by
  unfold EvaluationTables.updateHypothesisStatus at accepted
  split at accepted
  · rw [← Except.ok.inj accepted]
  · cases accepted

theorem advanceEvaluation_confidences (now : Timestamp) (index : Nat) (task : EvaluationTask) :
    (advanceEvaluation service now state index task).confidences = state.confidences := by
  cases task with
  | listing tenantId offset => rfl
  | candidatesRead batch =>
      rw [advanceEvaluation]
      split <;> rfl
  | evidenceRead batch evidence => rfl
  | evaluating batch evidence confidences =>
      rw [advanceEvaluation]
      split
      · rfl
      · dsimp only
        split
        · rfl
        · rename_i saved accepted
          exact saveEvaluation_confidences accepted
  | concluding hypothesis result concludes batch evidence confidences =>
      rw [advanceEvaluation]
      split
      · rfl
      · rename_i updated accepted
        exact updateHypothesisStatus_confidences accepted

/-- **A step keeps the ids of the confidences different.** -/
theorem EvaluationState.ConfidencesKeyed.step (keyed : before.ConfidencesKeyed)
    {event : EvaluationEvent} (stepped : (evaluationCycles service).step before event = some after) :
    after.ConfidencesKeyed := by
  cases event with
  | generate hypothesis | organize evidence | cycle | fail index =>
      rw [← Option.some.inj stepped]
      exact keyed
  | calibrate now confidence =>
      rw [← Option.some.inj stepped]
      exact insertAbsent_nodup _ keyed
  | updateStatus tenantId hypothesisId status =>
      simp only [evaluationCycles] at stepped
      split at stepped
      · rw [← Option.some.inj stepped]
        exact keyed
      · rename_i updated accepted
        rw [← Option.some.inj stepped]
        show (updated.2.confidences.map Confidence.id).Nodup
        rw [updateHypothesisStatus_confidences accepted]
        exact keyed
  | advance index now =>
      obtain ⟨task, -, rfl⟩ := Option.map_eq_some_iff.mp stepped
      unfold EvaluationState.ConfidencesKeyed
      rw [advanceEvaluation_confidences]
      exact keyed

theorem EvaluationState.ConfidencesKeyed.run {guard : EvaluationState → EvaluationEvent → Prop}
    (keyed : start.ConfidencesKeyed) (reached : (evaluationCycles service).Reachable guard start state) :
    state.ConfidencesKeyed :=
  reached.invariant keyed fun _ _ _ kept _ stepped => kept.step stepped

/-- **Which confidence a hypothesis is evaluated with.** In every run, next to any other steps: a task that
reads the confidences of its batch goes on with the most recent one of a hypothesis exactly when the
hypothesis has none, or has a single one that fewer than 500 of the tenant's precede. -/
theorem most_recent_used_iff (service : EvaluationService) (start : EvaluationState)
    (keyed : start.ConfidencesKeyed) {state : EvaluationState}
    (reached : (evaluationCycles service).Reachable (fun _ _ => True) start state) {index : Nat}
    {batch : TenantBatch} {evidence : List Evidence}
    (reading : state.tasks[index]? = some (.evidenceRead batch evidence)) (now : Timestamp) :
    ∃ confidences,
      (evaluationCycles service).step state (.advance index now) =
        some (state.goOn state.toEvaluationTables index (some (.evaluating batch evidence confidences))) ∧
      ∀ hypothesis ∈ batch.candidates,
        confidenceFor hypothesis confidences =
            getConfidence batch.tenantId .hypothesis hypothesis.id state.confidences ↔
          (∀ row ∈ state.confidences, ¬row.IsOf batch.tenantId hypothesis.id) ∨
            ∃ row ∈ state.confidences, row.IsOf batch.tenantId hypothesis.id ∧
              row.rank state.confidences < 500 ∧
              ∀ other ∈ state.confidences, other.IsOf batch.tenantId hypothesis.id → other = row := by
  refine ⟨confidencesForHypotheses batch.candidates (listConfidence batch.tenantId 500 0 state.confidences),
    ?_, fun hypothesis inBatch => ?_⟩
  · show (state.tasks[index]?).map _ = _
    rw [reading, Option.map_some, advanceEvaluation]
  · exact confidenceFor_latest_iff (keyed.run reached) inBatch

end Runs

/-! ### A second calibration -/

/-- The leak is calibrated twice. -/
def recalibratedTables : EvaluationTables :=
  { leakTables with confidences := [crashConfidence 21 5 0, crashConfidence 22 5 1] }

/-- The batch of a task that reads its confidences next. -/
def EvaluationTask.reading : EvaluationTask → Option TenantBatch
  | evidenceRead batch _ => some batch
  | _ => none

/-- The confidences that a task evaluates with. -/
def EvaluationTask.kept : EvaluationTask → List Confidence
  | evaluating _ _ confidences | concluding _ _ _ _ _ confidences => confidences
  | _ => []

theorem EvaluationTask.reading_eq_some {task : EvaluationTask} {batch : TenantBatch}
    (reads : task.reading = some batch) : ∃ evidence, task = .evidenceRead batch evidence := by
  cases task with
  | evidenceRead own evidence =>
      rw [← Option.some.inj reads]
      exact ⟨evidence, rfl⟩
  | listing | candidatesRead | evaluating | concluding => cases reads

/-- The single calibration of the leak is the one that is used. -/
theorem most_recent_used_leak : ∃ (state : EvaluationState) (confidences : List Confidence),
    state.confidences = leakTables.confidences ∧
      confidenceFor leakHypothesis confidences =
        getConfidence 1 .hypothesis leakHypothesis.id state.confidences := by
  have ran : ((evaluationCycles reliableService).run leakTables.idle
      (.cycle :: List.replicate 2 (.advance 0 0))).any (fun state =>
        decide (state.confidences = leakTables.confidences ∧
          ((state.tasks[0]?).bind EvaluationTask.reading).any (fun batch =>
            decide (batch.tenantId = 1 ∧ leakHypothesis ∈ batch.candidates)) = true)) = true := by
    decide +kernel
  obtain ⟨state, -, reached, same, found⟩ := Transition.System.run_reaches ran
  obtain ⟨batch, isBatch, decided⟩ := (Option.any_eq_true _ _).mp found
  obtain ⟨isTenant, inBatch⟩ := of_decide_eq_true decided
  obtain ⟨task, current, reads⟩ := Option.bind_eq_some_iff.mp isBatch
  obtain ⟨evidence, rfl⟩ := EvaluationTask.reading_eq_some reads
  obtain ⟨confidences, -, choices⟩ := most_recent_used_iff reliableService leakTables.idle
    (List.nodup_singleton _) reached current 0
  refine ⟨state, confidences, same, ?_⟩
  rw [← isTenant]
  refine (choices leakHypothesis inBatch).mpr (.inr ⟨crashConfidence 21 5 0, ?_⟩)
  rw [same, isTenant]
  decide +kernel

/-- **A hypothesis is evaluated with an old confidence.** The second calibration of the leak is the most
recent one, and the task keeps the first. -/
theorem oldest_confidence_used : ∃ state : EvaluationState,
    (evaluationCycles reliableService).Reachable (fun _ _ => True) recalibratedTables.idle state ∧
    getConfidence 1 .hypothesis leakHypothesis.id state.confidences = some (crashConfidence 22 5 1) ∧
    ∃ task ∈ state.tasks, leakHypothesis ∈ task.held ∧
      confidenceFor leakHypothesis task.kept = some (crashConfidence 21 5 0) := by
  have ran : ((evaluationCycles reliableService).run recalibratedTables.idle
      (.cycle :: List.replicate 3 (.advance 0 0))).any (fun state =>
        decide (getConfidence 1 .hypothesis leakHypothesis.id state.confidences =
            some (crashConfidence 22 5 1) ∧
          ∃ task ∈ state.tasks, leakHypothesis ∈ task.held ∧
            confidenceFor leakHypothesis task.kept = some (crashConfidence 21 5 0))) = true := by
    decide +kernel
  obtain ⟨state, -, reached, used⟩ := Transition.System.run_reaches ran
  exact ⟨state, reached, used⟩

end CosMonitor
