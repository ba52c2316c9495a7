/-
**The evidence that an evaluation sees.**

A task reads the evidence of its batch once, from the earliest `generated_at` of the batch on, and evaluates
every hypothesis of the batch against it.

* `evidenceWindow`: what is read for a batch;
* `batchEvaluation`: the evaluation of one hypothesis of a batch; `advanceEvaluation_batch`: so a task does it;
* `evidenceWindow_own_iff`: a hypothesis sees exactly its own evidence when none was organized between the
  start of the batch and its own;
* `batchEvaluation_eq_iff`: two batches evaluate it alike when none was organized between their starts;
* `evidence_window_iff`: both together, and `batch_mate_confirms`, a batch-mate that confirms a hypothesis.
-/

import CosMonitor.Evaluation.ConfidenceChoice

namespace CosMonitor

open Table

/-! ### Windows -/

section Windows

/-- What is read for the candidates of a batch. -/
def evidenceWindow (tenantId : Uuid) (candidates : List Hypothesis) (rows : List Evidence) :
    List Evidence :=
  match candidates with
  | [] => []
  | first :: rest =>
      let oldestGenerated := (rest.map Hypothesis.generatedAt).foldl min first.generatedAt
      listEvidenceSince tenantId oldestGenerated rows

variable {tenantId : Uuid} {candidates others : List Hypothesis} {hypothesis : Hypothesis}
  {rows : List Evidence} {since later : Timestamp}

theorem oldestGenerated_le_iff {first bound : Timestamp} :
    (candidates.map Hypothesis.generatedAt).foldl min first ≤ bound ↔
      first ≤ bound ∨ ∃ mate ∈ candidates, mate.generatedAt ≤ bound := by
  induction candidates generalizing first with
  | nil => simp
  | cons mate rest ih =>
      rw [List.map_cons, List.foldl_cons, ih, min_le_iff, List.exists_mem_cons_iff, or_assoc]

theorem mem_listEvidenceSince {evidence : Evidence} :
    evidence ∈ listEvidenceSince tenantId since rows ↔
      evidence ∈ rows ∧ evidence.tenantId = tenantId ∧ since ≤ evidence.organizedAt := by
  unfold listEvidenceSince Sorting.sortByDesc
  rw [List.mem_filter, (List.perm_insertionSort _ _).mem_iff, List.mem_filter, decide_eq_true_iff,
    decide_eq_true_iff, and_assoc]

theorem listEvidenceSince_sublist (before : since ≤ later) :
    (listEvidenceSince tenantId later rows).Sublist (listEvidenceSince tenantId since rows) :=
  List.monotone_filter_right _ fun _ included =>
    decide_eq_true (before.trans (of_decide_eq_true included))

/-- **Two windows are the same** exactly when they have the same evidence. -/
theorem listEvidenceSince_eq_iff :
    listEvidenceSince tenantId since rows = listEvidenceSince tenantId later rows ↔
      ∀ evidence ∈ rows, evidence.tenantId = tenantId →
        (since ≤ evidence.organizedAt ↔ later ≤ evidence.organizedAt) := by
  constructor
  · intro same evidence stored isTenant
    have listed : evidence ∈ listEvidenceSince tenantId since rows ↔
        evidence ∈ listEvidenceSince tenantId later rows := by rw [same]
    rw [mem_listEvidenceSince, mem_listEvidenceSince] at listed
    exact ⟨fun after => (listed.mp ⟨stored, isTenant, after⟩).2.2,
      fun after => (listed.mpr ⟨stored, isTenant, after⟩).2.2⟩
  · intro same
    refine List.filter_congr fun evidence listed => decide_eq_decide.mpr ?_
    obtain ⟨stored, isTenant⟩ := List.mem_filter.mp ((List.perm_insertionSort _ _).mem_iff.mp listed)
    exact same evidence stored (of_decide_eq_true isTenant)

theorem listEvidenceSince_eq_of_length (same : (listEvidenceSince tenantId since rows).length =
    (listEvidenceSince tenantId later rows).length) :
    listEvidenceSince tenantId since rows = listEvidenceSince tenantId later rows := by
  rcases le_total since later with before | after
  · exact ((listEvidenceSince_sublist before).eq_of_length same.symm).symm
  · exact (listEvidenceSince_sublist after).eq_of_length same

theorem evidenceWindow_since (member : hypothesis ∈ candidates) :
    ∃ since, evidenceWindow tenantId candidates rows = listEvidenceSince tenantId since rows ∧
      ∀ bound, since ≤ bound ↔ ∃ mate ∈ candidates, mate.generatedAt ≤ bound := by
  cases candidates with
  | nil => cases member
  | cons first rest =>
      refine ⟨_, rfl, fun bound => ?_⟩
      rw [oldestGenerated_le_iff, List.exists_mem_cons_iff]

/-- **A hypothesis sees exactly its own evidence** when none was organized between the start of its batch and
its own. -/
theorem evidenceWindow_own_iff (member : hypothesis ∈ candidates) :
    evidenceWindow tenantId candidates rows =
        listEvidenceSince tenantId hypothesis.generatedAt rows ↔
      ∀ evidence ∈ rows, evidence.tenantId = tenantId →
        ∀ mate ∈ candidates, mate.generatedAt ≤ evidence.organizedAt →
          hypothesis.generatedAt ≤ evidence.organizedAt := by
  obtain ⟨since, isWindow, starts⟩ := @evidenceWindow_since tenantId _ _ rows member
  rw [isWindow, listEvidenceSince_eq_iff]
  refine forall₃_congr fun evidence _ _ => ?_
  rw [starts]
  constructor
  · intro same mate isMate after
    exact same.mp ⟨mate, isMate, after⟩
  · intro own
    exact ⟨fun ⟨mate, isMate, after⟩ => own mate isMate after, fun after => ⟨hypothesis, member, after⟩⟩

end Windows

/-! ### Evaluations of a batch -/

section Batches

/-- The evaluation of one hypothesis of a batch. -/
def batchEvaluation (service : EvaluationService) (now : Timestamp) (tenantId : Uuid)
    (candidates : List Hypothesis) (evidence : List Evidence) (confidences : List Confidence)
    (hypothesis : Hypothesis) : Evaluation :=
  evaluateHypothesis service now tenantId hypothesis (evidenceWindow tenantId candidates evidence)
    (confidencesForHypotheses candidates (listConfidence tenantId 500 0 confidences))

variable {service : EvaluationService} {now : Timestamp} {tenantId : Uuid}
  {candidates others : List Hypothesis} {evidence : List Evidence} {confidences : List Confidence}
  {hypothesis : Hypothesis}

theorem batchEvaluation_congr (member : hypothesis ∈ candidates) (otherMember : hypothesis ∈ others)
    (same : evidenceWindow tenantId candidates evidence = evidenceWindow tenantId others evidence) :
    batchEvaluation service now tenantId candidates evidence confidences hypothesis =
      batchEvaluation service now tenantId others evidence confidences hypothesis := by
  unfold batchEvaluation evaluateHypothesis
  rw [same, confidenceFor_batch member, confidenceFor_batch otherMember]

/-- **Two batches evaluate a hypothesis alike** exactly when no evidence was organized between their starts.
An evaluation records the ids of the evidence that it saw. -/
theorem batchEvaluation_eq_iff (member : hypothesis ∈ candidates) (otherMember : hypothesis ∈ others) :
    batchEvaluation service now tenantId candidates evidence confidences hypothesis =
        batchEvaluation service now tenantId others evidence confidences hypothesis ↔
      ∀ item ∈ evidence, item.tenantId = tenantId →
        ((∃ mate ∈ candidates, mate.generatedAt ≤ item.organizedAt) ↔
          ∃ mate ∈ others, mate.generatedAt ≤ item.organizedAt) := by
  obtain ⟨since, isWindow, starts⟩ := @evidenceWindow_since tenantId _ _ evidence member
  obtain ⟨later, otherWindow, otherStarts⟩ := @evidenceWindow_since tenantId _ _ evidence otherMember
  simp only [← starts, ← otherStarts]
  rw [← listEvidenceSince_eq_iff]
  constructor
  · intro same
    have lengths := congrArg List.length (congrArg Evaluation.evidenceIds same)
    unfold batchEvaluation evaluateHypothesis createEvaluation at lengths
    dsimp only at lengths
    rw [List.length_map, List.length_map, isWindow, otherWindow] at lengths
    exact listEvidenceSince_eq_of_length lengths
  · intro same
    exact batchEvaluation_congr member otherMember (by rw [isWindow, otherWindow, same])

/-- **A task reads for its whole batch**, in one state the evidence and in another the confidences, and then
evaluates every hypothesis as one of the batch. -/
theorem advanceEvaluation_batch {batch : TenantBatch} (member : hypothesis ∈ batch.candidates)
    (first second : EvaluationState) (index : Nat) : ∃ read confidences,
    advanceEvaluation service now first index (.candidatesRead batch) =
      first.goOn first.toEvaluationTables index (some (.evidenceRead batch read)) ∧
    read = evidenceWindow batch.tenantId batch.candidates first.evidence ∧
    advanceEvaluation service now second index (.evidenceRead batch read) =
      second.goOn second.toEvaluationTables index (some (.evaluating batch read confidences)) ∧
    ∀ later, ∀ mate ∈ batch.candidates,
      evaluateHypothesis service later batch.tenantId mate read confidences =
        batchEvaluation service later batch.tenantId batch.candidates first.evidence second.confidences mate := by
  obtain ⟨tenantId, offset, candidates⟩ := batch
  cases candidates with
  | nil => cases member
  | cons leader rest => exact ⟨_, _, rfl, rfl, rfl, fun _ _ _ => rfl⟩

end Batches

/-! ### Runs -/

/-- **What a hypothesis is evaluated against.** A task that reads the evidence of its batch goes on with
exactly the evidence of a hypothesis, from its own `generated_at` on, if and only if no evidence of the tenant
was organized from a batch-mate's `generated_at` on and before its own. Two batches with the hypothesis
evaluate it alike if and only if no evidence of the tenant was organized from the start of one of them on and
before the start of the other. -/
theorem evidence_window_iff (service : EvaluationService) :
    (∀ (state : EvaluationState) (index : Nat) (batch : TenantBatch) (now : Timestamp),
      state.tasks[index]? = some (.candidatesRead batch) → ∀ hypothesis ∈ batch.candidates,
      ∃ evidence,
        (evaluationCycles service).step state (.advance index now) =
          some (state.goOn state.toEvaluationTables index (some (.evidenceRead batch evidence))) ∧
        (evidence = listEvidenceSince batch.tenantId hypothesis.generatedAt state.evidence ↔
          ∀ item ∈ state.evidence, item.tenantId = batch.tenantId →
            ∀ mate ∈ batch.candidates, mate.generatedAt ≤ item.organizedAt →
              hypothesis.generatedAt ≤ item.organizedAt)) ∧
    ∀ now tenantId candidates others evidence confidences, ∀ hypothesis ∈ candidates,
      hypothesis ∈ others →
      (batchEvaluation service now tenantId candidates evidence confidences hypothesis =
          batchEvaluation service now tenantId others evidence confidences hypothesis ↔
        ∀ item ∈ evidence, item.tenantId = tenantId →
          ((∃ mate ∈ candidates, mate.generatedAt ≤ item.organizedAt) ↔
            ∃ mate ∈ others, mate.generatedAt ≤ item.organizedAt)) := by
  refine ⟨fun state index batch now reading hypothesis member => ?_,
    fun now tenantId candidates others evidence confidences hypothesis member otherMember =>
      batchEvaluation_eq_iff member otherMember⟩
  obtain ⟨evidence, -, read, isWindow, -⟩ :=
    @advanceEvaluation_batch service now hypothesis batch member state state index
  refine ⟨evidence, ?_, ?_⟩
  · show (state.tasks[index]?).map _ = _
    rw [reading, Option.map_some, read]
  · rw [isWindow]
    exact evidenceWindow_own_iff member

/-! ### A batch-mate -/

/-- The leak, supposed only after the evidence about it. -/
def lateHypothesis : Hypothesis :=
  { leakHypothesis with generatedAt := 2 }

/-- The late hypothesis alone. -/
def lateTables : EvaluationTables :=
  { leakTables with
    hypotheses := [lateHypothesis]
    hypothesesKeyed := List.nodup_singleton _ }

/-- The late hypothesis next to an earlier one. -/
def matedTables : EvaluationTables :=
  { leakTables with
    hypotheses := [{ leakHypothesis with id := 6 }, lateHypothesis]
    hypothesesKeyed := by decide
    referenced := fun _ stored => nomatch stored }

/-- **A batch-mate confirms a hypothesis.** The evidence was organized before the late hypothesis was
generated. Alone it is evaluated against nothing; next to an earlier hypothesis it is confirmed. -/
theorem batch_mate_confirms : ∃ alone mated : EvaluationState,
    (evaluationCycles reliableService).Reachable (fun _ _ => True) lateTables.idle alone ∧
    (evaluationCycles reliableService).Reachable (fun _ _ => True) matedTables.idle mated ∧
    (∃ evaluation ∈ alone.evaluations, evaluation.hypothesisId = lateHypothesis.id ∧
      evaluation.evidenceIds = [] ∧ evaluation.result = .insufficient) ∧
    ∃ evaluation ∈ mated.evaluations, evaluation.hypothesisId = lateHypothesis.id ∧
      evaluation.evidenceIds = [31] ∧ evaluation.result = .confirmed := by
  have aloneRan : ((evaluationCycles reliableService).run lateTables.idle
      (.cycle :: List.replicate 4 (.advance 0 0))).any (fun state =>
        decide (∃ evaluation ∈ state.evaluations, evaluation.hypothesisId = lateHypothesis.id ∧
          evaluation.evidenceIds = [] ∧ evaluation.result = .insufficient)) = true := by
    decide +kernel
  have matedRan : ((evaluationCycles reliableService).run matedTables.idle
      (.cycle :: List.replicate 5 (.advance 0 0))).any (fun state =>
        decide (∃ evaluation ∈ state.evaluations, evaluation.hypothesisId = lateHypothesis.id ∧
          evaluation.evidenceIds = [31] ∧ evaluation.result = .confirmed)) = true := by
    decide +kernel
  obtain ⟨alone, -, aloneReached, insufficient⟩ := Transition.System.run_reaches aloneRan
  obtain ⟨mated, -, matedReached, confirmed⟩ := Transition.System.run_reaches matedRan
  exact ⟨alone, mated, aloneReached, matedReached, insufficient, confirmed⟩

end CosMonitor
