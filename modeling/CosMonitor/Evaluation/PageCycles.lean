/-
**The paging loops of the evaluation and calibration cycles.**

Both read the hypotheses of a tenant page by page, in the order of `generated_at`, by a query for each
page. How a query orders hypotheses of one instant is up to the database.

* `TieOrder`: these orders, one for each page;
* `evaluateTenant`, `calibrateTenantPages`: the loops, with the hypotheses that they have handled;
* `evaluateTenant_spec`, `calibrateTenantPages_spec`: both loops end, and handle a hypothesis of one page
  once;
* `paging_once_iff`: they handle every candidate (every hypothesis) once, whatever the orders are, exactly
  when no page ends between two hypotheses of one instant, one of them such a one.
-/

import CosMonitor.Action.Starvation
import CosMonitor.Confidence.Recalibration
import CosMonitor.Evaluation.Runs
import CosMonitor.Foundation.PageLoop

namespace CosMonitor

open Table

/-! ### The queries -/

section Queries

/-- How the database orders the hypotheses of one instant, in the query of each page. -/
abbrev TieOrder : Type :=
  Nat → Uuid → Nat

/-- The answer of the query of a page, without its limits. -/
def orderedHypotheses (order : TieOrder) (index : Nat) (rows : List Hypothesis) : List Hypothesis :=
  Sorting.sortBy (fun row => toLex (row.generatedAt, order index row.id)) rows

/-- `list_hypotheses` with the limit and the offset of a page. -/
def hypothesisPage (order : TieOrder) (size : Nat) (rows : List Hypothesis) (index : Nat) :
    List Hypothesis :=
  Paging.page size index (orderedHypotheses order index rows)

variable {order : TieOrder} {index size : Nat} {rows base : List Hypothesis}

theorem orderedHypotheses_listed (order : TieOrder) (rows : List Hypothesis) (index : Nat) :
    Paging.ListedBy Hypothesis.generatedAt rows (orderedHypotheses order index rows) := by
  refine ⟨Sorting.sortBy_perm _ _, (Sorting.pairwise_sortBy _ _).imp fun below => ?_⟩
  rcases Prod.Lex.toLex_le_toLex.mp below with less | same
  · exact le_of_lt less
  · exact le_of_eq same.1

/-- **Every answer is one for some order.** -/
theorem exists_tieOrder {orders : Nat → List Hypothesis}
    (answered : ∀ index, Paging.ListedBy Hypothesis.generatedAt rows (orders index))
    (distinct : (rows.map Hypothesis.id).Nodup) :
    ∃ order : TieOrder, ∀ index, orderedHypotheses order index rows = orders index := by
  refine ⟨fun index id => ((orders index).map Hypothesis.id).idxOf id, fun index => ?_⟩
  have nodup : ((orders index).map Hypothesis.id).Nodup :=
    ((answered index).1.map Hypothesis.id).nodup_iff.mpr distinct
  refine Sorting.sortBy_eq (answered index).1.symm (List.pairwise_iff_getElem.mpr ?_)
  intro first second firstIn secondIn before
  have position : ∀ place (inside : place < (orders index).length),
      ((orders index).map Hypothesis.id).idxOf (orders index)[place].id = place := by
    intro place inside
    have own := nodup.idxOf_getElem place (by rwa [List.length_map])
    rwa [List.getElem_map] at own
  rw [Prod.Lex.toLex_lt_toLex]
  dsimp only
  rw [position first firstIn, position second secondIn]
  rcases lt_or_eq_of_le (List.pairwise_iff_getElem.mp (answered index).2 first second firstIn secondIn
    before) with less | same
  · exact .inl less
  · exact .inr ⟨same, before⟩

/-- What a query orders by, and a row is found by. -/
def Hypothesis.place (row : Hypothesis) : Uuid × Uuid × Timestamp :=
  (row.id, row.tenantId, row.generatedAt)

theorem hypothesisPage_ids {tenantId : Uuid}
    (same : rows.map Hypothesis.place = base.map Hypothesis.place) :
    (hypothesisPage order size (ownHypotheses tenantId rows) index).map Hypothesis.id =
      (hypothesisPage order size (ownHypotheses tenantId base) index).map Hypothesis.id := by
  have places (rows : List Hypothesis) :
      (hypothesisPage order size (ownHypotheses tenantId rows) index).map Hypothesis.id =
        (Paging.page size index (Sorting.sortBy (fun place : Uuid × Uuid × Timestamp =>
          toLex (place.2.2, order index place.1)) ((rows.map Hypothesis.place).filter fun place =>
            decide (place.2.1 = tenantId)))).map Prod.fst := by
    have own : (rows.map Hypothesis.place).filter (fun place => decide (place.2.1 = tenantId)) =
        (ownHypotheses tenantId rows).map Hypothesis.place :=
      List.filter_map
    have sorted : Sorting.sortBy (fun place : Uuid × Uuid × Timestamp =>
          toLex (place.2.2, order index place.1)) ((ownHypotheses tenantId rows).map Hypothesis.place) =
        (orderedHypotheses order index (ownHypotheses tenantId rows)).map Hypothesis.place :=
      (Sorting.map_sortBy Hypothesis.place _).symm
    rw [own, sorted]
    unfold hypothesisPage Paging.page
    rw [← List.map_drop, ← List.map_take, List.map_map]
    rfl
  rw [places, places, same]

end Queries

/-! ### The evaluation loop -/

section Evaluation

variable (service : EvaluationService) (tenantId : Uuid) (clock : Uuid → Timestamp)

/-- `_evaluate_hypothesis`: save the evaluation, and carry a new conclusion over to the hypothesis. `none`
is a failure. -/
def runEvaluation (evidence : List Evidence) (confidences : List Confidence) (tables : EvaluationTables)
    (hypothesis : Hypothesis) : Option EvaluationTables :=
  let evaluation :=
    evaluateHypothesis service (clock hypothesis.id) tenantId hypothesis evidence confidences
  (tables.saveEvaluation evaluation).bind fun saved =>
    if saved.1 = true ∧ evaluation.result.concludes = true then
      (saved.2.updateHypothesisStatus tenantId hypothesis.id
        evaluation.result.name).toOption.map Prod.snd
    else some saved.2

/-- The loop over the candidates of a page. -/
def runEvaluations (evidence : List Evidence) (confidences : List Confidence) :
    List Hypothesis → EvaluationTables → Option EvaluationTables
  | [], tables => some tables
  | hypothesis :: rest, tables =>
      (runEvaluation service tenantId clock evidence confidences tables hypothesis).bind
        (runEvaluations evidence confidences rest)

/-- The work of `_evaluate_tenant` on a page. -/
def evaluatePage (tables : EvaluationTables) (page : List Hypothesis) :
    Option (List Uuid × EvaluationTables) :=
  match page.filter fun row => decide (row.status = statusCandidate) with
  | [] => some ([], tables)
  | first :: rest =>
      let oldestGenerated := (rest.map Hypothesis.generatedAt).foldl min first.generatedAt
      let newEvidence := listEvidenceSince tenantId oldestGenerated tables.evidence
      let confidences := confidencesForHypotheses (first :: rest)
        (listConfidence tenantId 500 0 tables.confidences)
      (runEvaluations service tenantId clock newEvidence confidences (first :: rest) tables).map
        fun after => ((first :: rest).map Hypothesis.id, after)

/-- `_evaluate_tenant`: the hypotheses that were evaluated, and the tables. -/
def evaluateTenant (order : TieOrder) (fuel : Nat) (tables : EvaluationTables) :
    Option (List Uuid × EvaluationTables) :=
  Paging.loop
    (fun tables index =>
      hypothesisPage order service.batchSize (ownHypotheses tenantId tables.hypotheses) index)
    (evaluatePage service tenantId clock) fuel 0 tables

variable {service tenantId clock}

/-- What an evaluation of a hypothesis leaves of the table: all places, and all other rows. -/
structure KeepsOthers (touched : List Uuid) (before after : EvaluationTables) : Prop where
  places : after.hypotheses.map Hypothesis.place = before.hypotheses.map Hypothesis.place
  others : ∀ row ∈ before.hypotheses, row.id ∉ touched → row ∈ after.hypotheses

theorem KeepsOthers.refl (tables : EvaluationTables) : KeepsOthers [] tables tables :=
  ⟨rfl, fun _ member _ => member⟩

theorem KeepsOthers.trans {first second : List Uuid} {before middle after : EvaluationTables}
    (former : KeepsOthers first before middle) (latter : KeepsOthers second middle after) :
    KeepsOthers (first ++ second) before after where
  places := latter.places.trans former.places
  others := by
    intro row member apart
    rw [List.mem_append, not_or] at apart
    exact latter.others row (former.others row member apart.1) apart.2

/-- **An evaluation of a stored hypothesis does not fail**, and touches no other row. -/
theorem runEvaluation_keeps {evidence : List Evidence} {confidences : List Confidence}
    {tables : EvaluationTables} {hypothesis : Hypothesis}
    (stored : hypothesis.id ∈ tables.hypotheses.map Hypothesis.id) :
    ∃ after, runEvaluation service tenantId clock evidence confidences tables hypothesis = some after ∧
      KeepsOthers [hypothesis.id] tables after := by
  unfold runEvaluation
  dsimp only
  generalize isEvaluation : evaluateHypothesis service (clock hypothesis.id) tenantId hypothesis evidence
    confidences = evaluation
  have known : evaluation.hypothesisId ∈ tables.hypotheses.map Hypothesis.id := by
    rw [← isEvaluation]
    exact stored
  obtain ⟨saved, accepted⟩ : ∃ saved, tables.saveEvaluation evaluation = some saved := by
    unfold EvaluationTables.saveEvaluation
    rw [dif_pos known]
    exact ⟨_, rfl⟩
  obtain ⟨-, hypotheses, -⟩ := saveEvaluation_accepted accepted
  rw [accepted, Option.bind_some]
  split
  · rename_i concludes
    obtain ⟨updated, isUpdated⟩ : ∃ updated, saved.2.updateHypothesisStatus tenantId hypothesis.id
        evaluation.result.name = .ok updated := by
      unfold EvaluationTables.updateHypothesisStatus
      rw [if_pos (EvaluationResult.name_terminal concludes.2)]
      exact ⟨_, rfl⟩
    obtain ⟨-, rows, -⟩ := updateHypothesisStatus_accepted isUpdated
    rw [hypotheses] at rows
    refine ⟨updated.2, by rw [isUpdated]; rfl, ?_, fun row member apart => ?_⟩
    · rw [rows]
      exact updateWhere_map Hypothesis.place fun _ _ _ => rfl
    · rw [rows, mem_setStatus]
      exact .inr ⟨member, fun selected => apart (List.mem_singleton.mpr selected.1)⟩
  · refine ⟨saved.2, rfl, by rw [hypotheses], fun row member _ => ?_⟩
    rw [hypotheses]
    exact member

theorem runEvaluations_keeps {evidence : List Evidence} {confidences : List Confidence}
    {tables : EvaluationTables} {hypotheses : List Hypothesis}
    (stored : ∀ hypothesis ∈ hypotheses, hypothesis.id ∈ tables.hypotheses.map Hypothesis.id) :
    ∃ after, runEvaluations service tenantId clock evidence confidences hypotheses tables =
        some after ∧ KeepsOthers (hypotheses.map Hypothesis.id) tables after := by
  induction hypotheses generalizing tables with
  | nil => exact ⟨tables, rfl, .refl tables⟩
  | cons hypothesis rest ih =>
      obtain ⟨first, others⟩ := List.forall_mem_cons.mp stored
      obtain ⟨middle, isMiddle, former⟩ := runEvaluation_keeps first
      have ids : middle.hypotheses.map Hypothesis.id = tables.hypotheses.map Hypothesis.id := by
        have places := congrArg (List.map Prod.fst) former.places
        rwa [List.map_map, List.map_map] at places
      obtain ⟨after, isAfter, latter⟩ := ih fun other member => by
        rw [ids]
        exact others other member
      refine ⟨after, ?_, former.trans latter⟩
      rw [runEvaluations, isMiddle, Option.bind_some, isAfter]

theorem evaluatePage_keeps {tables : EvaluationTables} {page : List Hypothesis}
    (stored : ∀ hypothesis ∈ page, hypothesis.id ∈ tables.hypotheses.map Hypothesis.id) :
    ∃ after, evaluatePage service tenantId clock tables page =
        some ((page.filter fun row => decide (row.status = statusCandidate)).map Hypothesis.id, after) ∧
      KeepsOthers (page.map Hypothesis.id) tables after := by
  unfold evaluatePage
  generalize chosen : page.filter (fun row => decide (row.status = statusCandidate)) = candidates
  have part : candidates ⊆ page := by
    rw [← chosen]
    exact List.filter_sublist.subset
  cases candidates with
  | nil => exact ⟨tables, rfl, rfl, fun _ member _ => member⟩
  | cons first rest =>
      obtain ⟨after, isAfter, keeps⟩ :=
        runEvaluations_keeps fun hypothesis member => stored hypothesis (part member)
      dsimp only
      rw [isAfter]
      refine ⟨after, rfl, keeps.places, fun row member apart => keeps.others row member fun touched => ?_⟩
      exact apart (List.map_subset _ part touched)

/-- A hypothesis of the tenant is still a candidate. -/
def StillCandidate (tenantId : Uuid) (tables : EvaluationTables) (id : Uuid) : Prop :=
  ∃ row ∈ ownHypotheses tenantId tables.hypotheses, row.id = id ∧ row.status = statusCandidate

/-- The ids on the pages of a tenant. -/
def tenantPages (order : TieOrder) (size : Nat) (rows : List Hypothesis) : Nat → List Uuid :=
  Paging.pageIds Hypothesis.id size fun index => orderedHypotheses order index rows

theorem nodup_ownHypotheses {rows : List Hypothesis} (keyed : (rows.map Hypothesis.id).Nodup) :
    ((ownHypotheses tenantId rows).map Hypothesis.id).Nodup :=
  keyed.sublist (List.filter_sublist.map Hypothesis.id)

/-- **The evaluation loop follows the law of loops over pages**, whatever it concludes on the way. -/
theorem evaluation_laws (base : EvaluationTables) (order : TieOrder) :
    Paging.PageLaws
      (fun tables index =>
        hypothesisPage order service.batchSize (ownHypotheses tenantId tables.hypotheses) index)
      (evaluatePage service tenantId clock) Hypothesis.id
      (tenantPages order service.batchSize (ownHypotheses tenantId base.hypotheses))
      (fun tables => tables.hypotheses.map Hypothesis.place = base.hypotheses.map Hypothesis.place)
      (StillCandidate tenantId) where
  listed := fun tables index same => hypothesisPage_ids same
  works := by
    intro tables index same
    have ids : (hypothesisPage order service.batchSize
          (ownHypotheses tenantId tables.hypotheses) index).map Hypothesis.id =
        tenantPages order service.batchSize (ownHypotheses tenantId base.hypotheses) index :=
      hypothesisPage_ids same
    rw [← ids]
    generalize isPage : hypothesisPage order service.batchSize (ownHypotheses tenantId tables.hypotheses)
      index = page
    have listed : ∀ row ∈ page, row ∈ ownHypotheses tenantId tables.hypotheses := by
      intro row member
      rw [← isPage] at member
      exact (orderedHypotheses_listed order _ index).1.mem_iff.mp
        (List.mem_of_mem_drop (List.mem_of_mem_take member))
    have stored : ∀ row ∈ page, row.id ∈ tables.hypotheses.map Hypothesis.id := fun row member =>
      List.mem_map_of_mem (List.mem_filter.mp (listed row member)).1
    obtain ⟨after, isAfter, keeps⟩ := evaluatePage_keeps stored
    refine ⟨_, after, isAfter, keeps.places.trans same, fun item apart => ⟨?_, ?_⟩, ?_⟩
    · exact List.count_eq_zero.mpr fun handled =>
        apart (List.map_subset _ List.filter_sublist.subset handled)
    · rintro ⟨row, own, rfl, candidate⟩
      obtain ⟨member, isTenant⟩ := List.mem_filter.mp own
      exact ⟨row, List.mem_filter.mpr ⟨keeps.others row member apart, isTenant⟩, rfl, candidate⟩
    · rintro item ⟨row, own, rfl, candidate⟩
      -- A row of the page with this id is the candidate itself.
      rw [List.count, List.countP_map, List.countP_map, List.countP_filter]
      refine List.countP_congr fun other onPage => ?_
      simp only [Function.comp_apply, beq_iff_eq, Bool.and_eq_true, decide_eq_true_eq]
      refine and_iff_left_of_imp fun sameId => ?_
      rw [List.inj_on_of_nodup_map (nodup_ownHypotheses tables.hypothesesKeyed) (listed other onPage)
        own sameId]
      exact candidate

theorem evaluateTenant_spec (service : EvaluationService) (tenantId : Uuid) (clock : Uuid → Timestamp)
    (order : TieOrder) (base : EvaluationTables) {fuel : Nat}
    (enough : (ownHypotheses tenantId base.hypotheses).length < fuel) :
    ∃ evaluated after, evaluateTenant service tenantId clock order fuel base =
        some (evaluated, after) ∧
      ∀ hypothesis ∈ ownHypotheses tenantId base.hypotheses, hypothesis.status = statusCandidate →
        ((∀ index, hypothesis.id ∉ tenantPages order service.batchSize
            (ownHypotheses tenantId base.hypotheses) index) → evaluated.count hypothesis.id = 0) ∧
        (0 < service.batchSize → Paging.Whole Hypothesis.generatedAt
            (ownHypotheses tenantId base.hypotheses) service.batchSize hypothesis →
          evaluated.count hypothesis.id = 1) := by
  have answered := orderedHypotheses_listed order (ownHypotheses tenantId base.hypotheses)
  obtain ⟨evaluated, after, ended, none, once⟩ := Paging.loop_from
    (evaluation_laws base order) (fun _ beyond => Paging.pageIds_past answered beyond)
    (show 0 < fuel by omega)
    (show (ownHypotheses tenantId base.hypotheses).length < 0 + fuel by omega) rfl
  refine ⟨evaluated, after, ended, fun hypothesis own candidate => ⟨fun absent => ?_, ?_⟩⟩
  · exact none hypothesis.id fun index _ => absent index
  · intro positive whole
    obtain ⟨single, only, filled⟩ :=
      whole.pageIds positive own answered (nodup_ownHypotheses base.hypothesesKeyed)
    exact once hypothesis.id _ ⟨hypothesis, own, rfl, candidate⟩ (Nat.zero_le _) single only filled

end Evaluation

/-! ### The calibration loop -/

section Calibration

variable (std : Stdlib) (math : MathLib) (service : ConfidenceService) (confidences : List Confidence)
  (tenant : TenantRows) (now : Timestamp)

/-- The work of `_calibrate_tenant` on a page: the targets of the confidences that it persists. -/
def calibratePage (page : List Hypothesis) : Option (List Uuid × Unit) :=
  match calibrateHypotheses std math service confidences tenant now page with
  | (persisted, none) => some (persisted.map (fun row => row.targetId), ())
  | (_, some _) => none

/-- The loop of `_calibrate_tenant`: the hypotheses that were calibrated. -/
def calibrateTenantPages (order : TieOrder) (fuel : Nat) : Option (List Uuid) :=
  (Paging.loop (fun _ index => hypothesisPage order service.batchSize tenant.hypotheses index)
    (fun _ => calibratePage std math service confidences tenant now) fuel 0 ()).map Prod.fst

/-- No calibration of the tenant fails. -/
def CalibrationsSucceed : Prop :=
  std.uuid5Bytes.isSome = true ∧ ∀ hypothesis ∈ tenant.hypotheses, ∃ create,
    calibrateFrom std math service confidences tenant tenant.evidence hypothesis = .ok create

variable {std math service confidences tenant now}

theorem calibrate_target {hypothesis : Hypothesis} {evidence scope : List Evidence}
    {inputs : CoherenceInputs} {params : CalibrationParams} {historical : Option (List OutcomePair)}
    {create : ConfidenceCreate}
    (returned : calibrate math hypothesis evidence scope inputs params historical = .ok create) :
    create.targetId = hypothesis.id := by
  have ran : CalibrationRun.calibrate math hypothesis ⟨evidence, scope, inputs, params, historical⟩ =
      .ok create := returned
  exact (calibrate_content ran).1.2.2

theorem calibrateHypotheses_targets {hypotheses : List Hypothesis} {hash : Uuid → List UInt8 → Uuid}
    (supported : std.uuid5Bytes = some hash) (succeed : ∀ hypothesis ∈ hypotheses, ∃ create,
      calibrateFrom std math service confidences tenant tenant.evidence hypothesis = .ok create) :
    ∃ persisted, calibrateHypotheses std math service confidences tenant now hypotheses =
        (persisted, none) ∧
      (persisted.map fun row => row.targetId) = hypotheses.map Hypothesis.id := by
  induction hypotheses with
  | nil => exact ⟨[], rfl, rfl⟩
  | cons hypothesis rest ih =>
      obtain ⟨⟨create, returned⟩, others⟩ := List.forall_mem_cons.mp succeed
      obtain ⟨persisted, isPersisted, targets⟩ := ih others
      obtain ⟨confidence, built⟩ := buildConfidence_returns now create supported
      refine ⟨confidence :: persisted, ?_, ?_⟩
      · rw [calibrateHypotheses, returned]
        dsimp only
        rw [built]
        dsimp only
        rw [isPersisted]
      · obtain ⟨_, -, rfl⟩ := buildConfidence_eq_ok.mp built
        rw [List.map_cons, List.map_cons, targets]
        exact congrArg (· :: _) (calibrate_target returned)

/-- **The calibration loop follows the law of loops over pages.** -/
theorem calibration_laws (succeed : CalibrationsSucceed std math service confidences tenant)
    (order : TieOrder) :
    Paging.PageLaws (fun _ index => hypothesisPage order service.batchSize tenant.hypotheses index)
      (fun _ => calibratePage std math service confidences tenant now) Hypothesis.id
      (tenantPages order service.batchSize tenant.hypotheses) (fun _ : Unit => True)
      (fun _ _ => True) where
  listed := fun _ _ _ => rfl
  works := by
    intro _ index _
    obtain ⟨hash, supported⟩ := Option.isSome_iff_exists.mp succeed.1
    have listed : ∀ row ∈ hypothesisPage order service.batchSize tenant.hypotheses index,
        row ∈ tenant.hypotheses := fun row member =>
      (orderedHypotheses_listed order _ index).1.mem_iff.mp
        (List.mem_of_mem_drop (List.mem_of_mem_take member))
    obtain ⟨persisted, isPersisted, targets⟩ : ∃ persisted,
        calibrateHypotheses std math service confidences tenant now
          (hypothesisPage order service.batchSize tenant.hypotheses index) = (persisted, none) ∧ _ :=
      calibrateHypotheses_targets supported fun row member => succeed.2 row (listed row member)
    refine ⟨persisted.map (fun row => row.targetId), (), ?_, trivial, fun item apart => ⟨?_, id⟩,
      fun item _ => ?_⟩
    · rw [calibratePage, isPersisted]
    · rw [targets]
      exact List.count_eq_zero.mpr apart
    · rw [targets]
      rfl

theorem calibrateTenantPages_spec
    (succeed : CalibrationsSucceed std math service confidences tenant)
    (keyed : (tenant.hypotheses.map Hypothesis.id).Nodup) (order : TieOrder) {fuel : Nat}
    (enough : tenant.hypotheses.length < fuel) :
    ∃ calibrated,
      calibrateTenantPages std math service confidences tenant now order fuel = some calibrated ∧
      ∀ hypothesis ∈ tenant.hypotheses,
        ((∀ index, hypothesis.id ∉ tenantPages order service.batchSize tenant.hypotheses index) →
          calibrated.count hypothesis.id = 0) ∧
        (Paging.Whole Hypothesis.generatedAt tenant.hypotheses service.batchSize hypothesis →
          calibrated.count hypothesis.id = 1) := by
  have answered := orderedHypotheses_listed order tenant.hypotheses
  obtain ⟨calibrated, after, ended, none, once⟩ := Paging.loop_from
    (calibration_laws succeed order) (fun _ beyond => Paging.pageIds_past answered beyond)
    (show 0 < fuel by omega) (show tenant.hypotheses.length < 0 + fuel by omega) trivial
  refine ⟨calibrated, ?_, fun hypothesis member => ⟨fun absent => ?_, fun whole => ?_⟩⟩
  · rw [calibrateTenantPages, ended, Option.map_some]
  · exact none hypothesis.id fun index _ => absent index
  · obtain ⟨single, only, filled⟩ := whole.pageIds service.batchPositive member answered keyed
    exact once hypothesis.id _ trivial (Nat.zero_le _) single only filled

end Calibration

/-! ### Once each -/

section Once

theorem exists_hiding {rows : List Hypothesis} {hypothesis : Hypothesis} {size : Nat}
    (keyed : (rows.map Hypothesis.id).Nodup) (member : hypothesis ∈ rows)
    (torn : ¬(0 < size ∧ Paging.Whole Hypothesis.generatedAt rows size hypothesis)) :
    ∃ order : TieOrder, ∀ index, hypothesis.id ∉ tenantPages order size rows index := by
  rcases Nat.eq_zero_or_pos size with rfl | positive
  · refine ⟨fun _ _ => 0, fun index => ?_⟩
    simp [tenantPages, Paging.pageIds, Paging.page]
  · have distinct : rows.Nodup := List.Nodup.of_map _ keyed
    obtain ⟨orders, answered, hidden⟩ := Paging.exists_unscanned distinct member fun whole =>
      torn ⟨positive, whole⟩
    obtain ⟨order, same⟩ := exists_tieOrder answered keyed
    refine ⟨order, fun index inside => hidden index ?_⟩
    have listed := orderedHypotheses_listed order rows
    rw [← same index]
    exact (Paging.mem_pageIds listed keyed member).mp inside

/-- **When the cycles handle everybody once.** Whatever the orders of hypotheses of one instant are, the
loop of an evaluation cycle without failures ends, after a query for each hypothesis of the tenant at the
most and an empty one, and evaluates each candidate once, exactly when the pages are not empty and no page
ends between a candidate and another hypothesis of its instant. The loop of a calibration cycle ends so and
calibrates each hypothesis once, exactly when no page ends between two of one instant. -/
theorem paging_once_iff (evaluations : EvaluationService) (tenantId : Uuid) (clock : Uuid → Timestamp)
    (tables : EvaluationTables) (std : Stdlib) (math : MathLib) (calibrations : ConfidenceService)
    (confidences : List Confidence) (tenant : TenantRows) (now : Timestamp)
    (keyed : (tenant.hypotheses.map Hypothesis.id).Nodup)
    (succeed : CalibrationsSucceed std math calibrations confidences tenant) :
    ((∀ order : TieOrder, ∃ evaluated after,
        evaluateTenant evaluations tenantId clock order
          ((ownHypotheses tenantId tables.hypotheses).length + 1) tables = some (evaluated, after) ∧
        ∀ hypothesis ∈ ownHypotheses tenantId tables.hypotheses,
          hypothesis.status = statusCandidate → evaluated.count hypothesis.id = 1) ↔
      ∀ hypothesis ∈ ownHypotheses tenantId tables.hypotheses, hypothesis.status = statusCandidate →
        0 < evaluations.batchSize ∧ Paging.Whole Hypothesis.generatedAt
          (ownHypotheses tenantId tables.hypotheses) evaluations.batchSize hypothesis) ∧
    ((∀ order : TieOrder, ∃ calibrated,
        calibrateTenantPages std math calibrations confidences tenant now order
          (tenant.hypotheses.length + 1) = some calibrated ∧
        ∀ hypothesis ∈ tenant.hypotheses, calibrated.count hypothesis.id = 1) ↔
      ∀ hypothesis ∈ tenant.hypotheses,
        Paging.Whole Hypothesis.generatedAt tenant.hypotheses calibrations.batchSize hypothesis) := by
  constructor
  · constructor
    · intro all hypothesis own candidate
      by_contra torn
      obtain ⟨order, hidden⟩ := exists_hiding (nodup_ownHypotheses tables.hypothesesKeyed) own torn
      obtain ⟨evaluated, after, ended, counts⟩ :=
        evaluateTenant_spec evaluations tenantId clock order tables (Nat.lt_succ_self _)
      obtain ⟨other, last, ended', once⟩ := all order
      obtain ⟨rfl, -⟩ := Prod.mk.inj (Option.some.inj (ended'.symm.trans ended))
      have none := (counts hypothesis own candidate).1 hidden
      rw [once hypothesis own candidate] at none
      cases none
    · intro whole order
      obtain ⟨evaluated, after, ended, counts⟩ :=
        evaluateTenant_spec evaluations tenantId clock order tables (Nat.lt_succ_self _)
      refine ⟨evaluated, after, ended, fun hypothesis own candidate => ?_⟩
      obtain ⟨positive, together⟩ := whole hypothesis own candidate
      exact (counts hypothesis own candidate).2 positive together
  · constructor
    · intro all hypothesis member
      by_contra torn
      obtain ⟨order, hidden⟩ := exists_hiding keyed member fun both => torn both.2
      obtain ⟨calibrated, ended, counts⟩ :=
        calibrateTenantPages_spec succeed keyed order (Nat.lt_succ_self _)
      obtain ⟨other, ended', once⟩ := all order
      obtain rfl := Option.some.inj (ended'.symm.trans ended)
      have none := (counts hypothesis member).1 hidden
      rw [once hypothesis member] at none
      cases none
    · intro whole order
      obtain ⟨calibrated, ended, counts⟩ :=
        calibrateTenantPages_spec succeed keyed order (Nat.lt_succ_self _)
      exact ⟨calibrated, ended, fun hypothesis member => (counts hypothesis member).2
        (whole hypothesis member)⟩

end Once

/-! ### Two hypotheses of one instant -/

/-- A service that reads one hypothesis at a time. -/
def singleService : EvaluationService :=
  { reliableService with batchSize := 1 }

/-- Two explanations of one cycle, and no evidence. -/
def twinTables : EvaluationTables where
  hypotheses := [explanationOf 5 4, explanationOf 9 8]
  evidence := []
  confidences := []
  evaluations := []
  hypothesesKeyed := by decide
  evaluationsKeyed := List.nodup_nil
  referenced := fun _ stored => nomatch stored

/-- The first query lists them in the order of their ids, and each later one in the other order. -/
def turningOrder : TieOrder :=
  fun index id => if index = 0 then id.val else 100 - id.val

instance : Decidable (CalibrationsSucceed std math service confidences tenant) :=
  decidable_of_iff (std.uuid5Bytes.isSome = true ∧ ∀ hypothesis ∈ tenant.hypotheses,
      (calibrateFrom std math service confidences tenant tenant.evidence hypothesis).toOption.isSome = true)
    (and_congr_right fun _ => forall₂_congr fun hypothesis _ => by
      cases calibrateFrom std math service confidences tenant tenant.evidence hypothesis <;>
        simp [Except.toOption])

/-- **Both pages hold the same one of two explanations.** The cycle evaluates it twice, and the other one
never. -/
theorem twin_skipped : evaluateTenant singleService 1 (fun _ => 0) turningOrder 3 twinTables ≠ none ∧
    ¬∃ evaluated after,
      evaluateTenant singleService 1 (fun _ => 0) turningOrder 3 twinTables = some (evaluated, after) ∧
      ∀ hypothesis ∈ ownHypotheses 1 twinTables.hypotheses,
        hypothesis.status = statusCandidate → evaluated.count hypothesis.id = 1 := by
  have ran : (evaluateTenant singleService 1 (fun _ => 0) turningOrder 3 twinTables).map Prod.fst =
      some [5, 5] := by
    decide +kernel
  obtain ⟨⟨evaluated, after⟩, isRun, rfl⟩ := Option.map_eq_some_iff.mp ran
  refine ⟨by rw [isRun]; exact Option.some_ne_none _, ?_⟩
  rintro ⟨other, last, ended, once⟩
  obtain ⟨rfl, -⟩ := Prod.mk.inj (Option.some.inj (isRun.symm.trans ended))
  exact absurd (once (explanationOf 9 8) (by decide +kernel) rfl) (by decide)

/-- Where one page holds both, the cycle evaluates each of them once, and so it calibrates a single one. -/
theorem paging_once_two :
    (∃ evaluated after,
      evaluateTenant reliableService 1 (fun _ => 0) turningOrder 3 twinTables = some (evaluated, after) ∧
      evaluated.count 5 = 1 ∧ evaluated.count 9 = 1) ∧
    ∀ tenant ∈ oneScope.tenants, ∃ calibrated,
      calibrateTenantPages tabulatedStd tabulatedMath (loadParams (1 / 2) 10) [] tenant 0 turningOrder
        (tenant.hypotheses.length + 1) = some calibrated ∧
      ∀ hypothesis ∈ tenant.hypotheses, calibrated.count hypothesis.id = 1 := by
  have conditions : ∀ tenant ∈ oneScope.tenants, (tenant.hypotheses.map Hypothesis.id).Nodup ∧
      CalibrationsSucceed tabulatedStd tabulatedMath (loadParams (1 / 2) 10) [] tenant ∧
      tenant.hypotheses.length ≤ (loadParams (1 / 2) 10).batchSize := by
    decide +kernel
  constructor
  · have present : ∃ tenant, tenant ∈ oneScope.tenants := ⟨_, List.mem_singleton_self _⟩
    obtain ⟨tenant, tenantIn⟩ := present
    obtain ⟨keyed, succeed, -⟩ := conditions tenant tenantIn
    obtain ⟨evaluated, after, ended, once⟩ := (paging_once_iff reliableService 1 (fun _ => 0)
      twinTables tabulatedStd tabulatedMath (loadParams (1 / 2) 10) [] tenant 0 keyed succeed).1.mpr
      (fun hypothesis _ _ => ⟨by decide, Paging.Whole.of_length_le (by decide +kernel)⟩) turningOrder
    exact ⟨evaluated, after, ended, once (explanationOf 5 4) (by decide +kernel) rfl,
      once (explanationOf 9 8) (by decide +kernel) rfl⟩
  · intro tenant tenantIn
    obtain ⟨keyed, succeed, fits⟩ := conditions tenant tenantIn
    exact (paging_once_iff reliableService 1 (fun _ => 0) twinTables tabulatedStd tabulatedMath
      (loadParams (1 / 2) 10) [] tenant 0 keyed succeed).2.mpr
      (fun hypothesis _ => Paging.Whole.of_length_le fits) turningOrder

end CosMonitor
