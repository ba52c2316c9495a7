/-
**Runs of the evaluation cycles — what becomes of a conclusion.**

A task updates a status on the strength of a row that it read earlier, and in a statement of its own after
the one that inserts the evaluation.

* `terminal_absorbing`: a terminal status stays, as long as every update finds the row that it was decided
  on; in runs of cycles that do not overlap it does;
* `stale_conclusion`: two overlapping cycles, and the second one turns a confirmed hypothesis into a
  falsified one;
* `conclusions_recorded`: between cycles that do not overlap, the evaluations and the statuses agree, as
  long as no task fails between the two statements;
* `crash_between_writes`: a task that does, and a whole cycle after it that repairs nothing.
-/

import CosMonitor.Action.PipelineSteps
import CosMonitor.Evaluation.Cycle

namespace CosMonitor

open Table

/-! ### Held rows -/

section Held

variable {service : EvaluationService} {event : EvaluationEvent} {before after : EvaluationState}
  {task next : EvaluationTask}

theorem EvaluationTask.pending_held {hypothesis : Hypothesis} {result : EvaluationResult}
    (pending : task.pending = some (hypothesis, result)) : hypothesis ∈ task.held := by
  cases task with
  | concluding own _ _ batch _ _ =>
      rw [show hypothesis = own from (congrArg Prod.fst (Option.some.inj pending)).symm]
      exact List.mem_cons_self
  | listing _ _ | candidatesRead _ | evidenceRead _ _ | evaluating _ _ _ => cases pending

theorem mem_listCandidates {tenantId : Uuid} {offset : Nat} {rows : List Hypothesis}
    {hypothesis : Hypothesis} (listed : hypothesis ∈ listCandidates service tenantId offset rows) :
    hypothesis ∈ rows ∧ hypothesis.status = statusCandidate ∧ hypothesis.tenantId = tenantId := by
  obtain ⟨onPage, isCandidate⟩ := List.mem_filter.mp listed
  obtain ⟨stored, ofTenant⟩ := mem_listHypotheses onPage
  exact ⟨stored, of_decide_eq_true isCandidate, ofTenant⟩

/-- Every row that a task holds was a candidate of its tenant. -/
def EvaluationState.HoldsCandidates (state : EvaluationState) : Prop :=
  ∀ task ∈ state.tasks, ∀ hypothesis ∈ task.held,
    hypothesis.status = statusCandidate ∧ hypothesis.tenantId = task.tenantId

theorem EvaluationTask.Follows.candidates (follows : task.Follows service before next)
    (held : ∀ hypothesis ∈ task.held,
      hypothesis.status = statusCandidate ∧ hypothesis.tenantId = task.tenantId) :
    ∀ hypothesis ∈ next.held,
      hypothesis.status = statusCandidate ∧ hypothesis.tenantId = next.tenantId := by
  intro hypothesis member
  rw [follows.sameTenant]
  rcases follows.held with part | ⟨offset, listed⟩
  · exact held hypothesis (part.subset member)
  · rw [listed] at member
    exact (mem_listCandidates member).2

theorem holdsCandidates_resume {index : Nat} {goesOn : Option EvaluationTask}
    (holds : before.HoldsCandidates)
    (tasks : after.tasks = Tasks.resume index goesOn before.tasks)
    (held : ∀ other, goesOn = some other → ∀ hypothesis ∈ other.held,
      hypothesis.status = statusCandidate ∧ hypothesis.tenantId = other.tenantId) :
    after.HoldsCandidates := by
  intro other member
  rw [tasks] at member
  rcases Tasks.mem_resume member with old | isNext
  · exact holds other old
  · exact held other isNext

theorem EvaluationState.HoldsCandidates.step (holds : before.HoldsCandidates)
    (moved : EvaluationMove service before event after) : after.HoldsCandidates := by
  cases moved with
  | wrote _ _ tasks | updated _ _ tasks =>
      unfold HoldsCandidates
      rw [tasks]
      exact holds
  | cycled _ _ tasks =>
      intro other member
      rw [tasks] at member
      rcases List.mem_append.mp member with old | started
      · exact holds other old
      · obtain ⟨tenantId, -, rfl⟩ := List.mem_map.mp started
        intro hypothesis isHeld
        cases isHeld
  | wentOn current _ _ _ tasks follows =>
      refine holdsCandidates_resume holds tasks fun other isNext => ?_
      exact (follows other isNext).2.candidates (holds _ (List.mem_of_getElem? current))
  | evaluated current _ _ _ _ _ tasks follows _ =>
      refine holdsCandidates_resume holds tasks fun other isNext => ?_
      obtain rfl := Option.some.inj isNext
      exact follows.candidates (holds _ (List.mem_of_getElem? current))
  | concluded current _ held _ _ tasks sameTenant _ =>
      refine holdsCandidates_resume holds tasks fun other isNext => ?_
      obtain rfl := Option.some.inj isNext
      intro hypothesis isHeld
      rw [sameTenant]
      refine holds _ (List.mem_of_getElem? current) hypothesis ?_
      rw [held]
      exact List.mem_cons_of_mem _ isHeld
  | failed _ _ tasks =>
      exact holdsCandidates_resume holds tasks fun other isNext => nomatch isNext

end Held

/-! ### Terminal statuses -/

section Absorbing

variable {service : EvaluationService} {event : EvaluationEvent} {before after : EvaluationState}

/-- An update finds the row that it was decided on, or the status that it sets. A task decides on the row
that it holds, and `update_hypothesis_status` is meant for a candidate. -/
def CurrentUpdate (before : EvaluationState) : EvaluationEvent → Prop
  | .advance index _ => ∀ task, before.tasks[index]? = some task → ∀ hypothesis result,
      task.pending = some (hypothesis, result) → ∀ row ∈ before.hypotheses, row.id = hypothesis.id →
        row.tenantId = task.tenantId → row = hypothesis ∨ row.status = result.name
  | .updateStatus tenantId hypothesisId status => ∀ row ∈ before.hypotheses,
      row.id = hypothesisId → row.tenantId = tenantId →
        row.status = statusCandidate ∨ row.status = status
  | _ => True

theorem mem_setStatus_of_same {tenantId hypothesisId : Uuid} {status : String}
    {rows : List Hypothesis} {row : Hypothesis} (stored : row ∈ rows)
    (same : row.id = hypothesisId → row.tenantId = tenantId → row.status = status) :
    row ∈ setStatus tenantId hypothesisId status rows := by
  rw [mem_setStatus]
  by_cases selected : row.id = hypothesisId ∧ row.tenantId = tenantId
  · refine .inl ⟨row, stored, selected, ?_⟩
    rw [← same selected.1 selected.2]
  · exact .inr ⟨stored, selected⟩

theorem terminal_step (holds : before.HoldsCandidates) (current : CurrentUpdate before event)
    (moved : EvaluationMove service before event after) {row : Hypothesis}
    (stored : row ∈ before.hypotheses) (terminal : row.status ∈ terminalStatuses) :
    row ∈ after.hypotheses := by
  have notCandidate : row.status ≠ statusCandidate := by
    intro isCandidate
    rw [isCandidate] at terminal
    exact candidate_not_terminal terminal
  cases moved with
  | wrote hypotheses _ _ =>
      rcases hypotheses with same | ⟨hypothesis, inserted⟩
      · rw [same]
        exact stored
      · rw [inserted]
        exact subset_insertAbsent _ _ _ stored
  | updated hypotheses _ _ =>
      rw [hypotheses]
      refine mem_setStatus_of_same stored fun sameId sameTenant => ?_
      exact (current row stored sameId sameTenant).resolve_left notCandidate
  | cycled hypotheses _ _ | wentOn _ _ hypotheses _ _ _ | evaluated _ _ _ _ hypotheses _ _ _ _
  | failed hypotheses _ _ =>
      rw [hypotheses]
      exact stored
  | concluded isTask pending _ hypotheses _ _ _ _ =>
      rw [hypotheses]
      refine mem_setStatus_of_same stored fun sameId sameTenant => ?_
      rcases current _ isTask _ _ pending row stored sameId sameTenant with rfl | same
      · have held := EvaluationTask.pending_held pending
        exact absurd (holds _ (List.mem_of_getElem? isTask) _ held).1 notCandidate
      · exact same

end Absorbing

/-! ### Cycles that do not overlap -/

section Sequential

variable {service : EvaluationService} {event : EvaluationEvent} {before after : EvaluationState}

/-- One service runs its cycles one after another, and is the only one to update a status. -/
def Sequential (before : EvaluationState) : EvaluationEvent → Prop
  | .cycle => before.tasks = []
  | .updateStatus _ _ _ => False
  | _ => True

/-- What the tasks of such cycles hold. -/
structure EvaluationState.Fresh (state : EvaluationState) : Prop where
  tenants : (state.tasks.map EvaluationTask.tenantId).Nodup
  heldOnce : ∀ task ∈ state.tasks, (task.held.map Hypothesis.id).Nodup
  stored : ∀ task ∈ state.tasks, ∀ hypothesis ∈ task.held, hypothesis ∈ state.hypotheses
  candidates : state.HoldsCandidates

theorem listCandidates_ids {rows : List Hypothesis} (keyed : (rows.map Hypothesis.id).Nodup)
    (tenantId : Uuid) (offset : Nat) :
    ((listCandidates service tenantId offset rows).map Hypothesis.id).Nodup := by
  have ofTenant : ((rows.filter fun row => decide (row.tenantId = tenantId)).map
      Hypothesis.id).Nodup := keyed.sublist (List.filter_sublist.map _)
  have sorted := ((Sorting.sortBy_perm Hypothesis.generatedAt
    (rows.filter fun row => decide (row.tenantId = tenantId))).map Hypothesis.id).nodup_iff.mpr ofTenant
  refine sorted.sublist (List.Sublist.map _ ?_)
  exact List.filter_sublist.trans ((List.take_sublist _ _).trans (List.drop_sublist _ _))

theorem EvaluationTask.Follows.fresh {task next : EvaluationTask}
    (follows : task.Follows service before next) (heldOnce : (task.held.map Hypothesis.id).Nodup)
    (stored : ∀ hypothesis ∈ task.held, hypothesis ∈ before.hypotheses) :
    (next.held.map Hypothesis.id).Nodup ∧
      ∀ hypothesis ∈ next.held, hypothesis ∈ before.hypotheses := by
  rcases follows.held with part | ⟨offset, listed⟩
  · exact ⟨heldOnce.sublist (part.map _), fun hypothesis member =>
      stored hypothesis (part.subset member)⟩
  · rw [listed]
    exact ⟨listCandidates_ids before.hypothesesKeyed _ _, fun hypothesis member =>
      (mem_listCandidates member).1⟩

theorem EvaluationState.Fresh.resume {index : Nat} {task : EvaluationTask}
    {goesOn : Option EvaluationTask} (fresh : before.Fresh)
    (current : before.tasks[index]? = some task) (hypotheses : after.hypotheses = before.hypotheses)
    (tasks : after.tasks = Tasks.resume index goesOn before.tasks)
    (follows : ∀ other, goesOn = some other → task.Follows service before other)
    (candidates : after.HoldsCandidates) : after.Fresh := by
  have isTask : task ∈ before.tasks := List.mem_of_getElem? current
  have followed : ∀ other, goesOn = some other → _ := fun other isNext =>
    (follows other isNext).fresh (fresh.heldOnce task isTask) (fresh.stored task isTask)
  refine ⟨?_, ?_, ?_, candidates⟩
  · rw [tasks]
    exact Tasks.resume_nodup fresh.tenants current fun other isNext =>
      (follows other isNext).sameTenant
  · intro other member
    rw [tasks] at member
    rcases Tasks.mem_resume member with old | isNext
    · exact fresh.heldOnce other old
    · exact (followed other isNext).1
  · intro other member
    rw [tasks] at member
    rw [hypotheses]
    rcases Tasks.mem_resume member with old | isNext
    · exact fresh.stored other old
    · exact (followed other isNext).2

theorem mem_setStatus_of_other {tenantId hypothesisId : Uuid} {status : String}
    {rows : List Hypothesis} {row : Hypothesis} (stored : row ∈ rows)
    (other : ¬(row.id = hypothesisId ∧ row.tenantId = tenantId)) :
    row ∈ setStatus tenantId hypothesisId status rows :=
  mem_setStatus.mpr (.inr ⟨stored, other⟩)

/-- **Without overlapping cycles, what the tasks hold is stored as they read it.** -/
theorem EvaluationState.Fresh.step (fresh : before.Fresh) (sequential : Sequential before event)
    (moved : EvaluationMove service before event after) : after.Fresh := by
  have candidates := fresh.candidates.step moved
  cases moved with
  | wrote hypotheses _ tasks =>
      refine ⟨?_, ?_, ?_, candidates⟩
      · rw [tasks]
        exact fresh.tenants
      · rw [tasks]
        exact fresh.heldOnce
      · rw [tasks]
        intro task member hypothesis held
        have old := fresh.stored task member hypothesis held
        rcases hypotheses with same | ⟨_, inserted⟩
        · rwa [same]
        · rw [inserted]
          exact subset_insertAbsent _ _ _ old
  | updated => exact absurd sequential id
  | cycled hypotheses _ tasks =>
      have none : before.tasks = [] := sequential
      rw [none, List.nil_append] at tasks
      have started : ∀ task ∈ after.tasks, task.held = [] := by
        intro task member
        rw [tasks] at member
        obtain ⟨tenantId, -, rfl⟩ := List.mem_map.mp member
        rfl
      refine ⟨?_, ?_, ?_, candidates⟩
      · rw [tasks, List.map_map]
        show ((listTenantIds before.hypotheses).map id).Nodup
        rw [List.map_id]
        exact List.nodup_dedup _
      · intro task member
        rw [started task member]
        exact List.nodup_nil
      · intro task member hypothesis held
        rw [started task member] at held
        simp at held
  | wentOn current _ hypotheses _ tasks follows =>
      exact fresh.resume current hypotheses tasks (fun other isNext => (follows other isNext).2) candidates
  | evaluated current _ _ _ hypotheses _ tasks follows _ =>
      exact fresh.resume current hypotheses tasks (fun _ isNext => Option.some.inj isNext ▸ follows)
        candidates
  | @concluded index now task next hypothesis result _ current pending held hypotheses _ tasks
      sameTenant _ =>
      have isTask : task ∈ before.tasks := List.mem_of_getElem? current
      have once := fresh.heldOnce task isTask
      rw [held, List.map_cons, List.nodup_cons] at once
      refine ⟨?_, ?_, ?_, candidates⟩
      · rw [tasks]
        refine Tasks.resume_nodup fresh.tenants current fun other isNext => ?_
        rwa [← Option.some.inj isNext]
      · intro other member
        rw [tasks, Tasks.mem_resume_iff fresh.tenants current] at member
        rcases member with ⟨old, -⟩ | isNext
        · exact fresh.heldOnce other old
        · rw [← Option.some.inj isNext]
          exact once.2
      · intro other member row isHeld
        rw [tasks, Tasks.mem_resume_iff fresh.tenants current] at member
        rw [hypotheses]
        rcases member with ⟨old, otherTenant⟩ | isNext
        · -- A task of another tenant holds rows of that tenant.
          refine mem_setStatus_of_other (fresh.stored other old row isHeld) fun selected => ?_
          exact otherTenant ((fresh.candidates other old row isHeld).2.symm.trans selected.2)
        · -- The rest of the page holds other rows.
          rw [← Option.some.inj isNext] at isHeld
          have inTask : row ∈ task.held := by
            rw [held]
            exact List.mem_cons_of_mem _ isHeld
          refine mem_setStatus_of_other (fresh.stored task isTask row inTask) fun selected => ?_
          exact once.1 (selected.1 ▸ List.mem_map_of_mem isHeld)
  | failed hypotheses _ tasks =>
      refine ⟨?_, ?_, ?_, candidates⟩
      · rw [tasks]
        exact fresh.tenants.sublist ((List.eraseIdx_sublist _ _).map _)
      · intro other member
        rw [tasks] at member
        exact fresh.heldOnce other ((List.eraseIdx_sublist _ _).subset member)
      · intro other member
        rw [tasks] at member
        rw [hypotheses]
        exact fresh.stored other ((List.eraseIdx_sublist _ _).subset member)

theorem EvaluationTables.idle_fresh (tables : EvaluationTables) : tables.idle.Fresh where
  tenants := List.nodup_nil
  heldOnce := fun _ member => nomatch member
  stored := fun _ member => nomatch member
  candidates := fun _ member => nomatch member

theorem EvaluationState.Fresh.current (fresh : before.Fresh) (sequential : Sequential before event) :
    CurrentUpdate before event := by
  match event with
  | .advance index now =>
      intro task current hypothesis result pending row stored sameId sameTenant
      have isTask : task ∈ before.tasks := List.mem_of_getElem? current
      have held := fresh.stored task isTask hypothesis (EvaluationTask.pending_held pending)
      exact .inl (List.inj_on_of_nodup_map before.hypothesesKeyed stored held sameId)
  | .updateStatus _ _ _ => exact absurd sequential id
  | .generate _ | .organize _ | .calibrate _ _ | .cycle | .fail _ => trivial

/-- **Runs of cycles that do not overlap are runs whose updates are current.** -/
theorem EvaluationState.Fresh.run {first second : EvaluationState} (fresh : first.Fresh)
    (reached : (evaluationCycles service).Reachable Sequential first second) :
    (evaluationCycles service).Reachable CurrentUpdate first second ∧ second.Fresh := by
  have kept : ∀ before event after,
      ((evaluationCycles service).Reachable CurrentUpdate first before ∧ before.Fresh) →
      Sequential before event → (evaluationCycles service).step before event = some after →
      (evaluationCycles service).Reachable CurrentUpdate first after ∧ after.Fresh := by
    rintro before event after ⟨current, fresh⟩ sequential stepped
    exact ⟨current.tail (fresh.current sequential) stepped,
      fresh.step sequential (evaluation_move stepped)⟩
  exact reached.invariant ⟨.refl, fresh⟩ kept

end Sequential

/-! ### Terminal statuses stay -/

/-- **A terminal status is absorbing** in every run whose updates find the row that they were decided on,
or the status that they set: whatever its number of workers, their order and their failures. The runs of
one service whose cycles do not overlap are such runs. -/
theorem terminal_absorbing (service : EvaluationService) (tables : EvaluationTables) :
    (∀ before after : EvaluationState,
      (evaluationCycles service).Reachable CurrentUpdate tables.idle before →
      (evaluationCycles service).Reachable CurrentUpdate before after →
      ∀ row ∈ before.hypotheses, row.status ∈ terminalStatuses → row ∈ after.hypotheses) ∧
    ∀ (state : EvaluationState) (event : EvaluationEvent),
      (evaluationCycles service).Reachable Sequential tables.idle state →
      Sequential state event → CurrentUpdate state event := by
  constructor
  · intro before after reached continued row stored terminal
    have holds : before.HoldsCandidates :=
      reached.invariant tables.idle_fresh.candidates fun _ _ _ holds _ stepped =>
        holds.step (evaluation_move stepped)
    have kept : ∀ first event second, (first.HoldsCandidates ∧ row ∈ first.hypotheses) →
        CurrentUpdate first event → (evaluationCycles service).step first event = some second →
        second.HoldsCandidates ∧ row ∈ second.hypotheses := by
      rintro first event second ⟨held, isStored⟩ current stepped
      exact ⟨held.step (evaluation_move stepped),
        terminal_step held current (evaluation_move stepped) isStored terminal⟩
    exact (continued.invariant ⟨holds, stored⟩ kept).2
  · intro state event reached sequential
    exact (tables.idle_fresh.run reached).2.current sequential

/-! ### Conclusions -/

section Conclusions

variable {service : EvaluationService} {event : EvaluationEvent} {before after : EvaluationState}

/-- The hypothesis of every evaluation that concludes has the status of its result. -/
def EvaluationTables.Agreeing (tables : EvaluationTables) : Prop :=
  ∀ evaluation ∈ tables.evaluations, evaluation.result.concludes = true →
    ∀ row ∈ tables.hypotheses, row.id = evaluation.hypothesisId → row.status = evaluation.result.name

/-- No task fails between the insert of a concluding evaluation and the update of the status. -/
def Unbroken (before : EvaluationState) : EvaluationEvent → Prop
  | .fail index => ∀ task, before.tasks[index]? = some task → task.pending = none
  | _ => True

/-- A conclusion about a row has been carried over to it, or a task is about to do so. -/
def EvaluationState.Carries (state : EvaluationState) (result : EvaluationResult) (row : Hypothesis) :
    Prop :=
  row.status = result.name ∨ ∃ task ∈ state.tasks, task.pending = some (row, result)

/-- Every conclusion has been, or is about to be. -/
def EvaluationState.Recorded (state : EvaluationState) : Prop :=
  ∀ evaluation ∈ state.evaluations, evaluation.result.concludes = true →
    ∀ row ∈ state.hypotheses, row.id = evaluation.hypothesisId → state.Carries evaluation.result row

theorem EvaluationState.Carries.resume {index : Nat} {task : EvaluationTask}
    {goesOn : Option EvaluationTask} {result : EvaluationResult} {row : Hypothesis}
    (fresh : before.Fresh) (current : before.tasks[index]? = some task)
    (other : task.pending ≠ some (row, result))
    (tasks : after.tasks = Tasks.resume index goesOn before.tasks)
    (carries : before.Carries result row) : after.Carries result row := by
  refine carries.imp_right ?_
  rintro ⟨carrier, isCarrier, pending⟩
  refine ⟨carrier, ?_, pending⟩
  rw [tasks, Tasks.mem_resume_iff fresh.tenants current]
  refine .inl ⟨isCarrier, fun sameTenant => other ?_⟩
  have isTask := List.inj_on_of_nodup_map fresh.tenants isCarrier (List.mem_of_getElem? current)
    sameTenant
  rw [← isTask, pending]

/-- **Every step between cycles that do not overlap keeps the conclusions recorded**, unless a task fails
between its two writes. -/
theorem EvaluationState.Recorded.step (recorded : before.Recorded) (fresh : before.Fresh)
    (sequential : Sequential before event) (unbroken : Unbroken before event)
    (moved : EvaluationMove service before event after) : after.Recorded := by
  have keyed := before.hypothesesKeyed
  cases moved with
  | wrote hypotheses evaluations tasks =>
      intro evaluation stored concludes row rowIn about
      rw [evaluations] at stored
      -- An evaluation has a stored hypothesis, so it is not about an inserted one.
      have old : row ∈ before.hypotheses := by
        rcases hypotheses with same | ⟨hypothesis, inserted⟩
        · rwa [same] at rowIn
        · rw [inserted] at rowIn
          rcases insertAbsent_cases Hypothesis.id hypothesis before.hypotheses with
            ⟨-, ran⟩ | ⟨absent, ran⟩
          · rwa [ran] at rowIn
          · rw [ran] at rowIn
            rcases List.mem_append.mp rowIn with old | isNew
            · exact old
            · obtain ⟨known, knownIn, sameId⟩ :=
                List.mem_map.mp (before.referenced evaluation stored)
              rw [List.mem_singleton.mp isNew] at about
              exact absurd (sameId.trans about.symm) (absent known knownIn)
      have carries := recorded evaluation stored concludes row old about
      unfold EvaluationState.Carries at carries ⊢
      rwa [tasks]
  | updated => exact absurd sequential id
  | cycled hypotheses evaluations tasks =>
      intro evaluation stored concludes row rowIn about
      rw [evaluations] at stored
      rw [hypotheses] at rowIn
      refine (recorded evaluation stored concludes row rowIn about).imp_right ?_
      rintro ⟨carrier, isCarrier, pending⟩
      refine ⟨carrier, ?_, pending⟩
      rw [tasks]
      exact List.mem_append_left _ isCarrier
  | wentOn current settled hypotheses evaluations tasks follows =>
      intro evaluation stored concludes row rowIn about
      rw [evaluations] at stored
      rw [hypotheses] at rowIn
      exact (recorded evaluation stored concludes row rowIn about).resume fresh current
        (by simp [settled]) tasks
  | @evaluated index now task next hypothesis made _ current settled held about hypotheses
      evaluations tasks follows outcome =>
      intro evaluation stored concludes row rowIn aboutRow
      rw [hypotheses] at rowIn
      have old : evaluation ∈ before.evaluations → after.Carries evaluation.result row := fun old =>
        (recorded evaluation old concludes row rowIn aboutRow).resume fresh current
          (by simp [settled]) tasks
      rcases outcome with pending | ⟨-, ends | unchanged⟩
      · rw [evaluations] at stored
        rcases mem_insertAbsent stored with isOld | rfl
        · exact old isOld
        · -- The task holds the row that the evaluation is about.
          have stored := fresh.stored task (List.mem_of_getElem? current) hypothesis held
          have isRow := List.inj_on_of_nodup_map keyed rowIn stored (aboutRow.trans about)
          refine .inr ⟨next, ?_, by rw [pending, isRow]⟩
          rw [tasks, Tasks.mem_resume_iff fresh.tenants current]
          exact .inr rfl
      · rw [evaluations] at stored
        rcases mem_insertAbsent stored with isOld | rfl
        · exact old isOld
        · rw [ends] at concludes
          simp at concludes
      · rw [unchanged] at stored
        exact old stored
  | @concluded index now task next hypothesis result _ current pending held hypotheses evaluations
      tasks sameTenant settled =>
      intro evaluation stored concludes row rowIn about
      rw [evaluations] at stored
      rw [hypotheses, mem_setStatus] at rowIn
      have isTask : task ∈ before.tasks := List.mem_of_getElem? current
      have inTask := EvaluationTask.pending_held pending
      obtain ⟨isCandidate, ofTenant⟩ := fresh.candidates task isTask hypothesis inTask
      rcases rowIn with ⟨earlier, earlierIn, selected, patched⟩ | ⟨rowIn, other⟩
      · -- The row is the hypothesis, and the conclusion can only be the pending one.
        have isEarlier : earlier = hypothesis := List.inj_on_of_nodup_map keyed earlierIn
          (fresh.stored task isTask hypothesis inTask) selected.1
        subst isEarlier
        rw [← patched] at about ⊢
        rcases recorded evaluation stored concludes earlier earlierIn about with same | pendingToo
        · rw [isCandidate] at same
          exact absurd (same ▸ EvaluationResult.name_terminal concludes) candidate_not_terminal
        · obtain ⟨carrier, isCarrier, carried⟩ := pendingToo
          have itsTenant := (fresh.candidates carrier isCarrier earlier
            (EvaluationTask.pending_held carried)).2
          have isSame : carrier = task := List.inj_on_of_nodup_map fresh.tenants isCarrier isTask
            (itsTenant.symm.trans ofTenant)
          rw [isSame, pending] at carried
          have sameResult : result = evaluation.result :=
            congrArg Prod.snd (Option.some.inj carried)
          exact .inl (by rw [sameResult])
      · refine (recorded evaluation stored concludes row rowIn about).resume fresh current ?_ tasks
        intro carried
        rw [pending] at carried
        have isRow : hypothesis = row := congrArg Prod.fst (Option.some.inj carried)
        exact other ⟨by rw [isRow], by rw [← isRow, ofTenant]⟩
  | @failed index _ hypotheses evaluations tasks =>
      intro evaluation stored concludes row rowIn about
      rw [evaluations] at stored
      rw [hypotheses] at rowIn
      have carries := recorded evaluation stored concludes row rowIn about
      rcases current : before.tasks[index]? with _ | task
      · -- There is no such task.
        have same : after.tasks = before.tasks := by
          rw [tasks]
          exact List.eraseIdx_of_length_le (List.getElem?_eq_none_iff.mp current)
        unfold EvaluationState.Carries at carries ⊢
        rwa [same]
      · exact carries.resume fresh current (by simp [unbroken task current]) tasks

end Conclusions

/-- **Between its cycles, the evaluations and the statuses agree**, whatever fails and whatever the other
services write, as long as no task fails between the insert of a concluding evaluation and the update of
the status. -/
theorem conclusions_recorded (service : EvaluationService) (tables : EvaluationTables)
    (agreeing : tables.Agreeing) (state : EvaluationState)
    (reached : (evaluationCycles service).Reachable
      (fun before event => Sequential before event ∧ Unbroken before event) tables.idle state)
    (between : state.tasks = []) : state.Agreeing := by
  have start : tables.idle.Fresh ∧ tables.idle.Recorded :=
    ⟨tables.idle_fresh, fun evaluation stored concludes row rowIn about =>
      .inl (agreeing evaluation stored concludes row rowIn about)⟩
  have kept : ∀ first event second, (first.Fresh ∧ first.Recorded) →
      (Sequential first event ∧ Unbroken first event) →
      (evaluationCycles service).step first event = some second → second.Fresh ∧ second.Recorded := by
    rintro first event second ⟨fresh, recorded⟩ ⟨sequential, unbroken⟩ stepped
    exact ⟨fresh.step sequential (evaluation_move stepped),
      recorded.step fresh sequential unbroken (evaluation_move stepped)⟩
  have recorded := (reached.invariant start kept).2
  intro evaluation stored concludes row rowIn about
  refine (recorded evaluation stored concludes row rowIn about).resolve_right ?_
  rintro ⟨task, member, -⟩
  rw [between] at member
  simp at member

/-! ### A leak -/

/-- A hypothesis with two predictions. -/
def leakHypothesis : Hypothesis where
  id := 5
  tenantId := 1
  anomalyIds := [4]
  patternIds := [50]
  description := "the service leaks memory"
  predictedConsequences := ["memory grows", "restarts increase"]
  falsificationCriterion := "usage drops"
  coherenceScore := ⟨1 / 2, half_isUnit⟩
  status := "candidate"
  generatedAt := 0

/-- An evidence about it. -/
def leakEvidence (id : Uuid) (description : String) (organizedAt : Timestamp) : Evidence where
  id
  tenantId := 1
  observationIds := []
  organizationType := "log"
  description
  qualityClass := .q1
  weight := ⟨1, one_isUnit⟩
  organizedAt

/-- Both predictions have come true. -/
def leakTables : EvaluationTables where
  hypotheses := [leakHypothesis]
  evidence := [leakEvidence 31 "memory grows, restarts increase" 1]
  confidences := [crashConfidence 21 5 0]
  evaluations := []
  hypothesesKeyed := List.nodup_singleton _
  evaluationsKeyed := List.nodup_nil
  referenced := fun _ stored => nomatch stored

/-- A service with a reliable evidence basis. -/
def reliableService : EvaluationService where
  std := countingStd
  formats := { lower := id, fixed2 := fun _ => "" }
  batchSize := 500
  evidenceBasisReliable := true

/-- A task evaluates one hypothesis up to the insert of its evaluation. -/
def evaluationInserted : List EvaluationEvent :=
  .cycle :: List.replicate 4 (.advance 0 0)

/-- A cycle that finds one candidate, whose evaluation it does not insert again, and no failure. -/
def repeatedCycle : List EvaluationEvent :=
  .cycle :: List.replicate 6 (.advance 0 0)

instance (state : EvaluationState) (event : EvaluationEvent) : Decidable (Sequential state event) :=
  match event with
  | .cycle => decidable_of_iff (state.tasks.isEmpty = true) List.isEmpty_iff
  | .updateStatus _ _ _ => isFalse id
  | .generate _ | .organize _ | .calibrate _ _ | .advance _ _ | .fail _ => isTrue trivial

instance (tables : EvaluationTables) : Decidable tables.Agreeing :=
  inferInstanceAs (Decidable (∀ _ ∈ _, _ → ∀ _ ∈ _, _ → _))

/-- **A task fails between its two writes.** The evaluation that confirms the hypothesis is stored, and the
whole cycle after it leaves the hypothesis a candidate. -/
theorem crash_between_writes : ∃ between after : EvaluationState,
    (evaluationCycles reliableService).Reachable Sequential leakTables.idle between ∧
    between.tasks = [] ∧
    (evaluationCycles reliableService).run between repeatedCycle = some after ∧
    after.tasks = [] ∧ ¬after.Agreeing := by
  have ran : ((evaluationCycles reliableService).guardedRun Sequential leakTables.idle
      (evaluationInserted ++ [.fail 0])).any (fun between =>
        decide (between.tasks.length = 0 ∧
          ((evaluationCycles reliableService).run between repeatedCycle).any (fun after =>
            decide (after.tasks.length = 0 ∧ ¬after.Agreeing)) = true)) = true := by
    decide +kernel
  obtain ⟨between, reached, idle, again⟩ := Transition.System.guardedRun_reaches ran
  obtain ⟨after, executed, -, idleAgain, differ⟩ := Transition.System.run_reaches again
  exact ⟨between, after, reached, List.length_eq_zero_iff.mp idle, executed,
    List.length_eq_zero_iff.mp idleAgain, differ⟩

instance (state : EvaluationState) (event : EvaluationEvent) : Decidable (Unbroken state event) :=
  match event with
  | .fail index => decidable_of_iff
      ((state.tasks[index]?).all (fun task => task.pending.isNone) = true) (by
        simp only [Option.all_eq_true, Option.isNone_iff_eq_none]
        rfl)
  | .generate _ | .organize _ | .calibrate _ _ | .updateStatus _ _ _ | .cycle | .advance _ _ =>
      isTrue trivial

/-- A cycle without a failure confirms the hypothesis. -/
theorem conclusions_recorded_leak : ∃ state : EvaluationState, state.evaluations.length = 1 ∧
    (∃ row ∈ state.hypotheses, row.status = "confirmed") ∧ state.Agreeing := by
  have ran : ((evaluationCycles reliableService).guardedRun
      (fun before event => Sequential before event ∧ Unbroken before event) leakTables.idle
      (evaluationInserted ++ List.replicate 3 (.advance 0 0))).any (fun state =>
        decide (state.tasks.length = 0 ∧ state.evaluations.length = 1 ∧
          ∃ row ∈ state.hypotheses, row.status = "confirmed")) = true := by
    decide +kernel
  obtain ⟨state, reached, between, evaluated, confirmed⟩ :=
    Transition.System.guardedRun_reaches ran
  refine ⟨state, evaluated, confirmed, ?_⟩
  refine conclusions_recorded reliableService leakTables ?_ state reached
    (List.length_eq_zero_iff.mp between)
  intro evaluation stored
  simp [leakTables] at stored

/-- The confirmed hypothesis stays confirmed over another cycle. -/
theorem terminal_absorbing_leak : ∃ before after : EvaluationState, before ≠ after ∧
    ∃ row ∈ before.hypotheses, row.status = "confirmed" ∧ row ∈ after.hypotheses := by
  have ran : ((evaluationCycles reliableService).guardedRun Sequential leakTables.idle
      (evaluationInserted ++ List.replicate 3 (.advance 0 0))).any (fun before =>
        decide ((∃ row ∈ before.hypotheses, row.status = "confirmed") ∧
          ((evaluationCycles reliableService).guardedRun Sequential before [.cycle]).any (fun after =>
            decide (before.tasks.length ≠ after.tasks.length)) = true)) = true := by
    decide +kernel
  obtain ⟨before, reached, ⟨row, stored, confirmed⟩, goesOn⟩ :=
    Transition.System.guardedRun_reaches ran
  obtain ⟨after, continued, differ⟩ := Transition.System.guardedRun_reaches goesOn
  refine ⟨before, after, fun same => differ (by rw [same]), row, stored, confirmed, ?_⟩
  obtain ⟨current, fresh⟩ := leakTables.idle_fresh.run reached
  refine (terminal_absorbing reliableService leakTables).1 before after current
    (fresh.run continued).1 row stored ?_
  rw [confirmed]
  exact List.mem_cons_self

/-- **Two cycles overlap.** A task reads the evidence, more of it arrives, and another worker falsifies the
hypothesis. Then the first task confirms it. -/
theorem stale_conclusion : ∃ before after : EvaluationState,
    (evaluationCycles reliableService).Reachable (fun _ _ => True) leakTables.idle before ∧
    (evaluationCycles reliableService).Reachable (fun _ _ => True) before after ∧
    ∃ row ∈ before.hypotheses, row.status = "falsified" ∧
      ∃ later ∈ after.hypotheses, later.id = row.id ∧ later.status = "confirmed" := by
  have ran : ((evaluationCycles reliableService).run leakTables.idle
      (.cycle :: List.replicate 3 (.advance 0 0) ++
        .organize (leakEvidence 32 "usage drops" 2) :: .cycle ::
          List.replicate 5 (.advance 1 0))).any (fun before =>
            decide (((evaluationCycles reliableService).run before
              (List.replicate 2 (.advance 0 0))).any (fun after =>
                decide (∃ row ∈ before.hypotheses, row.status = "falsified" ∧
                  ∃ later ∈ after.hypotheses, later.id = row.id ∧
                    later.status = "confirmed")) = true)) = true := by
    decide +kernel
  obtain ⟨before, -, reached, goesOn⟩ := Transition.System.run_reaches ran
  obtain ⟨after, -, continued, turned⟩ := Transition.System.run_reaches goesOn
  exact ⟨before, after, reached, continued, turned⟩

end CosMonitor
