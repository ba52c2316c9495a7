/-
**The outcome status of a decision, from its migration on.**

The H7 migration adds `outcome_status` to a table of decisions, and five writers maintain it: inserts of
decisions, the three routes that write outcomes, and `record_execution`.

* `migrateOutcomeStatus`: the migration;
* `outcomeStep_cases`: what any writer has done to the decisions;
* `outcome_status_runs`: while every inserted decision is observed exactly when it has outcomes, the same
  holds of every row, and an observed decision stays observed.
-/

import CosMonitor.Foundation.Transition
import CosMonitor.Gateway.ExecutionRecords
import CosMonitor.Gateway.OutcomeRoutes

set_option linter.unusedSectionVars false

namespace CosMonitor

open Table

/-! ### The migration -/

/-- A row of the table of decisions before the migration. -/
structure EarlierDecision where
  id : Uuid
  tenantId : Uuid
  recommendationId : Uuid
  confidenceId : Uuid
  authorityId : Uuid
  commitment : String
  expectedOutcomes : List Json
  riskTolerance : String
  status : String
  committedAt : Timestamp
  executedAt : Option Timestamp
  actualOutcomes : Option (List Json)

/-- `ADD COLUMN outcome_status … DEFAULT 'pending'`. -/
def EarlierDecision.addOutcomeStatus (earlier : EarlierDecision) : Decision where
  id := earlier.id
  tenantId := earlier.tenantId
  recommendationId := earlier.recommendationId
  confidenceId := earlier.confidenceId
  authorityId := earlier.authorityId
  commitment := earlier.commitment
  expectedOutcomes := earlier.expectedOutcomes
  riskTolerance := earlier.riskTolerance
  status := earlier.status
  committedAt := earlier.committedAt
  executedAt := earlier.executedAt
  actualOutcomes := earlier.actualOutcomes
  outcomeStatus := "pending"

/-- The migration: the new column, and its backfill. -/
def migrateOutcomeStatus (earlier : List EarlierDecision) : List Decision :=
  updateWhere (fun row => decide (row.actualOutcomes.isSome ∧ row.outcomeStatus = "pending"))
    (fun row => { row with outcomeStatus := "observed" })
    (earlier.map EarlierDecision.addOutcomeStatus)

section Writers

variable {Worker : Type} [DecidableEq Worker] [Fintype Worker]

/-! ### The writers -/

/-- The database of the writers. -/
structure OutcomeTables (Worker : Type) where
  loop : LoopState Worker
  records : List ExecutionRow

/-- The calls that write decisions. -/
inductive OutcomeAction where
  | save (refers : Decision → Option DbError) (decision : Decision)
  | update (id tenantId : Uuid) (update : OutcomesUpdate)
  | submit (tenantId decisionId : Uuid) (call : OutcomesCall) (failure : Option LoopException)
  | submitWithRevision (tenantId decisionId : Uuid) (call : OutcomesCall) (now : Timestamp)
      (fresh : Uuid)
  | execute (call : ExecutionCall) (world : ExecutionWorld)

/-- One call. What it raises leaves the tables as they were, but for an execution record. -/
def outcomeStep (std : Stdlib) (tables : OutcomeTables Worker) : OutcomeAction → OutcomeTables Worker
  | .save refers decision =>
      { tables with loop := { tables.loop with
          decisions := (saveDecision refers decision tables.loop.decisions).2 } }
  | .update id tenantId update =>
      { tables with loop := { tables.loop with
          decisions := (DecisionStore.updateOutcomes id tenantId update tables.loop.decisions).2 } }
  | .submit tenantId decisionId call failure =>
      { tables with loop := (submitOutcomes tenantId decisionId call failure tables.loop).2 }
  | .submitWithRevision tenantId decisionId call now fresh =>
      match submitOutcomesWithRevision tenantId decisionId call.actualOutcomes call.executedAt now fresh
        tables.loop with
      | .error _ => tables
      | .ok (_, loop) => { tables with loop }
  | .execute call world =>
      let after := (recordExecution std call world ⟨tables.loop.decisions, tables.records⟩).2
      { loop := { tables.loop with decisions := after.decisions }
        records := after.records }

/-- The writers as a transition system. -/
def outcomeSystem (Worker : Type) [DecidableEq Worker] [Fintype Worker] (std : Stdlib) :
    Transition.System (OutcomeTables Worker) OutcomeAction where
  step := fun tables action => some (outcomeStep std tables action)

/-- A decision is observed exactly when it has outcomes. -/
def Decision.StatusSound (decision : Decision) : Prop :=
  decision.outcomeStatus = "observed" ↔ decision.actualOutcomes.isSome

instance (decision : Decision) : Decidable decision.StatusSound :=
  inferInstanceAs (Decidable (_ ↔ _))

/-- A decision that a call inserts is observed exactly when it has outcomes. -/
def SavesSound (tables : OutcomeTables Worker) : OutcomeAction → Prop
  | .save refers decision =>
      ∀ row, assignDecision decision = .ok row → refers row = none →
        (∀ other ∈ tables.loop.decisions, other.id ≠ decision.id) → decision.StatusSound
  | .update .. | .submit .. | .submitWithRevision .. | .execute .. => True

/-! ### What a call has done -/

/-- An update of lifecycle columns: it leaves the outcomes and their status alone, or writes outcomes and
marks them as observed. -/
structure LifecyclePatch (patch : Decision → Decision) : Prop where
  id : ∀ row, (patch row).id = row.id
  pair : (∀ row, (patch row).outcomeStatus = row.outcomeStatus ∧
      (patch row).actualOutcomes = row.actualOutcomes) ∨
    ∀ row, (patch row).outcomeStatus = "observed" ∧ (patch row).actualOutcomes.isSome

theorem outcomesUpdate_patch (update : OutcomesUpdate) : LifecyclePatch update.apply where
  id := fun _ => rfl
  pair := by
    unfold OutcomesUpdate.apply
    cases update.actualOutcomes with
    | none => exact .inl fun row => ⟨rfl, rfl⟩
    | some outcomes => exact .inr fun row => ⟨rfl, rfl⟩

theorem execution_patch (call : ExecutionCall) (world : ExecutionWorld) :
    LifecyclePatch (call.apply world) where
  id := fun _ => rfl
  pair := .inl fun _ => ⟨rfl, rfl⟩

variable {std : Stdlib} {start state later tables : OutcomeTables Worker} {action : OutcomeAction}

theorem submitOutcomes_decisions (tenantId decisionId : Uuid) (call : OutcomesCall)
    (failure : Option LoopException) (loop : LoopState Worker) :
    (submitOutcomes tenantId decisionId call failure loop).2.decisions = loop.decisions ∨
      (submitOutcomes tenantId decisionId call failure loop).2.decisions =
        updateOutcomes tenantId decisionId call loop.decisions := by
  unfold submitOutcomes
  split
  · exact .inl rfl
  · cases failure with
    | some exception => exact .inl rfl
    | none =>
        cases findDecision tenantId decisionId loop.decisions with
        | none => exact .inl rfl
        | some row =>
            cases jsonb (.arr call.actualOutcomes) with
            | error refused => exact .inl rfl
            | ok stored => exact .inr rfl

/-- **What a call has done to the decisions**: nothing, or it has inserted one, or updated one. -/
theorem outcomeStep_cases (std : Stdlib) (tables : OutcomeTables Worker) (action : OutcomeAction) :
    (outcomeStep std tables action).loop.decisions = tables.loop.decisions ∨
      (∃ refers decision row, action = .save refers decision ∧ assignDecision decision = .ok row ∧
        refers row = none ∧ (∀ other ∈ tables.loop.decisions, other.id ≠ decision.id) ∧
        (outcomeStep std tables action).loop.decisions = tables.loop.decisions ++ [row]) ∨
      ∃ id tenantId patch, LifecyclePatch patch ∧
        (outcomeStep std tables action).loop.decisions =
          updateDecision id tenantId patch tables.loop.decisions := by
  cases action with
  | save refers decision =>
      rcases saveDecision_cases refers decision tables.loop.decisions with
        same | ⟨row, assigned, references, fresh, inserted⟩
      · exact .inl same
      · exact .inr (.inl ⟨refers, decision, row, rfl, assigned, references, fresh, inserted⟩)
  | update id tenantId update =>
      rcases updateOutcomes_cases id tenantId update tables.loop.decisions with
        same | ⟨assigned, -, -, updated⟩
      · exact .inl same
      · exact .inr (.inr ⟨id, tenantId, _, outcomesUpdate_patch assigned, updated⟩)
  | submit tenantId decisionId call failure =>
      rcases submitOutcomes_decisions tenantId decisionId call failure tables.loop with same | updated
      · exact .inl same
      · exact .inr (.inr ⟨decisionId, tenantId, _, outcomesUpdate_patch _,
          updated.trans (updateDecision_outcomes _).symm⟩)
  | submitWithRevision tenantId decisionId call now fresh =>
      cases ran : submitOutcomesWithRevision tenantId decisionId call.actualOutcomes call.executedAt now
        fresh tables.loop with
      | error failure =>
          have stays : outcomeStep std tables (.submitWithRevision tenantId decisionId call now fresh) =
              tables := by
            rw [outcomeStep, ran]
          exact .inl (congrArg (fun after => after.loop.decisions) stays)
      | ok answer =>
          obtain ⟨revision, loop⟩ := answer
          have accepted : executionRoute tenantId decisionId call now fresh tables.loop =
              some loop.decisions := by
            rw [executionRoute, ran]
          have written : (outcomeStep std tables
              (.submitWithRevision tenantId decisionId call now fresh)).loop.decisions =
                loop.decisions := by
            rw [outcomeStep, ran]
          exact .inr (.inr ⟨decisionId, tenantId, _, outcomesUpdate_patch _, (written.trans
            (executionRoute_eq_some.mp accepted).2).trans (updateDecision_outcomes _).symm⟩)
  | execute call world =>
      rcases recordExecution_cases std call world ⟨tables.loop.decisions, tables.records⟩ with
        ⟨-, ran⟩ | ⟨-, -, same⟩
      · refine .inr (.inr ⟨call.decisionId, call.tenantId, _, execution_patch call world, ?_⟩)
        exact congrArg (fun after => after.2.decisions) ran
      · exact .inl same

/-! ### The invariant -/

/-- The primary key of the table, and the status of every row. -/
structure OutcomeStatusSound (tables : OutcomeTables Worker) : Prop where
  keyed : (tables.loop.decisions.map Decision.id).Nodup
  sound : ∀ row ∈ tables.loop.decisions, row.StatusSound

/-- **The migration establishes the invariant**, on any table. -/
theorem migrateOutcomeStatus_sound {earlier : List EarlierDecision}
    (keyed : (earlier.map EarlierDecision.id).Nodup)
    (migrated : start.loop.decisions = migrateOutcomeStatus earlier) : OutcomeStatusSound start where
  keyed := by
    have kept : (migrateOutcomeStatus earlier).map Decision.id =
        (earlier.map EarlierDecision.addOutcomeStatus).map Decision.id :=
      updateWhere_map Decision.id fun _ _ _ => rfl
    rw [migrated, kept, List.map_map]
    exact keyed
  sound := by
    intro row member
    rw [migrated] at member
    unfold Decision.StatusSound
    rcases mem_updateWhere.mp member with ⟨old, -, chosen, rfl⟩ | ⟨stays, skipped⟩
    · exact iff_of_true rfl (of_decide_eq_true chosen).1
    · obtain ⟨before, -, rfl⟩ := List.mem_map.mp stays
      have absent : ¬(before.actualOutcomes.isSome ∧ "pending" = "pending") := of_decide_eq_false skipped
      have pending : "pending" ≠ "observed" := by decide
      exact iff_of_false pending fun isThere => absent ⟨isThere, rfl⟩

theorem LifecyclePatch.sound {patch : Decision → Decision} (lifecycle : LifecyclePatch patch)
    {row : Decision} (sound : row.StatusSound) : (patch row).StatusSound := by
  unfold Decision.StatusSound at sound ⊢
  rcases lifecycle.pair with same | observed
  · rw [(same row).1, (same row).2]
    exact sound
  · exact iff_of_true (observed row).1 (observed row).2

theorem outcomeStep_keyed (keyed : (tables.loop.decisions.map Decision.id).Nodup) :
    ((outcomeStep std tables action).loop.decisions.map Decision.id).Nodup := by
  rcases outcomeStep_cases std tables action with
    same | ⟨refers, decision, row, -, assigned, -, fresh, inserted⟩ |
    ⟨id, tenantId, patch, lifecycle, updated⟩
  · rw [same]
    exact keyed
  · rw [inserted, List.map_append, List.nodup_append]
    refine ⟨keyed, List.nodup_singleton _, ?_⟩
    rintro _ stored _ added rfl
    obtain ⟨other, member, same⟩ := List.mem_map.mp stored
    refine fresh other member (same.trans ?_)
    rw [List.mem_singleton.mp added, (assignDecision_ok assigned).1]
  · rw [updated, updateDecision_ids lifecycle.id]
    exact keyed

/-- **A call keeps the invariant** where a decision that it inserts is sound. -/
theorem OutcomeStatusSound.step (before : OutcomeStatusSound tables)
    (saves : SavesSound tables action) : OutcomeStatusSound (outcomeStep std tables action) where
  keyed := outcomeStep_keyed before.keyed
  sound := by
    intro row member
    rcases outcomeStep_cases std tables action with
      same | ⟨refers, decision, added, rfl, assigned, references, fresh, inserted⟩ |
      ⟨id, tenantId, patch, lifecycle, updated⟩
    · rw [same] at member
      exact before.sound row member
    · rw [inserted] at member
      rcases List.mem_append.mp member with old | new
      · exact before.sound row old
      · obtain ⟨-, outcomes, status, -⟩ := assignDecision_ok assigned
        rw [List.mem_singleton.mp new, Decision.StatusSound, outcomes, status]
        exact saves added assigned references fresh
    · rw [updated] at member
      rcases mem_updateDecision member with old | ⟨old, oldIn, rfl⟩
      · exact before.sound row old
      · exact lifecycle.sound (before.sound old oldIn)

/-- Every observed decision is still there, and still observed. -/
def StaysObserved (before after : OutcomeTables Worker) : Prop :=
  ∀ row ∈ before.loop.decisions, row.outcomeStatus = "observed" →
    (∃ kept ∈ after.loop.decisions, kept.id = row.id) ∧
      ∀ kept ∈ after.loop.decisions, kept.id = row.id → kept.outcomeStatus = "observed"

/-- **No call makes an observed decision pending.** -/
theorem StaysObserved.step {before : OutcomeTables Worker} (stays : StaysObserved before tables) :
    StaysObserved before (outcomeStep std tables action) := by
  intro row member observed
  obtain ⟨⟨kept, keptIn, sameId⟩, all⟩ := stays row member observed
  rcases outcomeStep_cases std tables action with
    same | ⟨refers, decision, added, -, assigned, -, fresh, inserted⟩ |
    ⟨id, tenantId, patch, lifecycle, updated⟩
  · rw [same]
    exact ⟨⟨kept, keptIn, sameId⟩, all⟩
  · rw [inserted]
    refine ⟨⟨kept, List.mem_append_left _ keptIn, sameId⟩, fun other otherIn otherId => ?_⟩
    rcases List.mem_append.mp otherIn with old | new
    · exact all other old otherId
    · rw [List.mem_singleton.mp new, (assignDecision_ok assigned).1] at otherId
      exact absurd (sameId.trans otherId.symm) (fresh kept keptIn)
  · rw [updated]
    refine ⟨?_, fun other otherIn otherId => ?_⟩
    · have stored : row.id ∈ (updateDecision id tenantId patch tables.loop.decisions).map
          Decision.id := by
        rw [updateDecision_ids lifecycle.id]
        exact List.mem_map.mpr ⟨kept, keptIn, sameId⟩
      exact List.mem_map.mp stored
    · rcases mem_updateDecision otherIn with old | ⟨old, oldIn, rfl⟩
      · exact all other old otherId
      · rw [lifecycle.id] at otherId
        rcases lifecycle.pair with same | marks
        · rw [(same old).1]
          exact all old oldIn otherId
        · exact (marks old).1

/-- **The status over runs.** From the migration of any table, while every inserted decision is observed
exactly when it has outcomes, so is every row; and whatever is inserted, an observed decision stays
observed. -/
theorem outcome_status_runs (std : Stdlib) (earlier : List EarlierDecision)
    (keyed : (earlier.map EarlierDecision.id).Nodup) (start state : OutcomeTables Worker)
    (migrated : start.loop.decisions = migrateOutcomeStatus earlier)
    (reached : (outcomeSystem Worker std).Reachable SavesSound start state) :
    (∀ row ∈ state.loop.decisions, row.outcomeStatus = "observed" ↔ row.actualOutcomes.isSome) ∧
      ∀ later, (outcomeSystem Worker std).Reachable (fun _ _ => True) state later →
        StaysObserved state later := by
  have sound : OutcomeStatusSound state := by
    refine reached.invariant (migrateOutcomeStatus_sound keyed migrated) ?_
    intro before action after holds saves moved
    rw [← Option.some.inj moved]
    exact holds.step saves
  refine ⟨sound.sound, fun later onwards => onwards.invariant ?_ ?_⟩
  · refine fun row member observed => ⟨⟨row, member, rfl⟩, fun kept keptIn same => ?_⟩
    rw [List.inj_on_of_nodup_map sound.keyed keptIn member same]
    exact observed
  · intro before action after holds _ moved
    rw [← Option.some.inj moved]
    exact holds.step

end Writers

/-! ### Two saves -/

/-- A decision of the table before the migration, with outcomes. -/
def earlierDecision : EarlierDecision where
  id := 6
  tenantId := 1
  recommendationId := 3
  confidenceId := 4
  authorityId := 5
  commitment := "scale out"
  expectedOutcomes := []
  riskTolerance := "low"
  status := "completed"
  committedAt := 0
  executedAt := some 1
  actualOutcomes := some [.obj [("metric", .str "latency")]]

/-- The database after the migration. -/
def migratedTables : OutcomeTables (Fin 1) where
  loop := { freshLoop plainDecision with decisions := migrateOutcomeStatus [earlierDecision] }
  records := []

/-- The decision as the commit capability saves it: pending, without outcomes. -/
theorem outcome_status_pending : ∃ state : OutcomeTables (Fin 1),
    state.loop.decisions.map Decision.outcomeStatus = ["observed", "pending"] ∧
      ∀ row ∈ state.loop.decisions, row.outcomeStatus = "observed" ↔ row.actualOutcomes.isSome := by
  refine ⟨outcomeStep .constant migratedTables (.save (fun _ => none) plainDecision), ?_, ?_⟩
  · decide +kernel
  · refine (outcome_status_runs .constant [earlierDecision] (List.nodup_singleton _) migratedTables _ rfl
      (Transition.System.Reachable.refl.tail ?_ rfl)).1
    intro row assigned references fresh
    decide

/-- A decision with outcomes and the default status. -/
def unobservedDecision : Decision :=
  { plainDecision with actualOutcomes := some [.obj [("metric", .str "latency")]] }

/-- **A decision is saved with outcomes**: its status is still the default. -/
theorem saved_outcomes_pending :
    ¬ ∀ (std : Stdlib) (earlier : List EarlierDecision), (earlier.map EarlierDecision.id).Nodup →
      ∀ start state : OutcomeTables (Fin 1), start.loop.decisions = migrateOutcomeStatus earlier →
        (outcomeSystem (Fin 1) std).Reachable (fun _ _ => True) start state →
        ∀ row ∈ state.loop.decisions, row.outcomeStatus = "observed" ↔ row.actualOutcomes.isSome := by
  intro sound
  have saved : (outcomeSystem (Fin 1) .constant).step migratedTables
      (.save (fun _ => none) unobservedDecision) =
        some (outcomeStep .constant migratedTables (.save (fun _ => none) unobservedDecision)) :=
    rfl
  have rows := sound .constant [earlierDecision] (List.nodup_singleton _) migratedTables _ rfl
    (Transition.System.Reachable.refl.tail trivial saved)
  have unsound : ¬ ∀ row ∈ (outcomeStep .constant migratedTables
      (.save (fun _ => none) unobservedDecision)).loop.decisions, row.StatusSound := by
    decide +kernel
  exact unsound rows

end CosMonitor
