/-
**Runs of the execution store — transitions, active executions and attempt numbers.**

Any number of workers call the operations of the store in any order. `StepAllowed` is what a run has
to respect: complete and fail reach an execution that is running, or already has the target status,
and a begin that finds no active execution finds no execution of the revision at all.

* `Sound`: the invariant, kept by every statement (`Sound.change`, `Sound.insert`) and so by every
  operation;
* `allowed_runs_sound`: in every state of an allowed run every status change was a declared
  transition, each revision has at most one active execution, and its attempt numbers are distinct;
* `completed_execution_fails`: what happens without the two conditions.
-/

import CosMonitor.Foundation.Table
import CosMonitor.Foundation.Transition
import CosMonitor.Learning.ExecutionSteps

set_option linter.unusedSectionVars false

namespace CosMonitor

open Versions (Consistent Ranked)
open Transition (System)

section Invariant

variable {Worker : Type} [DecidableEq Worker] [Fintype Worker]

/-- A status change that the state machine declares, or none. -/
def AllowedChange (old new : ExecutionStatus) : Prop :=
  old = new ∨ isValidTransition old new = true

instance (old new : ExecutionStatus) : Decidable (AllowedChange old new) :=
  inferInstanceAs (Decidable (_ ∨ _))

theorem AllowedChange.ended {old new : ExecutionStatus} (allowed : AllowedChange old new)
    (ended : old.isActive = false) : new = old := by
  rcases allowed with same | valid
  · exact same.symm
  · rw [(no_transition_iff old).mpr ended new] at valid
    cases valid

theorem AllowedChange.may {old new : ExecutionStatus} (allowed : AllowedChange old new) :
    (keeping fun _ => True).may old new := by
  intro closed
  have same := allowed.ended closed
  rw [same]
  exact ⟨closed, fun _ => rfl⟩

/-- The invariant of the store. -/
structure Sound (state : StoreState Worker) : Prop where
  consistent : Consistent executionSchema (keeping fun _ => True) state.executions
  ranked : Ranked executionSchema ExecutionContent.attemptNumber state.executions
  transitions : ∀ change ∈ state.changes, AllowedChange change.1 change.2

/-! ### Statements -/

variable {state next : StoreState Worker} {worker : Worker}

theorem Sound.change {id : Uuid} {change : LearningExecution → LearningExecution}
    {result : Option LearningExecution} (sound : Sound state)
    (changed : changeExecution worker id change state = some (result, next))
    (content : ∀ row, (change row).toExecutionContent = row.toExecutionContent)
    (allowed : ∀ row ∈ state.seen worker, row.id = id →
      AllowedChange row.status (change row).status) : Sound next := by
  have consistent := changeExecution_consistent sound.consistent changed content
    fun row seen hasId => (allowed row seen hasId).may
  unfold changeExecution at changed
  obtain ⟨⟨found, executions⟩, updated, built⟩ := Option.map_eq_some_iff.mp changed
  cases built
  refine ⟨consistent, sound.ranked.update updated content, ?_⟩
  intro entry member
  rcases List.mem_append.mp member with old | new
  · exact sound.transitions entry old
  · cases target : (state.seen worker).find? fun row => row.id == id with
    | none =>
        rw [target] at new
        cases new
    | some row =>
        rw [target] at new
        rw [List.mem_singleton.mp new]
        exact allowed row (List.mem_of_find?_eq_some target)
          (by simpa using List.find?_some target)

theorem Sound.updateStatus {policy : BindPolicy} {id : Uuid} {update : StatusUpdate}
    {answer : Except DbError (Option LearningExecution)} (sound : Sound state)
    (called : updateExecutionStatus policy worker id update state = some (answer, next))
    (allowed : policy = .nullable ∨ update.missing = none → ∀ row ∈ state.seen worker, row.id = id →
      AllowedChange row.status update.status) : Sound next := by
  rcases updateExecutionStatus_cases called with ⟨rfl, -⟩ | ⟨executed, row, -, changed⟩
  · exact sound
  · exact sound.change changed update.apply_content (allowed executed)

theorem Sound.insert {request : ExecutionRequest} {attempt : Nat} {parent : Option Uuid}
    {now : Timestamp} {fresh : Uuid} {answer : Except DbError LearningExecution} (sound : Sound state)
    (called : insertExecution worker request attempt parent now fresh state = some (answer, next))
    (first : ∀ own ∈ state.executions.pending worker,
      own.outcomeRevisionId ≠ request.outcomeRevisionId)
    (above : ∀ old ∈ state.executions.committed,
      old.outcomeRevisionId = request.outcomeRevisionId → old.attemptNumber < attempt) :
    Sound next := by
  refine ⟨insertExecution_consistent sound.consistent called first, ?_, ?_⟩
  · rcases insertExecution_cases called with
      ⟨rfl, -⟩ | ⟨row, -, -, revision, number, -, inserted, -, -⟩
    · exact sound.ranked
    · refine sound.ranked.insert inserted fun old oldIn sameGroup => ?_
      rw [executionSchema_rowGroup, executionSchema_rowGroup, revision] at sameGroup
      rw [executionSchema_content, executionSchema_content, number]
      exact above old oldIn sameGroup
  · rcases insertExecution_cases called with ⟨rfl, -⟩ | ⟨row, -, -, -, -, -, -, changes, -⟩
    · exact sound.transitions
    · rw [changes]
      exact sound.transitions

/-! ### Transactions -/

theorem Sound.begin {lock : Option String} {opened : StoreState Worker} (sound : Sound state)
    (begun : beginTransaction worker lock state = some opened) : Sound opened := by
  obtain ⟨-, began, changes, -⟩ := beginTransaction_spec begun
  refine ⟨sound.consistent.begin began, sound.ranked.begin began, ?_⟩
  rw [changes]
  exact sound.transitions

theorem Sound.rollback (sound : Sound state) : Sound (rollbackTransaction worker state) :=
  ⟨sound.consistent.rollback, sound.ranked.rollback, sound.transitions⟩

theorem Sound.commit (sound : Sound state) : Sound (commitTransaction worker state) := by
  cases opened : state.executions.sessions worker with
  | some session =>
      exact ⟨sound.consistent.commit opened, sound.ranked.commit sound.consistent opened,
        sound.transitions⟩
  | none =>
      -- Without a session the worker sees the committed table, and the commit changes nothing.
      have same : (commitTransaction worker state).executions = state.executions.rollback worker := by
        unfold commitTransaction Versions.State.commit Versions.State.rollback Versions.State.view
        rw [opened]
        rfl
      refine ⟨?_, ?_, sound.transitions⟩
      · rw [same]
        exact sound.consistent.rollback
      · rw [same]
        exact sound.ranked.rollback

/-- Every execution that had ended is still there with its status. -/
def KeepsEnded (before after : StoreState Worker) : Prop :=
  ∀ row ∈ before.executions.committed, row.status.isActive = false →
    ∃ kept ∈ after.executions.committed, kept.toExecutionContent = row.toExecutionContent ∧
      kept.status = row.status

theorem keepsEnded_of_committed
    (same : next.executions.committed = state.executions.committed) : KeepsEnded state next := by
  intro row member _
  rw [same]
  exact ⟨row, member, rfl, rfl⟩

theorem Sound.commit_keepsEnded (sound : Sound state) :
    KeepsEnded state (commitTransaction worker state) := by
  cases opened : state.executions.sessions worker with
  | some session =>
      intro row member ended
      have seen : (commitTransaction worker state).executions.committed =
          executionSchema.view state.executions.committed session := by
        show state.executions.view executionSchema worker = _
        unfold Versions.State.view
        rw [opened]
      rw [seen]
      obtain ⟨version, versionSeen, evolves⟩ :=
        (sound.consistent.fits worker session opened).view_evolved sound.consistent.ids member
      exact ⟨version, versionSeen, evolves.content, (evolves.moved ended).2 trivial⟩
  | none =>
      refine keepsEnded_of_committed ?_
      show state.executions.view executionSchema worker = _
      unfold Versions.State.view
      rw [opened]

/-- **An operation in a transaction of its own** keeps the invariant and the ended executions when its
statements keep the invariant and leave the committed table alone. -/
theorem Sound.transact {Value : Type} {lock : Option String}
    {operation : StoreState Worker → Answer Value (StoreState Worker)}
    {answer : Except DbError Value} (sound : Sound state)
    (called : transact worker lock operation state = some (answer, next))
    (kept : ∀ opened after reply, Begun worker lock state opened → Sound opened →
      operation opened = some (reply, after) →
        Sound after ∧ after.executions.committed = opened.executions.committed) :
    Sound next ∧ KeepsEnded state next := by
  obtain ⟨opened, after, began, ran, ends⟩ := transact_cases called
  have begun := begun_of_begin began
  obtain ⟨afterSound, committed⟩ := kept opened after _ begun (sound.begin began) ran
  rcases ends with ⟨failure, -, rfl⟩ | ⟨value, -, rfl⟩
  · exact ⟨afterSound.rollback, keepsEnded_of_committed (committed.trans begun.committed)⟩
  · refine ⟨afterSound.commit, fun row member ended => ?_⟩
    rw [← begun.committed, ← committed] at member
    exact afterSound.commit_keepsEnded row member ended

/-! ### Operations -/

theorem Sound.replaceStale {policy : BindPolicy} {request : ExecutionRequest}
    {current : LearningExecution} {now : Timestamp} {fresh : Uuid}
    {opened : StoreState Worker} {answer : Except DbError (Option LearningExecution)}
    (sound : Sound opened) {lock : Option String} (begun : Begun worker lock state opened)
    (called : replaceStale policy worker request current now fresh opened = some (answer, next))
    (member : current ∈ state.executions.committed) (running : current.status = .running)
    (revision : current.outcomeRevisionId = request.outcomeRevisionId) : Sound next := by
  have isCurrent : ∀ row ∈ opened.seen worker, row.id = current.id → row = current := by
    intro row seen same
    rw [begun.seen] at seen
    have ids := sound.consistent.ids
    rw [begun.committed] at ids
    exact Versions.eq_of_rowId ids seen member same
  have allowed : ∀ row ∈ opened.seen worker, row.id = current.id →
      AllowedChange row.status (StatusUpdate.ended .stale now).status := by
    intro row seen same
    rw [isCurrent row seen same, running]
    exact .inr rfl
  unfold CosMonitor.replaceStale at called
  split at called
  · cases called
  · rename_i updated
    cases called
    exact sound.updateStatus updated fun _ => allowed
  · rename_i middle updated
    obtain ⟨⟨reply, after⟩, inserted, built⟩ := Option.map_eq_some_iff.mp called
    cases built
    have stillSound := sound.updateStatus updated fun _ => allowed
    have within := updateExecutionStatus_within updated
    have committed : middle.executions.committed = state.executions.committed :=
      within.committed.trans begun.committed
    have pending : middle.executions.pending worker = [] := by
      rcases updateExecutionStatus_cases updated with ⟨rfl, -⟩ | ⟨-, row, -, changed⟩
      · exact begun.pending
      · exact changeExecution_pending_nil changed (StatusUpdate.apply_content _) begun.pending
    refine stillSound.insert inserted ?_ ?_
    · rw [pending]
      simp
    · rw [committed]
      intro old oldIn sameRevision
      have active : executionSchema.active current = true := by
        rw [executionSchema_active, running]
        rfl
      have top := sound.ranked.top
      rw [begun.committed] at top
      exact Nat.lt_succ_of_le (top current member active old oldIn (sameRevision.trans revision.symm))

/-- A begin that finds no active execution of the revision finds no execution of it at all. -/
def ClaimAllowed (outcomeRevisionId : Uuid) (rows : List LearningExecution) : Prop :=
  (∃ row ∈ rows, row.outcomeRevisionId = outcomeRevisionId ∧ row.status.isActive = true) ∨
    ∀ row ∈ rows, row.outcomeRevisionId ≠ outcomeRevisionId

instance (outcomeRevisionId : Uuid) (rows : List LearningExecution) :
    Decidable (ClaimAllowed outcomeRevisionId rows) :=
  inferInstanceAs (Decidable (_ ∨ _))

theorem Sound.claim {policy : BindPolicy} {request : ExecutionRequest} {now : Timestamp}
    {fresh : Uuid} {opened : StoreState Worker}
    {answer : Except DbError (Option LearningExecution)} (sound : Sound opened)
    {lock : Option String} (begun : Begun worker lock state opened)
    (called : claimExecution policy worker request now fresh opened = some (answer, next))
    (allowed : ClaimAllowed request.outcomeRevisionId state.executions.committed) : Sound next := by
  unfold claimExecution at called
  rw [begun.seen] at called
  split at called
  · rename_i absent
    obtain ⟨⟨row, after⟩, inserted, built⟩ := Option.map_eq_some_iff.mp called
    cases built
    have none : ∀ row ∈ state.executions.committed,
        row.outcomeRevisionId ≠ request.outcomeRevisionId := by
      rcases allowed with ⟨row, rowIn, revision, active⟩ | none
      · rw [findActiveExecution_none.mp absent row rowIn revision] at active
        cases active
      · exact none
    refine sound.insert inserted ?_ ?_
    · rw [begun.pending]
      simp
    · rw [begun.committed]
      intro old oldIn sameRevision
      exact absurd sameRevision (none old oldIn)
  · rename_i existing found
    obtain ⟨member, revision, -⟩ := findActiveExecution_some found
    split at called
    · cases called
      exact sound
    · cases called
      exact sound
    · cases called
      exact sound
    · rename_i running
      split at called
      · exact sound.replaceStale begun called member running revision
      · cases called
        exact sound
    · rename_i pending
      obtain ⟨⟨reply, after⟩, updated, built⟩ := Option.map_eq_some_iff.mp called
      cases built
      refine sound.updateStatus updated fun _ row seen same => ?_
      rw [begun.seen] at seen
      have ids := sound.consistent.ids
      rw [begun.committed] at ids
      rw [Versions.eq_of_rowId ids seen member same, pending]
      exact .inr rfl

end Invariant

/-! ### Runs -/

section Runs

variable {Worker : Type} [DecidableEq Worker] [Fintype Worker]

/-- The operations that workers call. -/
inductive StoreAction (Worker : Type) where
  | beginExecution (worker : Worker) (request : ExecutionRequest) (now : Timestamp) (fresh : Uuid)
  | beginPhase2 (worker : Worker) (request : ExecutionRequest) (now : Timestamp) (fresh : Uuid)
  | commit (worker : Worker)
  | rollback (worker : Worker)
  | completeExecution (worker : Worker) (id : Uuid) (signalCount : Nat) (now : Timestamp)
  | failExecution (worker : Worker) (id : Uuid) (failureReason : String) (now : Timestamp)
  | completeExecutionInSession (worker : Worker) (id : Uuid) (signalCount : Nat) (now : Timestamp)
  | failExecutionInSession (worker : Worker) (id : Uuid) (failureReason : String) (now : Timestamp)
  | updateHeartbeat (worker : Worker) (id : Uuid) (now : Timestamp)
  | reconcileStaleExecution (worker : Worker) (execution : LearningExecution) (now : Timestamp)
      (fresh : Uuid)

/-- Run one operation; `none` while it has to wait. -/
def storeStep (policy : BindPolicy) (state : StoreState Worker) :
    StoreAction Worker → Option (StoreState Worker)
  | .beginExecution worker request now fresh =>
      (beginExecution policy worker request now fresh state).map Prod.snd
  | .beginPhase2 worker request now fresh =>
      (beginPhase2 policy worker request now fresh state).map Prod.snd
  | .commit worker => some (commitTransaction worker state)
  | .rollback worker => some (rollbackTransaction worker state)
  | .completeExecution worker id signalCount now =>
      (completeExecution policy worker id signalCount now state).map Prod.snd
  | .failExecution worker id failureReason now =>
      (failExecution policy worker id failureReason now state).map Prod.snd
  | .completeExecutionInSession worker id signalCount now =>
      (completeExecutionInSession worker id signalCount now state).map Prod.snd
  | .failExecutionInSession worker id failureReason now =>
      (failExecutionInSession worker id failureReason now state).map Prod.snd
  | .updateHeartbeat worker id now => (updateHeartbeat worker id now state).map Prod.snd
  | .reconcileStaleExecution worker execution now fresh =>
      (reconcileStaleExecution policy worker execution now fresh state).map Prod.snd

/-- The store as a transition system. -/
def storeSystem (Worker : Type) [DecidableEq Worker] [Fintype Worker] (policy : BindPolicy) :
    System (StoreState Worker) (StoreAction Worker) where
  step := storeStep policy

/-- The execution of an id is running, or has a status already, among the rows a statement sees. -/
def TargetAllowed (id : Uuid) (status : ExecutionStatus) (rows : List LearningExecution) : Prop :=
  ∀ row ∈ rows, row.id = id → row.status = .running ∨ row.status = status

instance (id : Uuid) (status : ExecutionStatus) (rows : List LearningExecution) :
    Decidable (TargetAllowed id status rows) :=
  inferInstanceAs (Decidable (∀ _ ∈ _, _))

/-- What a step of a run has to respect. Where the driver rejects the update, nothing is asked. -/
def StepAllowed (policy : BindPolicy) (state : StoreState Worker) : StoreAction Worker → Prop
  | .beginExecution _ request _ _ =>
      ClaimAllowed request.outcomeRevisionId state.executions.committed
  | .beginPhase2 _ request _ _ => ClaimAllowed request.outcomeRevisionId state.executions.committed
  | .completeExecution _ id _ _ =>
      policy = .nullable → TargetAllowed id .completed state.executions.committed
  | .failExecution _ id _ _ =>
      policy = .nullable → TargetAllowed id .failed state.executions.committed
  | .completeExecutionInSession worker id _ _ => TargetAllowed id .completed (state.seen worker)
  | .failExecutionInSession worker id _ _ => TargetAllowed id .failed (state.seen worker)
  | .commit _ | .rollback _ | .updateHeartbeat .. | .reconcileStaleExecution .. => True

instance (policy : BindPolicy) (state : StoreState Worker) (action : StoreAction Worker) :
    Decidable (StepAllowed policy state action) := by
  cases action <;> unfold StepAllowed <;> infer_instance

variable {policy : BindPolicy} {state next : StoreState Worker} {worker : Worker}

theorem TargetAllowed.change {id : Uuid} {status : ExecutionStatus} {rows : List LearningExecution}
    (target : TargetAllowed id status rows) (ending : isValidTransition .running status = true)
    {row : LearningExecution} (member : row ∈ rows) (same : row.id = id) :
    AllowedChange row.status status := by
  rcases target row member same with running | already
  · rw [running]
    exact .inr ending
  · exact .inl already

/-- **An allowed step keeps the invariant and the ended executions.** -/
theorem Sound.step (sound : Sound state) {action : StoreAction Worker}
    (allowed : StepAllowed policy state action)
    (stepped : storeStep policy state action = some next) : Sound next ∧ KeepsEnded state next := by
  cases action with
  | beginExecution worker request now fresh =>
      obtain ⟨⟨answer, after⟩, called, rfl⟩ := Option.map_eq_some_iff.mp stepped
      exact sound.transact called fun opened after reply begun opening ran =>
        ⟨opening.claim begun ran allowed, (claimExecution_within ran).committed⟩
  | beginPhase2 worker request now fresh =>
      obtain ⟨⟨answer, after⟩, called, rfl⟩ := Option.map_eq_some_iff.mp stepped
      unfold beginPhase2 at called
      split at called
      · cases called
      rename_i opened began
      have begun := begun_of_begin began
      have opening := sound.begin began
      split at called
      · cases called
      · rename_i failure middle ran
        cases called
        have committed := (claimExecution_within ran).committed.trans begun.committed
        exact ⟨(opening.claim begun ran allowed).rollback, keepsEnded_of_committed committed⟩
      · rename_i execution middle ran
        cases called
        have committed := (claimExecution_within ran).committed.trans begun.committed
        exact ⟨opening.claim begun ran allowed, keepsEnded_of_committed committed⟩
  | commit worker =>
      cases stepped
      exact ⟨sound.commit, sound.commit_keepsEnded⟩
  | rollback worker =>
      cases stepped
      exact ⟨sound.rollback, keepsEnded_of_committed rfl⟩
  | completeExecution | failExecution =>
      obtain ⟨⟨answer, after⟩, called, rfl⟩ := Option.map_eq_some_iff.mp stepped
      refine sound.transact called fun opened after reply begun opening ran =>
        ⟨?_, (updateExecutionStatus_within ran).committed⟩
      refine opening.updateStatus ran fun executed row seen same => ?_
      rw [begun.seen] at seen
      rcases executed with nullable | complete
      · exact (allowed nullable).change rfl seen same
      · simp [StatusUpdate.ended, StatusUpdate.missing] at complete
  | completeExecutionInSession | failExecutionInSession =>
      obtain ⟨⟨row, after⟩, called, rfl⟩ := Option.map_eq_some_iff.mp stepped
      refine ⟨sound.change called (fun _ => rfl) fun row seen same => allowed.change rfl seen same, ?_⟩
      exact keepsEnded_of_committed (changeExecution_within called).committed
  | updateHeartbeat worker id now =>
      obtain ⟨⟨answer, after⟩, called, rfl⟩ := Option.map_eq_some_iff.mp stepped
      refine sound.transact called fun opened after reply begun opening ran => ?_
      split at ran
      · obtain ⟨⟨row, changedState⟩, changed, built⟩ := Option.map_eq_some_iff.mp ran
        cases built
        exact ⟨opening.change changed (fun _ => rfl) fun _ _ _ => .inl rfl,
          (changeExecution_within changed).committed⟩
      · cases ran
        exact ⟨opening, rfl⟩
  | reconcileStaleExecution worker execution now fresh =>
      obtain ⟨⟨answer, after⟩, called, rfl⟩ := Option.map_eq_some_iff.mp stepped
      refine sound.transact called fun opened after reply begun opening ran => ?_
      rw [begun.seen] at ran
      split at ran
      · cases ran
        exact ⟨opening, rfl⟩
      rename_i current found
      have member := List.mem_of_find?_eq_some found
      have replaced : ∀ answer, CosMonitor.replaceStale policy worker current.request current now fresh opened =
          some (answer, after) → isStale now current = true →
            Sound after ∧ after.executions.committed = opened.executions.committed :=
        fun answer called stale =>
          ⟨opening.replaceStale begun called member (isStale_running stale) rfl,
            (replaceStale_within called).committed⟩
      split at ran
      · rename_i stale
        split at ran
        · split at ran
          · cases ran
            exact ⟨opening, rfl⟩
          · exact replaced _ ran stale
        · exact replaced _ ran stale
      · cases ran
        exact ⟨opening, rfl⟩

/-- The store before any execution. -/
def emptyStore (revisions : List OutcomeRevision) : StoreState Worker where
  executions := { committed := [], sessions := fun _ => none }
  revisions
  changes := []

theorem sound_emptyStore (revisions : List OutcomeRevision) :
    Sound (emptyStore revisions : StoreState Worker) where
  consistent := by
    refine ⟨List.nodup_nil, ?_, ?_, ?_⟩
    · rintro _ ⟨⟩
    · rintro _ _ ⟨⟩
    · rintro _ _ _ _ _ ⟨⟩
  ranked := by
    refine ⟨?_, ?_, ?_⟩
    · rintro _ ⟨⟩
    · rintro _ ⟨⟩
    · rintro _ _ ⟨⟩
  transitions := by
    rintro _ ⟨⟩

/-- **Allowed runs respect the state machine.** In every state that the store reaches from the empty
table through steps that complete or fail only running executions (or ones that already have the
status), and that begin a first execution only where the revision has none: every status change was a
declared transition; each revision has at most one active execution; its attempt numbers are distinct;
and every further step leaves the ended executions with their status. -/
theorem allowed_runs_sound (policy : BindPolicy) (revisions : List OutcomeRevision)
    (state : StoreState Worker)
    (reached : (storeSystem Worker policy).Reachable (StepAllowed policy) (emptyStore revisions) state) :
    (∀ change ∈ state.changes, AllowedChange change.1 change.2) ∧
      (∀ revision, state.executions.committed.countP (fun row =>
        row.status.isActive && decide (row.outcomeRevisionId = revision)) ≤ 1) ∧
      (state.executions.committed.Pairwise fun first second =>
        first.outcomeRevisionId = second.outcomeRevisionId →
          first.attemptNumber ≠ second.attemptNumber) ∧
      ∀ action next, StepAllowed policy state action → storeStep policy state action = some next →
        KeepsEnded state next := by
  have sound : Sound state := by
    refine reached.invariant (sound_emptyStore revisions) fun before action after holds allowed moved => ?_
    exact (holds.step allowed moved).1
  have ids := sound.consistent.ids
  have index : Table.UniqueOn executionSchema.rowGroup executionSchema.active
      state.executions.committed := sound.consistent.activeOnce.groups_nodup ids
  refine ⟨sound.transitions, index.count_le_one, sound.ranked.pairwise ids, ?_⟩
  intro action next allowed stepped
  exact (sound.step allowed stepped).2

/-- A revision of a decision. -/
def firstRevision : OutcomeRevision where
  id := 7
  tenantId := 1
  decisionId := 2
  actualOutcomes := []
  executedAt := none
  createdAt := 0

/-- The request to learn from that revision. -/
def firstRequest : ExecutionRequest where
  tenantId := 1
  decisionId := 2
  outcomeRevisionId := 7

/-- What a run leaves in the table, and the status changes it made. -/
def StoreState.summary (state : StoreState Worker) :
    List (Uuid × Nat × ExecutionStatus) × List (ExecutionStatus × ExecutionStatus) :=
  (state.executions.committed.map fun row => (row.id, row.attemptNumber, row.status), state.changes)

/-- An execution completes; that of a later revision loses its heartbeat, and no update gets through. -/
theorem allowed_runs_sound_required :
    ∃ state : StoreState (Fin 2),
      state.summary =
        ([(11, 1, .completed), (12, 1, .running)], [(.running, .completed), (.running, .running)]) ∧
      (∀ change ∈ state.changes, AllowedChange change.1 change.2) ∧
      (∀ revision, state.executions.committed.countP (fun row =>
        row.status.isActive && decide (row.outcomeRevisionId = revision)) ≤ 1) ∧
      state.executions.committed.Pairwise fun first second =>
        first.outcomeRevisionId = second.outcomeRevisionId →
          first.attemptNumber ≠ second.attemptNumber := by
  have executed : ((storeSystem (Fin 2) .required).guardedRun (StepAllowed .required)
      (emptyStore [firstRevision, { firstRevision with id := 8 }])
      [.beginPhase2 0 firstRequest 0 11, .completeExecutionInSession 0 11 1 second, .commit 0,
        .beginPhase2 1 { firstRequest with outcomeRevisionId := 8 } second 12, .commit 1,
        .updateHeartbeat 0 12 (2 * second),
        .beginPhase2 0 { firstRequest with outcomeRevisionId := 8 } (303 * second) 13,
        .failExecution 1 12 "late" (304 * second)]).map StoreState.summary =
      some ([(11, 1, .completed), (12, 1, .running)], [(.running, .completed), (.running, .running)]) := by
    decide +kernel
  obtain ⟨state, ran, summary⟩ := Option.map_eq_some_iff.mp executed
  have reached := Transition.System.guardedRun_reachable ran
  obtain ⟨transitions, once, attempts, -⟩ := allowed_runs_sound .required _ state reached
  exact ⟨state, summary, transitions, once, attempts⟩

/-- A completed execution is failed afterwards, and the revision gets a second execution with attempt
number 1. -/
theorem completed_execution_fails :
    ∃ state : StoreState (Fin 1),
      (storeSystem (Fin 1) .required).Reachable (fun _ _ => True) (emptyStore [firstRevision]) state ∧
      (.completed, .failed) ∈ state.changes ∧ ¬AllowedChange .completed .failed ∧
      ¬state.executions.committed.Pairwise fun first second =>
        first.outcomeRevisionId = second.outcomeRevisionId →
          first.attemptNumber ≠ second.attemptNumber := by
  have executed : ((storeSystem (Fin 1) .required).guardedRun (fun _ _ => True)
      (emptyStore [firstRevision])
      [.beginPhase2 0 firstRequest 0 11, .completeExecutionInSession 0 11 1 1, .commit 0,
        .beginPhase2 0 firstRequest 2 12, .failExecutionInSession 0 11 "late" 3, .commit 0]).map
          (fun state => ((.completed, .failed) ∈ state.changes ∧
            ¬state.executions.committed.Pairwise fun first second =>
              first.outcomeRevisionId = second.outcomeRevisionId →
                first.attemptNumber ≠ second.attemptNumber : Bool)) = some true := by
    decide +kernel
  obtain ⟨state, ran, holds⟩ := Option.map_eq_some_iff.mp executed
  obtain ⟨changed, attempts⟩ := of_decide_eq_true holds
  exact ⟨state, Transition.System.guardedRun_reachable ran, changed, by decide, attempts⟩

end Runs

end CosMonitor
