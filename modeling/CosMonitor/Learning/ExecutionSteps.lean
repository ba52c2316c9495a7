/-
**What the operations of the execution store do.**

* `Within`: a statement inside a transaction leaves the committed table and the other sessions alone;
* `claimExecution_cases`: the four ways a claim returns;
* `changeExecution_seen`, `insertExecution_seen`: what the worker sees after a statement;
* `changeExecution_consistent`, `insertExecution_consistent`, `claimExecution_consistent`: the
  statements keep the invariant of the table and the sessions, for every lifecycle of statuses.
-/

import CosMonitor.Foundation.Settled
import CosMonitor.Learning.ExecutionStore

set_option linter.unusedSectionVars false

namespace CosMonitor

open Versions (Consistent Lifecycle)

section Steps

variable {Worker : Type} [DecidableEq Worker] [Fintype Worker]
  {lifecycle : Lifecycle executionSchema.isActive} {state middle next opened : StoreState Worker}
  {worker : Worker}

/-! ### Frames -/

/-- A statement inside a worker's transaction. -/
structure Within (worker : Worker) (state next : StoreState Worker) : Prop where
  committed : next.executions.committed = state.executions.committed
  others : ∀ other, other ≠ worker →
    next.executions.sessions other = state.executions.sessions other
  note : next.executions.note worker = state.executions.note worker
  revisions : next.revisions = state.revisions

theorem Within.refl (worker : Worker) (state : StoreState Worker) : Within worker state state :=
  ⟨rfl, fun _ _ => rfl, rfl, rfl⟩

theorem Within.trans (first : Within worker state middle) (second : Within worker middle next) :
    Within worker state next where
  committed := second.committed.trans first.committed
  others := fun other differ => (second.others other differ).trans (first.others other differ)
  note := second.note.trans first.note
  revisions := second.revisions.trans first.revisions

theorem Within.rollback (within : Within worker state next) :
    next.executions.rollback worker = state.executions.rollback worker := by
  have sessions : Function.update next.executions.sessions worker none =
      Function.update state.executions.sessions worker none := by
    funext other
    by_cases isWorker : other = worker
    · rw [isWorker, Function.update_self, Function.update_self]
    · rw [Function.update_of_ne isWorker, Function.update_of_ne isWorker, within.others other isWorker]
  unfold Versions.State.rollback Versions.State.setSession
  rw [sessions, within.committed]

theorem changeExecution_update {id : Uuid} {change : LearningExecution → LearningExecution}
    {result : Option LearningExecution}
    (changed : changeExecution worker id change state = some (result, next)) :
    state.executions.update executionSchema worker id change = some (result, next.executions) := by
  unfold changeExecution at changed
  obtain ⟨⟨found, executions⟩, updated, built⟩ := Option.map_eq_some_iff.mp changed
  cases built
  exact updated

theorem changeExecution_within {id : Uuid} {change : LearningExecution → LearningExecution}
    {result : Option LearningExecution}
    (changed : changeExecution worker id change state = some (result, next)) :
    Within worker state next := by
  unfold changeExecution at changed
  obtain ⟨⟨found, executions⟩, updated, built⟩ := Option.map_eq_some_iff.mp changed
  cases built
  obtain ⟨committed, others⟩ := Versions.update_frame updated
  exact ⟨committed, others, Versions.update_note updated, rfl⟩

theorem changeExecution_pending {id : Uuid} {change : LearningExecution → LearningExecution}
    {result : Option LearningExecution}
    (changed : changeExecution worker id change state = some (result, next))
    (content : ∀ row, (change row).toExecutionContent = row.toExecutionContent) :
    (next.executions.pending worker).map executionSchema.content =
      (state.executions.pending worker).map executionSchema.content := by
  exact Versions.update_pending (changeExecution_update changed) content

theorem updateExecutionStatus_cases {policy : BindPolicy} {id : Uuid} {update : StatusUpdate}
    {answer : Except DbError (Option LearningExecution)}
    (called : updateExecutionStatus policy worker id update state = some (answer, next)) :
    (next = state ∧ policy = .required ∧ ∃ parameter, answer = .error (.missingBind parameter)) ∨
      (policy = .nullable ∨ update.missing = none) ∧ ∃ row, answer = .ok row ∧
        changeExecution worker id update.apply state = some (row, next) := by
  unfold updateExecutionStatus at called
  split at called
  · cases called
    exact .inl ⟨rfl, rfl, _, rfl⟩
  · rename_i complete
    obtain ⟨⟨row, after⟩, changed, built⟩ := Option.map_eq_some_iff.mp called
    cases built
    refine .inr ⟨?_, row, rfl, changed⟩
    by_contra neither
    rw [not_or] at neither
    obtain ⟨parameter, absent⟩ := Option.ne_none_iff_exists'.mp neither.2
    refine complete parameter ?_ absent
    rename_i policy _ _
    cases policy with
    | nullable => exact absurd rfl neither.1
    | required => rfl

theorem StatusUpdate.apply_content (update : StatusUpdate) (row : LearningExecution) :
    (update.apply row).toExecutionContent = row.toExecutionContent := rfl

theorem updateExecutionStatus_within {policy : BindPolicy} {id : Uuid} {update : StatusUpdate}
    {answer : Except DbError (Option LearningExecution)}
    (called : updateExecutionStatus policy worker id update state = some (answer, next)) :
    Within worker state next := by
  rcases updateExecutionStatus_cases called with ⟨rfl, -⟩ | ⟨-, row, -, changed⟩
  · exact .refl _ _
  · exact changeExecution_within changed

theorem insertExecution_cases {request : ExecutionRequest} {attempt : Nat} {parent : Option Uuid}
    {now : Timestamp} {fresh : Uuid} {answer : Except DbError LearningExecution}
    (called : insertExecution worker request attempt parent now fresh state = some (answer, next)) :
    (next = state ∧ ∃ failure, answer = .error failure) ∨ ∃ row : LearningExecution,
      answer = .ok row ∧ row.id = fresh ∧ row.outcomeRevisionId = request.outcomeRevisionId ∧
        row.attemptNumber = attempt ∧ row.status = .running ∧
        state.executions.insert executionSchema worker row = some (.ok next.executions) ∧
        next.changes = state.changes ∧ next.revisions = state.revisions := by
  unfold insertExecution at called
  dsimp only at called
  split at called
  · cases called
    exact .inl ⟨rfl, _, rfl⟩
  split at called
  · cases called
  · cases called
    exact .inl ⟨rfl, _, rfl⟩
  · cases called
    exact .inl ⟨rfl, _, rfl⟩
  · rename_i executions inserted
    cases called
    exact .inr ⟨_, rfl, rfl, rfl, rfl, rfl, inserted, rfl, rfl⟩

theorem insertExecution_within {request : ExecutionRequest} {attempt : Nat} {parent : Option Uuid}
    {now : Timestamp} {fresh : Uuid} {answer : Except DbError LearningExecution}
    (called : insertExecution worker request attempt parent now fresh state = some (answer, next)) :
    Within worker state next := by
  rcases insertExecution_cases called with ⟨rfl, -⟩ | ⟨row, -, -, -, -, -, inserted, -, revisions⟩
  · exact .refl _ _
  · obtain ⟨committed, -, others⟩ := Versions.insert_frame inserted
    exact ⟨committed, others, Versions.insert_note inserted, revisions⟩

theorem replaceStale_within {policy : BindPolicy} {request : ExecutionRequest}
    {current : LearningExecution} {now : Timestamp} {fresh : Uuid}
    {answer : Except DbError (Option LearningExecution)}
    (called : replaceStale policy worker request current now fresh state = some (answer, next)) :
    Within worker state next := by
  unfold replaceStale at called
  split at called
  · cases called
  · rename_i updated
    cases called
    exact updateExecutionStatus_within updated
  · rename_i middle updated
    obtain ⟨⟨reply, after⟩, inserted, built⟩ := Option.map_eq_some_iff.mp called
    cases built
    exact (updateExecutionStatus_within updated).trans (insertExecution_within inserted)

theorem claimExecution_within {policy : BindPolicy} {request : ExecutionRequest}
    {now : Timestamp} {fresh : Uuid} {answer : Except DbError (Option LearningExecution)}
    (called : claimExecution policy worker request now fresh state = some (answer, next)) :
    Within worker state next := by
  unfold claimExecution at called
  split at called
  · obtain ⟨⟨row, after⟩, inserted, built⟩ := Option.map_eq_some_iff.mp called
    cases built
    exact insertExecution_within inserted
  split at called
  · cases called
    exact .refl _ _
  · cases called
    exact .refl _ _
  · cases called
    exact .refl _ _
  · split at called
    · exact replaceStale_within called
    · cases called
      exact .refl _ _
  · obtain ⟨⟨reply, after⟩, updated, built⟩ := Option.map_eq_some_iff.mp called
    cases built
    exact updateExecutionStatus_within updated

/-! ### Beginning -/

theorem beginTransaction_spec {lock : Option String}
    (begun : beginTransaction worker lock state = some opened) :
    state.LockFree worker lock ∧ state.executions.begin worker lock = some opened.executions ∧
      opened.changes = state.changes ∧ opened.revisions = state.revisions := by
  unfold beginTransaction at begun
  split at begun
  · rename_i free
    obtain ⟨executions, began, built⟩ := Option.map_eq_some_iff.mp begun
    cases built
    exact ⟨free, began, rfl, rfl⟩
  · cases begun

/-- A transaction that has just begun: nothing is pending, and it sees the committed table. -/
structure Begun (worker : Worker) (lock : Option String) (state opened : StoreState Worker) :
    Prop where
  free : state.LockFree worker lock
  committed : opened.executions.committed = state.executions.committed
  seen : opened.seen worker = state.executions.committed
  pending : opened.executions.pending worker = []
  others : ∀ other, other ≠ worker →
    opened.executions.sessions other = state.executions.sessions other
  closed : state.executions.sessions worker = none
  session : opened.executions.sessions worker = some ⟨lock, [], []⟩
  revisions : opened.revisions = state.revisions

theorem begun_of_begin {lock : Option String}
    (begun : beginTransaction worker lock state = some opened) :
    Begun worker lock state opened := by
  obtain ⟨free, began, -, revisions⟩ := beginTransaction_spec begun
  unfold Versions.State.begin at began
  split at began
  · rename_i closed
    have built := Option.some.inj began
    have own : opened.executions.sessions worker = some ⟨lock, [], []⟩ := by
      rw [← built, Versions.State.setSession_self]
    have committed : opened.executions.committed = state.executions.committed := by
      rw [← built]
      rfl
    refine ⟨free, committed, ?_, ?_, ?_, closed, own, revisions⟩
    · unfold StoreState.seen Versions.State.view
      rw [own, committed]
      show state.executions.committed.map _ ++ [] = _
      rw [List.append_nil]
      exact List.map_id _
    · unfold Versions.State.pending
      rw [own]
    · intro other differ
      rw [← built, Versions.State.setSession_ne _ _ differ]
  · cases began

theorem Begun.pending_ne {lock : Option String} {id : Uuid} (begun : Begun worker lock state opened)
    (unissued : ∀ other, ∀ row ∈ state.executions.pending other, row.id ≠ id) :
    ∀ other, ∀ row ∈ opened.executions.pending other, row.id ≠ id := by
  intro other row member
  by_cases isWorker : other = worker
  · rw [isWorker, begun.pending] at member
    cases member
  · rw [Versions.pending_of_sessions (begun.others other isWorker)] at member
    exact unissued other row member

theorem Begun.rollback {lock : Option String} (begun : Begun worker lock state opened) :
    opened.executions.rollback worker = state.executions := by
  have sessions : Function.update opened.executions.sessions worker none =
      state.executions.sessions := by
    funext other
    by_cases isWorker : other = worker
    · rw [isWorker, Function.update_self, begun.closed]
    · rw [Function.update_of_ne isWorker, begun.others other isWorker]
  unfold Versions.State.rollback Versions.State.setSession
  rw [sessions, begun.committed]

theorem begun_consistent {lock : Option String}
    (begun : beginTransaction worker lock state = some opened)
    (consistent : Consistent executionSchema lifecycle state.executions) :
    Consistent executionSchema lifecycle opened.executions :=
  consistent.begin (beginTransaction_spec begun).2.1

/-! ### Claiming -/

/-- **The four ways a claim returns**: an active execution that is not stale is skipped, a pending one
is claimed, a stale one is replaced, and the first is created. -/
theorem claimExecution_cases {policy : BindPolicy} {request : ExecutionRequest}
    {now : Timestamp} {fresh : Uuid} {answer : Option LearningExecution}
    (called : claimExecution policy worker request now fresh state = some (.ok answer, next)) :
    (∃ existing, findActiveExecution request.outcomeRevisionId (state.seen worker) = some existing ∧
      existing.status = .running ∧ isStale now existing = false ∧ answer = none ∧ next = state) ∨
    (∃ existing row, findActiveExecution request.outcomeRevisionId (state.seen worker) =
        some existing ∧ existing.status = .pending ∧ policy = .nullable ∧
        answer = some ((StatusUpdate.claimed now).apply existing) ∧
        changeExecution worker existing.id (StatusUpdate.claimed now).apply state =
          some (row, next)) ∨
    (∃ existing old row middle,
      findActiveExecution request.outcomeRevisionId (state.seen worker) = some existing ∧
        existing.status = .running ∧ answer = some row ∧
        changeExecution worker existing.id (StatusUpdate.ended .stale now).apply state =
          some (old, middle) ∧
        insertExecution worker request (existing.attemptNumber + 1) (some existing.id) now fresh
          middle = some (.ok row, next)) ∨
    ∃ row, findActiveExecution request.outcomeRevisionId (state.seen worker) = none ∧
      answer = some row ∧
      insertExecution worker request 1 none now fresh state = some (.ok row, next) := by
  unfold claimExecution at called
  split at called
  · rename_i absent
    obtain ⟨⟨reply, after⟩, inserted, built⟩ := Option.map_eq_some_iff.mp called
    cases reply with
    | error failure => cases built
    | ok row =>
        cases built
        exact .inr (.inr (.inr ⟨row, absent, rfl, inserted⟩))
  rename_i existing found
  obtain ⟨-, -, active⟩ := findActiveExecution_some found
  split at called
  · rename_i ended
    rw [ended] at active
    cases active
  · rename_i ended
    rw [ended] at active
    cases active
  · rename_i ended
    rw [ended] at active
    cases active
  · rename_i running
    split at called
    · unfold replaceStale at called
      split at called
      · cases called
      · cases called
      · rename_i middle updated
        obtain ⟨⟨reply, after⟩, inserted, built⟩ := Option.map_eq_some_iff.mp called
        cases reply with
        | error failure => cases built
        | ok row =>
            cases built
            rcases updateExecutionStatus_cases updated with ⟨-, -, _, same⟩ | ⟨-, old, -, changed⟩
            · cases same
            · exact .inr (.inr (.inl ⟨existing, old, row, middle, found, running, rfl, changed,
                inserted⟩))
    · rename_i alive
      cases called
      exact .inl ⟨existing, found, running, by simpa using alive, rfl, rfl⟩
  · rename_i pending
    obtain ⟨⟨reply, after⟩, updated, built⟩ := Option.map_eq_some_iff.mp called
    rcases updateExecutionStatus_cases updated with ⟨-, -, _, rfl⟩ | ⟨executed, row, rfl, changed⟩
    · cases built
    · cases built
      refine .inr (.inl ⟨existing, row, found, pending, ?_, rfl, changed⟩)
      rcases executed with nullable | complete
      · exact nullable
      · cases complete

/-! ### What the worker sees -/

/-- **A change of one execution changes it in what the worker sees.** -/
theorem changeExecution_seen {id : Uuid} {change : LearningExecution → LearningExecution}
    {result : Option LearningExecution}
    (consistent : Consistent executionSchema lifecycle state.executions)
    (changed : changeExecution worker id change state = some (result, next))
    (content : ∀ row, (change row).toExecutionContent = row.toExecutionContent) :
    next.seen worker = (state.seen worker).map fun row =>
      if row.id = id then change row else row := by
  exact Versions.update_view consistent (changeExecution_update changed) content

theorem insertExecution_seen {request : ExecutionRequest} {attempt : Nat} {parent : Option Uuid}
    {now : Timestamp} {fresh : Uuid} {row : LearningExecution}
    (called : insertExecution worker request attempt parent now fresh state = some (.ok row, next)) :
    next.seen worker = state.seen worker ++ [row] := by
  rcases insertExecution_cases called with ⟨-, _, failed⟩ | ⟨_, same, -, -, -, -, inserted, -, -⟩
  · cases failed
  · cases same
    exact Versions.insert_view inserted

/-- **An insert returns** when its revision exists, its id is new, and the worker sees no active
execution of its revision. -/
theorem insertExecution_returns {request : ExecutionRequest} {attempt : Nat} {parent : Option Uuid}
    {now : Timestamp} {fresh : Uuid} {answer : Except DbError LearningExecution}
    (called : insertExecution worker request attempt parent now fresh state = some (answer, next))
    (submitted : ∃ revision ∈ state.revisions, revision.id = request.outcomeRevisionId)
    (committed : ∀ row ∈ state.executions.committed, row.id ≠ fresh)
    (pending : ∀ other, ∀ row ∈ state.executions.pending other, row.id ≠ fresh)
    (inactive : ∀ row ∈ state.seen worker, row.outcomeRevisionId = request.outcomeRevisionId →
      row.status.isActive = false) : ∃ row, answer = .ok row := by
  unfold insertExecution at called
  dsimp only at called
  rw [if_neg (by push Not; exact submitted)] at called
  split at called
  · cases called
  · rename_i violated
    unfold Versions.State.insert at violated
    split at violated
    · cases violated
    split at violated
    · cases violated
    split at violated
    · rename_i used
      rcases used with old | ⟨other, new⟩
      · obtain ⟨row, member, same⟩ := List.mem_map.mp old
        exact absurd same (committed row member)
      · obtain ⟨row, member, same⟩ := List.mem_map.mp new
        exact absurd same (pending other row member)
    split at violated
    · cases violated
    · cases violated
  · rename_i violated
    unfold Versions.State.insert at violated
    split at violated
    · cases violated
    rename_i session opened
    split at violated
    · cases violated
    split at violated
    · cases violated
    split at violated
    · rename_i covered
      obtain ⟨-, row, member, active, same⟩ := covered
      rw [← Versions.view_opened opened] at member
      rw [executionSchema_active, inactive row member same] at active
      cases active
    · cases violated
  · cases called
    exact ⟨_, rfl⟩

/-! ### The invariant -/

theorem changeExecution_consistent {id : Uuid} {change : LearningExecution → LearningExecution}
    {result : Option LearningExecution}
    (consistent : Consistent executionSchema lifecycle state.executions)
    (changed : changeExecution worker id change state = some (result, next))
    (content : ∀ row, (change row).toExecutionContent = row.toExecutionContent)
    (moved : ∀ row ∈ state.seen worker, row.id = id →
      lifecycle.may row.status (change row).status) :
    Consistent executionSchema lifecycle next.executions := by
  exact consistent.update (changeExecution_update changed) fun row seen hasId => ⟨content row, moved row seen hasId⟩

theorem insertExecution_consistent {request : ExecutionRequest} {attempt : Nat}
    {parent : Option Uuid} {now : Timestamp} {fresh : Uuid}
    {answer : Except DbError LearningExecution}
    (consistent : Consistent executionSchema lifecycle state.executions)
    (called : insertExecution worker request attempt parent now fresh state = some (answer, next))
    (first : ∀ own ∈ state.executions.pending worker,
      own.outcomeRevisionId ≠ request.outcomeRevisionId) :
    Consistent executionSchema lifecycle next.executions := by
  rcases insertExecution_cases called with ⟨rfl, -⟩ | ⟨row, -, -, revision, -, running, inserted, -⟩
  · exact consistent
  · refine consistent.insert inserted ?_ ?_
    · rw [executionSchema_active, running]
      rfl
    · intro own ownIn
      rw [executionSchema_rowGroup, executionSchema_rowGroup, revision]
      exact first own ownIn

theorem moves_of_active (consistent : Consistent executionSchema lifecycle state.executions)
    {existing : LearningExecution} (member : existing ∈ state.seen worker)
    (active : existing.status.isActive = true) (status : ExecutionStatus) :
    ∀ row ∈ state.seen worker, row.id = existing.id → lifecycle.may row.status status := by
  intro row seen same
  rw [Versions.eq_of_rowId (consistent.view_ids worker) seen member same]
  exact lifecycle.active active

theorem changeExecution_pending_nil {id : Uuid} {change : LearningExecution → LearningExecution}
    {result : Option LearningExecution}
    (changed : changeExecution worker id change state = some (result, next))
    (content : ∀ row, (change row).toExecutionContent = row.toExecutionContent)
    (nothing : state.executions.pending worker = []) : next.executions.pending worker = [] := by
  have contents := changeExecution_pending changed content
  rw [nothing] at contents
  exact List.map_eq_nil_iff.mp contents

/-- **A claim keeps the invariant** in a transaction that has inserted nothing yet. -/
theorem claimExecution_consistent {policy : BindPolicy} {request : ExecutionRequest}
    {now : Timestamp} {fresh : Uuid} {answer : Option LearningExecution}
    (consistent : Consistent executionSchema lifecycle state.executions)
    (nothing : state.executions.pending worker = [])
    (called : claimExecution policy worker request now fresh state = some (.ok answer, next)) :
    Consistent executionSchema lifecycle next.executions := by
  rcases claimExecution_cases called with
    ⟨existing, -, -, -, -, rfl⟩ | ⟨existing, row, found, pending, -, -, changed⟩ |
      ⟨existing, old, row, middle, found, running, -, changed, inserted⟩ | ⟨row, -, -, inserted⟩
  · exact consistent
  · obtain ⟨member, -, active⟩ := findActiveExecution_some found
    exact changeExecution_consistent consistent changed (StatusUpdate.apply_content _)
      (moves_of_active consistent member active _)
  · obtain ⟨member, -, active⟩ := findActiveExecution_some found
    have still := changeExecution_consistent consistent changed (StatusUpdate.apply_content _)
      (moves_of_active consistent member active _)
    refine insertExecution_consistent still inserted ?_
    rw [changeExecution_pending_nil changed (StatusUpdate.apply_content _) nothing]
    rintro _ ⟨⟩
  · refine insertExecution_consistent consistent inserted ?_
    rw [nothing]
    rintro _ ⟨⟩

/-! ### Taking a stale execution over -/

/-- **Replacing the active execution of a revision returns**, when the driver sends `NULL`. -/
theorem replaceStale_returns {request : ExecutionRequest} {lock : Option String}
    {before store : StoreState Worker} {existing : LearningExecution} {now : Timestamp}
    {fresh : Uuid} {answer : Except DbError (Option LearningExecution)}
    (begun : Begun worker lock before opened)
    (consistent : Consistent executionSchema lifecycle opened.executions)
    (found : findActiveExecution request.outcomeRevisionId (opened.seen worker) = some existing)
    (submitted : ∃ revision ∈ opened.revisions, revision.id = request.outcomeRevisionId)
    (committed : ∀ row ∈ opened.executions.committed, row.id ≠ fresh)
    (pending : ∀ other, ∀ row ∈ opened.executions.pending other, row.id ≠ fresh)
    (called : replaceStale .nullable worker request existing now fresh opened =
      some (answer, store)) :
    ∃ old row middle, answer = .ok (some row) ∧
      changeExecution worker existing.id (StatusUpdate.ended .stale now).apply opened =
        some (old, middle) ∧
      insertExecution worker request (existing.attemptNumber + 1) (some existing.id) now fresh middle =
        some (.ok row, store) := by
  obtain ⟨member, revision, active⟩ := findActiveExecution_some found
  unfold replaceStale at called
  split at called
  · cases called
  · rename_i updated
    rcases updateExecutionStatus_cases updated with ⟨-, required, -⟩ | ⟨-, _, failed, -⟩
    · cases required
    · cases failed
  · rename_i middle updated
    rcases updateExecutionStatus_cases updated with ⟨-, required, -⟩ | ⟨-, old, -, changed⟩
    · cases required
    obtain ⟨⟨reply, after⟩, inserted, built⟩ := Option.map_eq_some_iff.mp called
    cases built
    have within := changeExecution_within changed
    have returns : ∃ row, reply = .ok row := by
      refine insertExecution_returns inserted ?_ ?_ ?_ ?_
      · rw [within.revisions]
        exact submitted
      · rw [within.committed]
        exact committed
      · intro other row rowIn
        by_cases isWorker : other = worker
        · rw [isWorker, changeExecution_pending_nil changed (StatusUpdate.apply_content _)
            begun.pending] at rowIn
          cases rowIn
        · rw [Versions.pending_of_sessions (within.others other isWorker)] at rowIn
          exact pending other row rowIn
      · -- The stale execution was the active one, and it has ended.
        rw [changeExecution_seen consistent changed (StatusUpdate.apply_content _), begun.seen,
          ← begun.committed]
        intro row rowIn sameRevision
        obtain ⟨past, pastIn, rfl⟩ := List.mem_map.mp rowIn
        by_cases chosen : past.id = existing.id
        · rw [if_pos chosen]
          rfl
        · rw [if_neg chosen] at sameRevision ⊢
          rw [begun.seen, ← begun.committed] at member
          by_contra alive
          exact chosen (consistent.activeOnce past pastIn existing member (by simpa using alive) active
            (sameRevision.trans revision.symm))
    obtain ⟨row, rfl⟩ := returns
    exact ⟨old, row, middle, rfl, changed, inserted⟩

theorem claimExecution_replaces {policy : BindPolicy} {request : ExecutionRequest}
    {existing : LearningExecution} {now : Timestamp} {fresh : Uuid}
    (found : findActiveExecution request.outcomeRevisionId (state.seen worker) = some existing)
    (stale : isStale now existing = true) :
    claimExecution policy worker request now fresh state =
      replaceStale policy worker request existing now fresh state := by
  unfold claimExecution
  rw [found]
  dsimp only
  rw [isStale_running stale]
  dsimp only
  rw [if_pos stale]

/-- **A claim of a stale execution returns the next attempt**, when the driver sends `NULL`. -/
theorem claimExecution_stale {request : ExecutionRequest} {lock : Option String}
    {before store : StoreState Worker} {existing : LearningExecution} {now : Timestamp}
    {fresh : Uuid} {answer : Except DbError (Option LearningExecution)}
    (begun : Begun worker lock before opened)
    (consistent : Consistent executionSchema lifecycle opened.executions)
    (found : findActiveExecution request.outcomeRevisionId (opened.seen worker) = some existing)
    (stale : isStale now existing = true)
    (submitted : ∃ revision ∈ opened.revisions, revision.id = request.outcomeRevisionId)
    (committed : ∀ row ∈ opened.executions.committed, row.id ≠ fresh)
    (pending : ∀ other, ∀ row ∈ opened.executions.pending other, row.id ≠ fresh)
    (called : claimExecution .nullable worker request now fresh opened = some (answer, store)) :
    ∃ row, answer = .ok (some row) := by
  rw [claimExecution_replaces found stale] at called
  obtain ⟨-, row, -, returned, -⟩ :=
    replaceStale_returns begun consistent found submitted committed pending called
  exact ⟨row, returned⟩

/-! ### Settled executions -/

theorem changeExecution_settled {id : Uuid} {change : LearningExecution → LearningExecution}
    {result : Option LearningExecution} {row : LearningExecution}
    (settled : Versions.Settled executionSchema state.executions row)
    (changed : changeExecution worker id change state = some (result, next))
    (content : ∀ row, (change row).toExecutionContent = row.toExecutionContent)
    (differ : row.id ≠ id) : Versions.Settled executionSchema next.executions row := by
  exact settled.update (changeExecution_update changed) content differ

theorem insertExecution_settled {request : ExecutionRequest} {attempt : Nat} {parent : Option Uuid}
    {now : Timestamp} {fresh : Uuid} {answer : Except DbError LearningExecution}
    {row : LearningExecution} (settled : Versions.Settled executionSchema state.executions row)
    (called : insertExecution worker request attempt parent now fresh state = some (answer, next)) :
    Versions.Settled executionSchema next.executions row := by
  rcases insertExecution_cases called with ⟨rfl, -⟩ | ⟨new, -, -, -, -, -, inserted, -, -⟩
  · exact settled
  · exact settled.insert inserted

theorem claimExecution_settled {policy : BindPolicy} {request : ExecutionRequest} {now : Timestamp}
    {fresh : Uuid} {answer : Option LearningExecution} {row : LearningExecution}
    (consistent : Consistent executionSchema lifecycle state.executions)
    (settled : Versions.Settled executionSchema state.executions row)
    (called : claimExecution policy worker request now fresh state = some (.ok answer, next))
    (differ : row.outcomeRevisionId ≠ request.outcomeRevisionId) :
    Versions.Settled executionSchema next.executions row := by
  have apart : ∀ existing, findActiveExecution request.outcomeRevisionId (state.seen worker) =
      some existing → row.id ≠ existing.id := by
    intro existing found same
    obtain ⟨member, revision, -⟩ := findActiveExecution_some found
    have isExisting : row = existing :=
      Versions.eq_of_rowId (consistent.view_ids worker) (settled.seen worker) member same
    rw [isExisting] at differ
    exact differ revision
  rcases claimExecution_cases called with
    ⟨existing, -, -, -, -, rfl⟩ | ⟨existing, old, found, -, -, -, changed⟩ |
      ⟨existing, old, new, middle, found, -, -, changed, inserted⟩ | ⟨new, -, -, inserted⟩
  · exact settled
  · exact changeExecution_settled settled changed (StatusUpdate.apply_content _)
      (apart existing found)
  · exact insertExecution_settled (changeExecution_settled settled changed
      (StatusUpdate.apply_content _) (apart existing found)) inserted
  · exact insertExecution_settled settled inserted

/-! ### Whole operations -/

/-- What a worker has claimed in a transaction that is still open. -/
structure Claimed (worker : Worker) (state next : StoreState Worker) (request : ExecutionRequest)
    (execution : LearningExecution) : Prop where
  seen : ∃ row ∈ next.seen worker, row.toExecutionContent = execution.toExecutionContent
  revision : execution.outcomeRevisionId = request.outcomeRevisionId
  completed : ∀ row ∈ next.seen worker, row.status = .completed → row ∈ state.executions.committed
  origin : (∃ existing, findActiveExecution request.outcomeRevisionId state.executions.committed =
      some existing ∧ existing.status = .pending ∧ existing.id = execution.id) ∨
    (∀ existing ∈ findActiveExecution request.outcomeRevisionId state.executions.committed,
        existing.status ≠ .pending) ∧
      ∀ row ∈ state.executions.committed, row.id ≠ execution.id

theorem completed_of_change {rows : List LearningExecution} {id : Uuid} {update : StatusUpdate}
    (open' : update.status ≠ .completed) {row : LearningExecution}
    (member : row ∈ rows.map fun row => if row.id = id then update.apply row else row)
    (completed : row.status = .completed) : row ∈ rows := by
  obtain ⟨old, oldIn, rfl⟩ := List.mem_map.mp member
  by_cases chosen : old.id = id
  · rw [if_pos chosen] at completed
    exact absurd completed open'
  · rw [if_neg chosen]
    exact oldIn

/-- **What a claim that returned an execution has done.** -/
theorem claimExecution_claimed {policy : BindPolicy} {request : ExecutionRequest}
    {now : Timestamp} {fresh : Uuid} {lock : Option String} {execution : LearningExecution}
    (begun : Begun worker lock state opened)
    (consistent : Consistent executionSchema lifecycle opened.executions)
    (called : claimExecution policy worker request now fresh opened =
      some (.ok (some execution), next)) : Claimed worker state next request execution := by
  rcases claimExecution_cases called with
    ⟨existing, -, -, -, none, -⟩ | ⟨existing, row, found, pending, -, same, changed⟩ |
      ⟨existing, old, row, middle, found, running, same, changed, inserted⟩ |
      ⟨row, found, same, inserted⟩
  · cases none
  · cases same
    rw [begun.seen] at found
    obtain ⟨member, revision, active⟩ := findActiveExecution_some found
    have seen := changeExecution_seen consistent changed (StatusUpdate.apply_content _)
    rw [begun.seen] at seen
    refine ⟨?_, revision, ?_, .inl ⟨existing, found, pending, rfl⟩⟩
    · rw [seen]
      refine ⟨_, List.mem_map_of_mem member, ?_⟩
      rw [if_pos rfl]
    · intro row rowIn completed
      rw [seen] at rowIn
      exact completed_of_change (fun same => by cases same) rowIn completed
  · cases same
    rw [begun.seen] at found
    obtain ⟨member, revision, active⟩ := findActiveExecution_some found
    have middleSeen := changeExecution_seen consistent changed (StatusUpdate.apply_content _)
    rw [begun.seen] at middleSeen
    have seen := insertExecution_seen inserted
    have within := changeExecution_within changed
    rcases insertExecution_cases inserted with ⟨-, _, failed⟩ |
      ⟨_, same, newId, newRevision, -, running', stored, -, -⟩
    · cases failed
    cases same
    refine ⟨⟨_, ?_, rfl⟩, newRevision, ?_, .inr ⟨?_, ?_⟩⟩
    · rw [seen]
      exact List.mem_append_right _ (List.mem_singleton_self _)
    · intro row rowIn completed
      rw [seen] at rowIn
      rcases List.mem_append.mp rowIn with older | new
      · rw [middleSeen] at older
        exact completed_of_change (fun same => by cases same) older completed
      · rw [List.mem_singleton.mp new, running'] at completed
        cases completed
    · intro other otherFound pending
      rw [Option.mem_unique otherFound found, running] at pending
      cases pending
    · have freshId := Versions.insert_fresh stored
      rw [within.committed, begun.committed] at freshId
      exact freshId
  · cases same
    have seen := insertExecution_seen inserted
    rw [begun.seen] at seen
    rcases insertExecution_cases inserted with ⟨-, _, failed⟩ |
      ⟨_, same, newId, newRevision, -, running, stored, -, -⟩
    · cases failed
    cases same
    rw [begun.seen] at found
    refine ⟨⟨_, ?_, rfl⟩, newRevision, ?_, .inr ⟨?_, ?_⟩⟩
    · rw [seen]
      exact List.mem_append_right _ (List.mem_singleton_self _)
    · intro row rowIn completed
      rw [seen] at rowIn
      rcases List.mem_append.mp rowIn with older | new
      · exact older
      · rw [List.mem_singleton.mp new, running] at completed
        cases completed
    · rw [found]
      rintro _ ⟨⟩
    · have freshId := Versions.insert_fresh stored
      rw [begun.committed] at freshId
      exact freshId

theorem beginPhase2_cases {policy : BindPolicy} {request : ExecutionRequest}
    {now : Timestamp} {fresh : Uuid} {answer : Except DbError (Option LearningExecution)}
    (called : beginPhase2 policy worker request now fresh state = some (answer, next)) :
    ∃ opened, beginTransaction worker (some (lockKey request.tenantId request.decisionId)) state =
        some opened ∧
      ((∃ failure, answer = .error failure ∧ next.executions = state.executions ∧
          next.revisions = state.revisions) ∨
        ∃ execution, answer = .ok execution ∧
          claimExecution policy worker request now fresh opened = some (.ok execution, next)) := by
  unfold beginPhase2 at called
  split at called
  · cases called
  rename_i opened began
  have begun := begun_of_begin began
  refine ⟨opened, began, ?_⟩
  split at called
  · cases called
  · rename_i failure after claimed
    cases called
    have within := claimExecution_within claimed
    exact .inl ⟨failure, rfl, within.rollback.trans begun.rollback,
      within.revisions.trans begun.revisions⟩
  · rename_i execution after claimed
    cases called
    exact .inr ⟨execution, rfl, claimed⟩

theorem Begun.commit_sessions {lock : Option String} (begun : Begun worker lock state opened)
    (within : Within worker opened next) :
    (commitTransaction worker next).executions.sessions = state.executions.sessions := by
  show Function.update next.executions.sessions worker none = _
  funext other
  by_cases isWorker : other = worker
  · rw [isWorker, Function.update_self, begun.closed]
  · rw [Function.update_of_ne isWorker, within.others other isWorker, begun.others other isWorker]

/-- **What an operation in a transaction of its own has done**: it ran on what the transaction opened,
and its statements were committed when it returned and rolled back when it raised. -/
theorem transact_cases {Value : Type} {lock : Option String}
    {operation : StoreState Worker → Answer Value (StoreState Worker)}
    {answer : Except DbError Value}
    (called : transact worker lock operation state = some (answer, next)) :
    ∃ opened after, beginTransaction worker lock state = some opened ∧
      operation opened = some (answer, after) ∧
      ((∃ failure, answer = .error failure ∧ next = rollbackTransaction worker after) ∨
        ∃ value, answer = .ok value ∧ next = commitTransaction worker after) := by
  unfold transact at called
  split at called
  · cases called
  rename_i opened began
  refine ⟨opened, ?_⟩
  split at called
  · cases called
  · rename_i failure after ran
    cases called
    exact ⟨after, began, ran, .inl ⟨failure, rfl, rfl⟩⟩
  · rename_i value after ran
    cases called
    exact ⟨after, began, ran, .inr ⟨value, rfl, rfl⟩⟩

/-- The status update of `fail_execution`. -/
abbrev failedUpdate (failureReason : String) (now : Timestamp) : StatusUpdate :=
  { StatusUpdate.ended .failed now with failureReason := some failureReason }

/-- **What `fail_execution` has done**: a driver that requires every bind raises, and one that sends
`NULL` changes the execution of the id in a transaction of its own. -/
theorem failExecution_cases {policy : BindPolicy} {id : Uuid} {failureReason : String}
    {now : Timestamp} {answer : Except DbError (Option LearningExecution)}
    (called : failExecution policy worker id failureReason now state = some (answer, next)) :
    (policy = .required ∧ (∃ parameter, answer = .error (.missingBind parameter)) ∧
        next.executions = state.executions ∧ next.revisions = state.revisions) ∨
      (policy = .nullable ∧ ∃ opened after row, beginTransaction worker none state = some opened ∧
        changeExecution worker id (failedUpdate failureReason now).apply opened =
          some (row, after) ∧
        answer = .ok row ∧ next = commitTransaction worker after) := by
  unfold failExecution at called
  obtain ⟨opened, after, began, updated, ends⟩ := transact_cases called
  have begun := begun_of_begin began
  have within := updateExecutionStatus_within updated
  rcases updateExecutionStatus_cases updated with ⟨-, required, parameter, rfl⟩ |
    ⟨executed, row, rfl, changed⟩
  · obtain ⟨_, -, rfl⟩ | ⟨_, same, -⟩ := ends
    · exact .inl ⟨required, ⟨parameter, rfl⟩, within.rollback.trans begun.rollback,
        within.revisions.trans begun.revisions⟩
    · cases same
  · obtain ⟨_, same, -⟩ | ⟨_, -, rfl⟩ := ends
    · cases same
    · rcases executed with nullable | complete
      · exact .inr ⟨nullable, opened, after, row, began, changed, rfl, rfl⟩
      · cases complete

theorem failExecution_revisions {policy : BindPolicy} {id : Uuid} {failureReason : String}
    {now : Timestamp} {answer : Except DbError (Option LearningExecution)}
    (called : failExecution policy worker id failureReason now state = some (answer, next)) :
    next.revisions = state.revisions := by
  rcases failExecution_cases called with ⟨-, -, -, same⟩ |
    ⟨-, opened, after, row, began, changed, -, rfl⟩
  · exact same
  · have begun := begun_of_begin began
    exact (changeExecution_within changed).revisions.trans begun.revisions

theorem committed_change {lock : Option String} {id : Uuid} {result : Option LearningExecution}
    {change : LearningExecution → LearningExecution}
    (consistent : Consistent executionSchema lifecycle state.executions)
    (began : beginTransaction worker lock state = some opened)
    (changed : changeExecution worker id change opened = some (result, next))
    (content : ∀ row, (change row).toExecutionContent = row.toExecutionContent) :
    (commitTransaction worker next).executions.committed =
        state.executions.committed.map (fun row => if row.id = id then change row else row) ∧
      (commitTransaction worker next).executions.sessions = state.executions.sessions := by
  have begun := begun_of_begin began
  have seen := changeExecution_seen (begun_consistent began consistent) changed content
  rw [begun.seen] at seen
  exact ⟨seen, begun.commit_sessions (changeExecution_within changed)⟩

theorem Begun.commit {lock : Option String} (begun : Begun worker lock state opened) :
    (commitTransaction worker opened).executions = state.executions := by
  have sessions := begun.commit_sessions (Within.refl worker opened)
  have committed : (commitTransaction worker opened).executions.committed =
      state.executions.committed := begun.seen
  cases after : (commitTransaction worker opened).executions with
  | mk rows open' =>
      rw [after] at sessions committed
      cases before : state.executions with
      | mk oldRows oldOpen =>
          rw [before] at sessions committed
          exact congrArg₂ _ committed sessions

/-- What taking over a stale execution has done. -/
structure TakenOver (worker : Worker) (execution : LearningExecution) (now : Timestamp) (fresh : Uuid)
    (state next : StoreState Worker) (taken : LearningExecution) : Prop where
  steps : ∃ lock opened middle after old current, beginTransaction worker lock state = some opened ∧
    current ∈ state.executions.committed ∧ current.id = execution.id ∧ isStale now current = true ∧
    changeExecution worker current.id (StatusUpdate.ended .stale now).apply opened =
      some (old, middle) ∧
    insertExecution worker current.request (current.attemptNumber + 1) (some current.id) now fresh
      middle = some (.ok taken, after) ∧
    next = commitTransaction worker after

/-- **What a reconciliation has done**: nothing, or, with a driver that sends `NULL`, it has taken a
stale execution over. -/
theorem reconcileStaleExecution_cases {policy : BindPolicy} {execution : LearningExecution}
    {now : Timestamp} {fresh : Uuid} {answer : Except DbError (Option LearningExecution)}
    (called : reconcileStaleExecution policy worker execution now fresh state =
      some (answer, next)) :
    (next.executions = state.executions ∧ next.revisions = state.revisions ∧
        ∀ taken, answer ≠ .ok (some taken)) ∨
      policy = .nullable ∧ ∃ taken, answer = .ok (some taken) ∧
        TakenOver worker execution now fresh state next taken := by
  unfold reconcileStaleExecution at called
  obtain ⟨opened, after, began, ran, ends⟩ := transact_cases called
  have begun := begun_of_begin began
  have replaced : ∀ current reply after, current ∈ state.executions.committed →
      current.id = execution.id → isStale now current = true →
      replaceStale policy worker current.request current now fresh opened = some (reply, after) →
        (∃ failure, reply = .error failure) ∨ policy = .nullable ∧ ∃ taken, reply = .ok (some taken) ∧
          TakenOver worker execution now fresh state (commitTransaction worker after) taken := by
    intro current reply after member isCurrent stale ran
    unfold replaceStale at ran
    split at ran
    · cases ran
    · cases ran
      exact .inl ⟨_, rfl⟩
    · rename_i middle updated
      obtain ⟨⟨row, last⟩, inserted, built⟩ := Option.map_eq_some_iff.mp ran
      cases row with
      | error failure =>
          cases built
          exact .inl ⟨_, rfl⟩
      | ok taken =>
          cases built
          rcases updateExecutionStatus_cases updated with ⟨-, -, _, failed⟩ |
            ⟨executed, old, -, changed⟩
          · cases failed
          · refine .inr ⟨?_, taken, rfl, ⟨_, opened, middle, _, old, current, began, member,
              isCurrent, stale, changed, inserted, rfl⟩⟩
            rcases executed with nullable | complete
            · exact nullable
            · cases complete
  -- What the statements after the lock have done.
  have operated : Within worker opened after ∧
      ((answer = .ok none ∧ after = opened) ∨ (∃ failure, answer = .error failure) ∨
        policy = .nullable ∧ ∃ taken, answer = .ok (some taken) ∧
          TakenOver worker execution now fresh state (commitTransaction worker after) taken) := by
    rw [begun.seen] at ran
    split at ran
    · cases ran
      exact ⟨.refl _ _, .inl ⟨rfl, rfl⟩⟩
    rename_i current found
    have member := List.mem_of_find?_eq_some found
    have isCurrent : current.id = execution.id := by simpa using List.find?_some found
    split at ran
    · rename_i stale
      split at ran
      · split at ran
        · cases ran
          exact ⟨.refl _ _, .inl ⟨rfl, rfl⟩⟩
        · exact ⟨replaceStale_within ran,
            .inr (replaced current answer after member isCurrent stale ran)⟩
      · exact ⟨replaceStale_within ran,
          .inr (replaced current answer after member isCurrent stale ran)⟩
    · cases ran
      exact ⟨.refl _ _, .inl ⟨rfl, rfl⟩⟩
  obtain ⟨within, done⟩ := operated
  obtain ⟨failure, rfl, rfl⟩ | ⟨value, rfl, rfl⟩ := ends
  · exact .inl ⟨within.rollback.trans begun.rollback, within.revisions.trans begun.revisions,
      fun taken same => by cases same⟩
  · rcases done with ⟨same, rfl⟩ | ⟨failure, same⟩ | taken
    · cases same
      exact .inl ⟨begun.commit, begun.revisions, fun taken same => by cases same⟩
    · cases same
    · exact .inr taken

end Steps

end CosMonitor
