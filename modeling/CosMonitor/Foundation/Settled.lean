/-
**Settled rows: committed, and locked by no session.**

* `Settled.seen`: every worker sees a settled row as it is committed;
* `Settled.begin`, `.rollback`, `.commit`, `.update`, `.insert`: a statement keeps a row settled, unless
  it updates that row.
-/

import CosMonitor.Foundation.Versions

set_option linter.unusedSectionVars false

namespace Versions

variable {Row Content Status Id Group Note Worker : Type} [DecidableEq Id] [DecidableEq Group]
  [DecidableEq Worker] [Fintype Worker]

/-- A committed row that no session has locked. -/
structure Settled (schema : Schema Row Content Status Id Group) (state : State Worker Row Note)
    (row : Row) : Prop where
  committed : row ∈ state.committed
  unlocked : ∀ worker, schema.rowId row ∉ state.lockedIds schema worker

variable {schema : Schema Row Content Status Id Group} {lifecycle : Lifecycle schema.isActive}
  {state next : State Worker Row Note} {row : Row} {worker : Worker}

theorem lockedIds_of_sessions {other : Worker} (same : next.sessions other = state.sessions other) :
    next.lockedIds schema other = state.lockedIds schema other := by
  unfold State.lockedIds
  rw [same]

theorem lockedIds_closed (closed : state.sessions worker = none) :
    state.lockedIds schema worker = [] := by
  unfold State.lockedIds
  rw [closed]

theorem lockedIds_opened {session : Session Row Note} (opened : state.sessions worker = some session) :
    state.lockedIds schema worker = session.updated.map schema.rowId := by
  unfold State.lockedIds
  rw [opened]

theorem Settled.of_sessions (worker : Worker) (settled : Settled schema state row)
    (committed : row ∈ next.committed)
    (others : ∀ other, other ≠ worker → next.sessions other = state.sessions other)
    (own : schema.rowId row ∉ next.lockedIds schema worker) : Settled schema next row where
  committed := committed
  unlocked := by
    intro other
    by_cases isWorker : other = worker
    · rw [isWorker]
      exact own
    · rw [lockedIds_of_sessions (others other isWorker)]
      exact settled.unlocked other

theorem Settled.seen (settled : Settled schema state row) (worker : Worker) :
    row ∈ state.view schema worker := by
  cases opened : state.sessions worker with
  | none =>
      rw [view_closed opened]
      exact settled.committed
  | some session =>
      rw [view_opened opened]
      refine Schema.mem_view.mpr (.inl ⟨row, settled.committed, ?_⟩)
      refine Schema.latest_of_absent fun version member same => ?_
      refine settled.unlocked worker ?_
      rw [lockedIds_opened opened]
      exact List.mem_map.mpr ⟨version, member, same⟩

theorem Settled.begin {note : Note} (settled : Settled schema state row)
    (begun : state.begin worker note = some next) : Settled schema next row := by
  unfold State.begin at begun
  split at begun
  · cases begun
    refine settled.of_sessions worker settled.committed
      (fun other differ => State.setSession_ne _ _ differ _) ?_
    rw [lockedIds_opened (State.setSession_self _ _ _)]
    exact List.not_mem_nil
  · cases begun

theorem Settled.rollback (settled : Settled schema state row) :
    Settled schema (state.rollback worker) row := by
  refine settled.of_sessions worker settled.committed
    (fun other differ => State.setSession_ne _ _ differ _) ?_
  have closed : (state.rollback worker).sessions worker = none := State.setSession_self _ _ _
  rw [lockedIds_closed closed]
  exact List.not_mem_nil

theorem Settled.commit (settled : Settled schema state row) :
    Settled schema (state.commit schema worker) row := by
  refine settled.of_sessions worker (settled.seen worker)
    (fun other differ => Function.update_of_ne differ _ _) ?_
  rw [lockedIds_closed (Function.update_self _ _ _)]
  exact List.not_mem_nil

/-- **An update locks the row with its id, and no other.** -/
theorem Settled.update {id : Id} {change : Row → Row} {result : Option Row}
    (settled : Settled schema state row)
    (returned : state.update schema worker id change = some (result, next))
    (kept : ∀ row, schema.content (change row) = schema.content row)
    (differ : schema.rowId row ≠ id) : Settled schema next row := by
  obtain ⟨committed, others⟩ := update_frame returned
  have own := settled.unlocked worker
  refine settled.of_sessions worker (by rw [committed]; exact settled.committed) others ?_
  obtain ⟨session, opened, updated⟩ := update_cases returned
  rw [lockedIds_opened opened] at own
  cases updated with
  | inserted found _ _ =>
      rw [lockedIds_opened (State.setSession_self _ _ _)]
      exact own
  | missing _ _ =>
      rw [lockedIds_opened opened]
      exact own
  | version found _ _ foundId _ =>
      rw [lockedIds_opened (State.setSession_self _ _ _)]
      intro locked
      obtain ⟨version, member, same⟩ := List.mem_map.mp locked
      rcases Schema.mem_upsert member with rfl | ⟨old, -⟩
      · apply differ
        rw [← same, ← foundId]
        unfold Schema.rowId
        rw [kept]
        show schema.rowId (schema.latest session.updated found) = schema.rowId found
        rcases Schema.latest_cases schema session.updated found with ⟨-, isFound⟩ | ⟨isFound, -⟩
        · exact isFound
        · rw [isFound]
      · exact own (List.mem_map.mpr ⟨version, old, same⟩)

theorem lockedIds_insert {new : Row} (returned : state.insert schema worker new = some (.ok next)) :
    next.lockedIds schema worker = state.lockedIds schema worker := by
  obtain ⟨session, opened, -, -, -, -, rfl⟩ := insert_cases returned
  rw [lockedIds_opened opened, lockedIds_opened (State.setSession_self _ _ _)]

theorem Settled.insert {new : Row} (settled : Settled schema state row)
    (returned : state.insert schema worker new = some (.ok next)) : Settled schema next row := by
  obtain ⟨committed, -, others⟩ := insert_frame returned
  refine settled.of_sessions worker (by rw [committed]; exact settled.committed) others ?_
  rw [lockedIds_insert returned]
  exact settled.unlocked worker

end Versions
