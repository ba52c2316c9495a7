/-
**What a session has written: the versions of its transaction and the rows that it has inserted.**

* `mem_view_written`: a worker sees committed rows and rows that it has written;
* `written_of_view`: of a row that it has written it sees what it has written;
* `written_apart`: two workers have written different rows;
* `written_update`, `written_insert`: what a statement adds.
-/

import CosMonitor.Foundation.Versions

set_option linter.unusedSectionVars false

namespace Versions

variable {Row Content Status Id Group Note Worker : Type} [DecidableEq Id] [DecidableEq Group]
  [DecidableEq Worker] [Fintype Worker]

/-- The rows that a worker has written and not committed. -/
def State.written (state : State Worker Row Note) (worker : Worker) : List Row :=
  match state.sessions worker with
  | none => []
  | some session => session.updated ++ session.inserted

variable {schema : Schema Row Content Status Id Group} {lifecycle : Lifecycle schema.isActive}
  {state next : State Worker Row Note} {row other : Row} {worker : Worker} {session : Session Row Note}

theorem rowId_latest (versions : List Row) (row : Row) :
    schema.rowId (schema.latest versions row) = schema.rowId row := by
  rcases Schema.latest_cases schema versions row with ⟨-, same⟩ | ⟨same, -⟩
  · exact same
  · rw [same]

theorem written_of_sessions (same : next.sessions worker = state.sessions worker) :
    next.written worker = state.written worker := by
  unfold State.written
  rw [same]

theorem written_opened (opened : state.sessions worker = some session) :
    state.written worker = session.updated ++ session.inserted := by
  unfold State.written
  rw [opened]

theorem mem_view_written (seen : row ∈ state.view schema worker) :
    row ∈ state.committed ∨ row ∈ state.written worker := by
  cases opened : state.sessions worker with
  | none =>
      rw [view_closed opened] at seen
      exact .inl seen
  | some session =>
      rw [view_opened opened] at seen
      rw [written_opened opened, List.mem_append]
      rcases Schema.mem_view.mp seen with ⟨old, oldIn, rfl⟩ | inserted
      · rcases Schema.latest_cases schema session.updated old with ⟨present, -⟩ | ⟨own, -⟩
        · exact .inr (.inl present)
        · rw [own]
          exact .inl oldIn
      · exact .inr (.inr inserted)

theorem written_of_view (consistent : Consistent schema lifecycle state)
    (seen : row ∈ state.view schema worker) (wrote : other ∈ state.written worker)
    (same : schema.rowId row = schema.rowId other) : row ∈ state.written worker := by
  cases opened : state.sessions worker with
  | none =>
      unfold State.written at wrote
      rw [opened] at wrote
      cases wrote
  | some session =>
      rw [view_opened opened] at seen
      rw [written_opened opened, List.mem_append] at wrote ⊢
      rcases Schema.mem_view.mp seen with ⟨old, oldIn, rfl⟩ | inserted
      · rcases Schema.latest_cases schema session.updated old with ⟨present, -⟩ | ⟨own, absent⟩
        · exact .inl present
        · rw [own] at same
          rcases wrote with updated | inserted
          · exact absurd same.symm (absent other updated)
          · exact absurd same ((consistent.fits worker session opened).fresh other inserted old oldIn)
      · exact .inr inserted

/-- **Two workers have written different rows.** -/
theorem written_apart {second : Worker} (consistent : Consistent schema lifecycle state)
    (differ : worker ≠ second) (rowIn : row ∈ state.written worker) (otherIn : other ∈ state.written second) :
    schema.rowId row ≠ schema.rowId other := by
  -- A version has the id of a committed row, and an inserted row has not.
  have mixed : ∀ {first second : Worker} {left right : Session Row Note},
      state.sessions first = some left → state.sessions second = some right →
        ∀ version ∈ left.updated, ∀ inserted ∈ right.inserted,
          schema.rowId version ≠ schema.rowId inserted := by
    intro first second left right leftOpen rightOpen version versionIn inserted insertedIn same
    obtain ⟨old, oldIn, evolves⟩ := (consistent.fits first left leftOpen).versions version versionIn
    exact (consistent.fits second right rightOpen).fresh inserted insertedIn old oldIn
      (evolves.rowId.symm.trans same)
  cases leftOpen : state.sessions worker with
  | none =>
      unfold State.written at rowIn
      rw [leftOpen] at rowIn
      cases rowIn
  | some left =>
      cases rightOpen : state.sessions second with
      | none =>
          unfold State.written at otherIn
          rw [rightOpen] at otherIn
          cases otherIn
      | some right =>
          rw [written_opened leftOpen, List.mem_append] at rowIn
          rw [written_opened rightOpen, List.mem_append] at otherIn
          have apart := consistent.apart worker second left right differ leftOpen rightOpen
          rcases rowIn with updated | inserted
          · rcases otherIn with otherUpdated | otherInserted
            · exact apart.locks row updated other otherUpdated
            · exact mixed leftOpen rightOpen row updated other otherInserted
          · rcases otherIn with otherUpdated | otherInserted
            · exact (mixed rightOpen leftOpen other otherUpdated row inserted).symm
            · exact apart.fresh row inserted other otherInserted

/-- **An update writes the changed row in the place of what was written of it.** -/
theorem written_update {id : Id} {change : Row → Row} {result : Option Row}
    (consistent : Consistent schema lifecycle state)
    (returned : state.update schema worker id change = some (result, next))
    (kept : ∀ row, schema.content (change row) = schema.content row)
    (wrote : row ∈ next.written worker) :
    (row ∈ state.written worker ∧ schema.rowId row ≠ id) ∨
      ∃ old ∈ state.view schema worker, schema.rowId old = id ∧ row = change old := by
  obtain ⟨session, opened, updated⟩ := update_cases returned
  have fits := consistent.fits worker session opened
  rw [written_opened opened, view_opened opened]
  cases updated with
  | inserted found foundIn foundId =>
      rw [written_opened (State.setSession_self _ _ _), List.mem_append] at wrote
      rcases wrote with version | inserted
      · refine .inl ⟨List.mem_append_left _ version, fun same => ?_⟩
        obtain ⟨old, oldIn, evolves⟩ := fits.versions row version
        exact fits.fresh found foundIn old oldIn (evolves.rowId.symm.trans (same.trans foundId.symm))
      · obtain ⟨old, oldIn, rfl⟩ := List.mem_map.mp inserted
        by_cases chosen : schema.rowId old = id
        · rw [if_pos chosen]
          exact .inr ⟨old, Schema.mem_view.mpr (.inr oldIn), chosen, rfl⟩
        · rw [if_neg chosen]
          exact .inl ⟨List.mem_append_right _ oldIn, chosen⟩
  | missing others absent =>
      rw [written_opened opened, List.mem_append] at wrote
      refine .inl ⟨List.mem_append.mpr wrote, fun same => ?_⟩
      rcases wrote with version | inserted
      · obtain ⟨old, oldIn, evolves⟩ := fits.versions row version
        exact absent old oldIn (evolves.rowId.symm.trans same)
      · exact others row inserted same
  | version found others foundIn foundId _ =>
      rw [written_opened (State.setSession_self _ _ _), List.mem_append] at wrote
      rcases wrote with version | inserted
      · have latestId : schema.rowId (schema.latest session.updated found) = id :=
          (rowId_latest _ _).trans foundId
        have newId : schema.rowId (change (schema.latest session.updated found)) = id := by
          rw [← latestId]
          exact congrArg schema.id (kept _)
        rcases Schema.mem_upsert version with rfl | ⟨old, differ⟩
        · exact .inr ⟨_, Schema.mem_view.mpr (.inl ⟨found, foundIn, rfl⟩), latestId, rfl⟩
        · rw [newId] at differ
          exact .inl ⟨List.mem_append_left _ old, differ⟩
      · exact .inl ⟨List.mem_append_right _ inserted, others row inserted⟩

theorem written_of_update {id : Id} {change : Row → Row} {result : Option Row}
    (returned : state.update schema worker id change = some (result, next))
    (kept : ∀ row, schema.content (change row) = schema.content row)
    (seen : row ∈ state.view schema worker) (isId : schema.rowId row = id) :
    ∃ new ∈ next.written worker, schema.rowId new = id := by
  obtain ⟨session, opened, updated⟩ := update_cases returned
  rw [view_opened opened, Schema.mem_view] at seen
  have changed : ∀ found, schema.rowId found = id → schema.rowId (change found) = id :=
    fun found foundId => (congrArg schema.id (kept found)).trans foundId
  cases updated with
  | inserted found foundIn foundId =>
      rw [written_opened (State.setSession_self _ _ _)]
      refine ⟨change found, List.mem_append_right _ (List.mem_map.mpr ⟨found, foundIn, ?_⟩),
        changed found foundId⟩
      rw [if_pos foundId]
  | missing others absent =>
      exfalso
      rcases seen with ⟨old, oldIn, rfl⟩ | inserted
      · exact absent old oldIn ((rowId_latest _ _).symm.trans isId)
      · exact others row inserted isId
  | version found _ foundIn foundId _ =>
      rw [written_opened (State.setSession_self _ _ _)]
      exact ⟨_, List.mem_append_left _ List.mem_cons_self,
        changed _ ((rowId_latest _ _).trans foundId)⟩

/-- **An insert writes its row.** -/
theorem written_insert {new : Row} (returned : state.insert schema worker new = some (.ok next)) :
    row ∈ next.written worker ↔ row ∈ state.written worker ∨ row = new := by
  obtain ⟨session, opened, -, -, -, -, rfl⟩ := insert_cases returned
  rw [written_opened opened, written_opened (State.setSession_self _ _ _)]
  simp only [List.mem_append, List.mem_singleton, or_assoc]

end Versions
