/-
**Open transactions over a table: row versions, row locks and a partial unique index.**

A `State` is the committed table with the open session of every worker. A session holds new versions
of the committed rows it has updated, which it has locked, and the rows it has inserted, whose index
group it has claimed. What another session holds makes a statement wait, so a statement is a partial
function.

* `Consistent`: the committed ids are distinct, the index holds, and every session fits the table and
  lies apart from the others;
* `update_cases`, `insert_cases`: what a statement that did not wait has found and done;
* `Consistent.begin`, `.rollback`, `.commit`, `.update`, `.insert`: every statement keeps it;
* `Fits.view_activeOnce`: what a session sees also has at most one active row in a group;
* `Ranked`: ranks count the rows of a group, the active row is the highest; `.update`, `.insert` and
  `.commit` keep it when an inserted row outranks its group.
-/

import Mathlib.Data.Fintype.Basic
import Mathlib.Data.List.Nodup
import Mathlib.Logic.Function.Basic

set_option linter.unusedSectionVars false

namespace Versions

/-- The immutable content of a row, with its id and its index group, and its status, with the statuses
that the index covers. -/
structure Schema (Row Content Status Id Group : Type) where
  content : Row → Content
  id : Content → Id
  group : Content → Group
  status : Row → Status
  isActive : Status → Bool

/-- How the status of a row may move: moves compose, and what has ended does not become active. -/
structure Lifecycle {Status : Type} (isActive : Status → Bool) where
  may : Status → Status → Prop
  refl : ∀ status, may status status
  trans : ∀ {first second third}, may first second → may second third → may first third
  ended : ∀ {old new}, may old new → isActive old = false → isActive new = false
  active : ∀ {old new}, isActive old = true → may old new

/-- The lifecycle in which an ended status stays ended, and is kept where it has to be. -/
def Lifecycle.keeping {Status : Type} (isActive : Status → Bool) (kept : Status → Prop) :
    Lifecycle isActive where
  may old new := isActive old = false → isActive new = false ∧ (kept old → new = old)
  refl := fun _ ended => ⟨ended, fun _ => rfl⟩
  trans := by
    intro first second third left right ended
    obtain ⟨stillEnded, same⟩ := left ended
    obtain ⟨closed, unchanged⟩ := right stillEnded
    refine ⟨closed, fun keep => ?_⟩
    have held := same keep
    rw [held] at unchanged
    exact unchanged keep
  ended := fun moved ended => (moved ended).1
  active := by
    intro old new active ended
    rw [active] at ended
    cases ended

/-- An open transaction. -/
structure Session (Row Note : Type) where
  note : Note
  updated : List Row
  inserted : List Row

/-- The committed table and the open transactions. -/
structure State (Worker Row Note : Type) where
  committed : List Row
  sessions : Worker → Option (Session Row Note)

variable {Row Content Status Id Group Note Worker : Type} [DecidableEq Id]

/-! ### Versions and views -/

namespace Schema

variable (schema : Schema Row Content Status Id Group)

/-- The id of a row. -/
def rowId (row : Row) : Id := schema.id (schema.content row)

/-- The index group of a row. -/
def rowGroup (row : Row) : Group := schema.group (schema.content row)

/-- A row is active: the index covers it. -/
def active (row : Row) : Bool := schema.isActive (schema.status row)

/-- The version of a row among the versions of a session. -/
def latest (versions : List Row) (row : Row) : Row :=
  (versions.find? fun version => schema.rowId version == schema.rowId row).getD row

/-- What a session sees: its versions, the committed rows, and the rows it inserted. -/
def view (committed : List Row) (session : Session Row Note) : List Row :=
  committed.map (schema.latest session.updated) ++ session.inserted

/-- Put a version in the place of an older one. -/
def upsert (version : Row) (versions : List Row) : List Row :=
  version :: versions.filter fun other => schema.rowId other != schema.rowId version

/-- A row evolves: its content stays, and its status moves as the lifecycle allows. -/
structure Evolves (lifecycle : Lifecycle schema.isActive) (old new : Row) : Prop where
  content : schema.content new = schema.content old
  moved : lifecycle.may (schema.status old) (schema.status new)

variable {schema} {lifecycle : Lifecycle schema.isActive} {old new later : Row}

theorem Evolves.refl (row : Row) : schema.Evolves lifecycle row row :=
  ⟨rfl, lifecycle.refl _⟩

theorem Evolves.active (evolves : schema.Evolves lifecycle old new)
    (active : schema.active new = true) : schema.active old = true := by
  by_contra ended
  have still := lifecycle.ended evolves.moved (by simpa [Schema.active] using ended)
  unfold Schema.active at active
  rw [still] at active
  cases active

theorem Evolves.trans (first : schema.Evolves lifecycle old new)
    (second : schema.Evolves lifecycle new later) : schema.Evolves lifecycle old later :=
  ⟨second.content.trans first.content, lifecycle.trans first.moved second.moved⟩

theorem Evolves.rowId (evolves : schema.Evolves lifecycle old new) : schema.rowId new = schema.rowId old := by
  unfold Schema.rowId
  rw [evolves.content]

theorem Evolves.rowGroup (evolves : schema.Evolves lifecycle old new) :
    schema.rowGroup new = schema.rowGroup old := by
  unfold Schema.rowGroup
  rw [evolves.content]

variable {versions : List Row} {row other : Row}

theorem latest_of_absent (absent : ∀ version ∈ versions, schema.rowId version ≠ schema.rowId row) :
    schema.latest versions row = row := by
  unfold latest
  rw [List.find?_eq_none.mpr fun version member => by simpa using absent version member]
  rfl

theorem latest_cases (schema : Schema Row Content Status Id Group) (versions : List Row) (row : Row) :
    (schema.latest versions row ∈ versions ∧
        schema.rowId (schema.latest versions row) = schema.rowId row) ∨
      (schema.latest versions row = row ∧
        ∀ version ∈ versions, schema.rowId version ≠ schema.rowId row) := by
  cases found : versions.find? fun version => schema.rowId version == schema.rowId row with
  | none =>
      have absent : ∀ version ∈ versions, schema.rowId version ≠ schema.rowId row := by
        intro version member
        simpa using List.find?_eq_none.mp found version member
      exact .inr ⟨latest_of_absent absent, absent⟩
  | some version =>
      have same : schema.latest versions row = version := by
        unfold latest
        rw [found]
        rfl
      rw [same]
      exact .inl ⟨List.mem_of_find?_eq_some found, by simpa using List.find?_some found⟩

theorem latest_of_rowId (versions : List Row) (same : schema.rowId row = schema.rowId other) :
    schema.latest versions row = schema.latest versions other ∨
      (schema.latest versions row = row ∧ schema.latest versions other = other) := by
  rcases latest_cases schema versions row with ⟨present, -⟩ | ⟨own, absent⟩
  · left
    unfold latest at present ⊢
    rw [same] at present ⊢
    cases found : versions.find? fun version => schema.rowId version == schema.rowId other with
    | some version => rfl
    | none =>
        rw [found] at present
        have absent := List.find?_eq_none.mp found row present
        simp [same] at absent
  · refine .inr ⟨own, latest_of_absent fun version member => ?_⟩
    rw [← same]
    exact absent version member

theorem latest_congr {version : Row} (present : version ∈ versions)
    (versionId : schema.rowId version = schema.rowId row)
    (same : schema.rowId row = schema.rowId other) :
    schema.latest versions other = schema.latest versions row := by
  unfold latest
  rw [← same]
  cases found : versions.find? fun version => schema.rowId version == schema.rowId row with
  | some latest => rfl
  | none =>
      have absent := List.find?_eq_none.mp found version present
      simp [versionId] at absent

theorem latest_upsert_self (same : schema.rowId new = schema.rowId row) :
    schema.latest (schema.upsert new versions) row = new := by
  unfold latest upsert
  rw [List.find?_cons_of_pos (by simp [same])]
  rfl

theorem latest_upsert_ne (differ : schema.rowId new ≠ schema.rowId row) :
    schema.latest (schema.upsert new versions) row = schema.latest versions row := by
  unfold latest upsert
  rw [List.find?_cons_of_neg (by simp [differ]), List.find?_filter]
  congr 2
  funext version
  by_cases same : schema.rowId version = schema.rowId row
  · have kept : schema.rowId version ≠ schema.rowId new := fun clash => differ (clash.symm.trans same)
    simp [same, differ.symm]
  · simp [same]

theorem mem_upsert {version : Row} (member : version ∈ schema.upsert new versions) :
    version = new ∨ (version ∈ versions ∧ schema.rowId version ≠ schema.rowId new) := by
  rcases List.mem_cons.mp member with rfl | kept
  · exact .inl rfl
  · obtain ⟨inVersions, differ⟩ := List.mem_filter.mp kept
    exact .inr ⟨inVersions, by simpa using differ⟩

theorem mem_view {committed : List Row} {session : Session Row Note} :
    row ∈ schema.view committed session ↔
      (∃ old ∈ committed, schema.latest session.updated old = row) ∨ row ∈ session.inserted := by
  unfold view
  rw [List.mem_append, List.mem_map]

end Schema

/-! ### Consistency -/

section Consistency

variable (schema : Schema Row Content Status Id Group)

/-- At most one active row in a group. -/
def ActiveOnce (rows : List Row) : Prop :=
  ∀ first ∈ rows, ∀ second ∈ rows, schema.active first = true → schema.active second = true →
    schema.rowGroup first = schema.rowGroup second → schema.rowId first = schema.rowId second

/-- A session fits the committed table. -/
structure Fits (lifecycle : Lifecycle schema.isActive) (committed : List Row) (session : Session Row Note) : Prop where
  versions : ∀ new ∈ session.updated, ∃ old ∈ committed, schema.Evolves lifecycle old new
  insertedIds : (session.inserted.map schema.rowId).Nodup
  insertedGroups : (session.inserted.map schema.rowGroup).Nodup
  fresh : ∀ row ∈ session.inserted, ∀ old ∈ committed, schema.rowId old ≠ schema.rowId row
  /-- the session has ended every active row whose group it inserted into -/
  superseded : ∀ row ∈ session.inserted, ∀ old ∈ committed,
    schema.rowGroup old = schema.rowGroup row →
      schema.active (schema.latest session.updated old) = false

/-- Two sessions hold different rows and claim different groups. -/
structure Apart (first second : Session Row Note) : Prop where
  locks : ∀ new ∈ first.updated, ∀ other ∈ second.updated, schema.rowId new ≠ schema.rowId other
  claims : ∀ row ∈ first.inserted, ∀ other ∈ second.inserted,
    schema.rowGroup row ≠ schema.rowGroup other
  fresh : ∀ row ∈ first.inserted, ∀ other ∈ second.inserted, schema.rowId row ≠ schema.rowId other

/-- The invariant of the committed table and the open sessions. -/
structure Consistent (lifecycle : Lifecycle schema.isActive) (state : State Worker Row Note) :
    Prop where
  ids : (state.committed.map schema.rowId).Nodup
  activeOnce : ActiveOnce schema state.committed
  fits : ∀ worker session, state.sessions worker = some session →
    Fits schema lifecycle state.committed session
  apart : ∀ first second left right, first ≠ second → state.sessions first = some left →
    state.sessions second = some right → Apart schema left right

variable {schema} {lifecycle : Lifecycle schema.isActive} {committed : List Row}
  {session other : Session Row Note}

theorem Apart.symm (apart : Apart schema session other) : Apart schema other session where
  locks := fun new newIn old oldIn => (apart.locks old oldIn new newIn).symm
  claims := fun row rowIn old oldIn => (apart.claims old oldIn row rowIn).symm
  fresh := fun row rowIn old oldIn => (apart.fresh old oldIn row rowIn).symm

theorem eq_of_rowId (ids : (committed.map schema.rowId).Nodup) {first second : Row}
    (firstIn : first ∈ committed) (secondIn : second ∈ committed)
    (same : schema.rowId first = schema.rowId second) : first = second :=
  List.inj_on_of_nodup_map ids firstIn secondIn same

theorem ActiveOnce.groups_nodup (once : ActiveOnce schema committed)
    (ids : (committed.map schema.rowId).Nodup) :
    ((committed.filter schema.active).map schema.rowGroup).Nodup := by
  refine List.Nodup.map_on ?_ (ids.of_map.filter _)
  intro first firstIn second secondIn sameGroup
  obtain ⟨firstMember, firstActive⟩ := List.mem_filter.mp firstIn
  obtain ⟨secondMember, secondActive⟩ := List.mem_filter.mp secondIn
  exact eq_of_rowId ids firstMember secondMember
    (once first firstMember second secondMember firstActive secondActive sameGroup)

theorem Fits.latest_evolves (fits : Fits schema lifecycle committed session)
    (ids : (committed.map schema.rowId).Nodup) {row : Row} (member : row ∈ committed) :
    schema.Evolves lifecycle row (schema.latest session.updated row) := by
  rcases Schema.latest_cases schema session.updated row with ⟨present, same⟩ | ⟨own, -⟩
  · obtain ⟨old, oldIn, evolves⟩ := fits.versions _ present
    have isRow : old = row := eq_of_rowId ids oldIn member (evolves.rowId.symm.trans same)
    rw [← isRow] at evolves ⊢
    exact evolves
  · rw [own]
    exact Schema.Evolves.refl row

/-- **What a session sees has at most one active row in a group.** -/
theorem Fits.view_activeOnce (fits : Fits schema lifecycle committed session)
    (ids : (committed.map schema.rowId).Nodup) (once : ActiveOnce schema committed) :
    ActiveOnce schema (schema.view committed session) := by
  intro first firstIn second secondIn firstActive secondActive sameGroup
  rcases Schema.mem_view.mp firstIn with ⟨old, oldIn, rfl⟩ | firstNew
  · have evolves := fits.latest_evolves ids oldIn
    rcases Schema.mem_view.mp secondIn with ⟨past, pastIn, rfl⟩ | secondNew
    · have pastEvolves := fits.latest_evolves ids pastIn
      rw [evolves.rowGroup, pastEvolves.rowGroup] at sameGroup
      rw [evolves.rowId, pastEvolves.rowId]
      exact once old oldIn past pastIn (evolves.active firstActive)
        (pastEvolves.active secondActive) sameGroup
    · rw [evolves.rowGroup] at sameGroup
      rw [fits.superseded second secondNew old oldIn sameGroup] at firstActive
      cases firstActive
  · rcases Schema.mem_view.mp secondIn with ⟨past, pastIn, rfl⟩ | secondNew
    · rw [(fits.latest_evolves ids pastIn).rowGroup] at sameGroup
      rw [fits.superseded first firstNew past pastIn sameGroup.symm] at secondActive
      cases secondActive
    · have isSame : first = second :=
        List.inj_on_of_nodup_map fits.insertedGroups firstNew secondNew sameGroup
      rw [isSame]

theorem Fits.view_ids (fits : Fits schema lifecycle committed session)
    (ids : (committed.map schema.rowId).Nodup) :
    ((schema.view committed session).map schema.rowId).Nodup := by
  have kept : (committed.map (schema.latest session.updated)).map schema.rowId =
      committed.map schema.rowId := by
    rw [List.map_map]
    refine List.map_congr_left fun row member => ?_
    exact (fits.latest_evolves ids member).rowId
  unfold Schema.view
  rw [List.map_append, kept, List.nodup_append]
  refine ⟨ids, fits.insertedIds, ?_⟩
  intro id oldIn newId newIn same
  obtain ⟨old, oldMember, rfl⟩ := List.mem_map.mp oldIn
  obtain ⟨row, rowMember, rfl⟩ := List.mem_map.mp newIn
  exact fits.fresh row rowMember old oldMember same

theorem Fits.view_evolved (fits : Fits schema lifecycle committed session)
    (ids : (committed.map schema.rowId).Nodup) {row : Row} (member : row ∈ committed) :
    ∃ version ∈ schema.view committed session, schema.Evolves lifecycle row version :=
  ⟨_, Schema.mem_view.mpr (.inl ⟨row, member, rfl⟩), fits.latest_evolves ids member⟩

/-- **A session still fits when another one commits.** -/
theorem Fits.after_commit (fits : Fits schema lifecycle committed session)
    (otherFits : Fits schema lifecycle committed other) (apart : Apart schema other session)
    (ids : (committed.map schema.rowId).Nodup) :
    Fits schema lifecycle (schema.view committed other) session where
  versions := by
    intro new newIn
    obtain ⟨old, oldIn, evolves⟩ := fits.versions new newIn
    refine ⟨old, Schema.mem_view.mpr (.inl ⟨old, oldIn, ?_⟩), evolves⟩
    refine Schema.latest_of_absent fun version versionIn same => ?_
    exact apart.locks version versionIn new newIn (same.trans evolves.rowId.symm)
  insertedIds := fits.insertedIds
  insertedGroups := fits.insertedGroups
  fresh := by
    intro row rowIn old oldIn
    rcases Schema.mem_view.mp oldIn with ⟨past, pastIn, rfl⟩ | new
    · rw [(otherFits.latest_evolves ids pastIn).rowId]
      exact fits.fresh row rowIn past pastIn
    · exact apart.fresh old new row rowIn
  superseded := by
    intro row rowIn old oldIn sameGroup
    rcases Schema.mem_view.mp oldIn with ⟨past, pastIn, rfl⟩ | new
    · have evolves := otherFits.latest_evolves ids pastIn
      rw [evolves.rowGroup] at sameGroup
      have ended := fits.superseded row rowIn past pastIn sameGroup
      -- Either the session has its own version of the row, or both versions of it are the row's.
      rcases Schema.latest_of_rowId session.updated evolves.rowId with same | ⟨own, pastOwn⟩
      · rw [same]
        exact ended
      · rw [own]
        rw [pastOwn] at ended
        by_contra active
        rw [evolves.active (by simpa using active)] at ended
        cases ended
    · exact absurd sameGroup (apart.claims old new row rowIn)

end Consistency

/-! ### Statements -/

section Statements

variable [DecidableEq Group] [DecidableEq Worker] (schema : Schema Row Content Status Id Group)

/-- What an insert violates. -/
inductive Violation where
  | primaryKey
  | uniqueIndex
  deriving DecidableEq, Repr

namespace State

variable (state : State Worker Row Note) (worker : Worker)

/-- Replace the session of a worker. -/
def setSession (session : Option (Session Row Note)) : State Worker Row Note :=
  { state with sessions := Function.update state.sessions worker session }

@[simp] theorem setSession_self (session : Option (Session Row Note)) :
    (state.setSession worker session).sessions worker = session := by
  unfold setSession
  exact Function.update_self _ _ _

theorem setSession_ne {other : Worker} (differ : other ≠ worker)
    (session : Option (Session Row Note)) :
    (state.setSession worker session).sessions other = state.sessions other := by
  unfold setSession
  exact Function.update_of_ne differ _ _

/-- What a worker sees: its session's view, or the committed table. -/
def view : List Row :=
  match state.sessions worker with
  | none => state.committed
  | some session => schema.view state.committed session

/-- The ids of the rows that a worker has locked. -/
def lockedIds : List Id :=
  match state.sessions worker with
  | none => []
  | some session => session.updated.map schema.rowId

/-- The rows that a worker has inserted and not committed. -/
def pending : List Row :=
  match state.sessions worker with
  | none => []
  | some session => session.inserted

/-- Begin a transaction; a worker has one at a time. -/
def begin (note : Note) : Option (State Worker Row Note) :=
  match state.sessions worker with
  | none => some (state.setSession worker (some { note, updated := [], inserted := [] }))
  | some _ => none

/-- Drop the transaction of a worker. -/
def rollback : State Worker Row Note :=
  state.setSession worker none

/-- Make what a worker sees the committed table. -/
def commit : State Worker Row Note where
  committed := state.view schema worker
  sessions := Function.update state.sessions worker none

variable [Fintype Worker]

/-- `UPDATE … WHERE id = …`: the new version, or `none` when the worker sees no such row. It waits for
another worker's lock. -/
def update (id : Id) (change : Row → Row) : Option (Option Row × State Worker Row Note) :=
  match state.sessions worker with
  | none => none
  | some session =>
      match session.inserted.find? fun row => schema.rowId row == id with
      | some row =>
          some (some (change row), state.setSession worker (some { session with
            inserted := session.inserted.map fun other =>
              if schema.rowId other = id then change other else other }))
      | none =>
          match state.committed.find? fun row => schema.rowId row == id with
          | none => some (none, state)
          | some row =>
              if ∃ other, other ≠ worker ∧ id ∈ state.lockedIds schema other then none
              else
                let version := change (schema.latest session.updated row)
                some (some version, state.setSession worker (some { session with
                  updated := schema.upsert version session.updated }))

/-- `INSERT` of a row. It waits for another worker's insert into the same index group. -/
def insert (row : Row) : Option (Except Violation (State Worker Row Note)) :=
  match state.sessions worker with
  | none => none
  | some session =>
      if ∃ other, other ≠ worker ∧ schema.rowGroup row ∈ (state.pending other).map schema.rowGroup then
        none
      else if schema.rowId row ∈ state.committed.map schema.rowId ∨
          ∃ other, schema.rowId row ∈ (state.pending other).map schema.rowId then
        some (.error .primaryKey)
      else if schema.active row = true ∧ ∃ seen ∈ schema.view state.committed session,
          schema.active seen = true ∧ schema.rowGroup seen = schema.rowGroup row then
        some (.error .uniqueIndex)
      else
        some (.ok (state.setSession worker (some { session with
          inserted := session.inserted ++ [row] })))

end State

variable {schema} {state next : State Worker Row Note} {worker : Worker}
  {session : Session Row Note}

theorem Consistent.replace (consistent : Consistent schema lifecycle state)
    (fits : Fits schema lifecycle state.committed session)
    (apart : ∀ other right, other ≠ worker → state.sessions other = some right →
      Apart schema session right) :
    Consistent schema lifecycle (state.setSession worker (some session)) where
  ids := consistent.ids
  activeOnce := consistent.activeOnce
  fits := by
    intro other found opened
    by_cases isWorker : other = worker
    · subst isWorker
      rw [State.setSession_self] at opened
      cases opened
      exact fits
    · rw [State.setSession_ne _ _ isWorker] at opened
      exact consistent.fits other found opened
  apart := by
    intro first second left right differ firstOpened secondOpened
    by_cases firstIs : first = worker
    · subst firstIs
      rw [State.setSession_self] at firstOpened
      rw [State.setSession_ne _ _ differ.symm] at secondOpened
      cases firstOpened
      exact apart second right differ.symm secondOpened
    · rw [State.setSession_ne _ _ firstIs] at firstOpened
      by_cases secondIs : second = worker
      · subst secondIs
        rw [State.setSession_self] at secondOpened
        cases secondOpened
        exact (apart first left firstIs firstOpened).symm
      · rw [State.setSession_ne _ _ secondIs] at secondOpened
        exact consistent.apart first second left right differ firstOpened secondOpened

theorem Consistent.begin {note : Note} (consistent : Consistent schema lifecycle state)
    (begun : state.begin worker note = some next) : Consistent schema lifecycle next := by
  unfold State.begin at begun
  split at begun
  · cases begun
    refine consistent.replace ⟨?_, ?_, ?_, ?_, ?_⟩ fun _ _ _ _ => ⟨?_, ?_, ?_⟩
    all_goals simp
  · cases begun

theorem sessions_closed {other : Worker} {found : Session Row Note}
    (opened : Function.update state.sessions worker none other = some found) :
    other ≠ worker ∧ state.sessions other = some found := by
  by_cases isWorker : other = worker
  · subst isWorker
    rw [Function.update_self] at opened
    cases opened
  · rw [Function.update_of_ne isWorker] at opened
    exact ⟨isWorker, opened⟩

theorem Consistent.rollback (consistent : Consistent schema lifecycle state) :
    Consistent schema lifecycle (state.rollback worker) where
  ids := consistent.ids
  activeOnce := consistent.activeOnce
  fits := fun other found opened => consistent.fits other found (sessions_closed opened).2
  apart := fun first second left right differ firstOpened secondOpened =>
    consistent.apart first second left right differ (sessions_closed firstOpened).2
      (sessions_closed secondOpened).2

/-- **A commit keeps the invariant.** -/
theorem Consistent.commit (consistent : Consistent schema lifecycle state)
    (opened : state.sessions worker = some session) :
    Consistent schema lifecycle (state.commit schema worker) := by
  have seen : state.view schema worker = schema.view state.committed session := by
    unfold State.view
    rw [opened]
  have fits := consistent.fits worker session opened
  refine ⟨?_, ?_, ?_, ?_⟩
  · show ((state.view schema worker).map schema.rowId).Nodup
    rw [seen]
    exact fits.view_ids consistent.ids
  · show ActiveOnce schema (state.view schema worker)
    rw [seen]
    exact fits.view_activeOnce consistent.ids consistent.activeOnce
  · intro other found otherOpened
    obtain ⟨differ, stillOpened⟩ := sessions_closed otherOpened
    show Fits schema lifecycle (state.view schema worker) found
    rw [seen]
    exact (consistent.fits other found stillOpened).after_commit fits
      (consistent.apart worker other session found differ.symm opened stillOpened) consistent.ids
  · intro first second left right differ firstOpened secondOpened
    exact consistent.apart first second left right differ (sessions_closed firstOpened).2
      (sessions_closed secondOpened).2

variable [Fintype Worker]

/-- What an update in a session that did not wait has done. -/
inductive Updated (schema : Schema Row Content Status Id Group) (state : State Worker Row Note)
    (worker : Worker) (session : Session Row Note) (id : Id) (change : Row → Row) :
    Option Row → State Worker Row Note → Prop
  | inserted (row : Row) : row ∈ session.inserted → schema.rowId row = id →
      Updated schema state worker session id change (some (change row))
        (state.setSession worker (some { session with
          inserted := session.inserted.map fun other =>
            if schema.rowId other = id then change other else other }))
  | missing : (∀ row ∈ session.inserted, schema.rowId row ≠ id) →
      (∀ row ∈ state.committed, schema.rowId row ≠ id) →
      Updated schema state worker session id change none state
  | version (row : Row) : (∀ own ∈ session.inserted, schema.rowId own ≠ id) → row ∈ state.committed →
      schema.rowId row = id → (∀ other, other ≠ worker → id ∉ state.lockedIds schema other) →
      Updated schema state worker session id change
        (some (change (schema.latest session.updated row)))
        (state.setSession worker (some { session with
          updated := schema.upsert (change (schema.latest session.updated row)) session.updated }))

/-- **An update changes a row that its session has inserted, finds none, or makes a version.** -/
theorem update_cases {id : Id} {change : Row → Row} {result : Option Row}
    (returned : state.update schema worker id change = some (result, next)) :
    ∃ session, state.sessions worker = some session ∧
      Updated schema state worker session id change result next := by
  unfold State.update at returned
  split at returned
  · cases returned
  rename_i session opened
  refine ⟨session, opened, ?_⟩
  split at returned
  · rename_i row found
    cases returned
    exact .inserted row (List.mem_of_find?_eq_some found) (by simpa using List.find?_some found)
  rename_i absent
  have others : ∀ row ∈ session.inserted, schema.rowId row ≠ id := by
    simpa using List.find?_eq_none.mp absent
  split at returned
  · rename_i missing
    cases returned
    exact .missing others (by simpa using List.find?_eq_none.mp missing)
  rename_i row found
  split at returned
  · cases returned
  · rename_i unlocked
    cases returned
    push Not at unlocked
    exact .version row others (List.mem_of_find?_eq_some found) (by simpa using List.find?_some found)
      unlocked

/-- **What an insert that returned has found and done.** -/
theorem insert_cases {row : Row} (returned : state.insert schema worker row = some (.ok next)) :
    ∃ session, state.sessions worker = some session ∧
      (∀ other, other ≠ worker →
        schema.rowGroup row ∉ (state.pending other).map schema.rowGroup) ∧
      schema.rowId row ∉ state.committed.map schema.rowId ∧
      (∀ other, schema.rowId row ∉ (state.pending other).map schema.rowId) ∧
      (schema.active row = true → ∀ seen ∈ schema.view state.committed session,
        schema.active seen = true → schema.rowGroup seen ≠ schema.rowGroup row) ∧
      next = state.setSession worker (some { session with inserted := session.inserted ++ [row] }) := by
  unfold State.insert at returned
  split at returned
  · cases returned
  rename_i session opened
  split at returned
  · cases returned
  rename_i unclaimed
  split at returned
  · cases returned
  rename_i unused
  split at returned
  · cases returned
  rename_i lone
  cases returned
  push Not at unclaimed unused lone
  exact ⟨session, opened, unclaimed, unused.1, unused.2, lone, rfl⟩

theorem pending_opened (opened : state.sessions worker = some session) :
    state.pending worker = session.inserted := by
  unfold State.pending
  rw [opened]

theorem view_closed (closed : state.sessions worker = none) :
    state.view schema worker = state.committed := by
  unfold State.view
  rw [closed]

theorem view_opened (opened : state.sessions worker = some session) :
    state.view schema worker = schema.view state.committed session := by
  unfold State.view
  rw [opened]

/-- **An update keeps the invariant** when the row it changes evolves. -/
theorem Consistent.update {id : Id} {change : Row → Row} {result : Option Row}
    (consistent : Consistent schema lifecycle state)
    (returned : state.update schema worker id change = some (result, next))
    (evolves : ∀ row ∈ state.view schema worker, schema.rowId row = id →
      schema.Evolves lifecycle row (change row)) : Consistent schema lifecycle next := by
  obtain ⟨session, opened, updated⟩ := update_cases returned
  rw [view_opened opened] at evolves
  have fits := consistent.fits worker session opened
  cases updated with
  | inserted row own isRow =>
      have changed : ∀ row ∈ session.inserted,
          schema.Evolves lifecycle row (if schema.rowId row = id then change row else row) := by
        intro row member
        by_cases chosen : schema.rowId row = id
        · rw [if_pos chosen]
          exact evolves row (Schema.mem_view.mpr (.inr member)) chosen
        · rw [if_neg chosen]
          exact Schema.Evolves.refl row
      have sameIds : (session.inserted.map fun row =>
          if schema.rowId row = id then change row else row).map schema.rowId =
            session.inserted.map schema.rowId := by
        rw [List.map_map]
        exact List.map_congr_left fun row member => (changed row member).rowId
      have sameGroups : (session.inserted.map fun row =>
          if schema.rowId row = id then change row else row).map schema.rowGroup =
            session.inserted.map schema.rowGroup := by
        rw [List.map_map]
        exact List.map_congr_left fun row member => (changed row member).rowGroup
      refine consistent.replace ⟨fits.versions, ?_, ?_, ?_, ?_⟩ fun other right differ found => ?_
      · rw [sameIds]
        exact fits.insertedIds
      · rw [sameGroups]
        exact fits.insertedGroups
      · intro row member old oldIn
        obtain ⟨source, sourceIn, rfl⟩ := List.mem_map.mp member
        rw [(changed source sourceIn).rowId]
        exact fits.fresh source sourceIn old oldIn
      · intro row member old oldIn sameGroup
        obtain ⟨source, sourceIn, rfl⟩ := List.mem_map.mp member
        rw [(changed source sourceIn).rowGroup] at sameGroup
        exact fits.superseded source sourceIn old oldIn sameGroup
      · have apart := consistent.apart worker other session right differ.symm opened found
        refine ⟨apart.locks, ?_, ?_⟩
        · intro row member past pastIn
          obtain ⟨source, sourceIn, rfl⟩ := List.mem_map.mp member
          rw [(changed source sourceIn).rowGroup]
          exact apart.claims source sourceIn past pastIn
        · intro row member past pastIn
          obtain ⟨source, sourceIn, rfl⟩ := List.mem_map.mp member
          rw [(changed source sourceIn).rowId]
          exact apart.fresh source sourceIn past pastIn
  | missing _ _ => exact consistent
  | version row _ rowIn rowHasId unlocked =>
      -- The row is committed, and nobody else has locked it.
      have older := fits.latest_evolves consistent.ids rowIn
      have changed : schema.Evolves lifecycle (schema.latest session.updated row)
          (change (schema.latest session.updated row)) :=
        evolves _ (Schema.mem_view.mpr (.inl ⟨row, rowIn, rfl⟩)) (older.rowId.trans rowHasId)
      have newId := (older.trans changed).rowId
      refine consistent.replace ⟨?_, fits.insertedIds, fits.insertedGroups, fits.fresh, ?_⟩
        fun other right differ present => ?_
      · intro new newIn
        rcases Schema.mem_upsert newIn with rfl | ⟨kept, -⟩
        · exact ⟨row, rowIn, older.trans changed⟩
        · exact fits.versions new kept
      · intro inserted insertedIn old oldIn sameGroup
        have ended := fits.superseded inserted insertedIn old oldIn sameGroup
        by_cases sameId : schema.rowId old = schema.rowId row
        · have isRow := eq_of_rowId consistent.ids oldIn rowIn sameId
          subst isRow
          rw [Schema.latest_upsert_self newId]
          by_contra active
          rw [changed.active (by simpa using active)] at ended
          cases ended
        · rw [Schema.latest_upsert_ne fun clash => sameId (clash.symm.trans newId)]
          exact ended
      · have apart := consistent.apart worker other session right differ.symm opened present
        refine ⟨?_, apart.claims, apart.fresh⟩
        intro new newIn past pastIn
        rcases Schema.mem_upsert newIn with rfl | ⟨kept, -⟩
        · intro clash
          refine unlocked other differ ?_
          unfold State.lockedIds
          rw [present]
          refine List.mem_map.mpr ⟨past, pastIn, ?_⟩
          rw [← clash, newId, rowHasId]
        · exact apart.locks new kept past pastIn

/-- **An insert keeps the invariant** when the session has inserted nothing into the row's group. -/
theorem Consistent.insert {row : Row} (consistent : Consistent schema lifecycle state)
    (returned : state.insert schema worker row = some (.ok next))
    (active : schema.active row = true)
    (first : ∀ own ∈ state.pending worker, schema.rowGroup own ≠ schema.rowGroup row) :
    Consistent schema lifecycle next := by
  obtain ⟨session, opened, unclaimed, unusedCommitted, unusedPending, lone, rfl⟩ :=
    insert_cases returned
  have fits := consistent.fits worker session opened
  have own := pending_opened opened
  rw [own] at first
  refine consistent.replace ⟨fits.versions, ?_, ?_, ?_, ?_⟩ fun other right differ found => ?_
  · rw [List.map_append, List.map_singleton, List.nodup_append]
    refine ⟨fits.insertedIds, List.nodup_singleton _, ?_⟩
    intro id idIn new newIn same
    have absent := unusedPending worker
    rw [own] at absent
    rw [List.mem_singleton.mp newIn] at same
    exact absent (same ▸ idIn)
  · rw [List.map_append, List.map_singleton, List.nodup_append]
    refine ⟨fits.insertedGroups, List.nodup_singleton _, ?_⟩
    intro group groupIn new newIn same
    obtain ⟨own, ownIn, rfl⟩ := List.mem_map.mp groupIn
    exact first own ownIn (same.trans (List.mem_singleton.mp newIn))
  · intro inserted insertedIn old oldIn same
    rcases List.mem_append.mp insertedIn with kept | new
    · exact fits.fresh inserted kept old oldIn same
    · rw [List.mem_singleton.mp new] at same
      exact unusedCommitted (List.mem_map.mpr ⟨old, oldIn, same⟩)
  · intro inserted insertedIn old oldIn sameGroup
    rcases List.mem_append.mp insertedIn with kept | new
    · exact fits.superseded inserted kept old oldIn sameGroup
    · rw [List.mem_singleton.mp new] at sameGroup
      by_contra still
      have evolved := fits.latest_evolves consistent.ids oldIn
      refine lone active _ (Schema.mem_view.mpr (.inl ⟨old, oldIn, rfl⟩)) (by simpa using still) ?_
      rw [evolved.rowGroup, sameGroup]
  · have apart := consistent.apart worker other session right differ.symm opened found
    have unclaimedOther := unclaimed other differ
    have unusedOther := unusedPending other
    rw [pending_opened found] at unclaimedOther unusedOther
    refine ⟨apart.locks, ?_, ?_⟩
    · intro inserted insertedIn past pastIn same
      rcases List.mem_append.mp insertedIn with kept | new
      · exact apart.claims inserted kept past pastIn same
      · rw [List.mem_singleton.mp new] at same
        exact unclaimedOther (List.mem_map.mpr ⟨past, pastIn, same.symm⟩)
    · intro inserted insertedIn past pastIn same
      rcases List.mem_append.mp insertedIn with kept | new
      · exact apart.fresh inserted kept past pastIn same
      · rw [List.mem_singleton.mp new] at same
        exact unusedOther (List.mem_map.mpr ⟨past, pastIn, same.symm⟩)

/-! ### Frames -/

theorem update_frame {id : Id} {change : Row → Row} {result : Option Row}
    (returned : state.update schema worker id change = some (result, next)) :
    next.committed = state.committed ∧
      ∀ other, other ≠ worker → next.sessions other = state.sessions other := by
  obtain ⟨session, -, updated⟩ := update_cases returned
  cases updated with
  | inserted row _ _ => exact ⟨rfl, fun other differ => State.setSession_ne _ _ differ _⟩
  | missing _ _ => exact ⟨rfl, fun _ _ => rfl⟩
  | version row _ _ _ _ => exact ⟨rfl, fun other differ => State.setSession_ne _ _ differ _⟩

theorem update_pending {id : Id} {change : Row → Row} {result : Option Row}
    (returned : state.update schema worker id change = some (result, next))
    (kept : ∀ row, schema.content (change row) = schema.content row) :
    (next.pending worker).map schema.content = (state.pending worker).map schema.content := by
  obtain ⟨session, opened, updated⟩ := update_cases returned
  cases updated with
  | inserted row _ _ =>
      rw [pending_opened opened, pending_opened (State.setSession_self _ _ _), List.map_map]
      refine List.map_congr_left fun row _ => ?_
      by_cases chosen : schema.rowId row = id
      · simp [chosen, kept]
      · simp [chosen]
  | missing _ _ => rfl
  | version row _ _ _ _ =>
      rw [pending_opened opened, pending_opened (State.setSession_self _ _ _)]

theorem insert_frame {row : Row} (returned : state.insert schema worker row = some (.ok next)) :
    next.committed = state.committed ∧
      next.pending worker = state.pending worker ++ [row] ∧
      ∀ other, other ≠ worker → next.sessions other = state.sessions other := by
  obtain ⟨session, opened, -, -, -, -, rfl⟩ := insert_cases returned
  refine ⟨rfl, ?_, fun other differ => State.setSession_ne _ _ differ _⟩
  rw [pending_opened opened, pending_opened (State.setSession_self _ _ _)]

theorem insert_fresh {row : Row} (returned : state.insert schema worker row = some (.ok next)) :
    ∀ old ∈ state.committed, schema.rowId old ≠ schema.rowId row := by
  obtain ⟨session, -, -, unused, -⟩ := insert_cases returned
  intro old member same
  exact unused (List.mem_map.mpr ⟨old, member, same⟩)

/-! ### What a worker sees -/

theorem view_of_sessions (committed : next.committed = state.committed)
    (same : next.sessions worker = state.sessions worker) :
    next.view schema worker = state.view schema worker := by
  unfold State.view
  rw [committed, same]

theorem Consistent.view_ids (consistent : Consistent schema lifecycle state) (worker : Worker) :
    ((state.view schema worker).map schema.rowId).Nodup := by
  cases opened : state.sessions worker with
  | none =>
      rw [view_closed opened]
      exact consistent.ids
  | some session =>
      rw [view_opened opened]
      exact (consistent.fits worker session opened).view_ids consistent.ids

theorem Consistent.view_evolved (consistent : Consistent schema lifecycle state) (worker : Worker)
    {row : Row} (member : row ∈ state.committed) :
    ∃ version ∈ state.view schema worker, schema.Evolves lifecycle row version := by
  cases opened : state.sessions worker with
  | none =>
      rw [view_closed opened]
      exact ⟨row, member, .refl row⟩
  | some session =>
      rw [view_opened opened]
      exact (consistent.fits worker session opened).view_evolved consistent.ids member

theorem Consistent.view_content (consistent : Consistent schema lifecycle state) {row old : Row}
    (seen : row ∈ state.view schema worker) (member : old ∈ state.committed)
    (same : schema.rowId row = schema.rowId old) :
    schema.Evolves lifecycle old row := by
  obtain ⟨version, versionSeen, evolves⟩ := consistent.view_evolved worker member
  have isVersion : row = version :=
    eq_of_rowId (consistent.view_ids worker) seen versionSeen (same.trans evolves.rowId.symm)
  rw [isVersion]
  exact evolves

/-- **An update changes the row with its id in what the worker sees.** -/
theorem update_view {id : Id} {change : Row → Row} {result : Option Row}
    (consistent : Consistent schema lifecycle state)
    (returned : state.update schema worker id change = some (result, next))
    (kept : ∀ row, schema.content (change row) = schema.content row) :
    next.view schema worker = (state.view schema worker).map fun row =>
      if schema.rowId row = id then change row else row := by
  have keptId : ∀ row, schema.rowId (change row) = schema.rowId row := by
    intro row
    unfold Schema.rowId
    rw [kept]
  obtain ⟨session, opened, updated⟩ := update_cases returned
  have fits := consistent.fits worker session opened
  -- A committed row has the id of its version.
  have versionId : ∀ old ∈ state.committed,
      schema.rowId (schema.latest session.updated old) = schema.rowId old :=
    fun old member => (fits.latest_evolves consistent.ids member).rowId
  have unchanged : (∀ row ∈ session.inserted, schema.rowId row ≠ id) → session.inserted.map
      (fun row => if schema.rowId row = id then change row else row) = session.inserted := by
    intro absent
    conv_rhs => rw [← List.map_id session.inserted]
    refine List.map_congr_left fun row member => ?_
    rw [if_neg (absent row member), id_eq]
  rw [view_opened opened]
  unfold Schema.view
  rw [List.map_append, List.map_map]
  cases updated with
  | inserted row own rowId =>
      rw [view_opened (State.setSession_self _ _ _)]
      refine congrArg₂ _ (List.map_congr_left fun old member => ?_) rfl
      have differ : schema.rowId (schema.latest session.updated old) ≠ id := by
        rw [versionId old member, ← rowId]
        exact fits.fresh row own old member
      rw [Function.comp_apply, if_neg differ]
  | missing absent missing =>
      rw [unchanged absent, view_opened opened]
      refine congrArg₂ _ (List.map_congr_left fun old member => ?_) rfl
      have differ : schema.rowId (schema.latest session.updated old) ≠ id := by
        rw [versionId old member]
        exact missing old member
      rw [Function.comp_apply, if_neg differ]
  | version row absent rowIn rowId _ =>
      rw [unchanged absent, view_opened (State.setSession_self _ _ _)]
      refine congrArg₂ _ (List.map_congr_left fun old member => ?_) rfl
      have newId : schema.rowId (change (schema.latest session.updated row)) = id := by
        rw [keptId, versionId row rowIn, rowId]
      rw [Function.comp_apply]
      by_cases chosen : schema.rowId old = id
      · have isRow : old = row :=
          eq_of_rowId consistent.ids member rowIn (chosen.trans rowId.symm)
        rw [isRow, if_pos ((versionId row rowIn).trans rowId)]
        exact Schema.latest_upsert_self (newId.trans rowId.symm)
      · rw [if_neg (by rw [versionId old member]; exact chosen)]
        exact Schema.latest_upsert_ne (by rw [newId]; exact fun same => chosen same.symm)

theorem insert_view {row : Row} (returned : state.insert schema worker row = some (.ok next)) :
    next.view schema worker = state.view schema worker ++ [row] := by
  obtain ⟨session, opened, -, -, -, -, rfl⟩ := insert_cases returned
  rw [view_opened opened, view_opened (State.setSession_self _ _ _)]
  unfold Schema.view
  exact (List.append_assoc _ _ _).symm

theorem commit_view {other : Worker} (consistent : Consistent schema lifecycle state)
    (differ : other ≠ worker) {row : Row}
    (seen : row ∈ (state.commit schema worker).view schema other) :
    row ∈ state.view schema other ∨ row ∈ state.view schema worker := by
  have same : (state.commit schema worker).sessions other = state.sessions other :=
    Function.update_of_ne differ _ _
  cases opened : state.sessions other with
  | none =>
      rw [view_closed (same.trans opened)] at seen
      exact .inr seen
  | some session =>
      rw [view_opened (same.trans opened)] at seen
      rcases Schema.mem_view.mp seen with ⟨old, oldIn, rfl⟩ | inserted
      · have oldSeen : old ∈ state.view schema worker := oldIn
        rcases Schema.latest_cases schema session.updated old with ⟨present, ownId⟩ | ⟨own, -⟩
        · -- The other worker has locked the row, so its version is the one it had seen.
          left
          rw [view_opened opened]
          obtain ⟨past, pastIn, evolves⟩ :=
            (consistent.fits other session opened).versions _ present
          refine Schema.mem_view.mpr (.inl ⟨past, pastIn, ?_⟩)
          have sameId : schema.rowId past = schema.rowId old := evolves.rowId.symm.trans ownId
          exact Schema.latest_congr present ownId sameId.symm
        · rw [own]
          exact .inr oldSeen
      · left
        rw [view_opened opened]
        exact Schema.mem_view.mpr (.inr inserted)

theorem commit_content {other : Worker} (consistent : Consistent schema lifecycle state)
    (after : Consistent schema lifecycle (state.commit schema worker)) (differ : other ≠ worker)
    {row : Row} (seen : row ∈ state.view schema other) :
    ∃ version ∈ (state.commit schema worker).view schema other,
      schema.content version = schema.content row := by
  have same : (state.commit schema worker).sessions other = state.sessions other :=
    Function.update_of_ne differ _ _
  have committedStill : ∀ old ∈ state.committed,
      ∃ version ∈ (state.commit schema worker).view schema other,
        schema.content version = schema.content old := by
    intro old oldIn
    obtain ⟨middle, middleSeen, evolves⟩ := consistent.view_evolved worker oldIn
    have middleIn : middle ∈ (state.commit schema worker).committed := middleSeen
    obtain ⟨version, versionSeen, further⟩ := after.view_evolved other middleIn
    exact ⟨version, versionSeen, further.content.trans evolves.content⟩
  cases opened : state.sessions other with
  | none =>
      rw [view_closed opened] at seen
      exact committedStill row seen
  | some session =>
      rw [view_opened opened] at seen
      rcases Schema.mem_view.mp seen with ⟨old, oldIn, rfl⟩ | inserted
      · have evolves := (consistent.fits other session opened).latest_evolves consistent.ids oldIn
        rw [evolves.content]
        exact committedStill old oldIn
      · refine ⟨row, ?_, rfl⟩
        rw [view_opened (same.trans opened)]
        exact Schema.mem_view.mpr (.inr inserted)

/-- The note of a worker's session. -/
def State.note (state : State Worker Row Note) (worker : Worker) : Option Note :=
  (state.sessions worker).map Session.note

theorem note_opened (opened : state.sessions worker = some session) :
    state.note worker = some session.note := by
  unfold State.note
  rw [opened]
  rfl

theorem update_note {id : Id} {change : Row → Row} {result : Option Row}
    (returned : state.update schema worker id change = some (result, next)) :
    next.note worker = state.note worker := by
  obtain ⟨session, opened, updated⟩ := update_cases returned
  cases updated with
  | inserted row _ _ => rw [note_opened opened, note_opened (State.setSession_self _ _ _)]
  | missing _ _ => rfl
  | version row _ _ _ _ => rw [note_opened opened, note_opened (State.setSession_self _ _ _)]

theorem insert_note {row : Row} (returned : state.insert schema worker row = some (.ok next)) :
    next.note worker = state.note worker := by
  obtain ⟨session, opened, -, -, -, -, rfl⟩ := insert_cases returned
  rw [note_opened opened, note_opened (State.setSession_self _ _ _)]

/-! ### Ranks -/

/-- Ranks count the rows of a group: they are distinct, the active row has the highest, and an
inserted row outranks its group. -/
structure Ranked (schema : Schema Row Content Status Id Group) (rank : Content → Nat)
    (state : State Worker Row Note) : Prop where
  distinct : ∀ first ∈ state.committed, ∀ second ∈ state.committed,
    schema.rowGroup first = schema.rowGroup second →
      rank (schema.content first) = rank (schema.content second) →
        schema.rowId first = schema.rowId second
  top : ∀ first ∈ state.committed, schema.active first = true → ∀ second ∈ state.committed,
    schema.rowGroup second = schema.rowGroup first →
      rank (schema.content second) ≤ rank (schema.content first)
  above : ∀ worker, ∀ row ∈ state.pending worker, ∀ old ∈ state.committed,
    schema.rowGroup old = schema.rowGroup row →
      rank (schema.content old) < rank (schema.content row)

variable {rank : Content → Nat}

theorem Ranked.pairwise (ranked : Ranked schema rank state)
    (ids : (state.committed.map schema.rowId).Nodup) :
    state.committed.Pairwise fun first second => schema.rowGroup first = schema.rowGroup second →
      rank (schema.content first) ≠ rank (schema.content second) := by
  have apart := List.pairwise_map.mp ids
  refine apart.imp_of_mem fun firstIn secondIn differ sameGroup sameRank => ?_
  exact differ (ranked.distinct _ firstIn _ secondIn sameGroup sameRank)

theorem pending_of_sessions {other : State Worker Row Note}
    (same : other.sessions worker = state.sessions worker) :
    other.pending worker = state.pending worker := by
  unfold State.pending
  rw [same]

theorem Ranked.of_frame (ranked : Ranked schema rank state)
    (committed : next.committed = state.committed)
    (pending : ∀ worker, ∀ row ∈ next.pending worker, ∃ source ∈ state.pending worker,
      schema.content source = schema.content row) : Ranked schema rank next where
  distinct := by
    rw [committed]
    exact ranked.distinct
  top := by
    rw [committed]
    exact ranked.top
  above := by
    rw [committed]
    intro worker row member old oldIn sameGroup
    obtain ⟨source, sourceIn, same⟩ := pending worker row member
    have sourceGroup : schema.rowGroup source = schema.rowGroup row := by
      unfold Schema.rowGroup
      rw [same]
    have outranked := ranked.above worker source sourceIn old oldIn (sameGroup.trans sourceGroup.symm)
    rw [same] at outranked
    exact outranked

theorem Ranked.begin {note : Note} (ranked : Ranked schema rank state)
    (begun : state.begin worker note = some next) : Ranked schema rank next := by
  unfold State.begin at begun
  split at begun
  · cases begun
    refine ranked.of_frame rfl fun other row member => ⟨row, ?_, rfl⟩
    by_cases isWorker : other = worker
    · subst isWorker
      unfold State.pending at member
      rw [State.setSession_self] at member
      cases member
    · rwa [pending_of_sessions (State.setSession_ne _ _ isWorker _)] at member
  · cases begun

theorem pending_closed {other : Worker} {committed : List Row} {row : Row}
    (member : row ∈ (State.mk committed (Function.update state.sessions worker none)).pending other) :
    other ≠ worker ∧ row ∈ state.pending other := by
  unfold State.pending at member ⊢
  dsimp only at member
  by_cases isWorker : other = worker
  · subst isWorker
    rw [Function.update_self] at member
    cases member
  · rw [Function.update_of_ne isWorker] at member
    exact ⟨isWorker, member⟩

theorem Ranked.rollback (ranked : Ranked schema rank state) :
    Ranked schema rank (state.rollback worker) :=
  ranked.of_frame rfl fun _ row member => ⟨row, (pending_closed member).2, rfl⟩

theorem Ranked.update {id : Id} {change : Row → Row} {result : Option Row}
    (ranked : Ranked schema rank state)
    (returned : state.update schema worker id change = some (result, next))
    (kept : ∀ row, schema.content (change row) = schema.content row) : Ranked schema rank next := by
  obtain ⟨committed, others⟩ := update_frame returned
  refine ranked.of_frame committed fun other row member => ?_
  by_cases isWorker : other = worker
  · subst isWorker
    have inContents := List.mem_map_of_mem (f := schema.content) member
    rw [update_pending returned kept] at inContents
    exact List.mem_map.mp inContents
  · rw [pending_of_sessions (others other isWorker)] at member
    exact ⟨row, member, rfl⟩

theorem Ranked.insert {row : Row} (ranked : Ranked schema rank state)
    (returned : state.insert schema worker row = some (.ok next))
    (above : ∀ old ∈ state.committed, schema.rowGroup old = schema.rowGroup row →
      rank (schema.content old) < rank (schema.content row)) : Ranked schema rank next := by
  obtain ⟨committed, pending, others⟩ := insert_frame returned
  refine ⟨?_, ?_, ?_⟩
  · rw [committed]
    exact ranked.distinct
  · rw [committed]
    exact ranked.top
  · rw [committed]
    intro other inserted member old oldIn sameGroup
    by_cases isWorker : other = worker
    · subst isWorker
      rw [pending] at member
      rcases List.mem_append.mp member with kept | new
      · exact ranked.above other inserted kept old oldIn sameGroup
      · rw [List.mem_singleton.mp new] at sameGroup ⊢
        exact above old oldIn sameGroup
    · rw [pending_of_sessions (others other isWorker)] at member
      exact ranked.above other inserted member old oldIn sameGroup

/-- **A commit keeps the ranks**: what a session inserted outranks its group. -/
theorem Ranked.commit (ranked : Ranked schema rank state) (consistent : Consistent schema lifecycle state)
    (opened : state.sessions worker = some session) :
    Ranked schema rank (state.commit schema worker) := by
  have seen : state.view schema worker = schema.view state.committed session := by
    unfold State.view
    rw [opened]
  have own : state.pending worker = session.inserted := by
    unfold State.pending
    rw [opened]
  have fits := consistent.fits worker session opened
  have outranks : ∀ row ∈ session.inserted, ∀ old ∈ state.committed,
      schema.rowGroup old = schema.rowGroup row →
        rank (schema.content old) < rank (schema.content row) := by
    rw [← own]
    exact ranked.above worker
  have same : ∀ row ∈ session.inserted, ∀ other ∈ session.inserted,
      schema.rowGroup row = schema.rowGroup other → row = other :=
    fun row rowIn other otherIn => List.inj_on_of_nodup_map fits.insertedGroups rowIn otherIn
  refine ⟨?_, ?_, ?_⟩
  · show ∀ first ∈ state.view schema worker, ∀ second ∈ state.view schema worker, _
    rw [seen]
    intro first firstIn second secondIn sameGroup sameRank
    rcases Schema.mem_view.mp firstIn with ⟨old, oldIn, rfl⟩ | firstNew
    · have evolves := fits.latest_evolves consistent.ids oldIn
      rw [evolves.rowGroup] at sameGroup
      rw [evolves.content] at sameRank
      rw [evolves.rowId]
      rcases Schema.mem_view.mp secondIn with ⟨past, pastIn, rfl⟩ | secondNew
      · have pastEvolves := fits.latest_evolves consistent.ids pastIn
        rw [pastEvolves.rowGroup] at sameGroup
        rw [pastEvolves.content] at sameRank
        rw [pastEvolves.rowId]
        exact ranked.distinct old oldIn past pastIn sameGroup sameRank
      · exact absurd sameRank (outranks second secondNew old oldIn sameGroup).ne
    · rcases Schema.mem_view.mp secondIn with ⟨past, pastIn, rfl⟩ | secondNew
      · have pastEvolves := fits.latest_evolves consistent.ids pastIn
        rw [pastEvolves.rowGroup] at sameGroup
        rw [pastEvolves.content] at sameRank
        exact absurd sameRank (outranks first firstNew past pastIn sameGroup.symm).ne'
      · rw [same first firstNew second secondNew sameGroup]
  · show ∀ first ∈ state.view schema worker, schema.active first = true →
      ∀ second ∈ state.view schema worker, _
    rw [seen]
    intro first firstIn active second secondIn sameGroup
    rcases Schema.mem_view.mp firstIn with ⟨old, oldIn, rfl⟩ | firstNew
    · have evolves := fits.latest_evolves consistent.ids oldIn
      rw [evolves.rowGroup] at sameGroup
      rw [evolves.content]
      rcases Schema.mem_view.mp secondIn with ⟨past, pastIn, rfl⟩ | secondNew
      · have pastEvolves := fits.latest_evolves consistent.ids pastIn
        rw [pastEvolves.rowGroup] at sameGroup
        rw [pastEvolves.content]
        exact ranked.top old oldIn (evolves.active active) past pastIn sameGroup
      · -- The session has ended every active row of a group it inserted into.
        rw [fits.superseded second secondNew old oldIn sameGroup.symm] at active
        cases active
    · rcases Schema.mem_view.mp secondIn with ⟨past, pastIn, rfl⟩ | secondNew
      · have pastEvolves := fits.latest_evolves consistent.ids pastIn
        rw [pastEvolves.rowGroup] at sameGroup
        rw [pastEvolves.content]
        exact (outranks first firstNew past pastIn sameGroup).le
      · rw [same second secondNew first firstNew sameGroup]
  · show ∀ other, ∀ row ∈ _, ∀ old ∈ state.view schema worker, _
    rw [seen]
    intro other row member old oldIn sameGroup
    obtain ⟨differ, stillPending⟩ := pending_closed member
    rcases Schema.mem_view.mp oldIn with ⟨past, pastIn, rfl⟩ | oldNew
    · have pastEvolves := fits.latest_evolves consistent.ids pastIn
      rw [pastEvolves.rowGroup] at sameGroup
      rw [pastEvolves.content]
      exact ranked.above other row stillPending past pastIn sameGroup
    · -- The other session has claimed the row's group.
      unfold State.pending at stillPending
      split at stillPending
      · cases stillPending
      · rename_i right otherOpened
        have apart := consistent.apart worker other session right differ.symm opened otherOpened
        exact absurd sameGroup (apart.claims old oldNew row stillPending)

end Statements

end Versions
