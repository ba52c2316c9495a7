/-
**Publishers on one outbox — any number of workers, one database action after the other.**

`_poll_once` claims a batch, publishes its rows and updates each after its publication. The connection
commits every statement by itself, so the row locks of the claim end with it (`LockScope.statement`).

* `outboxStep`: ingest, claim, publish, mark, and the end of a connection with claims in hand;
* `OutboxState.Accounted`, `Publishing`: what the runs keep whose workers claim apart;
* `publishers_safe`: there no row is published by two workers, unless the first lost its connection,
  `published` and `dead_letter` are final, and the attempts stay within the limit;
* `publishers_collide`: with the locks as they are, two workers break all three.
-/

import CosMonitor.Foundation.Claims
import CosMonitor.Foundation.Transition
import CosMonitor.Telemetry.Publisher

set_option linter.unusedSectionVars false

namespace CosMonitor

open Claims (Exclusive)
open Table (updateWhere mem_updateWhere)

/-! ### Claiming and marking -/

/-- The `LIMIT` of a claim. -/
def claimBatchSize : Nat := 10

/-- The `WHERE` of a claim. -/
def OutboxRow.claimable (now : Timestamp) (row : OutboxRow) : Bool :=
  decide (row.status = .pending ∨ row.status = .failed ∧ row.nextAttemptAt ≤ now)

/-- `_claim_rows`: `ORDER BY next_attempt_at LIMIT … FOR UPDATE SKIP LOCKED`, on the rows in the order
in which they are scanned. -/
def claimRows (locked : Uuid → Bool) (now : Timestamp) (scan : List OutboxRow) : List OutboxRow :=
  ((scan.filter fun row => row.claimable now && !locked row.id).mergeSort
    fun first second => decide (first.nextAttemptAt ≤ second.nextAttemptAt)).take claimBatchSize

/-- The `UPDATE` after a publication: what it sets comes from the claimed copy when the publication
failed, and from the row itself when it succeeded. -/
def markRow (now jitter : Timestamp) (claimed : OutboxRow) (succeeded : Bool) (row : OutboxRow) :
    OutboxRow :=
  if succeeded then
    { row with
      status := .published
      publishedAt := some now
      attempts := row.attempts + 1 }
  else
    { row with
      status := (failedAttempt now jitter claimed).status
      attempts := (failedAttempt now jitter claimed).attempts
      lastError := (failedAttempt now jitter claimed).lastError
      nextAttemptAt := (failedAttempt now jitter claimed).nextAttemptAt }

/-- The row is still to be published. -/
def OutboxRow.IsOpen (row : OutboxRow) : Prop :=
  row.status = .pending ∨ row.status = .failed

/-- The row is `published` or `dead_letter`. -/
def OutboxRow.Terminal (row : OutboxRow) : Prop :=
  row.status = .published ∨ row.status = .deadLetter

/-- The attempts of a row: within the limit, and below it while the row is open. -/
def OutboxRow.Bounded (row : OutboxRow) : Prop :=
  row.attempts ≤ maxAttempts ∧ (row.IsOpen → row.attempts < maxAttempts)

theorem OutboxRow.Terminal.not_open {row : OutboxRow} (terminal : row.Terminal) : ¬row.IsOpen := by
  unfold OutboxRow.IsOpen
  rcases terminal with status | status <;> simp [status]

@[simp] theorem markRow_id (now jitter : Timestamp) (claimed : OutboxRow) (succeeded : Bool)
    (row : OutboxRow) : (markRow now jitter claimed succeeded row).id = row.id := by
  unfold markRow
  split <;> rfl

theorem OutboxRow.Bounded.mark {row : OutboxRow} (bounded : row.Bounded) (isOpen : row.IsOpen)
    (now jitter : Timestamp) (succeeded : Bool) : (markRow now jitter row succeeded row).Bounded := by
  have below := bounded.2 isOpen
  cases succeeded with
  | true =>
      refine ⟨below, ?_⟩
      rintro (status | status) <;> cases status
  | false =>
      show _ ≤ maxAttempts ∧ (_ → _ < maxAttempts)
      unfold markRow OutboxRow.IsOpen
      simp only [Bool.false_eq_true, if_false, failedAttempt_status, failedAttempt_attempts]
      split
      · refine ⟨below, ?_⟩
        rintro (status | status) <;> cases status
      · omega

theorem claimRows_spec {locked : Uuid → Bool} {now : Timestamp} {scan : List OutboxRow} {row : OutboxRow}
    (member : row ∈ claimRows locked now scan) : row ∈ scan ∧ row.IsOpen ∧ locked row.id = false := by
  have sorted := List.mem_mergeSort.mp (List.mem_of_mem_take member)
  obtain ⟨inScan, accepted⟩ := List.mem_filter.mp sorted
  obtain ⟨claimable, free⟩ := Bool.and_eq_true_iff.mp accepted
  refine ⟨inScan, ?_, by simpa using free⟩
  exact (of_decide_eq_true claimable).imp_right fun failed => failed.1

theorem claimRows_once {locked : Uuid → Bool} {now : Timestamp} {scan : List OutboxRow}
    (ids : (scan.map OutboxRow.id).Nodup) : ((claimRows locked now scan).map OutboxRow.id).Nodup := by
  refine List.Nodup.sublist ((List.take_sublist _ _).map _) ?_
  rw [((List.mergeSort_perm _ _).map OutboxRow.id).nodup_iff]
  exact ids.sublist (List.filter_sublist.map _)

/-! ### The workers -/

/-- Where a worker is in `_poll_once`, with the rest of its batch. -/
inductive PublisherPhase where
  | idle
  | working (row : OutboxRow) (rest : List OutboxRow)
  /-- the publication has returned or raised, and the update is next -/
  | marking (row : OutboxRow) (succeeded : Bool) (rest : List OutboxRow)

namespace PublisherPhase

/-- The rows that a worker has in hand. -/
def held : PublisherPhase → List OutboxRow
  | idle => []
  | working row rest | marking row _ rest => row :: rest

/-- The worker goes on with the rest of its batch. -/
def next : List OutboxRow → PublisherPhase
  | [] => idle
  | row :: rest => working row rest

@[simp] theorem held_next (rows : List OutboxRow) : (next rows).held = rows := by
  cases rows <;> rfl

end PublisherPhase

/-- The outbox and its workers. `sent` are the publications that returned, with their workers, in
order; `expired` the claims that ended with the connection of their worker. -/
structure OutboxState (Worker : Type) where
  rows : List OutboxRow
  phases : Worker → PublisherPhase
  sent : List (Worker × Uuid)
  expired : List (Worker × Uuid)

/-- The actions of the workers, and of an ingest. -/
inductive OutboxAction (Worker : Type) where
  | ingest (row : OutboxRow)
  | claim (worker : Worker) (now : Timestamp) (scan : List OutboxRow)
  | publish (worker : Worker) (delivers : Bool)
  | mark (worker : Worker) (now jitter : Timestamp)
  /-- a statement raises or the task is cancelled: the connection is closed, the batch forgotten -/
  | drop (worker : Worker)

/-- How long the row locks of a claim last. -/
inductive LockScope where
  /-- until the end of its statement, as the connection has no transaction -/
  | statement
  /-- until its worker has marked the row, or lost its connection -/
  | claim
  deriving DecidableEq

section Workers

variable {Worker : Type} [DecidableEq Worker] [Fintype Worker]

/-- The rows in the hands of a worker. -/
def OutboxState.held (state : OutboxState Worker) (worker : Worker) : List OutboxRow :=
  (state.phases worker).held

/-- Put the phase of a worker. -/
def OutboxState.setPhase (state : OutboxState Worker) (worker : Worker) (phase : PublisherPhase) :
    OutboxState Worker :=
  { state with phases := Function.update state.phases worker phase }

/-- The rows that the claim of a worker finds locked. -/
def LockScope.locked (scope : LockScope) (state : OutboxState Worker) (worker : Worker) (id : Uuid) :
    Bool :=
  match scope with
  | statement => false
  | claim => decide (∃ other, other ≠ worker ∧ ∃ row ∈ state.held other, row.id = id)

/-- One database action or publication; `none` when the worker is elsewhere. A row that does not decode
is not delivered. -/
def outboxStep (std : Stdlib) (scope : LockScope) (state : OutboxState Worker) :
    OutboxAction Worker → Option (OutboxState Worker)
  | .ingest row =>
      if row.status = .pending ∧ row.attempts = 0 then
        (insertOutbox row state.rows).toOption.map fun rows => { state with rows }
      else none
  | .claim worker now scan =>
      match state.phases worker with
      | .idle =>
          if scan.Perm state.rows then
            some (state.setPhase worker (.next (claimRows (scope.locked state worker) now scan)))
          else none
      | .working .. | .marking .. => none
  | .publish worker delivers =>
      match state.phases worker with
      | .working row rest =>
          if (decodeObservation std row.observation).isOk && delivers then
            some ({ state with sent := state.sent ++ [(worker, row.id)] }.setPhase worker
              (.marking row true rest))
          else some (state.setPhase worker (.marking row false rest))
      | .idle | .marking .. => none
  | .mark worker now jitter =>
      match state.phases worker with
      | .marking claimed succeeded rest =>
          some ({ state with
            rows := updateWhere (fun row => decide (row.id = claimed.id))
              (markRow now jitter claimed succeeded) state.rows }.setPhase worker (.next rest))
      | .idle | .working .. => none
  | .drop worker =>
      some ({ state with
        expired := state.expired ++ (state.held worker).map fun row : OutboxRow =>
          (worker, row.id) }.setPhase worker
          .idle)

/-- The workers as a transition system. -/
def outboxSystem (Worker : Type) [DecidableEq Worker] [Fintype Worker] (std : Stdlib)
    (scope : LockScope) : Transition.System (OutboxState Worker) (OutboxAction Worker) where
  step := outboxStep std scope

/-- A step in which no worker claims a row that another one has in hand. -/
def ClaimsApart (scope : LockScope) (state : OutboxState Worker) : OutboxAction Worker → Prop
  | .claim worker now scan =>
      ∀ row ∈ claimRows (scope.locked state worker) now scan, ∀ other, other ≠ worker →
        ∀ taken ∈ state.held other, taken.id ≠ row.id
  | .ingest _ | .publish .. | .mark .. | .drop _ => True

/-- An outbox as ingests leave it, before any worker has started. -/
structure Untouched (state : OutboxState Worker) : Prop where
  ids : (state.rows.map OutboxRow.id).Nodup
  fresh : ∀ row ∈ state.rows, row.status = .pending ∧ row.attempts = 0
  idle : ∀ worker, state.phases worker = .idle
  sent : state.sent = []

/-! ### What the runs keep -/

/-- No row is published by two workers, unless the connection of the first ended with the row in
hand. -/
def OutboxState.PublishedApart (state : OutboxState Worker) : Prop :=
  state.sent.Pairwise fun first second =>
    first.2 = second.2 → first.1 ≠ second.1 → first ∈ state.expired

/-- What became of a publication: it is being marked, its row is `published`, or the connection of its
worker ended. -/
def OutboxState.Accounted (state : OutboxState Worker) (worker : Worker) (id : Uuid) : Prop :=
  (∃ row rest, state.phases worker = .marking row true rest ∧ row.id = id) ∨
    (∃ row ∈ state.rows, row.id = id ∧ row.status = .published) ∨ (worker, id) ∈ state.expired

/-- The invariant of the runs whose workers claim apart. -/
structure Publishing (state : OutboxState Worker) : Prop where
  claims : Exclusive OutboxRow.id OutboxRow.IsOpen state.rows state.held
  bounded : ∀ row ∈ state.rows, row.Bounded
  accounted : ∀ entry ∈ state.sent, state.Accounted entry.1 entry.2
  apart : state.PublishedApart

variable {std : Stdlib} {scope : LockScope} {state next : OutboxState Worker} {worker : Worker}

theorem OutboxState.held_setPhase (phase : PublisherPhase) :
    (state.setPhase worker phase).held = Function.update state.held worker phase.held := by
  funext other
  show (Function.update state.phases worker phase other).held = _
  by_cases own : other = worker
  · rw [own, Function.update_self, Function.update_self]
  · rw [Function.update_of_ne own, Function.update_of_ne own]
    rfl

theorem OutboxState.held_of_phase {phase : PublisherPhase} (here : state.phases worker = phase) :
    state.held worker = phase.held :=
  congrArg PublisherPhase.held here

theorem OutboxState.setPhase_self (phase : PublisherPhase) :
    (state.setPhase worker phase).phases worker = phase :=
  Function.update_self ..

theorem Untouched.publishing (untouched : Untouched state) : Publishing state where
  claims := by
    have idle : state.held = fun _ => [] := by
      funext other
      unfold OutboxState.held
      rw [untouched.idle other]
      rfl
    rw [idle]
    exact .unclaimed untouched.ids
  bounded := by
    intro row member
    rw [OutboxRow.Bounded, (untouched.fresh row member).2]
    exact ⟨Nat.zero_le _, fun _ => by decide⟩
  accounted := by
    rw [untouched.sent]
    rintro _ ⟨⟩
  apart := by
    unfold OutboxState.PublishedApart
    rw [untouched.sent]
    exact .nil

theorem OutboxState.Accounted.other {id : Uuid} {other : Worker}
    (accounted : state.Accounted other id) (phase : next.phases other = state.phases other)
    (rows : ∀ row ∈ state.rows, row.status = .published → row ∈ next.rows)
    (expired : ∀ entry ∈ state.expired, entry ∈ next.expired) : next.Accounted other id := by
  rcases accounted with ⟨row, rest, marking, same⟩ | ⟨row, member, same, published⟩ | ended
  · exact .inl ⟨row, rest, phase.trans marking, same⟩
  · exact .inr (.inl ⟨row, rows row member published, same, published⟩)
  · exact .inr (.inr (expired _ ended))

theorem Publishing.ingested {row : OutboxRow} {rows : List OutboxRow}
    (publishing : Publishing state) (new : row.status = .pending ∧ row.attempts = 0)
    (inserted : insertOutbox row state.rows = .ok rows) : Publishing { state with rows } := by
  unfold insertOutbox at inserted
  split at inserted
  · cases inserted
  rename_i unused
  split at inserted
  · cases inserted
  cases inserted
  have fresh : ∀ other ∈ state.rows, other.id ≠ row.id := by
    intro other member same
    exact unused (List.any_eq_true.mpr ⟨other, member, by simpa using same⟩)
  refine ⟨publishing.claims.insert fresh, ?_, ?_, publishing.apart⟩
  · intro other member
    rcases List.mem_append.mp member with old | added
    · exact publishing.bounded other old
    · rw [List.mem_singleton.mp added, OutboxRow.Bounded, new.2]
      exact ⟨Nat.zero_le _, fun _ => by decide⟩
  · exact fun entry sent => (publishing.accounted entry sent).other rfl
      (fun other member _ => List.mem_append_left _ member) fun _ ended => ended

theorem Publishing.accounted_setPhase (publishing : Publishing state)
    (nothing : ∀ row rest, state.phases worker ≠ .marking row true rest) (phase : PublisherPhase) :
    ∀ entry ∈ state.sent, (state.setPhase worker phase).Accounted entry.1 entry.2 := by
  intro entry sent
  rcases publishing.accounted entry sent with ⟨row, rest, marking, same⟩ | others
  · have differ : entry.1 ≠ worker := fun own => nothing row rest (own ▸ marking)
    exact .inl ⟨row, rest, (Function.update_of_ne differ ..).trans marking, same⟩
  · exact .inr others

theorem Publishing.claimed {claimed : List OutboxRow} (publishing : Publishing state)
    (idle : state.phases worker = .idle) (current : ∀ row ∈ claimed, row ∈ state.rows ∧ row.IsOpen)
    (once : (claimed.map OutboxRow.id).Nodup)
    (apart : ∀ other, other ≠ worker → ∀ row ∈ claimed, ∀ taken ∈ state.held other,
      taken.id ≠ row.id) : Publishing (state.setPhase worker (.next claimed)) where
  claims := by
    rw [OutboxState.held_setPhase, PublisherPhase.held_next]
    exact publishing.claims.replace current once apart
  bounded := publishing.bounded
  accounted := publishing.accounted_setPhase (by rw [idle]; rintro _ _ ⟨⟩) _
  apart := publishing.apart

theorem Publishing.claims_publish {row : OutboxRow} {rest : List OutboxRow} {succeeded : Bool}
    (publishing : Publishing state) (working : state.phases worker = .working row rest) :
    Exclusive OutboxRow.id OutboxRow.IsOpen state.rows
      (state.setPhase worker (.marking row succeeded rest)).held := by
  rw [OutboxState.held_setPhase]
  refine publishing.claims.release ?_
  rw [OutboxState.held_of_phase working]
  exact List.Sublist.refl _

theorem Publishing.refused {row : OutboxRow} {rest : List OutboxRow} (publishing : Publishing state)
    (working : state.phases worker = .working row rest) :
    Publishing (state.setPhase worker (.marking row false rest)) where
  claims := publishing.claims_publish working
  bounded := publishing.bounded
  accounted := publishing.accounted_setPhase (by rw [working]; rintro _ _ ⟨⟩) _
  apart := publishing.apart

/-- **A publication**: whoever published the row before has lost its connection since, as the row is
open and nobody else has it in hand. -/
theorem Publishing.delivered {row : OutboxRow} {rest : List OutboxRow} (publishing : Publishing state)
    (working : state.phases worker = .working row rest) :
    Publishing ({ state with sent := state.sent ++ [(worker, row.id)] }.setPhase worker
      (.marking row true rest)) where
  claims := publishing.claims_publish working
  bounded := publishing.bounded
  accounted := by
    intro entry sent
    rcases List.mem_append.mp sent with old | new
    · exact publishing.accounted_setPhase (by rw [working]; rintro _ _ ⟨⟩) _ entry old
    · rw [List.mem_singleton.mp new]
      exact .inl ⟨row, rest, OutboxState.setPhase_self _, rfl⟩
  apart := by
    refine List.pairwise_append.mpr ⟨publishing.apart, List.pairwise_singleton _ _, ?_⟩
    intro first old second new same differ
    rw [List.mem_singleton.mp new] at same differ
    have inHand : row ∈ state.held worker := by
      rw [OutboxState.held_of_phase working]
      exact List.mem_cons_self
    obtain ⟨inRows, isOpen⟩ := publishing.claims.current worker row inHand
    rcases publishing.accounted first old with ⟨taken, others, marking, id⟩ |
      ⟨found, member, id, published⟩ | ended
    · have takenIn : taken ∈ state.held first.1 := by
        rw [OutboxState.held_of_phase marking]
        exact List.mem_cons_self
      exact absurd (id.trans same) (publishing.claims.apart first.1 worker differ taken takenIn row inHand)
    · have isRow := publishing.claims.eq_of_key member inRows (id.trans same)
      rw [isRow] at published
      exact absurd isOpen (OutboxRow.Terminal.not_open (.inl published))
    · exact ended

/-- **A worker marks its row**: the table still has its copy. -/
theorem Publishing.marked {claimed : OutboxRow} {rest : List OutboxRow} {succeeded : Bool}
    (publishing : Publishing state) (marking : state.phases worker = .marking claimed succeeded rest)
    (now jitter : Timestamp) :
    Publishing ({ state with
      rows := updateWhere (fun row => decide (row.id = claimed.id))
        (markRow now jitter claimed succeeded) state.rows }.setPhase worker (.next rest)) := by
  have holds : state.held worker = claimed :: rest := OutboxState.held_of_phase marking
  have inHand : claimed ∈ state.held worker := by
    rw [holds]
    exact List.mem_cons_self
  obtain ⟨inRows, isOpen⟩ := publishing.claims.current worker claimed inHand
  have published : ∀ row ∈ state.rows, row.status = .published →
      row ∈ updateWhere (fun row => decide (row.id = claimed.id))
        (markRow now jitter claimed succeeded) state.rows := fun row member status =>
    publishing.claims.settled inHand member (OutboxRow.Terminal.not_open (.inl status))
  refine ⟨?_, ?_, ?_, publishing.apart⟩
  · rw [OutboxState.held_setPhase, PublisherPhase.held_next]
    exact publishing.claims.update holds (markRow_id now jitter claimed succeeded)
  · intro row member
    rcases mem_updateWhere.mp member with ⟨old, oldIn, selected, rfl⟩ | ⟨old, -⟩
    · rw [publishing.claims.eq_of_key oldIn inRows (of_decide_eq_true selected)]
      exact (publishing.bounded claimed inRows).mark isOpen now jitter succeeded
    · exact publishing.bounded row old
  · intro entry sent
    by_cases own : entry.1 = worker
    · rcases publishing.accounted entry sent with ⟨row, others, here, id⟩ | ⟨row, member, id, status⟩ |
        ended
      · -- The publication that the worker marks: its row is published now.
        rw [own, marking] at here
        cases here
        refine .inr (.inl ⟨markRow now jitter claimed true claimed, ?_, ?_, rfl⟩)
        · exact mem_updateWhere.mpr (.inl ⟨claimed, inRows, decide_eq_true rfl, rfl⟩)
        · rw [markRow_id, id]
      · exact .inr (.inl ⟨row, published row member status, id, status⟩)
      · exact .inr (.inr ended)
    · exact (publishing.accounted entry sent).other (Function.update_of_ne own ..) published
        fun _ ended => ended

theorem Publishing.dropped (publishing : Publishing state) :
    Publishing ({ state with
      expired := state.expired ++ (state.held worker).map fun row : OutboxRow =>
        (worker, row.id) }.setPhase worker .idle) where
  claims := by
    rw [OutboxState.held_setPhase]
    exact publishing.claims.release (List.nil_sublist _)
  bounded := publishing.bounded
  accounted := by
    intro entry sent
    by_cases own : entry.1 = worker
    · rcases publishing.accounted entry sent with ⟨row, others, here, id⟩ | others | ended
      · refine .inr (.inr (List.mem_append_right _ (List.mem_map.mpr ⟨row, ?_, ?_⟩)))
        · rw [← own, OutboxState.held_of_phase here]
          exact List.mem_cons_self
        · exact Prod.ext own.symm id
      · exact .inr (.inl others)
      · exact .inr (.inr (List.mem_append_left _ ended))
    · exact (publishing.accounted entry sent).other (Function.update_of_ne own ..)
        (fun _ member _ => member) fun _ ended => List.mem_append_left _ ended
  apart := publishing.apart.imp fun shared same differ =>
    List.mem_append_left _ (shared same differ)

/-- **A step in which no worker claims what another has in hand keeps the invariant.** -/
theorem Publishing.step {action : OutboxAction Worker} (publishing : Publishing state)
    (apart : ClaimsApart scope state action)
    (stepped : outboxStep std scope state action = some next) : Publishing next := by
  unfold outboxStep at stepped
  cases action with
  | ingest row =>
      dsimp only at stepped
      split at stepped
      · rename_i new
        obtain ⟨rows, inserted, rfl⟩ := Option.map_eq_some_iff.mp stepped
        cases accepted : insertOutbox row state.rows with
        | error failure =>
            rw [accepted] at inserted
            cases inserted
        | ok found =>
            rw [accepted] at inserted
            cases inserted
            exact publishing.ingested new accepted
      · cases stepped
  | claim worker now scan =>
      dsimp only at stepped
      split at stepped
      · rename_i idle
        split at stepped
        · rename_i scanned
          cases stepped
          refine publishing.claimed idle ?_ ?_ ?_
          · intro row member
            obtain ⟨inScan, isOpen, -⟩ := claimRows_spec member
            exact ⟨scanned.mem_iff.mp inScan, isOpen⟩
          · exact claimRows_once ((scanned.map OutboxRow.id).nodup_iff.mpr publishing.claims.keys)
          · exact fun other differ row member taken takenIn => apart row member other differ taken takenIn
        · cases stepped
      all_goals cases stepped
  | publish worker delivers =>
      dsimp only at stepped
      split at stepped
      · rename_i row rest working
        split at stepped
        · cases stepped
          exact publishing.delivered working
        · cases stepped
          exact publishing.refused working
      all_goals cases stepped
  | mark worker now jitter =>
      dsimp only at stepped
      split at stepped
      · rename_i claimed succeeded rest marking
        cases stepped
        exact publishing.marked marking now jitter
      all_goals cases stepped
  | drop worker =>
      cases stepped
      exact publishing.dropped

/-- **A terminal row stays** in a step from a state in which the workers claim apart. -/
theorem Publishing.terminal_step {action : OutboxAction Worker} {row : OutboxRow}
    (publishing : Publishing state) (stepped : outboxStep std scope state action = some next)
    (member : row ∈ state.rows) (terminal : row.Terminal) : row ∈ next.rows := by
  unfold outboxStep at stepped
  cases action with
  | ingest new =>
      dsimp only at stepped
      split at stepped
      · obtain ⟨rows, inserted, rfl⟩ := Option.map_eq_some_iff.mp stepped
        unfold insertOutbox at inserted
        split at inserted
        · cases inserted
        split at inserted
        · cases inserted
        cases inserted
        exact List.mem_append_left _ member
      · cases stepped
  | claim worker now scan =>
      dsimp only at stepped
      split at stepped
      · split at stepped
        · cases stepped
          exact member
        · cases stepped
      all_goals cases stepped
  | publish worker delivers =>
      dsimp only at stepped
      split at stepped
      · split at stepped
        · cases stepped
          exact member
        · cases stepped
          exact member
      all_goals cases stepped
  | mark worker now jitter =>
      dsimp only at stepped
      split at stepped
      · rename_i claimed succeeded rest marking
        cases stepped
        have inHand : claimed ∈ state.held worker := by
          rw [OutboxState.held_of_phase marking]
          exact List.mem_cons_self
        exact publishing.claims.settled inHand member terminal.not_open
      all_goals cases stepped
  | drop worker =>
      cases stepped
      exact member

theorem Publishing.run {after : OutboxState Worker} (publishing : Publishing state)
    (reached : (outboxSystem Worker std scope).Reachable (ClaimsApart scope) state after) :
    Publishing after :=
  reached.invariant publishing fun _ _ _ kept apart stepped => kept.step apart stepped

theorem Publishing.terminal_run {after : OutboxState Worker} {row : OutboxRow}
    (publishing : Publishing state)
    (reached : (outboxSystem Worker std scope).Reachable (ClaimsApart scope) state after)
    (member : row ∈ state.rows) (terminal : row.Terminal) : row ∈ after.rows := by
  have both : Publishing after ∧ row ∈ after.rows := by
    induction reached with
    | refl => exact ⟨publishing, member⟩
    | tail _ moved ih =>
        obtain ⟨action, apart, stepped⟩ := moved
        exact ⟨ih.1.step apart stepped, ih.1.terminal_step stepped ih.2 terminal⟩
  exact both.2

/-- **Publishers on one outbox.** From an outbox as ingests leave it, in every run in which no worker
claims a row that another one has in hand: no row is published by two workers unless the connection of
the first has ended, `published` and `dead_letter` rows never change, and no row has more attempts than
the limit. -/
theorem publishers_safe (std : Stdlib) (initial state : OutboxState Worker)
    (untouched : Untouched initial)
    (reached : (outboxSystem Worker std .statement).Reachable (ClaimsApart .statement) initial state) :
    state.PublishedApart ∧
      (∀ later, (outboxSystem Worker std .statement).Reachable (ClaimsApart .statement) state later →
        ∀ row ∈ state.rows, row.Terminal → row ∈ later.rows) ∧
      ∀ row ∈ state.rows, row.attempts ≤ maxAttempts := by
  have publishing := untouched.publishing.run reached
  refine ⟨publishing.apart, ?_, fun row member => (publishing.bounded row member).1⟩
  exact fun later continues row member terminal => publishing.terminal_run continues member terminal

end Workers

/-! ### Two workers -/

/-- A pending row with one observation. -/
def flatRow : OutboxRow :=
  { cpuRow with
    observation := .obj
      [("id", .str "698478eb-d669-51cb-8a50-81c912537220"),
        ("tenant_id", .str "00000000-0000-0000-0000-000000000001"),
        ("source_id", .str "00000000-0000-0000-0000-00000000000c"),
        ("fact_type", .str "cpu_utilization"),
        ("captured_at", .str "2026-01-01T00:00:00+00:00")] }

/-- An outbox with one pending row. -/
def flatOutbox (Worker : Type) : OutboxState Worker where
  rows := [flatRow]
  phases := fun _ => .idle
  sent := []
  expired := []

theorem untouched_flatOutbox (Worker : Type) [DecidableEq Worker] [Fintype Worker] :
    Untouched (flatOutbox Worker) where
  ids := List.nodup_singleton _
  fresh := by
    intro row member
    rw [List.mem_singleton.mp member]
    exact ⟨rfl, rfl⟩
  idle := fun _ => rfl
  sent := rfl

/-- The instant of an attempt, later than every backoff before it. -/
def attemptAt (attempt : Nat) : Timestamp :=
  1767225600000000 + attempt * (100 * second)

/-- The row after a number of failed attempts. -/
def triedRow : Nat → OutboxRow
  | 0 => flatRow
  | attempts + 1 => failedAttempt (attemptAt attempts) 0 (triedRow attempts)

/-- Four attempts of the first worker fail; then both workers claim the row and publish it, and the
first one marks it. -/
def collidingSteps : List (OutboxAction (Fin 2)) :=
  ((List.range 4).flatMap fun attempt =>
    [.claim 0 (attemptAt attempt) [triedRow attempt], .publish 0 false, .mark 0 (attemptAt attempt) 0]) ++
  [.claim 0 (attemptAt 4) [triedRow 4], .claim 1 (attemptAt 4) [triedRow 4], .publish 0 true,
    .publish 1 true, .mark 0 (attemptAt 4) 0]

/-- **Two workers break the three promises**: both publish the row though no connection has ended, the
second one changes the published row, and the row has six attempts. -/
theorem publishers_collide : ∃ before after : OutboxState (Fin 2),
    (outboxSystem (Fin 2) cpuStdlib .statement).Reachable (fun _ _ => True) (flatOutbox (Fin 2)) before ∧
    outboxStep cpuStdlib .statement before (.mark 1 (attemptAt 5) 0) = some after ∧
    ¬after.PublishedApart ∧ (∃ row ∈ before.rows, row.Terminal ∧ row ∉ after.rows) ∧
    ∃ row ∈ after.rows, maxAttempts < row.attempts := by
  have executed : (((outboxSystem (Fin 2) cpuStdlib .statement).run (flatOutbox (Fin 2))
      collidingSteps).bind fun before =>
        (outboxStep cpuStdlib .statement before (.mark 1 (attemptAt 5) 0)).map fun after =>
          decide (after.sent = [(0, 60), (1, 60)] ∧ after.expired = [] ∧
            (∃ row ∈ before.rows, row.status = .published ∧ row ∉ after.rows) ∧
            ∃ row ∈ after.rows, maxAttempts < row.attempts)) = some true := by
    decide +kernel
  obtain ⟨before, ran, rest⟩ := Option.bind_eq_some_iff.mp executed
  obtain ⟨after, stepped, holds⟩ := Option.map_eq_some_iff.mp rest
  obtain ⟨sent, expired, ⟨row, member, published, changed⟩, exceeded⟩ := of_decide_eq_true holds
  refine ⟨before, after, Transition.System.run_reachable ran (fun _ _ _ => trivial), stepped, ?_,
    ⟨row, member, .inl published, changed⟩, exceeded⟩
  intro apart
  unfold OutboxState.PublishedApart at apart
  rw [sent, expired] at apart
  exact List.not_mem_nil (List.rel_of_pairwise_cons apart (List.mem_singleton_self _) rfl (by decide))

/-- The row of a later batch. -/
def laterRow : OutboxRow :=
  { flatRow with id := 61, batchId := 51 }

instance (state : OutboxState (Fin 2)) : DecidablePred (ClaimsApart .statement state)
  | .claim worker now scan => inferInstanceAs (Decidable (∀ row ∈ claimRows (fun _ => false) now scan,
      ∀ other, other ≠ worker → ∀ taken ∈ state.held other, taken.id ≠ row.id))
  | .ingest _ | .publish .. | .mark .. | .drop _ => .isTrue trivial

/-- A second worker publishes the row of a later batch while the row of the first one waits for its
second attempt. -/
theorem publishers_safe_apart : ∃ state : OutboxState (Fin 2), state.sent = [(1, 61), (0, 60)] ∧
    state.PublishedApart ∧
    (∀ later, (outboxSystem (Fin 2) cpuStdlib .statement).Reachable (ClaimsApart .statement) state later →
      ∀ row ∈ state.rows, row.Terminal → row ∈ later.rows) ∧
    ∀ row ∈ state.rows, row.attempts ≤ maxAttempts := by
  have executed : ((outboxSystem (Fin 2) cpuStdlib .statement).guardedRun (ClaimsApart .statement)
      (flatOutbox (Fin 2))
      [.claim 0 (attemptAt 0) [flatRow], .publish 0 false, .ingest laterRow, .mark 0 (attemptAt 0) 0,
        .claim 1 (attemptAt 0) [triedRow 1, laterRow], .publish 1 true, .mark 1 (attemptAt 0) 0,
        .claim 0 (attemptAt 1) [triedRow 1, markRow (attemptAt 0) 0 laterRow true laterRow],
        .publish 0 true, .mark 0 (attemptAt 1) 0]).any
        (fun state => decide (state.sent = [(1, 61), (0, 60)])) = true := by
    decide +kernel
  obtain ⟨state, reached, sent⟩ := Transition.System.guardedRun_reaches executed
  exact ⟨state, sent, publishers_safe cpuStdlib _ state (untouched_flatOutbox (Fin 2)) reached⟩

end CosMonitor
