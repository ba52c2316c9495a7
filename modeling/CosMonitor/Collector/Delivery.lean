/-
**What becomes of the entries of the stream.**

The consumer reads with `>`, which hands out only entries that were never delivered. An entry whose
persist failed stays on the pending list of the group, and so does every entry of a batch after one
that does not decode; nothing reads that list.

* `mem_batch`, `not_deliverable`: no cycle hands out a delivered entry again;
* `handleEntries_stored`: a batch whose entries decode and persist is stored;
* `delivered_kept`: in the runs without such a failure every delivered entry is stored;
* `entries_lost`: one failed persist, or one entry that does not decode, loses an entry for good.
-/

import CosMonitor.Collector.Consumer
import CosMonitor.Foundation.Result

namespace CosMonitor

/-! ### Batches -/

namespace BusState

variable {bus : BusState} {count position : Nat} {fields : EntryFields}

theorem mem_batch (member : (fields, position) ∈ bus.batch count) :
    bus.stream[position]? = some fields ∧ bus.delivered ≤ position := by
  unfold batch at member
  obtain ⟨low, high, at'⟩ := List.mem_zipIdx member
  refine ⟨?_, low⟩
  rw [List.getElem_take, List.getElem_drop] at at'
  have index : bus.delivered + (position - bus.delivered) = position := by omega
  simp only [index] at at'
  exact at' ▸ List.getElem?_eq_getElem _

theorem batch_covers (low : bus.delivered ≤ position)
    (high : position < bus.delivered + (bus.batch count).length) :
    ∃ fields, (fields, position) ∈ bus.batch count := by
  unfold batch at *
  rw [List.length_zipIdx] at high
  have inside : position - bus.delivered < ((bus.stream.drop bus.delivered).take count).length := by
    omega
  refine ⟨((bus.stream.drop bus.delivered).take count)[position - bus.delivered], ?_⟩
  refine List.mem_iff_getElem.mpr ⟨position - bus.delivered, by rwa [List.length_zipIdx], ?_⟩
  rw [List.getElem_zipIdx]
  exact Prod.ext rfl (by simp only []; omega)

end BusState

/-! ### Handling a batch -/

section Delivery

variable {env : ConsumerEnv} {state next later : ConsumerState} {position count : Nat}

/-- The entries that a consumer has seen and the rows that it has saved stay. -/
structure Grows (before after : ConsumerState) : Prop where
  stream : after.bus.stream = before.bus.stream
  delivered : after.bus.delivered = before.bus.delivered
  observations : ∀ row ∈ before.observations, row ∈ after.observations

theorem Grows.refl (state : ConsumerState) : Grows state state :=
  ⟨rfl, rfl, fun _ member => member⟩

theorem Grows.trans (first : Grows state next) (second : Grows next later) : Grows state later where
  stream := second.stream.trans first.stream
  delivered := second.delivered.trans first.delivered
  observations := fun row member => second.observations row (first.observations row member)

/-- The database accepts the observation. -/
def Observation.Storable (tenants : List Uuid) (observation : Observation) : Prop :=
  ∃ rows, saveObservation tenants observation [] = .ok rows

theorem saveObservation_adds {tenants : List Uuid} {observation : Observation}
    {rows after : List Observation} (saved : saveObservation tenants observation rows = .ok after) :
    ∃ row, row.key = observation.key ∧ row.tenantId = observation.tenantId ∧ after = rows ++ [row] := by
  obtain ⟨sourceType, -, saved⟩ := Result.bind_eq_ok.mp saved
  obtain ⟨factType, -, saved⟩ := Result.bind_eq_ok.mp saved
  obtain ⟨unit, -, saved⟩ := Result.bind_eq_ok.mp saved
  obtain ⟨_, -, saved⟩ := Result.bind_eq_ok.mp saved
  obtain ⟨_, -, saved⟩ := Result.bind_eq_ok.mp saved
  split at saved
  · cases saved
  split at saved
  · cases saved
  · cases saved
    exact ⟨{ observation with sourceType, factType, unit }, rfl, rfl, rfl⟩

theorem Observation.Storable.save {tenants : List Uuid} {observation : Observation}
    {rows : List Observation} (storable : observation.Storable tenants)
    (fresh : observationExists observation rows = false) :
    ∃ after, saveObservation tenants observation rows = .ok after := by
  obtain ⟨_, saved⟩ := storable
  obtain ⟨sourceType, isSource, saved⟩ := Result.bind_eq_ok.mp saved
  obtain ⟨factType, isFact, saved⟩ := Result.bind_eq_ok.mp saved
  obtain ⟨unit, isUnit, saved⟩ := Result.bind_eq_ok.mp saved
  obtain ⟨_, isValue, saved⟩ := Result.bind_eq_ok.mp saved
  obtain ⟨_, isPayload, saved⟩ := Result.bind_eq_ok.mp saved
  have known : observation.tenantId ∈ tenants := by
    by_contra unknown
    rw [if_neg (by simp [observationExists]), if_pos unknown] at saved
    cases saved
  refine ⟨rows ++ [{ observation with sourceType, factType, unit }], ?_⟩
  unfold saveObservation
  rw [isSource, isFact, isUnit, isValue, isPayload]
  show (if observationExists observation rows = true then _ else _) = _
  rw [if_neg (by rw [fresh]; exact Bool.false_ne_true), if_neg (not_not.mpr known)]
  rfl

/-- The observation of an entry is in the table. -/
def StoredEntry (env : ConsumerEnv) (state : ConsumerState) (position : Nat) : Prop :=
  ∃ fields observation, state.bus.stream[position]? = some fields ∧
    env.codec.decode fields = .ok observation ∧ ∃ row ∈ state.observations, row.key = observation.key

theorem persistObservation_keeps {observation : Observation} {fault : Option EntryFault}
    {rows after : List Observation} (persisted : persistObservation env observation fault rows = some after) :
    (∀ row ∈ rows, row ∈ after) ∧ ∃ row ∈ after, row.key = observation.key := by
  unfold persistObservation at persisted
  split at persisted
  · cases persisted
  split at persisted
  · rename_i found
    cases persisted
    obtain ⟨row, member, same⟩ := List.any_eq_true.mp found
    exact ⟨fun _ here => here, row, member, of_decide_eq_true same⟩
  · cases saved : saveObservation env.tenants observation rows with
    | error failure =>
        rw [saved] at persisted
        cases persisted
    | ok found =>
        rw [saved] at persisted
        cases persisted
        obtain ⟨row, same, _, rfl⟩ := saveObservation_adds saved
        exact ⟨fun _ => List.mem_append_left _, row, List.mem_append_right _ (List.mem_singleton_self _),
          same⟩

theorem handleEntry_grows (observation : Observation) (fault : Option EntryFault)
    (state : ConsumerState) : Grows state (handleEntry env position observation fault state) := by
  unfold handleEntry
  split
  · exact .refl state
  · rename_i rows persisted
    have kept := (persistObservation_keeps persisted).1
    split
    · exact ⟨rfl, rfl, kept⟩
    · exact ⟨rfl, rfl, kept⟩

theorem handleEntries_grows (env : ConsumerEnv) (entries : List (EntryFields × Nat)) (faults : List (Option EntryFault))
    (state : ConsumerState) : Grows state (handleEntries env entries faults state).2 := by
  induction entries generalizing faults state with
  | nil => exact .refl state
  | cons entry rest ih =>
      obtain ⟨fields, position⟩ := entry
      unfold handleEntries
      split
      · exact .refl state
      · exact (handleEntry_grows ..).trans (ih ..)

theorem organizePending_grows (env : ConsumerEnv) (now : Timestamp) (state : ConsumerState) :
    Grows state (organizePending env now state).2 := by
  unfold organizePending
  split
  · split
    · exact .refl state
    · split
      · exact ⟨rfl, rfl, fun _ member => member⟩
      · exact ⟨rfl, rfl, fun _ member => member⟩
  · exact .refl state

theorem handleEntry_stored {observation : Observation} {fault : Option EntryFault}
    (storable : observation.Storable env.tenants) (noFault : fault ≠ some .persist) :
    ∃ row ∈ (handleEntry env position observation fault state).observations,
      row.key = observation.key := by
  have persisted : ∃ rows, persistObservation env observation fault state.observations = some rows := by
    unfold persistObservation
    rw [if_neg noFault]
    by_cases found : observationExists observation state.observations = true
    · exact ⟨_, if_pos found⟩
    · obtain ⟨rows, saved⟩ := storable.save (eq_false_of_ne_true found)
      refine ⟨rows, ?_⟩
      rw [if_neg found, saved]
      rfl
  obtain ⟨rows, persisted⟩ := persisted
  unfold handleEntry
  rw [persisted]
  dsimp only
  split
  · exact (persistObservation_keeps persisted).2
  · exact (persistObservation_keeps persisted).2

/-- An entry decodes to an observation that the database accepts. -/
def Persistable (env : ConsumerEnv) (fields : EntryFields) : Prop :=
  ∃ observation, env.codec.decode fields = .ok observation ∧ observation.Storable env.tenants

/-- **A batch whose entries decode and persist is stored.** -/
theorem handleEntries_stored {entries : List (EntryFields × Nat)}
    {faults : List (Option EntryFault)} (persistable : ∀ entry ∈ entries, Persistable env entry.1)
    (noFault : ∀ fault ∈ faults.take entries.length, fault ≠ some .persist) :
    ∀ entry ∈ entries, ∃ observation, env.codec.decode entry.1 = .ok observation ∧
      ∃ row ∈ (handleEntries env entries faults state).2.observations, row.key = observation.key := by
  induction entries generalizing faults state with
  | nil =>
      rintro entry ⟨⟩
  | cons head rest ih =>
      obtain ⟨fields, position⟩ := head
      obtain ⟨observation, decoded, storable⟩ := persistable _ List.mem_cons_self
      have first : faults.head?.join ≠ some .persist := by
        cases faults with
        | nil => rintro ⟨⟩
        | cons fault others => exact noFault fault List.mem_cons_self
      have others : ∀ fault ∈ faults.tail.take rest.length, fault ≠ some .persist := by
        cases faults with
        | nil =>
            intro fault member
            rw [List.tail_nil, List.take_nil] at member
            cases member
        | cons fault others => exact fun later member => noFault later (List.mem_cons_of_mem _ member)
      unfold handleEntries
      rw [decoded]
      dsimp only
      intro entry member
      rcases List.mem_cons.mp member with rfl | isRest
      · have handled : ∃ row ∈ (handleEntry env position observation faults.head?.join
            state).observations, row.key = observation.key := handleEntry_stored storable first
        obtain ⟨row, stored, same⟩ := handled
        exact ⟨observation, decoded, row, (handleEntries_grows env rest _ _).observations row stored, same⟩
      · exact ih (fun other otherIn => persistable other (List.mem_cons_of_mem _ otherIn)) others entry
          isRest

/-! ### The runs -/

theorem StoredEntry.grows (stored : StoredEntry env state position) (stream : List EntryFields)
    (extends' : next.bus.stream = state.bus.stream ++ stream)
    (rows : ∀ row ∈ state.observations, row ∈ next.observations) : StoredEntry env next position := by
  obtain ⟨fields, observation, known, decoded, row, member, same⟩ := stored
  refine ⟨fields, observation, ?_, decoded, row, rows row member, same⟩
  obtain ⟨inside, -⟩ := List.getElem?_eq_some_iff.mp known
  rw [extends', List.getElem?_append_left inside]
  exact known

theorem processBatch_spec (env : ConsumerEnv) (count : Nat) (faults : List (Option EntryFault)) (now : Timestamp)
    (state : ConsumerState) :
    Grows { state with bus := state.bus.read count } (processBatch env count faults now state).2 ∧
      ∀ row ∈ (handleEntries env (state.bus.batch count) faults
        { state with bus := state.bus.read count }).2.observations,
          row ∈ (processBatch env count faults now state).2.observations := by
  have handled := handleEntries_grows env (state.bus.batch count) faults
    { state with bus := state.bus.read count }
  unfold processBatch
  split
  · rename_i failure next ran
    rw [ran] at handled
    exact ⟨handled, by rw [ran]; exact fun _ member => member⟩
  · rename_i next ran
    rw [ran] at handled
    have organized := organizePending_grows env now next
    exact ⟨handled.trans organized, by rw [ran]; exact organized.observations⟩

/-- An action in which no entry fails: those of a batch decode, the database accepts them and raises
nothing, and the collector does not end among them. -/
def Unfailing (env : ConsumerEnv) (state : ConsumerState) : CollectorAction → Prop
  | .publish _ => True
  | .cycle count faults _ =>
      (∀ entry ∈ state.bus.batch count, Persistable env entry.1) ∧
        ∀ fault ∈ faults.take (state.bus.batch count).length, fault ≠ some .persist
  | .crash count handled faults =>
      (∀ entry ∈ state.bus.batch count, Persistable env entry.1) ∧
        (∀ fault ∈ faults.take (state.bus.batch count).length, fault ≠ some .persist) ∧
        (state.bus.batch count).length ≤ handled

/-- An action without a failure of any kind. -/
def FaultFree (_ : ConsumerState) : CollectorAction → Prop
  | .publish _ => True
  | .cycle _ faults _ => ∀ fault ∈ faults, fault = none
  | .crash count _ _ => count = 0

/-- A later cycle, after a run without failures, hands out the entry. -/
def Deliverable (env : ConsumerEnv) (state : ConsumerState) (position : Nat) : Prop :=
  ∃ later count fields, (collectorSystem env).Reachable FaultFree state later ∧
    (fields, position) ∈ later.bus.batch count

/-- Every delivered entry is stored, or will be delivered again. -/
def DeliveryKept (env : ConsumerEnv) (state : ConsumerState) : Prop :=
  ∀ position < state.bus.delivered, StoredEntry env state position ∨ Deliverable env state position

theorem collectorStep_delivered (action : CollectorAction) :
    state.bus.delivered ≤ (collectorStep env state action).bus.delivered := by
  cases action with
  | publish fields => exact le_refl _
  | cycle count faults now =>
      have moved := (processBatch_spec env count faults now state).1.delivered
      show _ ≤ (processBatch env count faults now state).2.bus.delivered
      rw [moved]
      exact Nat.le_add_right _ _
  | crash count handled faults =>
      have moved := (handleEntries_grows env ((state.bus.batch count).take handled) faults
        { state with bus := state.bus.read count }).delivered
      show _ ≤ (handleEntries env _ faults _).2.bus.delivered
      rw [moved]
      exact Nat.le_add_right _ _

theorem reachable_delivered {guard : ConsumerState → CollectorAction → Prop}
    (reached : (collectorSystem env).Reachable guard state later) :
    state.bus.delivered ≤ later.bus.delivered := by
  induction reached with
  | refl => exact Nat.le_refl _
  | tail _ moved ih =>
      obtain ⟨action, -, stepped⟩ := moved
      rw [← Option.some.inj stepped]
      exact ih.trans (collectorStep_delivered action)

/-- **A delivered entry is never delivered again**, whatever happens. -/
theorem not_deliverable (delivered : position < state.bus.delivered) :
    ¬Deliverable env state position := by
  rintro ⟨later, count, fields, reached, member⟩
  have moved := reachable_delivered reached
  have fresh := (BusState.mem_batch member).2
  omega

/-- Every delivered entry is stored. -/
def DeliveredStored (env : ConsumerEnv) (state : ConsumerState) : Prop :=
  ∀ position < state.bus.delivered, StoredEntry env state position

theorem deliveryKept_iff : DeliveryKept env state ↔ DeliveredStored env state :=
  forall₂_congr fun _ delivered => or_iff_left (not_deliverable delivered)

theorem stored_batch {faults : List (Option EntryFault)}
    (stored : DeliveredStored env state)
    (persistable : ∀ entry ∈ state.bus.batch count, Persistable env entry.1)
    (noFault : ∀ fault ∈ faults.take (state.bus.batch count).length, fault ≠ some .persist)
    (grows : Grows { state with bus := state.bus.read count } next)
    (rows : ∀ row ∈ (handleEntries env (state.bus.batch count) faults
      { state with bus := state.bus.read count }).2.observations, row ∈ next.observations) :
    DeliveredStored env next := by
  intro position delivered
  by_cases before : position < state.bus.delivered
  · exact (stored position before).grows [] (by rw [List.append_nil]; exact grows.stream)
      grows.observations
  · rw [grows.delivered] at delivered
    obtain ⟨fields, member⟩ := BusState.batch_covers (not_lt.mp before) delivered
    obtain ⟨observation, decoded, row, inRows, same⟩ :=
      handleEntries_stored persistable noFault (fields, position) member
    refine ⟨fields, observation, ?_, decoded, row, rows row inRows, same⟩
    rw [grows.stream]
    exact (BusState.mem_batch member).1

/-- **An action without a failed entry stores what it delivers.** -/
theorem collectorStep_stored {action : CollectorAction}
    (stored : DeliveredStored env state)
    (unfailing : Unfailing env state action) : DeliveredStored env (collectorStep env state action) := by
  cases action with
  | publish fields =>
      exact fun position delivered => (stored position delivered).grows [fields] rfl fun _ member => member
  | cycle count faults now =>
      obtain ⟨persistable, noFault⟩ := unfailing
      obtain ⟨grows, rows⟩ := processBatch_spec env count faults now state
      exact stored_batch stored persistable noFault grows rows
  | crash count handled faults =>
      obtain ⟨persistable, noFault, all⟩ := unfailing
      have whole : (state.bus.batch count).take handled = state.bus.batch count :=
        List.take_of_length_le all
      have grows := handleEntries_grows env (state.bus.batch count) faults
        { state with bus := state.bus.read count }
      show DeliveredStored env
        { (handleEntries env ((state.bus.batch count).take handled) faults _).2 with window := [] }
      rw [whole]
      refine stored_batch stored persistable noFault ⟨?_, ?_, ?_⟩ fun _ member => member
      · exact grows.stream
      · exact grows.delivered
      · exact grows.observations

/-- **Every delivered entry is stored or delivered again**, in every run from the creation of the group
in which no entry fails. -/
theorem delivered_kept (env : ConsumerEnv) (initial state : ConsumerState)
    (created : initial.bus.delivered = 0)
    (reached : (collectorSystem env).Reachable (Unfailing env) initial state) :
    DeliveryKept env state := by
  rw [deliveryKept_iff]
  refine reached.invariant ?_ fun before action after stored unfailing stepped => ?_
  · unfold DeliveredStored
    rw [created]
    exact fun position impossible => absurd impossible (Nat.not_lt_zero _)
  · rw [← Option.some.inj stepped]
    exact collectorStep_stored stored unfailing

end Delivery

/-! ### Lost entries -/

/-- An observation without a measurement. -/
def plainObservation : Observation where
  id := 70
  tenantId := 1
  sourceId := 12
  sourceType := "linux_agent"
  factType := "cpu_utilization_percent"
  factValue := []
  unit := "percent"
  capturedAt := .utc 0
  qualityClass := .q1
  rawPayload := []

/-- The entry of `plainObservation`. -/
def plainFields : EntryFields :=
  [("id", uuidText 70), ("tenant_id", uuidText 1), ("source_id", uuidText 12),
    ("source_type", "linux_agent"), ("fact_type", "cpu_utilization_percent"), ("fact_value", "\x7b\x7d"),
    ("unit", "percent"), ("captured_at", "1970-01-01T00:00:00Z"), ("quality_class", "Q1"),
    ("raw_payload", "\x7b\x7d")]

/-- An entry whose value is no JSON. -/
def brokenFields : EntryFields :=
  [("fact_value", "nonsense"), ("raw_payload", "\x7b\x7d")]

/-- The entry of an observation that is one second later. -/
def laterFields : EntryFields :=
  plainFields.map fun (key, text) => (key, if key = "captured_at" then "1970-01-01T00:00:01Z" else text)

/-- A collector of the first tenant, with the decoder on the three entries. -/
def plainEnv : ConsumerEnv where
  std := .constant
  codec := {
    loads := fun text => if text = "\x7b\x7d" then .ok (.obj []) else .error (.valueError "Expecting value")
    validate := fun fields _ _ => .ok (if fields = laterFields
      then { plainObservation with capturedAt := .utc second } else plainObservation) }
  tenants := [1]
  organizer := { retention := 0, organize := fun _ => .ok [] }
  evidenceStore := false

/-- A new group, on an empty stream. -/
def newGroup : ConsumerState where
  bus := { stream := [], delivered := 0, pending := [] }
  observations := []
  evidence := []
  window := []

/-- **One failure loses an entry.** When the database raises, the entry that it was for is lost; when an
entry does not decode, the one after it is, though it decodes and nothing is raised for it. Both stay on
the pending list, which no cycle reads. -/
theorem entries_lost :
    (∃ state, (collectorSystem plainEnv).Reachable (fun _ _ => True) newGroup state ∧
      0 ∈ state.bus.pending ∧ ¬DeliveryKept plainEnv state) ∧
    ∃ state, (collectorSystem plainEnv).Reachable (fun _ _ => True) newGroup state ∧
      1 ∈ state.bus.pending ∧ Persistable plainEnv plainFields ∧ ¬DeliveryKept plainEnv state := by
  constructor
  · have executed : ((collectorSystem plainEnv).run newGroup
        [.publish plainFields, .cycle 100 [some .persist] 0]).map (fun state =>
          (state.bus.pending, state.bus.delivered, state.observations)) = some ([0], 1, []) := by
      decide +kernel
    obtain ⟨state, ran, reached⟩ := Option.map_eq_some_iff.mp executed
    obtain ⟨pending, delivered, none⟩ : state.bus.pending = [0] ∧ state.bus.delivered = 1 ∧
        state.observations = [] := by simpa using reached
    refine ⟨state, Transition.System.run_reachable ran fun _ _ _ => trivial, by simp [pending], ?_⟩
    rw [deliveryKept_iff]
    intro stored
    obtain ⟨fields, observation, -, -, row, member, -⟩ := stored 0 (by rw [delivered]; exact Nat.one_pos)
    rw [none] at member
    cases member
  · have executed : ((collectorSystem plainEnv).run newGroup
        [.publish brokenFields, .publish plainFields, .cycle 100 [] 0]).map (fun state =>
          (state.bus.pending, state.bus.delivered, state.observations)) = some ([0, 1], 2, []) := by
      decide +kernel
    obtain ⟨state, ran, reached⟩ := Option.map_eq_some_iff.mp executed
    obtain ⟨pending, delivered, none⟩ : state.bus.pending = [0, 1] ∧ state.bus.delivered = 2 ∧
        state.observations = [] := by simpa using reached
    refine ⟨state, Transition.System.run_reachable ran fun _ _ _ => trivial, by simp [pending],
      ⟨plainObservation, rfl, _, rfl⟩, ?_⟩
    rw [deliveryKept_iff]
    intro stored
    obtain ⟨fields, observation, -, -, row, member, -⟩ := stored 1 (by rw [delivered]; exact Nat.one_lt_two)
    rw [none] at member
    cases member

/-- A batch of two entries, the first of which is not acknowledged: both are stored. -/
theorem delivered_kept_plain : ∃ state, state.bus.delivered = 2 ∧ state.bus.pending = [0] ∧
    state.observations.length = 2 ∧ DeliveryKept plainEnv state := by
  have reached : (collectorSystem plainEnv).Reachable (Unfailing plainEnv) newGroup
      { newGroup with bus := ⟨[plainFields, laterFields], 0, []⟩ } :=
    (Relation.ReflTransGen.single ⟨.publish plainFields, trivial, rfl⟩).tail
      ⟨.publish laterFields, trivial, rfl⟩
  have unfailing : Unfailing plainEnv { newGroup with bus := ⟨[plainFields, laterFields], 0, []⟩ }
      (.cycle 100 [some .acknowledge] 0) := by
    refine ⟨?_, by decide⟩
    intro entry member
    rcases List.mem_pair.mp member with rfl | rfl
    · exact ⟨_, rfl, _, rfl⟩
    · exact ⟨_, rfl, _, rfl⟩
  exact ⟨_, by decide +kernel, by decide +kernel, by decide +kernel,
    delivered_kept plainEnv newGroup _ rfl (reached.tail unfailing rfl)⟩

end CosMonitor
