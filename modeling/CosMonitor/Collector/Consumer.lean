/-
**The observation consumer — from the stream of the bus to the tables.**

`XREADGROUP … >` hands each entry of the stream to the group once: it moves the cursor of the group and
puts the entries on its pending list, from which an acknowledgement takes them. The consumer persists
the entries of a batch, buffers the persisted observations and organizes them into evidence.

* `ConsumerState.persist`, `handleEntry`, `handleEntries`, `organizePending`: `_persist`, the body of
  the loop of `process_batch`, the loop and `_organize`;
* `processBatch`: one cycle;
* `collectorStep`: publications, cycles, and the restart of a collector in or between its cycles.
-/

import CosMonitor.Foundation.Transition
import CosMonitor.Perception.Evidence

namespace CosMonitor

open Table (insertAbsent)

/-! ### The bus -/

/-- The fields of an entry of the stream. -/
abbrev EntryFields := List (String × String)

/-- What decodes an entry: `json.loads`, and the validation of `Observation(**data)`. -/
structure EntryCodec where
  loads : String → Except PyError Json
  validate : EntryFields → Json → Json → Except PyError Observation

/-- `data[key] = json.loads(data[key])`. -/
def EntryCodec.field (codec : EntryCodec) (fields : EntryFields) (key : String) :
    Except PyError Json :=
  match fields.lookup key with
  | some text => codec.loads text
  | none => .error (.keyError key)

/-- Decode an entry. -/
def EntryCodec.decode (codec : EntryCodec) (fields : EntryFields) : Except PyError Observation := do
  let factValue ← codec.field fields "fact_value"
  let rawPayload ← codec.field fields "raw_payload"
  codec.validate fields factValue rawPayload

/-- The stream with its consumer group: `delivered` entries have been handed out, and those at the
positions `pending` are not acknowledged. -/
structure BusState where
  stream : List EntryFields
  delivered : Nat
  pending : List Nat

namespace BusState

/-- `XADD`. -/
def publish (bus : BusState) (fields : EntryFields) : BusState :=
  { bus with stream := bus.stream ++ [fields] }

/-- The entries that the next read hands out, with their positions. -/
def batch (bus : BusState) (count : Nat) : List (EntryFields × Nat) :=
  ((bus.stream.drop bus.delivered).take count).zipIdx bus.delivered

/-- `XREADGROUP group consumer STREAMS key >`. -/
def read (bus : BusState) (count : Nat) : BusState :=
  { bus with
    delivered := bus.delivered + (bus.batch count).length
    pending := bus.pending ++ (bus.batch count).map Prod.snd }

/-- `XACK`. -/
def ack (bus : BusState) (position : Nat) : BusState :=
  { bus with pending := bus.pending.filter fun other => decide (other ≠ position) }

end BusState

/-! ### The tables -/

/-- The primary key of an observation. -/
def Observation.key (observation : Observation) : Uuid × Timestamp :=
  (observation.id, observation.capturedAt.instant)

/-- `observation_exists`. -/
def observationExists (observation : Observation) (rows : List Observation) : Bool :=
  rows.any fun row => decide (row.key = observation.key)

/-- `save_observation`. -/
def saveObservation (tenants : List Uuid) (observation : Observation) (rows : List Observation) :
    Except DbError (List Observation) := do
  let sourceType ← varchar 50 observation.sourceType
  let factType ← varchar 100 observation.factType
  let unit ← varchar 20 observation.unit
  let _ ← jsonb (.obj observation.factValue)
  let _ ← jsonb (.obj observation.rawPayload)
  if observationExists observation rows then throw (.uniqueViolation "observations_pkey")
  else if observation.tenantId ∉ tenants then throw (.foreignKeyViolation "tenant_id")
  else return rows ++ [{ observation with sourceType, factType, unit }]

/-! ### The consumer -/

/-- An organizer engine: the longest of its windows, and `organize`. -/
structure Organizer where
  retention : Timestamp
  organize : List Observation → Except PyError (List EvidenceCreate)

/-- What a consumer was built with. -/
structure ConsumerEnv where
  std : Stdlib
  codec : EntryCodec
  tenants : List Uuid
  organizer : Organizer
  evidenceStore : Bool

/-- The bus, the tables and the observations that the consumer has buffered. -/
structure ConsumerState where
  bus : BusState
  observations : List Observation
  evidence : List Evidence
  window : List Observation

/-- What is raised outside the code while an entry is handled. -/
inductive EntryFault where
  /-- the database, before an observation is saved -/
  | persist
  /-- the bus, or the database once the observation is saved -/
  | acknowledge
  deriving DecidableEq

/-- `a < b` on datetimes; a naive and an aware one do not compare. -/
def PyDatetime.lt (first second : PyDatetime) : Except PyError Bool :=
  if first.offset.isSome = second.offset.isSome then .ok (decide (first.instant < second.instant))
  else .error .typeError

/-- `max` of the instants of capture. -/
def latestCapture (first : PyDatetime) : List Observation → Except PyError PyDatetime
  | [] => .ok first
  | observation :: rest =>
      match first.lt observation.capturedAt with
      | .error failure => .error failure
      | .ok later => latestCapture (if later then observation.capturedAt else first) rest

/-- `_prune_pending`: what is inside the retention of the newest observation. -/
def prunePending (retention : Timestamp) (window : List Observation) :
    Except PyError (List Observation) :=
  match window with
  | [] => .ok []
  | first :: rest =>
      (latestCapture first.capturedAt rest).map fun latest =>
        window.filter fun observation =>
          decide (latest.instant - retention ≤ observation.capturedAt.instant)

/-- `INSERT_EVIDENCE`: a row whose id is stored is left out. -/
def insertEvidence (tenants : List Uuid) (evidence : Evidence) (rows : List Evidence) :
    Except DbError (List Evidence) :=
  if hasNul (.str evidence.description) then .error .nulCharacter
  else
    match saveEvidence evidence rows with
    | (none, _) => .ok rows
    | (some _, saved) =>
        if evidence.tenantId ∈ tenants then .ok saved else .error (.foreignKeyViolation "tenant_id")

/-- Save the evidence of the creations, one after the other; an exception ends the loop. -/
def saveCreations (std : Stdlib) (tenants : List Uuid) (now : Timestamp) :
    List EvidenceCreate → List Evidence → List Evidence
  | [], rows => rows
  | create :: rest, rows =>
      match insertEvidence tenants (buildEvidence std now create) rows with
      | .error _ => rows
      | .ok saved => saveCreations std tenants now rest saved

section Consumer

variable (env : ConsumerEnv)

/-- `_persist`. -/
def persistObservation (observation : Observation) (fault : Option EntryFault)
    (rows : List Observation) : Option (List Observation) :=
  if fault = some .persist then none
  else if observationExists observation rows then some rows
  else (saveObservation env.tenants observation rows).toOption

/-- The body of the loop of `process_batch`: an entry that is not persisted is counted as an error and
left as it is. -/
def handleEntry (position : Nat) (observation : Observation) (fault : Option EntryFault)
    (state : ConsumerState) : ConsumerState :=
  match persistObservation env observation fault state.observations with
  | none => state
  | some observations =>
      if fault = some .acknowledge then { state with observations }
      else { state with
        observations
        bus := state.bus.ack position
        window := state.window ++ [observation] }

/-- The loop of `process_batch`. The bus decodes an entry before the loop sees it, so one that does not
decode ends the loop. -/
def handleEntries : List (EntryFields × Nat) → List (Option EntryFault) → ConsumerState →
    Except PyError Unit × ConsumerState
  | [], _, state => (.ok (), state)
  | (fields, position) :: rest, faults, state =>
      match env.codec.decode fields with
      | .error failure => (.error failure, state)
      | .ok observation =>
          handleEntries rest faults.tail (handleEntry env position observation faults.head?.join state)

/-- `_organize`: an exception of the pruning reaches the caller, one of the rules does not. -/
def organizePending (now : Timestamp) (state : ConsumerState) : Except PyError Unit × ConsumerState :=
  if env.evidenceStore then
    match prunePending env.organizer.retention state.window with
    | .error failure => (.error failure, state)
    | .ok window =>
        match env.organizer.organize window with
        | .error _ => (.ok (), { state with window })
        | .ok creations => (.ok (), { state with
            window
            evidence := saveCreations env.std env.tenants now creations state.evidence })
  else (.ok (), state)

/-- `process_batch`. -/
def processBatch (count : Nat) (faults : List (Option EntryFault)) (now : Timestamp)
    (state : ConsumerState) : Except PyError Unit × ConsumerState :=
  match handleEntries env (state.bus.batch count) faults
    { state with bus := state.bus.read count } with
  | (.error failure, next) => (.error failure, next)
  | (.ok (), next) => organizePending env now next

/-- What happens to a collector. A cycle that raises is logged, and the next one follows. -/
inductive CollectorAction where
  | publish (fields : EntryFields)
  | cycle (count : Nat) (faults : List (Option EntryFault)) (now : Timestamp)
  /-- the process ends after some entries of a batch, and another one starts -/
  | crash (count handled : Nat) (faults : List (Option EntryFault))

/-- One action. -/
def collectorStep (state : ConsumerState) : CollectorAction → ConsumerState
  | .publish fields => { state with bus := state.bus.publish fields }
  | .cycle count faults now => (processBatch env count faults now state).2
  | .crash count handled faults =>
      { (handleEntries env ((state.bus.batch count).take handled) faults
          { state with bus := state.bus.read count }).2 with window := [] }

/-- The collector as a transition system. -/
def collectorSystem : Transition.System ConsumerState CollectorAction where
  step state action := some (collectorStep env state action)

end Consumer

end CosMonitor
