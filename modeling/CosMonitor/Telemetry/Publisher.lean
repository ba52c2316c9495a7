/-
**The observation publisher — from the outbox to the bus.**

`publishOne` decodes the stored observation of an outbox row, publishes it and moves the row to
`published`; anything that raises moves it to `failed`, and to `dead_letter` at the fifth attempt.

* `decodeObservation_envelope`: the envelope that an ingest stores does not decode;
* `publishOne_envelope`: publishing such a row sends nothing, on any bus;
* `attempts_envelope`: after five attempts the row is a dead letter;
* `ingested_never_published`: no row that an ingest inserts is ever published.
-/

import CosMonitor.Perception.Observation
import CosMonitor.Telemetry.Ingest

namespace CosMonitor

open Result

/-! ### Decoding -/

section Decode

variable (std : Stdlib)

/-- `uuid.UUID(stored[key])`. -/
def uuidItem (stored : Json) (key : String) : Except PyError Uuid := do
  match ← stored.item key with
  | .str text =>
      match parseUuid text with
      | some id => return id
      | none => throw (.valueError "badly formed hexadecimal UUID string")
  | _ => throw (.attributeError "replace")

/-- `datetime.fromisoformat(stored[key])`. -/
def datetimeItem (stored : Json) (key : String) : Except PyError PyDatetime := do
  match ← stored.item key with
  | .str text =>
      match std.fromisoformat text with
      | some instant => return instant
      | none => throw (.valueError "Invalid isoformat string")
  | _ => throw .typeError

/-- A text field of the model. -/
def textField : Json → Except PyError String
  | .str text => .ok text
  | _ => .error (.valueError "Input should be a valid string")

/-- An object field of the model. -/
def dictField : Json → Except PyError (List (String × Json))
  | .obj fields => .ok fields
  | _ => .error (.valueError "Input should be a valid dictionary")

/-- The quality class of the model. -/
def qualityField (value : Json) : Except PyError QualityClass := do
  let text ← textField value
  match QualityClass.ofName text with
  | some quality => return quality
  | none => throw (.valueError "Input should be 'Q1', 'Q2', 'Q3' or 'Q4'")

/-- The observation that `_publish_one` builds from the stored value. -/
def decodeObservation (stored : Json) : Except PyError Observation := do
  let id ← uuidItem stored "id"
  let tenantId ← uuidItem stored "tenant_id"
  let sourceId ← uuidItem stored "source_id"
  let factType ← stored.item "fact_type"
  let capturedAt ← datetimeItem std stored "captured_at"
  return {
    id
    tenantId
    sourceId
    sourceType := ← textField ((stored.lookup "source_type").getD (.str "unknown"))
    factType := ← textField factType
    factValue := ← dictField ((stored.lookup "fact_value").getD (.obj []))
    unit := ← textField ((stored.lookup "unit").getD (.str ""))
    capturedAt
    qualityClass := ← qualityField ((stored.lookup "quality_class").getD (.str "Q3"))
    rawPayload := ← dictField ((stored.lookup "raw_payload").getD (.obj [])) }

end Decode

/-! ### Publishing one row -/

/-- `MAX_ATTEMPTS`. -/
def maxAttempts : Nat := 5

/-- The delay of `_next_attempt_at`, in seconds, without its jitter. -/
def backoffSeconds (attempts : Nat) : Nat :=
  min (2 * 2 ^ (attempts - 1)) 60

section Publish

variable {Stream : Type} (std : Stdlib) (publish : Observation → Stream → Except PyError Stream)

/-- The row after a failed attempt; `jitter` is the random part of the delay. -/
def failedAttempt (now jitter : Timestamp) (row : OutboxRow) : OutboxRow :=
  if maxAttempts ≤ row.attempts + 1 then
    { row with
      status := .deadLetter
      attempts := row.attempts + 1
      lastError := some "max attempts exceeded"
      nextAttemptAt := now }
  else
    { row with
      status := .failed
      attempts := row.attempts + 1
      lastError := some "publish failed"
      nextAttemptAt := now + backoffSeconds (row.attempts + 1) * second + jitter }

/-- `_publish_one`: whether it succeeded, the row it leaves and the stream of the bus. -/
def publishOne (now jitter : Timestamp) (row : OutboxRow) (stream : Stream) :
    Bool × OutboxRow × Stream :=
  match (decodeObservation std row.observation).bind fun observation => publish observation stream with
  | .ok published =>
      (true, { row with
        status := .published
        publishedAt := some now
        attempts := row.attempts + 1 }, published)
  | .error _ => (false, failedAttempt now jitter row, stream)

/-- The row after a series of attempts, each with its clock and jitter. -/
def publishAttempts (row : OutboxRow) (stream : Stream) :
    List (Timestamp × Timestamp) → OutboxRow × Stream
  | [] => (row, stream)
  | (now, jitter) :: rest =>
      let (_, next, after) := publishOne std publish now jitter row stream
      publishAttempts next after rest

end Publish

/-! ### The envelope of a batch -/

section Envelope

variable {Stream : Type} {std : Stdlib} {publish : Observation → Stream → Except PyError Stream}

/-- **An envelope does not decode**: it has no `id` of its own. -/
theorem decodeObservation_envelope (batchId : Uuid) (ids : List Uuid) (observations : List Json) :
    decodeObservation std (envelope batchId ids observations) = .error (.keyError "id") := by
  rfl

/-- **Publishing an envelope sends nothing**, whatever the bus does. -/
theorem publishOne_envelope {now jitter : Timestamp} {row : OutboxRow} {stream : Stream}
    {batchId : Uuid} {ids : List Uuid} {observations : List Json}
    (stored : row.observation = envelope batchId ids observations) :
    publishOne std publish now jitter row stream = (false, failedAttempt now jitter row, stream) := by
  unfold publishOne
  rw [stored, decodeObservation_envelope]
  rfl

@[simp] theorem failedAttempt_observation (now jitter : Timestamp) (row : OutboxRow) :
    (failedAttempt now jitter row).observation = row.observation := by
  unfold failedAttempt
  split <;> rfl

@[simp] theorem failedAttempt_attempts (now jitter : Timestamp) (row : OutboxRow) :
    (failedAttempt now jitter row).attempts = row.attempts + 1 := by
  unfold failedAttempt
  split <;> rfl

theorem failedAttempt_status (now jitter : Timestamp) (row : OutboxRow) :
    (failedAttempt now jitter row).status =
      if maxAttempts ≤ row.attempts + 1 then .deadLetter else .failed := by
  unfold failedAttempt
  split <;> rfl

/-- **The row of an envelope after any series of attempts**: nothing sent, and a dead letter once the
attempts reach the limit. -/
theorem attempts_envelope {row : OutboxRow} {stream : Stream} {batchId : Uuid} {ids : List Uuid}
    {observations : List Json} (attempts : List (Timestamp × Timestamp))
    (stored : row.observation = envelope batchId ids observations) (tried : attempts ≠ []) :
    (publishAttempts std publish row stream attempts).2 = stream ∧
      (publishAttempts std publish row stream attempts).1.status =
        if maxAttempts ≤ row.attempts + attempts.length then .deadLetter else .failed := by
  induction attempts generalizing row with
  | nil => exact absurd rfl tried
  | cons attempt rest ih =>
      obtain ⟨now, jitter⟩ := attempt
      rw [publishAttempts, publishOne_envelope stored]
      dsimp only
      cases rest with
      | nil => exact ⟨rfl, failedAttempt_status now jitter row⟩
      | cons next later =>
          have after := @ih (failedAttempt now jitter row)
            (by rw [failedAttempt_observation, stored]) (by simp)
          rw [failedAttempt_attempts] at after
          have count : row.attempts + 1 + (next :: later).length =
              row.attempts + ((now, jitter) :: next :: later).length := by
            simp only [List.length_cons]
            omega
          rw [count] at after
          exact after

end Envelope

/-! ### Ingest and publish -/

section Agreement

/-- A bus whose publish always succeeds: the stream of what was sent. -/
def acceptingBus (observation : Observation) (stream : List Observation) :
    Except PyError (List Observation) :=
  .ok (stream ++ [observation])

/-- Publishing a row sends the observations of an answer, each once, and marks the row published. -/
def DeliversBatch (std : Stdlib) (now jitter : Timestamp) (row : OutboxRow)
    (result : IngestResult) : Prop :=
  ∃ published sent, publishOne std acceptingBus now jitter row [] = (true, published, sent) ∧
    published.status = .published ∧ sent.map Observation.id = result.observationIds

/-- **No row that an ingest inserts is ever published.** On a bus that never fails, one attempt does
not deliver the batch, any series of attempts sends nothing, and five attempts make the row a dead
letter. -/
theorem ingested_never_published (runtime : BodyRuntime) (source : IngestSource) (body : Loaded)
    (clock : Timestamp) (outboxId : Uuid) (db after : TelemetryDb) (result : IngestResult)
    (accepted : ingestBatch runtime source body clock outboxId db = .ok (result, after))
    (row : OutboxRow) (inserted : row ∈ after.outbox) (new : row ∉ db.outbox) :
    (∀ now jitter, ¬DeliversBatch runtime.std now jitter row result) ∧
      ∀ attempts, attempts ≠ [] →
        (publishAttempts runtime.std acceptingBus row [] attempts).2 = [] ∧
          (publishAttempts runtime.std acceptingBus row [] attempts).1.status =
            if maxAttempts ≤ attempts.length then .deadLetter else .failed := by
  rcases ingestBatch_cases accepted with rfl | ⟨written, observations, outbox, stored, -, fresh⟩
  · exact absurd inserted new
  · rw [outbox] at inserted
    have isWritten : row = written := by
      rcases List.mem_append.mp inserted with old | added
      · exact absurd old new
      · exact List.mem_singleton.mp added
    subst isWritten
    constructor
    · rintro now jitter ⟨published, sent, ran, -, -⟩
      rw [publishOne_envelope stored] at ran
      cases ran
    · intro attempts tried
      obtain ⟨silent, final⟩ : (publishAttempts runtime.std acceptingBus row [] attempts).2 = [] ∧ _ :=
        attempts_envelope attempts stored tried
      rw [fresh, Nat.zero_add] at final
      exact ⟨silent, final⟩

/-- A sample in a unit. -/
def cpuSample (unit : String) : Loaded :=
  .obj
    [(pyText "sequence", .int 1), (pyText "fact_type", .str (pyText "cpu_utilization")),
      (pyText "fact_value", .obj [(pyText "value", .int 95)]), (pyText "unit", .str (pyText unit))]

/-- A batch with one sample. -/
def cpuBody (batchId : Uuid) (sample : Loaded) : Loaded :=
  .obj
    [(pyText "batch_id", .str (pyText (uuidText batchId))),
      (pyText "captured_at", .str (pyText "2026-01-01T00:00:00+00:00")),
      (pyText "samples", .arr [sample])]

/-- The batch 50. -/
def cpuBatch : Loaded :=
  cpuBody 50 (cpuSample "percent")

/-- The values of the standard library on `cpuBatch`, sent by `cpuSource`. -/
def cpuStdlib : Stdlib where
  floatRepr := fun _ => "0.0"
  strOther := fun _ => ""
  sha256Hex := fun _ => "a99c010a73216103250c3960e184e033a10cbe47ca79584528e3792c0c1e991d"
  uuid5 := fun _ _ => 0x698478ebd66951cb8a5081c912537220
  uuid5Bytes := some fun _ _ => 0
  packDouble := fun _ => []
  fromisoformat := fun _ => some (.utc 1767225600000000)
  isoformat := fun _ => "2026-01-01T00:00:00+00:00"

/-- An interpreter with this library. -/
def cpuRuntime : BodyRuntime where
  std := cpuStdlib
  strOther := fun _ => []
  fromisoformat := fun _ => some (.utc 1767225600000000)
  strOverflows := fun _ => false
  serializeOverflows := fun _ _ => false

/-- An instance of installation 10 of tenant 1. -/
def cpuSource : IngestSource where
  tenantId := 1
  installationId := 10
  instanceId := 40
  credentialId := 20

/-- The active installation 10, with nothing ingested. -/
def cpuDb : TelemetryDb where
  installations :=
    [{ id := 10
       tenantId := 1
       serverId := 12
       hostFingerprint := "fingerprint"
       agentType := "linux_agent"
       capabilities := .obj []
       status := .active
       lastSeenAt := none }]
  batches := []
  samples := []
  outbox := []

/-- The outbox row of `cpuBatch`. -/
def cpuRow : OutboxRow where
  id := 60
  tenantId := 1
  installationId := 10
  batchId := 50
  credentialId := 20
  payloadHash := "a99c010a73216103250c3960e184e033a10cbe47ca79584528e3792c0c1e991d"
  observation := envelope 50 [0x698478ebd66951cb8a5081c912537220]
    [.obj
      [("id", .str "698478eb-d669-51cb-8a50-81c912537220"),
        ("tenant_id", .str "00000000-0000-0000-0000-000000000001"),
        ("source_id", .str "00000000-0000-0000-0000-00000000000c"),
        ("source_type", .str "linux_agent"),
        ("fact_type", .str "cpu_utilization"),
        ("fact_value", .obj [("value", .int 95)]),
        ("unit", .str "percent"),
        ("captured_at", .str "2026-01-01T00:00:00+00:00"),
        ("quality_class", .str "Q3"),
        ("raw_payload", .obj [("sequence", .int 1), ("fact_type", .str "cpu_utilization"),
          ("fact_value", .obj [("value", .int 95)]), ("unit", .str "percent")])]]
  status := .pending
  attempts := 0
  nextAttemptAt := 1767225600000000
  lastError := none
  publishedAt := none
  createdAt := 1767225600000000

theorem cpuBatch_accepted :
    ∃ result after, ingestBatch cpuRuntime cpuSource cpuBatch 1767225600000000 60 cpuDb =
      .ok (result, after) ∧ after.outbox = [cpuRow] := by
  have outbox : (ingestBatch cpuRuntime cpuSource cpuBatch 1767225600000000 60 cpuDb).toOption.map
      (fun answer => answer.2.outbox) = some [cpuRow] := by decide +kernel
  cases ran : ingestBatch cpuRuntime cpuSource cpuBatch 1767225600000000 60 cpuDb with
  | error failure =>
      rw [ran] at outbox
      cases outbox
  | ok answer =>
      rw [ran] at outbox
      exact ⟨answer.1, answer.2, rfl, Option.some.inj outbox⟩

/-- The accepted batch is not delivered: an attempt leaves its row failed with nothing on the bus,
five attempts leave it a dead letter. -/
theorem accepted_batch_dead_letter :
    (∃ result after, ingestBatch cpuRuntime cpuSource cpuBatch 1767225600000000 60 cpuDb =
        .ok (result, after) ∧ after.outbox = [cpuRow] ∧
      ¬DeliversBatch cpuStdlib 1767225600000000 0 cpuRow result) ∧
    publishOne cpuStdlib acceptingBus 1767225600000000 0 cpuRow [] =
      (false, failedAttempt 1767225600000000 0 cpuRow, []) ∧
    (publishAttempts cpuStdlib acceptingBus cpuRow []
      [(1, 0), (2, 0), (3, 0), (4, 0), (5, 0)]).1.status = .deadLetter := by
  have once : publishOne cpuStdlib acceptingBus 1767225600000000 0 cpuRow [] =
      (false, failedAttempt 1767225600000000 0 cpuRow, []) := publishOne_envelope rfl
  obtain ⟨result, after, accepted, outbox⟩ := cpuBatch_accepted
  refine ⟨⟨result, after, accepted, outbox, ?_⟩, once, ?_⟩
  · rintro ⟨published, sent, ran, -, -⟩
    rw [once] at ran
    cases ran
  · exact (attempts_envelope _ rfl (by simp)).2

/-- The row of `cpuBatch` sends nothing in five attempts. -/
theorem ingested_never_published_cpu :
    (publishAttempts cpuStdlib acceptingBus cpuRow []
      [(1, 0), (2, 0), (3, 0), (4, 0), (5, 0)]).2 = [] := by
  obtain ⟨result, after, accepted, outbox⟩ := cpuBatch_accepted
  have inserted : cpuRow ∈ after.outbox := by
    rw [outbox]
    exact List.mem_singleton_self cpuRow
  exact ((ingested_never_published cpuRuntime cpuSource cpuBatch 1767225600000000 60 cpuDb after
    result accepted cpuRow inserted List.not_mem_nil).2 _ (List.cons_ne_nil _ _)).1

end Agreement

end CosMonitor
