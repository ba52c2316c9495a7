/-
**Telemetry ingestion — `POST /api/v1/telemetry/ingest` after its authentication.**

`ingestBatch` validates the body, then writes the batch, its samples and one outbox row in one
transaction. An error rolls the transaction back: the caller keeps its tables.

* `writeSamples`: one sample after the other, with the observation each becomes;
* `combinedObservation_stored`: the outbox column holds the envelope of the batch;
* `ingestBatch_cases`: an accepted call either finds its batch again and writes nothing, or appends
  one outbox row that holds the envelope of the batch.
-/

import CosMonitor.Access.AgentTables
import CosMonitor.Foundation.Result
import CosMonitor.Telemetry.BodyErrors
import CosMonitor.Telemetry.OrdinaryBodies
import CosMonitor.Telemetry.StoredValues

namespace CosMonitor

open Result

/-! ### Tables -/

/-- A row of `metric_batches`; its primary key is the `batch_id`. -/
structure MetricBatch where
  tenantId : Uuid
  installationId : Uuid
  instanceId : Uuid
  credentialId : Uuid
  batchId : Uuid
  payloadHash : String
  capturedAt : Timestamp
  receivedAt : Timestamp
  sampleCount : Nat
  deriving DecidableEq, Repr

/-- A row of `metric_samples`. -/
structure MetricSample where
  tenantId : Uuid
  batchId : Uuid
  sequence : Int
  factType : String
  factValue : Json
  unit : String
  labels : Json
  deriving DecidableEq, Repr

/-- The lifecycle of an outbox row. -/
inductive OutboxStatus where
  | pending
  | published
  | failed
  | deadLetter
  deriving DecidableEq, Repr

/-- A row of `observation_outbox`. A JSONB column holds the value that was written. -/
structure OutboxRow where
  id : Uuid
  tenantId : Uuid
  installationId : Uuid
  batchId : Uuid
  credentialId : Uuid
  payloadHash : String
  observation : Json
  status : OutboxStatus
  attempts : Nat
  nextAttemptAt : Timestamp
  lastError : Option String
  publishedAt : Option Timestamp
  createdAt : Timestamp
  deriving DecidableEq, Repr

/-- The tables that an ingest reads and writes. -/
structure TelemetryDb where
  installations : List Installation
  batches : List MetricBatch
  samples : List MetricSample
  outbox : List OutboxRow
  deriving DecidableEq, Repr

/-! ### Errors -/

/-- What leaves `ingest_batch` as an exception. -/
inductive IngestError where
  | validation (failure : ValidationError)
  | escaping (failure : EscapingError)
  | payloadConflict (batchId : Uuid) (existingHash : String)
  | python (failure : PyError)
  | db (failure : DbError)
  deriving DecidableEq, Repr

/-- An exception of the validation. -/
def IngestError.ofBody : BodyError → IngestError
  | .validation failure => .validation failure
  | .escaping failure => .escaping failure

/-! ### Writing -/

section Writing

/-- Bind a value to a `VARCHAR(limit)` parameter: the driver takes texts that UTF-8 encodes. -/
def varcharArg (limit : Nat) (value : Loaded) : Except DbError String :=
  match value with
  | .str points =>
      if points.any fun point => point.val == 0 then .error .nulCharacter
      else match textOf points with
        | some text => varchar limit text
        | none => .error .badArgument
  | _ => .error .badArgument

/-- `OBSERVATION_NAMESPACE`. -/
def observationNamespace : Uuid := 0x6ba7b8109dad11d180b400c04fd430c8

/-- The characters of a text that UTF-8 encodes. -/
def charsOf (points : PyText) : String :=
  String.ofList (points.map fun point => Char.ofNat point.val)

/-- `payload_hash(canonical_bytes)`: SHA-256 of the encoded text. -/
def payloadHash (std : Stdlib) (canonical : PyText) : String :=
  std.sha256Hex (charsOf canonical)

variable (runtime : BodyRuntime)

/-- `observation_id`. The texts of a body that passed the checks are encodable. -/
def observationId (tenantId installationId batchId : Uuid) (sequence factType : Loaded) : Uuid :=
  runtime.std.uuid5 observationNamespace
    (uuidText tenantId ++ ":" ++ uuidText installationId ++ ":" ++ uuidText batchId ++ ":" ++
      charsOf (strLoaded runtime sequence) ++ ":" ++ charsOf (strLoaded runtime factType))

/-- `quality_mapping.get(fact_type, default)`; the keys of a mapping are texts without surrogates. -/
def qualityOf (mapping : Json) (factType : Loaded) (defaultClass : Json) : Except PyError Json :=
  match mapping, factType with
  | .obj fields, .str name => .ok (((textOf name).bind fun text => fields.lookup text).getD defaultClass)
  | .obj _, .arr _ | .obj _, .obj _ => .error .typeError
  | .obj _, _ => .ok defaultClass
  | _, _ => .error (.attributeError "get")

/-- Who sends a batch, and the installation that the batch is resolved to. -/
structure IngestSource where
  tenantId : Uuid
  installationId : Uuid
  instanceId : Uuid
  credentialId : Uuid
  deriving DecidableEq, Repr

/-- The observation of a sample, as the outbox envelope holds it. -/
def outboxObservation (source : IngestSource) (installation : Installation)
    (capturedAt : PyDatetime) (observation : Uuid) (factType : Loaded) (qualityClass : Json)
    (sample : Loaded) : Loaded :=
  .obj
    [(pyText "id", .str (pyText (uuidText observation))),
      (pyText "tenant_id", .str (pyText (uuidText source.tenantId))),
      (pyText "source_id", .str (pyText (uuidText installation.serverId))),
      (pyText "source_type", .str (pyText installation.agentType)),
      (pyText "fact_type", factType),
      (pyText "fact_value", (sample.lookup "fact_value").getD (.obj [])),
      (pyText "unit", (sample.lookup "unit").getD (.str [])),
      (pyText "captured_at", .str (pyText (runtime.std.isoformat capturedAt))),
      (pyText "quality_class", .ofJson qualityClass),
      (pyText "raw_payload", sample)]

/-- `INSERT INTO metric_samples`, unique in tenant, batch and sequence. -/
def insertSample (row : MetricSample) (rows : List MetricSample) :
    Except DbError (List MetricSample) :=
  if rows.any (fun other => other.tenantId == row.tenantId && other.batchId == row.batchId &&
      other.sequence == row.sequence) then
    .error (.uniqueViolation "metric_samples_tenant_id_batch_id_sequence_key")
  else .ok (rows ++ [row])

/-- The row of `metric_samples` that a sample becomes. -/
def sampleRow (source : IngestSource) (batchId : Uuid) (sample : Loaded) :
    Except DbError MetricSample := do
  let some sequence := intOf (sample.get "sequence") | throw .badArgument
  let factType ← varcharArg 100 (sample.get "fact_type")
  let factValue ← jsonbLoaded ((sample.lookup "fact_value").getD (.obj []))
  let unit ← varcharArg 20 ((sample.lookup "unit").getD (.str []))
  let labels ← jsonbLoaded ((sample.lookup "labels").getD (.obj []))
  return { tenantId := source.tenantId, batchId, sequence, factType, factValue, unit, labels }

/-- The loop over the samples: the observation ids, the observations and the rows written. -/
def writeSamples (source : IngestSource) (installation : Installation) (batchId : Uuid)
    (capturedAt : PyDatetime) (mapping defaultClass : Json) :
    List Loaded → List MetricSample → Except IngestError (List Uuid × List Loaded × List MetricSample)
  | [], rows => .ok ([], [], rows)
  | sample :: rest, rows => do
      let factType := sample.get "fact_type"
      let observation := observationId runtime source.tenantId source.installationId batchId
        (sample.get "sequence") factType
      let qualityClass ← (qualityOf mapping factType defaultClass).mapError .python
      let row ← (sampleRow source batchId sample).mapError .db
      let written ← (insertSample row rows).mapError .db
      let (ids, observations, final) ←
        writeSamples source installation batchId capturedAt mapping defaultClass rest written
      return (observation :: ids,
        outboxObservation runtime source installation capturedAt observation factType qualityClass
          sample :: observations, final)

/-- `combined_observation`. -/
def combinedObservation (batchId : Uuid) (ids : List Uuid) (observations : List Loaded) : Loaded :=
  .obj
    [(pyText "batch_id", .str (pyText (uuidText batchId))),
      (pyText "observation_ids", .arr (ids.map fun id => .str (pyText (uuidText id)))),
      (pyText "observations", .arr observations)]

/-- The envelope of a batch in the outbox column. -/
def envelope (batchId : Uuid) (ids : List Uuid) (observations : List Json) : Json :=
  .obj
    [("batch_id", .str (uuidText batchId)),
      ("observation_ids", .arr (ids.map fun id => .str (uuidText id))),
      ("observations", .arr observations)]

/-- `INSERT INTO observation_outbox`, unique in tenant, installation, batch and hash. -/
def insertOutbox (row : OutboxRow) (rows : List OutboxRow) : Except DbError (List OutboxRow) :=
  if rows.any (fun other => other.id == row.id) then .error (.uniqueViolation "observation_outbox_pkey")
  else if rows.any (fun other => other.tenantId == row.tenantId &&
      other.installationId == row.installationId && other.batchId == row.batchId &&
      other.payloadHash == row.payloadHash) then
    .error (.uniqueViolation "observation_outbox_idempotency")
  else .ok (rows ++ [row])

end Writing

/-! ### `ingest_batch` -/

/-- The answer to an accepted batch. -/
structure IngestResult where
  batchId : Uuid
  observationIds : List Uuid
  ingestedAt : Timestamp
  deriving DecidableEq, Repr

section IngestBatch

variable (runtime : BodyRuntime)

/-- `_resolve_installation`. -/
def resolveInstallation (source : IngestSource) (db : TelemetryDb) : Option Installation :=
  db.installations.find? fun row =>
    row.id == source.installationId && row.tenantId == source.tenantId && row.status == .active

/-- A capability of an installation; capabilities that are no object have no `get`. -/
def capability (installation : Installation) (name : String) (absent : Json) :
    Except PyError Json :=
  match installation.capabilities with
  | .obj fields => .ok ((fields.lookup name).getD absent)
  | _ => .error (.attributeError "get")

/-- `metric_batches` rejects the row of a batch. Its primary key is the batch id, which every other
unique constraint of the table contains. -/
def batchTaken (batchId : Uuid) (db : TelemetryDb) : Bool :=
  db.batches.any fun row => row.batchId == batchId

/-- `_fetch_existing_observation_ids`. -/
def existingObservationIds (source : IngestSource) (batchId : Uuid) (db : TelemetryDb) :
    Except PyError (List Uuid) :=
  match db.outbox.find? fun row => row.tenantId == source.tenantId && row.batchId == batchId with
  | none => .ok []
  | some row =>
      match row.observation.lookup "observation_ids" with
      | none => .ok []
      | some (.arr ids) => ids.mapM fun id =>
          match parseUuid (runtime.std.str id) with
          | some found => .ok found
          | none => .error (.valueError "badly formed hexadecimal UUID string")
      | some _ => .error .typeError

/-- The answer to a batch whose row is already there. -/
def duplicateBatch (source : IngestSource) (batchId : Uuid) (hash : String) (db : TelemetryDb) :
    Except IngestError IngestResult :=
  match db.batches.find? fun row => row.tenantId == source.tenantId &&
      row.installationId == source.installationId && row.batchId == batchId with
  | some existing =>
      if existing.payloadHash = hash then do
        let ids ← (existingObservationIds runtime source batchId db).mapError .python
        return { batchId, observationIds := ids, ingestedAt := existing.receivedAt }
      else .error (.payloadConflict batchId existing.payloadHash)
  | none => .error (.payloadConflict batchId "unknown")

/-- `ingest_batch`. `now` is the clock of the call and of its transaction, `outboxId` the generated
key of the outbox row. -/
def ingestBatch (source : IngestSource) (body : Loaded) (now : Timestamp) (outboxId : Uuid)
    (db : TelemetryDb) : Except IngestError (IngestResult × TelemetryDb) := do
  let validated ← (validateLoaded runtime now body).mapError .ofBody
  let hash := payloadHash runtime.std validated.canonical
  match resolveInstallation source db with
  | none => throw (.validation .installationNotFound)
  | some installation =>
      let mapping ← (capability installation "quality_mapping" (.obj [])).mapError .python
      let defaultClass ←
        (capability installation "default_quality_class" (.str "Q3")).mapError .python
      if batchTaken validated.batchId db then
        let result ← duplicateBatch runtime source validated.batchId hash db
        return (result, db)
      else
        let (ids, observations, rows) ←
          writeSamples runtime source installation validated.batchId validated.capturedAt mapping
            defaultClass validated.samples db.samples
        let observation ←
          (jsonbLoaded (combinedObservation validated.batchId ids observations)).mapError .db
        let outbox ← (insertOutbox
          { id := outboxId
            tenantId := source.tenantId
            installationId := source.installationId
            batchId := validated.batchId
            credentialId := source.credentialId
            payloadHash := hash
            observation
            status := .pending
            attempts := 0
            nextAttemptAt := now
            lastError := none
            publishedAt := none
            createdAt := now } db.outbox).mapError .db
        return ({ batchId := validated.batchId, observationIds := ids, ingestedAt := now },
          { db with
            batches := db.batches ++
              [{ tenantId := source.tenantId
                 installationId := source.installationId
                 instanceId := source.instanceId
                 credentialId := source.credentialId
                 batchId := validated.batchId
                 payloadHash := hash
                 capturedAt := validated.capturedAt.instant
                 receivedAt := now
                 sampleCount := validated.samples.length }]
            samples := rows
            outbox })

/-! ### What an accepted call has done -/

variable {runtime}

theorem uuidText_clean (id : Uuid) : '\x00' ∉ (uuidText id).toList := by
  intro member
  rw [uuidText, String.toList_ofList] at member
  rcases mem_uuidChars member with dash | inside
  · revert dash
    decide
  · obtain ⟨digit, small, same⟩ := hexValue_of_mem_hexDigits inside
    revert digit
    decide

theorem stored_uuidTexts (ids : List Uuid) :
    storedItems (ids.map fun id => .str (pyText (uuidText id))) =
      some (ids.map fun id => .str (uuidText id)) := by
  induction ids with
  | nil => rfl
  | cons id rest ih =>
      rw [List.map_cons, storedItems, Loaded.stored, jsonbText_pyText (uuidText_clean id), ih]
      rfl

/-- **The outbox column holds the envelope**, if it takes the observations. -/
theorem combinedObservation_stored (batchId : Uuid) (ids : List Uuid) (observations : List Loaded) :
    (combinedObservation batchId ids observations).stored =
      (storedItems observations).map (envelope batchId ids) := by
  have batchKey : jsonbText (pyText "batch_id") = some "batch_id" := jsonbText_pyText (by decide)
  have idsKey : jsonbText (pyText "observation_ids") = some "observation_ids" :=
    jsonbText_pyText (by decide)
  have observationsKey : jsonbText (pyText "observations") = some "observations" :=
    jsonbText_pyText (by decide)
  rw [combinedObservation, Loaded.stored, storedFields, batchKey, storedFields, idsKey, storedFields,
    observationsKey, Loaded.stored, jsonbText_pyText (uuidText_clean batchId), Loaded.stored,
    stored_uuidTexts, Loaded.stored]
  cases storedItems observations with
  | none => rfl
  | some kept => rfl

theorem jsonbLoaded_envelope {batchId : Uuid} {ids : List Uuid} {observations : List Loaded} {stored : Json}
    (bound : jsonbLoaded (combinedObservation batchId ids observations) = .ok stored) :
    ∃ kept, stored = envelope batchId ids kept := by
  rw [jsonbLoaded_eq_ok, combinedObservation_stored] at bound
  obtain ⟨kept, -, rfl⟩ := Option.map_eq_some_iff.mp bound
  exact ⟨kept, rfl⟩

theorem insertOutbox_eq_ok {row : OutboxRow} {rows after : List OutboxRow}
    (inserted : insertOutbox row rows = .ok after) : after = rows ++ [row] := by
  unfold insertOutbox at inserted
  split at inserted
  · cases inserted
  · split at inserted
    · cases inserted
    · exact (Except.ok.inj inserted).symm

/-- **An accepted call** finds its batch again and writes nothing, or appends one pending outbox row
that holds the envelope of its observations. -/
theorem ingestBatch_cases {source : IngestSource} {body : Loaded} {now : Timestamp} {outboxId : Uuid}
    {db after : TelemetryDb} {result : IngestResult}
    (accepted : ingestBatch runtime source body now outboxId db = .ok (result, after)) :
    after = db ∨ ∃ row observations, after.outbox = db.outbox ++ [row] ∧
      row.observation = envelope result.batchId result.observationIds observations ∧
      row.status = .pending ∧ row.attempts = 0 := by
  obtain ⟨validated, -, rest⟩ := bind_eq_ok.mp accepted
  split at rest
  · exact (throw_eq_ok.mp rest).elim
  · rename_i installation found
    obtain ⟨mapping, -, rest⟩ := bind_eq_ok.mp rest
    obtain ⟨defaultClass, -, rest⟩ := bind_eq_ok.mp rest
    split at rest
    · obtain ⟨existing, -, rest⟩ := bind_eq_ok.mp rest
      exact .inl (Prod.mk.inj (pure_eq_ok.mp rest)).2.symm
    · obtain ⟨⟨ids, observations, rows⟩, -, rest⟩ := bind_eq_ok.mp rest
      obtain ⟨observation, bound, rest⟩ := bind_eq_ok.mp rest
      obtain ⟨outbox, inserted, rest⟩ := bind_eq_ok.mp rest
      obtain ⟨rfl, rfl⟩ := Prod.mk.inj (pure_eq_ok.mp rest)
      obtain ⟨kept, rfl⟩ := jsonbLoaded_envelope (mapError_eq_ok.mp bound)
      exact .inr ⟨_, kept, insertOutbox_eq_ok (mapError_eq_ok.mp inserted), rfl, rfl, rfl⟩

end IngestBatch

end CosMonitor
