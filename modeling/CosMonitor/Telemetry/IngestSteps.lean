/-
**The parts of an ingest: what admits a batch, and what stores a new one.**

* `admission`, `qualityPolicy`, `storeBatch`: the checks, the two capabilities that are read, and the writes;
* `ingestBatch_eq`: an ingest is these parts, with the lookup of a duplicate between them;
* `IngestCall.answer`, `TelemetryDb.ingest`: what a call answers, and the tables after it;
* `ingest_cases`: a call raises, finds its batch again, or stores a new one (`StoredBatch`).
-/

import CosMonitor.Telemetry.Ingest

namespace CosMonitor

open Result

/-! ### The parts -/

section Parts

variable (runtime : BodyRuntime)

/-- A batch that passed the checks, with the installation that sent it. -/
structure AdmittedBatch extends ValidatedBody where
  installation : Installation

/-- The checks of a body and the lookup of its installation. -/
def admission (source : IngestSource) (body : Loaded) (now : Timestamp) (db : TelemetryDb) :
    Except IngestError AdmittedBatch := do
  let validated ← (validateLoaded runtime now body).mapError .ofBody
  match resolveInstallation source db with
  | none => throw (.validation .installationNotFound)
  | some installation => return { toValidatedBody := validated, installation }

/-- The quality classes of the fact types, and the class of the others. -/
def qualityPolicy (installation : Installation) : Except IngestError (Json × Json) := do
  let mapping ← (capability installation "quality_mapping" (.obj [])).mapError .python
  let defaultClass ← (capability installation "default_quality_class" (.str "Q3")).mapError .python
  return (mapping, defaultClass)

/-- The row of `metric_batches` of a new batch. -/
def batchRow (source : IngestSource) (now : Timestamp) (admitted : AdmittedBatch) : MetricBatch where
  tenantId := source.tenantId
  installationId := source.installationId
  instanceId := source.instanceId
  credentialId := source.credentialId
  batchId := admitted.batchId
  payloadHash := payloadHash runtime.std admitted.canonical
  capturedAt := admitted.capturedAt.instant
  receivedAt := now
  sampleCount := admitted.samples.length

/-- The row of `observation_outbox` of a new batch. -/
def outboxRow (source : IngestSource) (now : Timestamp) (outboxId : Uuid) (admitted : AdmittedBatch)
    (observation : Json) : OutboxRow where
  id := outboxId
  tenantId := source.tenantId
  installationId := source.installationId
  batchId := admitted.batchId
  credentialId := source.credentialId
  payloadHash := payloadHash runtime.std admitted.canonical
  observation := observation
  status := .pending
  attempts := 0
  nextAttemptAt := now
  lastError := none
  publishedAt := none
  createdAt := now

/-- The writes of a new batch. -/
def storeBatch (source : IngestSource) (now : Timestamp) (outboxId : Uuid) (admitted : AdmittedBatch)
    (policy : Json × Json) (db : TelemetryDb) :
    Except IngestError (IngestResult × TelemetryDb) := do
  let (ids, observations, rows) ←
    writeSamples runtime source admitted.installation admitted.batchId admitted.capturedAt policy.1
      policy.2 admitted.samples db.samples
  let observation ← (jsonbLoaded (combinedObservation admitted.batchId ids observations)).mapError .db
  let outbox ← (insertOutbox
    (outboxRow runtime source now outboxId admitted observation) db.outbox).mapError .db
  return ({ batchId := admitted.batchId, observationIds := ids, ingestedAt := now },
    { db with
      batches := db.batches ++ [batchRow runtime source now admitted]
      samples := rows
      outbox })

/-- **An ingest, part by part.** -/
theorem ingestBatch_eq (source : IngestSource) (body : Loaded) (now : Timestamp) (outboxId : Uuid)
    (db : TelemetryDb) :
    ingestBatch runtime source body now outboxId db =
      (admission runtime source body now db >>= fun admitted =>
        qualityPolicy admitted.installation >>= fun policy =>
          if batchTaken admitted.batchId db then
            (duplicateBatch runtime source admitted.batchId (payloadHash runtime.std admitted.canonical)
              db).map fun result => (result, db)
          else storeBatch runtime source now outboxId admitted policy db) := by
  unfold ingestBatch admission
  rcases (validateLoaded runtime now body).mapError IngestError.ofBody with failure | validated
  · rfl
  rcases found : resolveInstallation source db with - | installation
  · simp [bind, Except.bind, throw, throwThe, MonadExceptOf.throw]
  unfold qualityPolicy
  rcases mapped : (capability installation "quality_mapping" (.obj [])).mapError
      IngestError.python with failure | mapping
  · simp [bind, Except.bind, pure, Except.pure, mapped]
  rcases fallback : (capability installation "default_quality_class" (.str "Q3")).mapError
      IngestError.python with failure | defaultClass
  · simp [bind, Except.bind, pure, Except.pure, mapped, fallback]
  simp only [bind, Except.bind, pure, Except.pure, mapped, fallback]
  split
  · rcases duplicateBatch runtime source validated.batchId (payloadHash runtime.std validated.canonical) db with
      failure | result
    · rfl
    · rfl
  · unfold storeBatch
    rcases writeSamples runtime source installation validated.batchId validated.capturedAt mapping
        defaultClass validated.samples db.samples with failure | ⟨ids, observations, rows⟩
    · rfl
    simp only [bind, Except.bind]
    rcases (jsonbLoaded (combinedObservation validated.batchId ids observations)).mapError IngestError.db with
      failure | observation
    · rfl
    · rfl

end Parts

/-! ### What the writes add -/

section Writes

theorem mapError_raises {Failure Other Value : Type} {called : Except Failure Value}
    {wrap : Failure → Other} {failure : Other} (raised : called.mapError wrap = .error failure) :
    ∃ inner, failure = wrap inner := by
  rcases called with inner | value
  · exact ⟨inner, (Except.error.inj raised).symm⟩
  · cases raised

variable {runtime : BodyRuntime} {source : IngestSource} {installation : Installation} {batchId : Uuid}
  {capturedAt : PyDatetime} {mapping defaultClass : Json} {samples : List Loaded}

theorem sampleRow_scope {sample : Loaded} {row : MetricSample}
    (built : sampleRow source batchId sample = .ok row) :
    row.tenantId = source.tenantId ∧ row.batchId = batchId ∧
      intOf (sample.get "sequence") = some row.sequence := by
  unfold sampleRow at built
  split at built
  · rename_i sequence counted
    obtain ⟨factType, -, built⟩ := bind_eq_ok.mp built
    obtain ⟨factValue, -, built⟩ := bind_eq_ok.mp built
    obtain ⟨unit, -, built⟩ := bind_eq_ok.mp built
    obtain ⟨labels, -, built⟩ := bind_eq_ok.mp built
    rw [← pure_eq_ok.mp built]
    exact ⟨rfl, rfl, counted⟩
  · exact (throw_eq_ok.mp built).elim

theorem sampleRows_scope {rows : List MetricSample}
    (built : List.Forall₂ (fun sample row => sampleRow source batchId sample = .ok row) samples rows) :
    ∀ row ∈ rows, row.tenantId = source.tenantId ∧ row.batchId = batchId := by
  induction built with
  | nil => exact fun row member => nomatch member
  | cons head _ ih =>
      intro row member
      rcases List.mem_cons.mp member with rfl | later
      · obtain ⟨tenant, batch, -⟩ := sampleRow_scope head
        exact ⟨tenant, batch⟩
      · exact ih row later

theorem insertSample_eq_ok {row : MetricSample} {rows after : List MetricSample}
    (inserted : insertSample row rows = .ok after) : after = rows ++ [row] := by
  unfold insertSample at inserted
  split at inserted
  · cases inserted
  · exact (Except.ok.inj inserted).symm

theorem writeSamples_cons (sample : Loaded) (rows : List MetricSample) :
    writeSamples runtime source installation batchId capturedAt mapping defaultClass (sample :: samples)
        rows =
      ((qualityOf mapping (sample.get "fact_type") defaultClass).mapError .python >>= fun qualityClass =>
        (sampleRow source batchId sample).mapError .db >>= fun row =>
          (insertSample row rows).mapError .db >>= fun written =>
            (writeSamples runtime source installation batchId capturedAt mapping defaultClass samples
              written).map fun later =>
                (observationId runtime source.tenantId source.installationId batchId
                    (sample.get "sequence") (sample.get "fact_type") :: later.1,
                  outboxObservation runtime source installation capturedAt
                    (observationId runtime source.tenantId source.installationId batchId
                      (sample.get "sequence") (sample.get "fact_type"))
                    (sample.get "fact_type") qualityClass sample :: later.2.1,
                  later.2.2)) := by
  rw [writeSamples]
  refine bind_congr fun qualityClass => bind_congr fun row => bind_congr fun written => ?_
  rcases writeSamples runtime source installation batchId capturedAt mapping defaultClass samples
    written with failure | later
  · rfl
  · rfl

theorem writeSamples_adds {rows final : List MetricSample} {ids : List Uuid}
    {observations : List Loaded}
    (written : writeSamples runtime source installation batchId capturedAt mapping defaultClass samples
      rows = .ok (ids, observations, final)) :
    ids.length = samples.length ∧ observations.length = samples.length ∧
      ∃ added, final = rows ++ added ∧
        List.Forall₂ (fun sample row => sampleRow source batchId sample = .ok row) samples added := by
  induction samples generalizing rows ids observations with
  | nil =>
      obtain ⟨rfl, rfl, rfl⟩ : [] = ids ∧ [] = observations ∧ rows = final := by
        simpa [writeSamples] using written
      exact ⟨rfl, rfl, [], (List.append_nil _).symm, .nil⟩
  | cons sample rest ih =>
      obtain ⟨qualityClass, -, written⟩ := bind_eq_ok.mp written
      obtain ⟨row, built, written⟩ := bind_eq_ok.mp written
      obtain ⟨between, inserted, written⟩ := bind_eq_ok.mp written
      obtain ⟨⟨laterIds, laterObservations, last⟩, later, written⟩ := bind_eq_ok.mp written
      obtain ⟨rfl, rfl, rfl⟩ : _ :: laterIds = ids ∧ _ :: laterObservations = observations ∧
          last = final := by
        simpa using pure_eq_ok.mp written
      obtain ⟨idCount, observationCount, added, rfl, rowsOf⟩ := ih later
      rw [insertSample_eq_ok (mapError_eq_ok.mp inserted), List.append_assoc]
      refine ⟨by simp [idCount], by simp [observationCount], row :: added, rfl, ?_⟩
      exact .cons (mapError_eq_ok.mp built) rowsOf

/-- An error of the writes: Python raised it or the database did. -/
def IngestError.OfWrite (failure : IngestError) : Prop :=
  (∃ raised, failure = .python raised) ∨ ∃ raised, failure = .db raised

theorem writeSamples_raises {rows : List MetricSample} {failure : IngestError}
    (raised : writeSamples runtime source installation batchId capturedAt mapping defaultClass samples
      rows = .error failure) : failure.OfWrite := by
  induction samples generalizing rows with
  | nil => cases raised
  | cons sample rest ih =>
      rw [writeSamples_cons] at raised
      rcases bind_eq_error.mp raised with quality | ⟨qualityClass, -, raised⟩
      · exact .inl (mapError_raises quality)
      rcases bind_eq_error.mp raised with building | ⟨row, -, raised⟩
      · exact .inr (mapError_raises building)
      rcases bind_eq_error.mp raised with inserting | ⟨written, -, raised⟩
      · exact .inr (mapError_raises inserting)
      rcases later : writeSamples runtime source installation batchId capturedAt mapping defaultClass rest
          written with other | done
      · rw [later] at raised
        cases raised
        exact ih later
      · rw [later] at raised
        cases raised

theorem storeBatch_raises {now : Timestamp} {outboxId : Uuid}
    {admitted : AdmittedBatch} {policy : Json × Json} {db : TelemetryDb} {failure : IngestError}
    (raised : storeBatch runtime source now outboxId admitted policy db = .error failure) :
    failure.OfWrite := by
  rcases bind_eq_error.mp raised with writing | ⟨⟨ids, observations, rows⟩, -, raised⟩
  · exact writeSamples_raises writing
  rcases bind_eq_error.mp raised with binding | ⟨observation, -, raised⟩
  · exact .inr (mapError_raises binding)
  rcases bind_eq_error.mp raised with inserting | ⟨outbox, -, raised⟩
  · exact .inr (mapError_raises inserting)
  · cases raised

end Writes

/-! ### A call -/

section Calls

/-- A call of `ingest_batch`: its arguments, its clock and the key that its outbox row would get. -/
structure IngestCall where
  source : IngestSource
  body : Loaded
  now : Timestamp
  outboxId : Uuid

variable (runtime : BodyRuntime)

/-- What a call answers: its result, or the exception that leaves it. -/
def IngestCall.answer (call : IngestCall) (db : TelemetryDb) : Except IngestError IngestResult :=
  (ingestBatch runtime call.source call.body call.now call.outboxId db).map fun accepted => accepted.1

/-- The tables after a call; an exception has rolled its transaction back. -/
def TelemetryDb.ingest (db : TelemetryDb) (call : IngestCall) : TelemetryDb :=
  match ingestBatch runtime call.source call.body call.now call.outboxId db with
  | .ok accepted => accepted.2
  | .error _ => db

/-- What a call adds to the tables when it stores a new batch. -/
structure StoredBatch (call : IngestCall) (db after : TelemetryDb) (admitted : AdmittedBatch)
    (result : IngestResult) : Prop where
  admits : admission runtime call.source call.body call.now db = .ok admitted
  isNew : batchTaken admitted.batchId db = false
  batchId : result.batchId = admitted.batchId
  ids : result.observationIds.length = admitted.samples.length
  installations : after.installations = db.installations
  batches : after.batches =
    db.batches ++ [batchRow runtime call.source call.now admitted]
  samples : ∃ added, after.samples = db.samples ++ added ∧
    List.Forall₂ (fun sample row => sampleRow call.source admitted.batchId sample = .ok row)
      admitted.samples added
  outbox : ∃ observations, after.outbox = db.outbox ++
    [outboxRow runtime call.source call.now call.outboxId admitted
      (envelope admitted.batchId result.observationIds observations)]

variable {runtime} {call : IngestCall} {db : TelemetryDb}

theorem storeBatch_eq_ok {admitted : AdmittedBatch} {policy : Json × Json} {result : IngestResult}
    {after : TelemetryDb} (admits : admission runtime call.source call.body call.now db = .ok admitted)
    (isNew : batchTaken admitted.batchId db = false)
    (stored : storeBatch runtime call.source call.now call.outboxId admitted policy db =
      .ok (result, after)) : StoredBatch runtime call db after admitted result := by
  obtain ⟨⟨ids, observations, rows⟩, written, stored⟩ := bind_eq_ok.mp stored
  obtain ⟨observation, bound, stored⟩ := bind_eq_ok.mp stored
  obtain ⟨outbox, inserted, stored⟩ := bind_eq_ok.mp stored
  obtain ⟨rfl, rfl⟩ := Prod.mk.inj (pure_eq_ok.mp stored)
  obtain ⟨idCount, -, added⟩ := writeSamples_adds written
  obtain ⟨kept, rfl⟩ := jsonbLoaded_envelope (mapError_eq_ok.mp bound)
  exact ⟨admits, isNew, rfl, idCount, rfl, rfl, added, kept, insertOutbox_eq_ok (mapError_eq_ok.mp inserted)⟩

/-- **What a call does**: it raises, finds its batch again, or stores a new one. -/
theorem ingest_cases (runtime : BodyRuntime) (call : IngestCall) (db : TelemetryDb) :
    (∃ failure, call.answer runtime db = .error failure ∧ db.ingest runtime call = db) ∨
      (∃ admitted result, admission runtime call.source call.body call.now db = .ok admitted ∧
        batchTaken admitted.batchId db = true ∧
        duplicateBatch runtime call.source admitted.batchId (payloadHash runtime.std admitted.canonical) db =
          .ok result ∧ call.answer runtime db = .ok result ∧ db.ingest runtime call = db) ∨
      ∃ admitted result, StoredBatch runtime call db (db.ingest runtime call) admitted result ∧
        call.answer runtime db = .ok result := by
  unfold TelemetryDb.ingest IngestCall.answer
  rcases ran : ingestBatch runtime call.source call.body call.now call.outboxId db with
    failure | ⟨result, after⟩
  · exact .inl ⟨failure, rfl, rfl⟩
  rw [ingestBatch_eq] at ran
  obtain ⟨admitted, admits, ran⟩ := bind_eq_ok.mp ran
  obtain ⟨policy, -, ran⟩ := bind_eq_ok.mp ran
  by_cases taken : batchTaken admitted.batchId db = true
  · rw [if_pos taken] at ran
    rcases found : duplicateBatch runtime call.source admitted.batchId
        (payloadHash runtime.std admitted.canonical) db with failure | answered
    · rw [found] at ran
      cases ran
    · rw [found] at ran
      obtain ⟨rfl, rfl⟩ := Prod.mk.inj (Except.ok.inj ran)
      exact .inr (.inl ⟨admitted, _, admits, taken, found, rfl, rfl⟩)
  · rw [if_neg taken] at ran
    exact .inr (.inr ⟨admitted, result, storeBatch_eq_ok admits (by simpa using taken) ran, rfl⟩)

theorem ingest_outcomes (runtime : BodyRuntime) (call : IngestCall) (db : TelemetryDb) :
    db.ingest runtime call = db ∨
      ∃ admitted result, StoredBatch runtime call db (db.ingest runtime call) admitted result ∧
        call.answer runtime db = .ok result := by
  rcases ingest_cases runtime call db with ⟨-, -, same⟩ | ⟨-, -, -, -, -, -, same⟩ | stored
  · exact .inl same
  · exact .inl same
  · exact .inr stored

section Stored

variable {after : TelemetryDb} {admitted : AdmittedBatch} {result : IngestResult}

theorem StoredBatch.mem_batches (stored : StoredBatch runtime call db after admitted result)
    {row : MetricBatch} (member : row ∈ after.batches) :
    row ∈ db.batches ∨ row = batchRow runtime call.source call.now admitted := by
  rw [stored.batches] at member
  exact (List.mem_append.mp member).imp_right List.mem_singleton.mp

theorem StoredBatch.mem_samples (stored : StoredBatch runtime call db after admitted result)
    {row : MetricSample} (member : row ∈ after.samples) :
    row ∈ db.samples ∨ row.batchId = admitted.batchId := by
  obtain ⟨added, samples, built⟩ := stored.samples
  rw [samples] at member
  exact (List.mem_append.mp member).imp_right fun new => (sampleRows_scope built row new).2

theorem StoredBatch.mem_outbox (stored : StoredBatch runtime call db after admitted result)
    {row : OutboxRow} (member : row ∈ after.outbox) :
    row ∈ db.outbox ∨ row.batchId = admitted.batchId ∧
      ∃ observations, row.observation = envelope row.batchId result.observationIds observations := by
  obtain ⟨observations, outbox⟩ := stored.outbox
  rw [outbox] at member
  refine (List.mem_append.mp member).imp_right fun new => ?_
  rw [List.mem_singleton.mp new]
  exact ⟨rfl, observations, rfl⟩

theorem StoredBatch.keeps (stored : StoredBatch runtime call db after admitted result) :
    db.batches ⊆ after.batches ∧ db.outbox ⊆ after.outbox := by
  obtain ⟨observations, outbox⟩ := stored.outbox
  rw [stored.batches, outbox]
  exact ⟨List.subset_append_left _ _, List.subset_append_left _ _⟩

end Stored

end Calls

end CosMonitor
