/-
**Batches that are sent again after a lost acknowledgement.**

A batch that was accepted is looked up by its id, but only after its body has passed the checks again, and one of
these compares the clock with the time of capture.

* `telemetrySystem`: batches of all installations, changes of the installations, and the publisher on the outbox;
* `TelemetryDb.Filed`, `TelemetryDb.Remembers`: what every run keeps of the batches that were accepted;
* `admission_again`: the checks of a retry are those of the first time, but for the clock and the installation;
* `retry_answered_iff`: exactly which retries are answered as the first time;
* `late_retry_refused`: a retry that comes too late.
-/

import CosMonitor.Telemetry.IngestRuns
import CosMonitor.Telemetry.PublisherWorkers

namespace CosMonitor

open Result

/-! ### Runs -/

section Runs

/-- The columns of an outbox row that its trigger lets an `UPDATE` change. -/
structure OutboxLifecycle where
  status : OutboxStatus
  attempts : Nat
  nextAttemptAt : Timestamp
  lastError : Option String
  publishedAt : Option Timestamp
  deriving DecidableEq, Repr

/-- An outbox row after an `UPDATE` of its lifecycle. -/
def OutboxRow.withLifecycle (row : OutboxRow) (lifecycle : OutboxLifecycle) : OutboxRow :=
  { row with
    status := lifecycle.status
    attempts := lifecycle.attempts
    nextAttemptAt := lifecycle.nextAttemptAt
    lastError := lifecycle.lastError
    publishedAt := lifecycle.publishedAt }

/-- What happens to the tables of the ingest. -/
inductive TelemetryEvent where
  /-- An installation sends a batch. -/
  | call (call : IngestCall)
  /-- Installations are registered, changed or revoked. -/
  | installations (rows : List Installation)
  /-- The publishers update the lifecycles of outbox rows. -/
  | publish (update : OutboxRow → OutboxLifecycle)

/-- One event. The rows of batches, samples and outbox are never deleted. -/
def telemetrySystem (runtime : BodyRuntime) : Transition.System TelemetryDb TelemetryEvent where
  step := fun db event =>
    match event with
    | .call call => some (db.ingest runtime call)
    | .installations rows => some { db with installations := rows }
    | .publish update =>
        some { db with outbox := db.outbox.map fun row => row.withLifecycle (update row) }

/-- The tables that a run reaches. -/
abbrev TelemetryDb.Reaches (runtime : BodyRuntime) (db later : TelemetryDb) : Prop :=
  (telemetrySystem runtime).Reachable (fun _ _ => True) db later

/-- Every batch has one outbox row with its envelope, and every outbox row a batch. -/
structure TelemetryDb.Filed (db : TelemetryDb) : Prop where
  keyed : db.Keyed
  single : (db.outbox.map OutboxRow.batchId).Nodup
  filed : ∀ row ∈ db.outbox, ∃ batch ∈ db.batches, batch.batchId = row.batchId
  queued : ∀ batch ∈ db.batches, ∃ row ∈ db.outbox, row.tenantId = batch.tenantId ∧
    row.batchId = batch.batchId ∧
      ∃ ids observations, row.observation = envelope row.batchId ids observations

/-- The tables hold a batch of an installation with its hash, and the ids it was answered with. -/
structure TelemetryDb.Remembers (db : TelemetryDb) (source : IngestSource) (hash : String)
    (result : IngestResult) : Prop where
  batch : ∃ row ∈ db.batches, row.tenantId = source.tenantId ∧
    row.installationId = source.installationId ∧ row.batchId = result.batchId ∧ row.payloadHash = hash
  ids : ∃ row ∈ db.outbox, row.tenantId = source.tenantId ∧ row.batchId = result.batchId ∧
    ∃ observations, row.observation = envelope row.batchId result.observationIds observations

end Runs

/-! ### What every run keeps -/

section Kept

variable {runtime : BodyRuntime} {db after : TelemetryDb} {call : IngestCall} {source : IngestSource}
  {hash : String} {result : IngestResult}

theorem exists_lifecycle {update : OutboxRow → OutboxLifecycle} {rows : List OutboxRow}
    {holds : OutboxRow → Prop} (ignores : ∀ row lifecycle, holds (row.withLifecycle lifecycle) ↔ holds row) :
    (∃ row ∈ rows.map (fun row => row.withLifecycle (update row)), holds row) ↔
      ∃ row ∈ rows, holds row := by
  constructor
  · rintro ⟨_, member, found⟩
    obtain ⟨row, rowIn, rfl⟩ := List.mem_map.mp member
    exact ⟨row, rowIn, (ignores row (update row)).mp found⟩
  · rintro ⟨row, rowIn, found⟩
    exact ⟨_, List.mem_map_of_mem rowIn, (ignores row (update row)).mpr found⟩

theorem TelemetryDb.Filed.ingest (filed : db.Filed) : (db.ingest runtime call).Filed := by
  rcases ingest_outcomes runtime call db with same | ⟨admitted, result, stored, -⟩
  · rw [same]
    exact filed
  obtain ⟨batchesKept, outboxKept⟩ := stored.keeps
  obtain ⟨observations, outbox⟩ := stored.outbox
  -- An outbox row of this batch would have a batch of its own.
  have free : ∀ row ∈ db.outbox, row.batchId ≠ admitted.batchId := by
    intro row member same
    obtain ⟨batch, batchIn, sameId⟩ := filed.filed row member
    exact List.any_eq_false.mp stored.isNew batch batchIn (beq_iff_eq.mpr (sameId.trans same))
  refine ⟨filed.keyed.ingest, ?_, ?_, ?_⟩
  · rw [outbox, List.map_append, List.nodup_append]
    refine ⟨filed.single, List.nodup_singleton _, ?_⟩
    rintro _ inside _ added rfl
    obtain ⟨row, member, same⟩ := List.mem_map.mp inside
    exact free row member (same.trans (List.mem_singleton.mp added))
  · intro row member
    rw [outbox] at member
    rcases List.mem_append.mp member with old | new
    · obtain ⟨batch, batchIn, same⟩ := filed.filed row old
      exact ⟨batch, batchesKept batchIn, same⟩
    · rw [List.mem_singleton.mp new, stored.batches]
      exact ⟨_, List.mem_append_right _ (List.mem_singleton_self _), rfl⟩
  · intro batch member
    rcases stored.mem_batches member with old | rfl
    · obtain ⟨row, rowIn, holds⟩ := filed.queued batch old
      exact ⟨row, outboxKept rowIn, holds⟩
    · rw [outbox]
      exact ⟨_, List.mem_append_right _ (List.mem_singleton_self _), rfl, rfl, _, _, rfl⟩

theorem TelemetryDb.Filed.publish (filed : db.Filed) (update : OutboxRow → OutboxLifecycle) :
    ({ db with outbox := db.outbox.map fun row => row.withLifecycle (update row) } :
      TelemetryDb).Filed := by
  refine ⟨filed.keyed, ?_, ?_, ?_⟩
  · show (List.map _ (List.map _ _)).Nodup
    rw [List.map_map]
    exact filed.single
  · intro row member
    obtain ⟨old, oldIn, rfl⟩ := List.mem_map.mp member
    exact filed.filed old oldIn
  · exact fun batch member => (exists_lifecycle fun _ _ => Iff.rfl).mpr (filed.queued batch member)

theorem TelemetryDb.Remembers.ingest (remembers : db.Remembers source hash result) :
    (db.ingest runtime call).Remembers source hash result := by
  rcases ingest_outcomes runtime call db with same | ⟨admitted, other, stored, -⟩
  · rw [same]
    exact remembers
  obtain ⟨batchesKept, outboxKept⟩ := stored.keeps
  obtain ⟨batch, batchIn, holds⟩ := remembers.batch
  obtain ⟨row, rowIn, holdsToo⟩ := remembers.ids
  exact ⟨⟨batch, batchesKept batchIn, holds⟩, row, outboxKept rowIn, holdsToo⟩

theorem TelemetryDb.Filed.step (filed : db.Filed) {event : TelemetryEvent}
    (stepped : (telemetrySystem runtime).step db event = some after) : after.Filed := by
  cases event with
  | call call =>
      rw [← Option.some.inj stepped]
      exact filed.ingest
  | installations rows =>
      rw [← Option.some.inj stepped]
      exact ⟨filed.keyed, filed.single, filed.filed, filed.queued⟩
  | publish update =>
      rw [← Option.some.inj stepped]
      exact filed.publish update

theorem TelemetryDb.Remembers.step (remembers : db.Remembers source hash result)
    {event : TelemetryEvent} (stepped : (telemetrySystem runtime).step db event = some after) :
    after.Remembers source hash result := by
  cases event with
  | call call =>
      rw [← Option.some.inj stepped]
      exact remembers.ingest
  | installations rows =>
      rw [← Option.some.inj stepped]
      exact ⟨remembers.batch, remembers.ids⟩
  | publish update =>
      rw [← Option.some.inj stepped]
      exact ⟨remembers.batch, (exists_lifecycle fun _ _ => Iff.rfl).mpr remembers.ids⟩

theorem TelemetryDb.Filed.run (filed : db.Filed) (reached : db.Reaches runtime after) : after.Filed :=
  reached.invariant filed fun _ _ _ kept _ stepped => kept.step stepped

theorem TelemetryDb.Remembers.run (remembers : db.Remembers source hash result)
    (reached : db.Reaches runtime after) : after.Remembers source hash result := by
  have kept : ∀ before event next, before.Remembers source hash result → True →
      (telemetrySystem runtime).step before event = some next → next.Remembers source hash result :=
    fun _ _ _ holds _ stepped => holds.step stepped
  exact reached.invariant remembers kept

theorem filed_empty (noBatches : db.batches = []) (noOutbox : db.outbox = []) : db.Filed := by
  refine ⟨?_, ?_, ?_, ?_⟩
  · unfold TelemetryDb.Keyed
    rw [noBatches]
    exact List.nodup_nil
  · rw [noOutbox]
    exact List.nodup_nil
  · rw [noOutbox]
    exact fun _ member => nomatch member
  · rw [noBatches]
    exact fun _ member => nomatch member

end Kept

/-! ### An accepted batch, and its retry -/

section Retry

variable {runtime : BodyRuntime} {db later : TelemetryDb} {call retry : IngestCall} {source : IngestSource}
  {batchId : Uuid} {hash : String} {result : IngestResult} {admitted : AdmittedBatch}
  {installation : Installation}

theorem duplicateBatch_eq_ok (found : duplicateBatch runtime source batchId hash db = .ok result) :
    result.batchId = batchId ∧
      (∃ row ∈ db.batches, row.tenantId = source.tenantId ∧
        row.installationId = source.installationId ∧ row.batchId = batchId ∧ row.payloadHash = hash) ∧
      existingObservationIds runtime source batchId db = .ok result.observationIds := by
  unfold duplicateBatch at found
  split at found
  · rename_i row search
    have wanted := List.find?_some search
    simp only [Bool.and_eq_true, beq_iff_eq] at wanted
    split at found
    · rename_i sameHash
      obtain ⟨ids, held, found⟩ := bind_eq_ok.mp found
      rw [← pure_eq_ok.mp found]
      exact ⟨rfl, ⟨row, List.mem_of_find?_eq_some search, wanted.1.1, wanted.1.2, wanted.2, sameHash⟩,
        mapError_eq_ok.mp held⟩
    · cases found
  · cases found

theorem TelemetryDb.Remembers.existing (remembers : db.Remembers source hash result)
    (filed : db.Filed) :
    existingObservationIds runtime source result.batchId db = .ok result.observationIds := by
  obtain ⟨row, rowIn, rowTenant, rowBatch, isEnvelope⟩ := remembers.ids
  refine existingObservationIds_held ⟨row, rowIn, rowTenant, rowBatch⟩ ?_
  intro other otherIn _ otherBatch
  rw [List.inj_on_of_nodup_map filed.single otherIn rowIn (otherBatch.trans rowBatch.symm)]
  exact isEnvelope

theorem TelemetryDb.Remembers.duplicate (remembers : db.Remembers source hash result)
    (filed : db.Filed) : ∃ receivedAt, duplicateBatch runtime source result.batchId hash db =
      .ok { batchId := result.batchId
            observationIds := result.observationIds
            ingestedAt := receivedAt } := by
  obtain ⟨row, rowIn, ofTenant, ofInstallation, rowBatch, rowHash⟩ := remembers.batch
  have found := filed.keyed.find_batch rowIn ofTenant ofInstallation
  rw [rowBatch] at found
  unfold duplicateBatch
  simp only [found]
  rw [if_pos rowHash, remembers.existing filed]
  exact ⟨_, rfl⟩

/-- **An accepted batch is remembered**, whether it was stored or found again. -/
theorem accepted_remembers (filed : db.Filed) (accepted : call.answer runtime db = .ok result) :
    ∃ admitted, admission runtime call.source call.body call.now db = .ok admitted ∧
      result.batchId = admitted.batchId ∧ (db.ingest runtime call).Remembers call.source
        (payloadHash runtime.std admitted.canonical) result := by
  rcases ingest_cases runtime call db with ⟨failure, raised, -⟩ |
    ⟨admitted, other, admits, -, found, answered, same⟩ | ⟨admitted, other, stored, answered⟩
  · rw [raised] at accepted
    cases accepted
  · obtain rfl := Except.ok.inj (answered.symm.trans accepted)
    obtain ⟨sameId, ⟨batch, batchIn, ofTenant, ofInstallation, batchId, sameHash⟩, existing⟩ :=
      duplicateBatch_eq_ok found
    obtain ⟨row, rowIn, rowTenant, rowBatch, ids, observations, isEnvelope⟩ :=
      filed.queued batch batchIn
    rw [same]
    refine ⟨admitted, admits, sameId,
      ⟨batch, batchIn, ofTenant, ofInstallation, batchId.trans sameId.symm, sameHash⟩, row, rowIn,
      rowTenant.trans ofTenant, (rowBatch.trans batchId).trans sameId.symm, observations, ?_⟩
    -- The ids that were found are those of the only outbox row of the batch.
    have held : existingObservationIds runtime call.source admitted.batchId db = .ok ids := by
      refine existingObservationIds_held
        ⟨row, rowIn, rowTenant.trans ofTenant, rowBatch.trans batchId⟩ ?_
      intro another anotherIn _ anotherBatch
      rw [List.inj_on_of_nodup_map filed.single anotherIn rowIn
        (anotherBatch.trans (rowBatch.trans batchId).symm)]
      exact ⟨observations, isEnvelope⟩
    rw [← Except.ok.inj (held.symm.trans existing)]
    exact isEnvelope
  · obtain rfl := Except.ok.inj (answered.symm.trans accepted)
    obtain ⟨observations, outbox⟩ := stored.outbox
    refine ⟨admitted, stored.admits, stored.batchId,
      ⟨batchRow runtime call.source call.now admitted, ?_, rfl, rfl, stored.batchId.symm, rfl⟩,
      outboxRow runtime call.source call.now call.outboxId admitted
        (envelope admitted.batchId other.observationIds observations), ?_, rfl, stored.batchId.symm,
      observations, rfl⟩
    · rw [stored.batches]
      exact List.mem_append_right _ (List.mem_singleton_self _)
    · rw [outbox]
      exact List.mem_append_right _ (List.mem_singleton_self _)

theorem validateCapturedAtDrift_eq_ok {now : Timestamp} {capturedAt : PyDatetime} :
    validateCapturedAtDrift now capturedAt = .ok () ↔
      capturedAt.offset.isNone = false ∧ |now - capturedAt.instant| < capturedAtMaxDrift := by
  unfold validateCapturedAtDrift
  split
  · rename_i naive
    simp [naive]
  · rename_i aware
    split
    · rename_i far
      simp [not_lt.mpr far]
    · rename_i near
      exact iff_of_true rfl ⟨eq_false_of_ne_true aware, lt_of_not_ge near⟩

/-- **The checks of a retry** are those of the first time, but for the clock and the installation. -/
theorem admission_again (admits : admission runtime call.source call.body call.now db = .ok admitted)
    (sameBody : retry.body = call.body)
    (active : resolveInstallation retry.source later = some installation) :
    parseCapturedAt runtime (call.body.get "captured_at") = .ok admitted.capturedAt ∧
      validateCapturedAtDrift call.now admitted.capturedAt = .ok () ∧
      ((∃ again, admission runtime retry.source retry.body retry.now later = .ok again) →
        validateCapturedAtDrift retry.now admitted.capturedAt = .ok ()) ∧
      (validateCapturedAtDrift retry.now admitted.capturedAt = .ok () →
        admission runtime retry.source retry.body retry.now later = .ok { admitted with installation }) := by
  obtain ⟨passes, parsed, counted, written, near⟩ :=
    validateLoaded_eq_ok.mp (admission_eq_ok.mp admits).1
  refine ⟨parsed, near, ?_, fun inTime => ?_⟩
  · rintro ⟨again, repeated⟩
    obtain ⟨-, parsedAgain, -, -, nearAgain⟩ :=
      validateLoaded_eq_ok.mp (admission_eq_ok.mp repeated).1
    rw [sameBody] at parsedAgain
    rwa [← Except.ok.inj (parsed.symm.trans parsedAgain)] at nearAgain
  · rw [sameBody]
    exact admission_eq_ok.mpr
      ⟨validateLoaded_eq_ok.mpr ⟨passes, parsed, counted, written, inTime⟩, active⟩

/-- A batch that was accepted in some run from empty tables, and its body sent again later by the installation,
which is still active. -/
structure Retried (runtime : BodyRuntime) (start db later : TelemetryDb) (call retry : IngestCall)
    (result : IngestResult) (installation : Installation) : Prop where
  empty : start.batches = [] ∧ start.outbox = []
  reached : start.Reaches runtime db
  accepted : call.answer runtime db = .ok result
  since : (db.ingest runtime call).Reaches runtime later
  sameBody : retry.body = call.body
  sameTenant : retry.source.tenantId = call.source.tenantId
  sameInstallation : retry.source.installationId = call.source.installationId
  active : resolveInstallation retry.source later = some installation
  notEarlier : call.now ≤ retry.now

/-- A retry is answered with the ids of the first time, and changes no table. -/
def RetryAnswered (runtime : BodyRuntime) (later : TelemetryDb) (retry : IngestCall) (result : IngestResult) :
    Prop :=
  (∃ answer, retry.answer runtime later = .ok answer ∧
      answer.observationIds = result.observationIds) ∧
    later.ingest runtime retry = later

theorem retry_found (filed : later.Filed)
    (admits : admission runtime retry.source retry.body retry.now later = .ok admitted)
    (remembers : later.Remembers retry.source (payloadHash runtime.std admitted.canonical) result)
    (sameId : result.batchId = admitted.batchId)
    (object : admitted.installation.capabilities.isDict = true) :
    RetryAnswered runtime later retry result := by
  obtain ⟨fields, isObject⟩ : ∃ fields, admitted.installation.capabilities = .obj fields := by
    rcases shape : admitted.installation.capabilities with - | flag | number | number | text | items |
      fields
    case obj => exact ⟨fields, rfl⟩
    all_goals
      rw [shape] at object
      cases object
  obtain ⟨row, rowIn, -, -, rowBatch, -⟩ := remembers.batch
  obtain ⟨receivedAt, found⟩ := remembers.duplicate filed
  have taken : batchTaken admitted.batchId later = true :=
    List.any_eq_true.mpr ⟨row, rowIn, beq_iff_eq.mpr (rowBatch.trans sameId)⟩
  have ran := ingestBatch_admitted admits isObject
  rw [if_pos taken, ← sameId, found] at ran
  unfold RetryAnswered IngestCall.answer TelemetryDb.ingest
  rw [ran]
  exact ⟨⟨_, rfl, rfl⟩, rfl⟩

/-- **Which retries are answered as the first time**, in every run: those that come within the drift of the time
of capture, while the capabilities of the installation are an object. -/
theorem retry_answered_iff (runtime : BodyRuntime) (start db later : TelemetryDb) (call retry : IngestCall)
    (result : IngestResult) (installation : Installation) (capturedAt : PyDatetime)
    (retried : Retried runtime start db later call retry result installation)
    (captured : parseCapturedAt runtime (call.body.get "captured_at") = .ok capturedAt) :
    RetryAnswered runtime later retry result ↔
      retry.now - capturedAt.instant < capturedAtMaxDrift ∧
        installation.capabilities.isDict = true := by
  have filed := (filed_empty retried.empty.1 retried.empty.2).run retried.reached
  obtain ⟨admitted, admits, sameId, remembers⟩ := accepted_remembers filed retried.accepted
  obtain ⟨parsed, near, onlyNear, again⟩ := admission_again admits retried.sameBody retried.active
  obtain rfl := Except.ok.inj (parsed.symm.trans captured)
  obtain ⟨aware, near⟩ := validateCapturedAtDrift_eq_ok.mp near
  constructor
  · rintro ⟨⟨answer, answered, -⟩, -⟩
    -- A retry that is refused is refused before its batch is looked up.
    have drift : validateCapturedAtDrift retry.now admitted.capturedAt = .ok () := by
      refine onlyNear ?_
      rcases repeated : admission runtime retry.source retry.body retry.now later with failure | other
      · unfold IngestCall.answer at answered
        rw [ingestBatch_eq, repeated] at answered
        cases answered
      · exact ⟨other, rfl⟩
    refine ⟨lt_of_le_of_lt (le_abs_self _) (validateCapturedAtDrift_eq_ok.mp drift).2, ?_⟩
    obtain ⟨fields, object⟩ := capabilities_read (again drift) fun raised raises => by
      rw [raises] at answered
      cases answered
    exact congrArg Json.isDict object
  · rintro ⟨inTime, object⟩
    have drift : validateCapturedAtDrift retry.now admitted.capturedAt = .ok () := by
      refine validateCapturedAtDrift_eq_ok.mpr ⟨aware, abs_lt.mpr ⟨?_, inTime⟩⟩
      exact lt_of_lt_of_le (abs_lt.mp near).1 (sub_le_sub_right retried.notEarlier _)
    have kept := remembers.run retried.since
    refine retry_found (filed.ingest.run retried.since) (again drift) ?_ sameId object
    obtain ⟨batch, batchIn, holds⟩ := kept.batch
    obtain ⟨row, rowIn, holdsToo⟩ := kept.ids
    rw [← retried.sameTenant, ← retried.sameInstallation] at holds
    rw [← retried.sameTenant] at holdsToo
    exact ⟨⟨batch, batchIn, holds⟩, row, rowIn, holdsToo⟩

/-- `cpuCall` again, some microseconds after. -/
def cpuRetry (delay : Timestamp) : IngestCall :=
  { cpuCall with now := cpuCall.now + delay, outboxId := 61 }

/-- The answer to `cpuCall`. -/
def cpuResult : IngestResult where
  batchId := 50
  observationIds := [0x698478ebd66951cb8a5081c912537220]
  ingestedAt := 1767225600000000

theorem cpuRetried {delay : Timestamp} (notEarlier : 0 ≤ delay) :
    Retried cpuRuntime cpuDb cpuDb (cpuDb.ingest cpuRuntime cpuCall) cpuCall (cpuRetry delay) cpuResult
      cpuInstallation where
  empty := ⟨rfl, rfl⟩
  reached := Transition.System.Reachable.refl
  accepted := toOption_eq_some (by decide +kernel)
  since := Transition.System.Reachable.refl
  sameBody := rfl
  sameTenant := rfl
  sameInstallation := rfl
  active := by
    show resolveInstallation cpuSource (cpuDb.ingest cpuRuntime cpuCall) = _
    decide +kernel
  notEarlier := le_add_of_nonneg_right notEarlier

/-- A retry after a minute is answered. -/
theorem prompt_retry_answered :
    RetryAnswered cpuRuntime (cpuDb.ingest cpuRuntime cpuCall) (cpuRetry (60 * second)) cpuResult :=
  (retry_answered_iff cpuRuntime cpuDb cpuDb (cpuDb.ingest cpuRuntime cpuCall) cpuCall
    (cpuRetry (60 * second)) cpuResult cpuInstallation (.utc 1767225600000000)
    (cpuRetried (by decide)) rfl).mpr (by decide)

/-- The same retry after ten minutes is refused as a body that is too old. -/
theorem late_retry_refused :
    (cpuRetry (600 * second)).answer cpuRuntime (cpuDb.ingest cpuRuntime cpuCall) =
        .error (.validation (.driftTooLarge (600 * second))) ∧
      ¬ ∀ (runtime : BodyRuntime) (start db later : TelemetryDb) (call retry : IngestCall)
        (result : IngestResult) (installation : Installation),
        Retried runtime start db later call retry result installation →
          RetryAnswered runtime later retry result := by
  have refused : (cpuRetry (600 * second)).answer cpuRuntime (cpuDb.ingest cpuRuntime cpuCall) =
      .error (.validation (.driftTooLarge (600 * second))) := by
    decide +kernel
  refine ⟨refused, fun claim => ?_⟩
  obtain ⟨⟨answer, answered, -⟩, -⟩ := claim cpuRuntime cpuDb cpuDb (cpuDb.ingest cpuRuntime cpuCall)
    cpuCall (cpuRetry (600 * second)) cpuResult cpuInstallation (cpuRetried (by decide))
  rw [refused] at answered
  cases answered

end Retry

end CosMonitor
