/-
**Histories of one installation's batches.**

An installation sends and re-sends batches while others send theirs and installations come and go. The
log of a history holds the bodies of its accepted calls with their results.

* `ingestSystem`, `IngestAllowed`: the history, call by call, in which nobody else uses its batch ids;
* `IngestHistory.Consistent`: what the tables and the log have to do with each other, in every history;
* `ingest_law_iff`: exactly when a call keeps the idempotency contract (`IngestLaw`).
-/

import CosMonitor.Foundation.Transition
import CosMonitor.Telemetry.Publisher
import CosMonitor.Telemetry.StorableBatch
import CosMonitor.Telemetry.TenantIsolation

namespace CosMonitor

open Result

/-! ### Histories -/

section Histories

/-- The tables, and the calls of the installation that were accepted, each with its result. -/
structure IngestHistory where
  db : TelemetryDb
  answered : List (Loaded × IngestResult)

/-- What happens between two states of the tables. -/
inductive IngestEvent where
  /-- The installation sends a batch. -/
  | call (call : IngestCall)
  /-- Another installation sends a batch. -/
  | others (call : IngestCall)
  /-- Installations are registered, changed or revoked. -/
  | installations (rows : List Installation)

/-- The log after a call. -/
def logAnswer (body : Loaded) (answered : List (Loaded × IngestResult)) :
    Except IngestError IngestResult → List (Loaded × IngestResult)
  | .ok result => answered ++ [(body, result)]
  | .error _ => answered

/-- One event of a history. -/
def ingestSystem (runtime : BodyRuntime) : Transition.System IngestHistory IngestEvent where
  step := fun history event =>
    match event with
    | .call call => some
        { db := history.db.ingest runtime call
          answered := logAnswer call.body history.answered (call.answer runtime history.db) }
    | .others call => some { history with db := history.db.ingest runtime call }
    | .installations rows => some { history with db := { history.db with installations := rows } }

/-- The batch id of a body that passes the checks. -/
def SendsBatch (runtime : BodyRuntime) (call : IngestCall) (batchId : Uuid) : Prop :=
  ∃ samples, validateBody runtime call.body = .ok (batchId, samples)

/-- The events of a history in which the installation alone uses the batch ids `mine`. The keys that the
database generates are new, and SHA-256 does not collide on the payloads of the history. -/
def IngestAllowed (runtime : BodyRuntime) (tenant installation : Uuid) (mine : Uuid → Prop)
    (history : IngestHistory) : IngestEvent → Prop
  | .call call =>
      call.source.tenantId = tenant ∧ call.source.installationId = installation ∧
        (∀ batchId, SendsBatch runtime call batchId → mine batchId) ∧
        (∀ row ∈ history.db.outbox, row.id ≠ call.outboxId) ∧
        ∀ earlier ∈ history.answered, ∀ first second,
          canonicalLoaded runtime earlier.1.fields = .ok first →
            canonicalLoaded runtime call.body.fields = .ok second →
              payloadHash runtime.std first = payloadHash runtime.std second → first = second
  | .others call => ∀ batchId, SendsBatch runtime call batchId → ¬mine batchId
  | .installations _ => True

/-- Nothing is stored under the batch ids yet. -/
structure TelemetryDb.Unsent (tenant : Uuid) (mine : Uuid → Prop) (db : TelemetryDb) : Prop where
  keyed : db.Keyed
  batches : ∀ row ∈ db.batches, ¬mine row.batchId
  samples : ∀ row ∈ db.samples, row.tenantId = tenant → ¬mine row.batchId
  outbox : ∀ row ∈ db.outbox, row.tenantId = tenant → ¬mine row.batchId

/-- A batch id was sent before, and accepted. -/
def IngestHistory.Knows (history : IngestHistory) (batchId : Uuid) : Prop :=
  ∃ earlier ∈ history.answered, earlier.2.batchId = batchId

/-- What the tables hold of the accepted calls. -/
structure IngestHistory.Consistent (runtime : BodyRuntime) (tenant installation : Uuid) (mine : Uuid → Prop)
    (history : IngestHistory) : Prop where
  keyed : history.db.Keyed
  own : ∀ earlier ∈ history.answered, mine earlier.2.batchId
  known : ∀ row ∈ history.db.batches, mine row.batchId → history.Knows row.batchId
  sampled : ∀ row ∈ history.db.samples, row.tenantId = tenant → mine row.batchId →
    history.Knows row.batchId
  queued : ∀ row ∈ history.db.outbox, row.tenantId = tenant → mine row.batchId →
    history.Knows row.batchId
  /-- An accepted call has a row of its batch, with the hash of its payload. -/
  stored : ∀ earlier ∈ history.answered, ∃ row ∈ history.db.batches, row.tenantId = tenant ∧
    row.installationId = installation ∧ row.batchId = earlier.2.batchId ∧
      ∃ canonical, canonicalLoaded runtime earlier.1.fields = .ok canonical ∧
        row.payloadHash = payloadHash runtime.std canonical
  /-- It has an outbox row. -/
  sent : ∀ earlier ∈ history.answered, ∃ row ∈ history.db.outbox, row.tenantId = tenant ∧
    row.batchId = earlier.2.batchId
  /-- Every outbox row of its batch holds the ids that it was answered with. -/
  ids : ∀ earlier ∈ history.answered, ∀ row ∈ history.db.outbox, row.tenantId = tenant →
    row.batchId = earlier.2.batchId →
      ∃ observations, row.observation = envelope row.batchId earlier.2.observationIds observations

end Histories

/-! ### Batches that were sent before -/

section Duplicates

variable {runtime : BodyRuntime} {tenant installation : Uuid} {mine : Uuid → Prop} {history : IngestHistory}
  {source : IngestSource} {earlier : Loaded × IngestResult}

theorem mapM_uuidText {read : Json → Except PyError Uuid} (ids : List Uuid)
    (reads : ∀ id, read (.str (uuidText id)) = .ok id) :
    (ids.map fun id => Json.str (uuidText id)).mapM read = .ok ids := by
  rw [mapM_eq_ok, List.forall₂_map_left_iff]
  exact List.forall₂_same.mpr fun id _ => reads id

theorem existingObservationIds_held {db : TelemetryDb} {batchId : Uuid} {ids : List Uuid}
    (sent : ∃ row ∈ db.outbox, row.tenantId = source.tenantId ∧ row.batchId = batchId)
    (holds : ∀ row ∈ db.outbox, row.tenantId = source.tenantId → row.batchId = batchId →
      ∃ observations, row.observation = envelope row.batchId ids observations) :
    existingObservationIds runtime source batchId db = .ok ids := by
  unfold existingObservationIds
  rcases found : db.outbox.find? (fun row => row.tenantId == source.tenantId &&
      row.batchId == batchId) with - | row
  · obtain ⟨row, rowIn, rowTenant, rowBatch⟩ := sent
    have missed := List.find?_eq_none.mp found row rowIn
    simp [rowTenant, rowBatch] at missed
  · have wanted := List.find?_some found
    simp only [Bool.and_eq_true, beq_iff_eq] at wanted
    obtain ⟨observations, isEnvelope⟩ :=
      holds row (List.mem_of_find?_eq_some found) wanted.1 wanted.2
    have listed : row.observation.lookup "observation_ids" =
        some (.arr (ids.map fun id => .str (uuidText id))) := by
      rw [isEnvelope]
      rfl
    rw [found]
    simp only [listed]
    refine mapM_uuidText _ fun id => ?_
    rw [show runtime.std.str (.str (uuidText id)) = uuidText id from rfl, parseUuid_uuidText]

theorem TelemetryDb.Keyed.find_batch {db : TelemetryDb} (keyed : db.Keyed) {row : MetricBatch}
    (rowIn : row ∈ db.batches) (ofTenant : row.tenantId = source.tenantId)
    (ofInstallation : row.installationId = source.installationId) :
    db.batches.find? (fun candidate => candidate.tenantId == source.tenantId &&
      candidate.installationId == source.installationId && candidate.batchId == row.batchId) =
        some row := by
  rcases search : db.batches.find? (fun candidate => candidate.tenantId == source.tenantId &&
      candidate.installationId == source.installationId && candidate.batchId == row.batchId) with
    - | other
  · have missed := List.find?_eq_none.mp search row rowIn
    simp [ofTenant, ofInstallation] at missed
  · have wanted := List.find?_some search
    simp only [Bool.and_eq_true, beq_iff_eq] at wanted
    rw [search, List.inj_on_of_nodup_map keyed (List.mem_of_find?_eq_some search) rowIn wanted.2]

theorem existingObservationIds_known (consistent : history.Consistent runtime tenant installation mine)
    (ofTenant : source.tenantId = tenant) (member : earlier ∈ history.answered) :
    existingObservationIds runtime source earlier.2.batchId history.db =
      .ok earlier.2.observationIds := by
  subst ofTenant
  exact existingObservationIds_held (consistent.sent earlier member) (consistent.ids earlier member)

/-- **A batch id that was accepted before** is answered with the ids of that time if the payload has the
hash of that time, and conflicts otherwise. -/
theorem duplicateBatch_known (consistent : history.Consistent runtime tenant installation mine)
    (ofTenant : source.tenantId = tenant) (ofInstallation : source.installationId = installation)
    (member : earlier ∈ history.answered) (hash : String) :
    ∃ canonical, canonicalLoaded runtime earlier.1.fields = .ok canonical ∧
      (payloadHash runtime.std canonical = hash →
        ∃ receivedAt, duplicateBatch runtime source earlier.2.batchId hash history.db =
          .ok { batchId := earlier.2.batchId
                observationIds := earlier.2.observationIds
                ingestedAt := receivedAt }) ∧
      (payloadHash runtime.std canonical ≠ hash →
        duplicateBatch runtime source earlier.2.batchId hash history.db =
          .error (.payloadConflict earlier.2.batchId (payloadHash runtime.std canonical))) := by
  obtain ⟨row, rowIn, rowTenant, rowInstallation, rowBatch, canonical, isCanonical, rowHash⟩ :=
    consistent.stored earlier member
  have found := consistent.keyed.find_batch rowIn (rowTenant.trans ofTenant.symm)
    (rowInstallation.trans ofInstallation.symm)
  rw [rowBatch] at found
  refine ⟨canonical, isCanonical, ?_⟩
  unfold duplicateBatch
  simp only [found, rowHash]
  constructor
  · intro same
    rw [if_pos same, existingObservationIds_known consistent ofTenant member]
    exact ⟨_, rfl⟩
  · intro differ
    rw [if_neg differ]

end Duplicates

/-! ### Every history -/

section Kept

variable {runtime : BodyRuntime} {tenant installation : Uuid} {mine : Uuid → Prop} {history : IngestHistory}
  {call : IngestCall}

theorem sendsBatch_admitted {db : TelemetryDb} {admitted : AdmittedBatch}
    (admits : admission runtime call.source call.body call.now db = .ok admitted) :
    SendsBatch runtime call admitted.batchId :=
  ⟨admitted.samples, (validateLoaded_eq_ok.mp (admission_eq_ok.mp admits).1).1⟩

theorem canonical_admitted {db : TelemetryDb} {admitted : AdmittedBatch}
    (admits : admission runtime call.source call.body call.now db = .ok admitted) :
    canonicalLoaded runtime call.body.fields = .ok admitted.canonical :=
  (validateLoaded_eq_ok.mp (admission_eq_ok.mp admits).1).2.2.2.1

theorem IngestHistory.Consistent.others
    (consistent : history.Consistent runtime tenant installation mine)
    (foreign : ∀ batchId, SendsBatch runtime call batchId → ¬mine batchId) :
    ({ history with db := history.db.ingest runtime call } : IngestHistory).Consistent runtime tenant
      installation mine := by
  rcases ingest_outcomes runtime call history.db with same | ⟨admitted, result, stored, -⟩
  · rw [same]
    exact consistent
  have apart : ¬mine admitted.batchId :=
    foreign admitted.batchId (sendsBatch_admitted stored.admits)
  obtain ⟨batchesKept, outboxKept⟩ := stored.keeps
  have oldOutbox : ∀ row ∈ (history.db.ingest runtime call).outbox, mine row.batchId →
      row ∈ history.db.outbox := by
    intro row member own
    rcases stored.mem_outbox member with old | ⟨new, -⟩
    · exact old
    · exact absurd (new ▸ own) apart
  refine ⟨consistent.keyed.ingest, consistent.own, ?_, ?_, ?_, ?_, ?_, ?_⟩
  · intro row member own
    rcases stored.mem_batches member with old | rfl
    · exact consistent.known row old own
    · exact absurd own apart
  · intro row member ofTenant own
    rcases stored.mem_samples member with old | new
    · exact consistent.sampled row old ofTenant own
    · exact absurd (new ▸ own) apart
  · exact fun row member ofTenant own => consistent.queued row (oldOutbox row member own) ofTenant own
  · intro earlier member
    obtain ⟨row, rowIn, rest⟩ := consistent.stored earlier member
    exact ⟨row, batchesKept rowIn, rest⟩
  · intro earlier member
    obtain ⟨row, rowIn, rest⟩ := consistent.sent earlier member
    exact ⟨row, outboxKept rowIn, rest⟩
  · intro earlier member row rowIn ofTenant same
    have own : mine row.batchId := same ▸ consistent.own earlier member
    exact consistent.ids earlier member row (oldOutbox row rowIn own) ofTenant same

theorem IngestHistory.Consistent.again (consistent : history.Consistent runtime tenant installation mine)
    {earlier answer : Loaded × IngestResult} (member : earlier ∈ history.answered)
    (sameBatch : answer.2.batchId = earlier.2.batchId)
    (sameIds : answer.2.observationIds = earlier.2.observationIds)
    (sameHash : ∃ first second, canonicalLoaded runtime answer.1.fields = .ok first ∧
      canonicalLoaded runtime earlier.1.fields = .ok second ∧
        payloadHash runtime.std first = payloadHash runtime.std second) :
    ({ history with answered := history.answered ++ [answer] } : IngestHistory).Consistent runtime tenant
      installation mine := by
  have knows : ∀ {batchId : Uuid}, history.Knows batchId →
      ({ history with answered := history.answered ++ [answer] } : IngestHistory).Knows batchId := by
    rintro batchId ⟨other, otherIn, same⟩
    exact ⟨other, List.mem_append_left _ otherIn, same⟩
  refine ⟨consistent.keyed, ?_, ?_, ?_, ?_, ?_, ?_, ?_⟩
  · intro other otherIn
    rcases List.mem_append.mp otherIn with old | new
    · exact consistent.own other old
    · rw [List.mem_singleton.mp new, sameBatch]
      exact consistent.own earlier member
  · exact fun row rowIn own => knows (consistent.known row rowIn own)
  · exact fun row rowIn ofTenant own => knows (consistent.sampled row rowIn ofTenant own)
  · exact fun row rowIn ofTenant own => knows (consistent.queued row rowIn ofTenant own)
  · intro other otherIn
    rcases List.mem_append.mp otherIn with old | new
    · exact consistent.stored other old
    · obtain ⟨first, second, isFirst, isSecond, same⟩ := sameHash
      obtain ⟨row, rowIn, rowTenant, rowInstallation, rowBatch, canonical, isCanonical, rowHash⟩ :=
        consistent.stored earlier member
      obtain rfl := Except.ok.inj (isSecond.symm.trans isCanonical)
      rw [List.mem_singleton.mp new, sameBatch]
      exact ⟨row, rowIn, rowTenant, rowInstallation, rowBatch, first, isFirst, rowHash.trans same.symm⟩
  · intro other otherIn
    rcases List.mem_append.mp otherIn with old | new
    · exact consistent.sent other old
    · rw [List.mem_singleton.mp new, sameBatch]
      exact consistent.sent earlier member
  · intro other otherIn
    rcases List.mem_append.mp otherIn with old | new
    · exact consistent.ids other old
    · rw [List.mem_singleton.mp new, sameBatch, sameIds]
      exact consistent.ids earlier member

theorem IngestHistory.Consistent.stores (consistent : history.Consistent runtime tenant installation mine)
    {admitted : AdmittedBatch} {result : IngestResult} (ofTenant : call.source.tenantId = tenant)
    (ofInstallation : call.source.installationId = installation) (own : mine admitted.batchId)
    (stored : StoredBatch runtime call history.db (history.db.ingest runtime call) admitted result) :
    IngestHistory.Consistent runtime tenant installation mine
      { db := history.db.ingest runtime call
        answered := history.answered ++ [(call.body, result)] } := by
  obtain ⟨batchesKept, outboxKept⟩ := stored.keeps
  have newIn : (call.body, result) ∈ history.answered ++ [(call.body, result)] :=
    List.mem_append_right _ (List.mem_singleton_self _)
  have knows : ∀ {batchId : Uuid}, history.Knows batchId → IngestHistory.Knows
      { db := history.db.ingest runtime call
        answered := history.answered ++ [(call.body, result)] } batchId := by
    rintro batchId ⟨other, otherIn, same⟩
    exact ⟨other, List.mem_append_left _ otherIn, same⟩
  -- Nothing was answered under this id: its batch would have a row.
  have unknown : ¬history.Knows admitted.batchId := by
    rintro ⟨earlier, member, same⟩
    obtain ⟨row, rowIn, -, -, rowBatch, -⟩ := consistent.stored earlier member
    exact List.any_eq_false.mp stored.isNew row rowIn (beq_iff_eq.mpr (rowBatch.trans same))
  refine ⟨consistent.keyed.ingest, ?_, ?_, ?_, ?_, ?_, ?_, ?_⟩
  · intro earlier member
    rcases List.mem_append.mp member with old | new
    · exact consistent.own earlier old
    · rw [List.mem_singleton.mp new]
      exact stored.batchId ▸ own
  · intro row member ownRow
    rcases stored.mem_batches member with old | rfl
    · exact knows (consistent.known row old ownRow)
    · exact ⟨_, newIn, stored.batchId⟩
  · intro row member rowTenant ownRow
    rcases stored.mem_samples member with old | new
    · exact knows (consistent.sampled row old rowTenant ownRow)
    · exact ⟨_, newIn, stored.batchId.trans new.symm⟩
  · intro row member rowTenant ownRow
    rcases stored.mem_outbox member with old | ⟨new, -⟩
    · exact knows (consistent.queued row old rowTenant ownRow)
    · exact ⟨_, newIn, stored.batchId.trans new.symm⟩
  · intro earlier member
    rcases List.mem_append.mp member with old | new
    · obtain ⟨row, rowIn, rest⟩ := consistent.stored earlier old
      exact ⟨row, batchesKept rowIn, rest⟩
    · rw [List.mem_singleton.mp new]
      refine ⟨batchRow runtime call.source call.now admitted, ?_, ofTenant, ofInstallation,
        stored.batchId.symm, admitted.canonical, canonical_admitted stored.admits, rfl⟩
      show _ ∈ (history.db.ingest runtime call).batches
      rw [stored.batches]
      exact List.mem_append_right _ (List.mem_singleton_self _)
  · intro earlier member
    rcases List.mem_append.mp member with old | new
    · obtain ⟨row, rowIn, rest⟩ := consistent.sent earlier old
      exact ⟨row, outboxKept rowIn, rest⟩
    · rw [List.mem_singleton.mp new]
      obtain ⟨observations, outbox⟩ := stored.outbox
      refine ⟨outboxRow runtime call.source call.now call.outboxId admitted
        (envelope admitted.batchId result.observationIds observations), ?_, ofTenant,
        stored.batchId.symm⟩
      show _ ∈ (history.db.ingest runtime call).outbox
      rw [outbox]
      exact List.mem_append_right _ (List.mem_singleton_self _)
  · intro earlier member row rowIn rowTenant same
    rcases List.mem_append.mp member with old | new
    · rcases stored.mem_outbox rowIn with oldRow | ⟨newRow, -⟩
      · exact consistent.ids earlier old row oldRow rowTenant same
      · exact absurd ⟨earlier, old, same.symm.trans newRow⟩ unknown
    · rw [List.mem_singleton.mp new] at same ⊢
      rcases stored.mem_outbox rowIn with oldRow | ⟨-, holds⟩
      · have sameId : row.batchId = admitted.batchId := same.trans stored.batchId
        exact absurd (sameId ▸ consistent.queued row oldRow rowTenant (sameId ▸ own)) unknown
      · exact holds

theorem TelemetryDb.Unsent.consistent {start : TelemetryDb} (unsent : start.Unsent tenant mine) :
    IngestHistory.Consistent runtime tenant installation mine { db := start, answered := [] } where
  keyed := unsent.keyed
  own := fun _ member => nomatch member
  known := fun row member own => absurd own (unsent.batches row member)
  sampled := fun row member ofTenant own => absurd own (unsent.samples row member ofTenant)
  queued := fun row member ofTenant own => absurd own (unsent.outbox row member ofTenant)
  stored := fun _ member => nomatch member
  sent := fun _ member => nomatch member
  ids := fun _ member => nomatch member

theorem IngestHistory.Consistent.knows_taken
    (consistent : history.Consistent runtime tenant installation mine) {batchId : Uuid}
    (own : mine batchId) (taken : batchTaken batchId history.db = true) : history.Knows batchId := by
  obtain ⟨row, member, same⟩ := List.any_eq_true.mp taken
  have sameId : row.batchId = batchId := beq_iff_eq.mp same
  exact sameId ▸ consistent.known row member (sameId ▸ own)

theorem IngestHistory.Consistent.step
    (consistent : history.Consistent runtime tenant installation mine) {event : IngestEvent}
    {after : IngestHistory} (allowed : IngestAllowed runtime tenant installation mine history event)
    (stepped : (ingestSystem runtime).step history event = some after) :
    after.Consistent runtime tenant installation mine := by
  cases event with
  | installations rows =>
      rw [← Option.some.inj stepped]
      exact ⟨consistent.keyed, consistent.own, consistent.known, consistent.sampled,
        consistent.queued, consistent.stored, consistent.sent, consistent.ids⟩
  | others call =>
      rw [← Option.some.inj stepped]
      exact consistent.others allowed
  | call call =>
      obtain ⟨ofTenant, ofInstallation, ownIds, -, -⟩ := allowed
      rw [← Option.some.inj stepped]
      rcases ingest_cases runtime call history.db with ⟨failure, raised, same⟩ |
        ⟨admitted, result, admits, taken, found, answered, same⟩ | ⟨admitted, result, stored, answered⟩
      · rw [raised, same]
        exact consistent
      · have own : mine admitted.batchId := ownIds _ (sendsBatch_admitted admits)
        obtain ⟨earlier, member, sameId⟩ := consistent.knows_taken own taken
        obtain ⟨canonical, isCanonical, repeats, conflicts⟩ :=
          duplicateBatch_known consistent ofTenant ofInstallation member
            (payloadHash runtime.std admitted.canonical)
        rw [sameId] at repeats conflicts
        rw [answered, same]
        by_cases sameHash : payloadHash runtime.std canonical = payloadHash runtime.std admitted.canonical
        · obtain ⟨receivedAt, returned⟩ := repeats sameHash
          have holds := Except.ok.inj (found.symm.trans returned)
          refine consistent.again member ?_ ?_
            ⟨admitted.canonical, canonical, canonical_admitted admits, isCanonical, sameHash.symm⟩
          · rw [holds, sameId]
          · rw [holds]
        · rw [conflicts sameHash] at found
          cases found
      · have own : mine admitted.batchId := ownIds _ (sendsBatch_admitted stored.admits)
        rw [answered]
        exact consistent.stores ofTenant ofInstallation own stored

/-- **Every history keeps the tables and the log together.** -/
theorem reachable_consistent {start : TelemetryDb} (unsent : start.Unsent tenant mine)
    (reached : (ingestSystem runtime).Reachable (IngestAllowed runtime tenant installation mine)
      { db := start, answered := [] } history) :
    history.Consistent runtime tenant installation mine :=
  reached.invariant unsent.consistent fun _ _ _ consistent allowed stepped =>
    consistent.step allowed stepped

end Kept

/-! ### The contract of a call -/

section Law

/-- A call stored its batch: one row of the batch, one row for each sample, one row of the outbox. -/
def AddsBatch (runtime : BodyRuntime) (call : IngestCall) (db : TelemetryDb) (admitted : AdmittedBatch) : Prop :=
  ∃ result batch rows entry, call.answer runtime db = .ok result ∧ result.batchId = admitted.batchId ∧
    db.ingest runtime call =
      { db with
        batches := db.batches ++ [batch]
        samples := db.samples ++ rows
        outbox := db.outbox ++ [entry] } ∧
    batch.batchId = admitted.batchId ∧ entry.batchId = admitted.batchId ∧
    List.Forall₂ (fun sample row => row.batchId = admitted.batchId ∧
      intOf (sample.get "sequence") = some row.sequence) admitted.samples rows

/-- The idempotency contract of a call. -/
structure IngestLaw (runtime : BodyRuntime) (history : IngestHistory) (call : IngestCall) : Prop where
  /-- A body that does not pass the checks, or an installation that is not active, changes nothing. -/
  rejected : ∀ failure, admission runtime call.source call.body call.now history.db = .error failure →
    (∃ raised, call.answer runtime history.db = .error raised) ∧ history.db.ingest runtime call = history.db
  /-- A batch that is sent again is answered with the ids of the first time. -/
  repeated : ∀ admitted, admission runtime call.source call.body call.now history.db = .ok admitted →
    ∀ earlier ∈ history.answered, earlier.2.batchId = admitted.batchId →
      canonicalLoaded runtime earlier.1.fields = canonicalLoaded runtime call.body.fields →
      (∃ result, call.answer runtime history.db = .ok result ∧
          result.observationIds = earlier.2.observationIds) ∧
        history.db.ingest runtime call = history.db
  /-- Another payload under the same id is a conflict. -/
  conflicting : ∀ admitted, admission runtime call.source call.body call.now history.db = .ok admitted →
    ∀ earlier ∈ history.answered, earlier.2.batchId = admitted.batchId →
      canonicalLoaded runtime earlier.1.fields ≠ canonicalLoaded runtime call.body.fields →
      (∃ hash, call.answer runtime history.db = .error (.payloadConflict admitted.batchId hash)) ∧
        history.db.ingest runtime call = history.db
  /-- A new batch is stored. -/
  added : ∀ admitted, admission runtime call.source call.body call.now history.db = .ok admitted →
    ¬history.Knows admitted.batchId → AddsBatch runtime call history.db admitted

/-- The capabilities of the installation are an object, and a new batch is one that the tables take. -/
def StorableCall (runtime : BodyRuntime) (history : IngestHistory) (call : IngestCall) : Prop :=
  ∀ admitted, admission runtime call.source call.body call.now history.db = .ok admitted →
    ∃ fields, admitted.installation.capabilities = .obj fields ∧
      (¬history.Knows admitted.batchId → StorableBatch runtime fields admitted)

variable {runtime : BodyRuntime} {tenant installation : Uuid} {mine : Uuid → Prop} {history : IngestHistory}
  {call : IngestCall}

theorem StoredBatch.adds {db : TelemetryDb} {admitted : AdmittedBatch} {result : IngestResult}
    (stored : StoredBatch runtime call db (db.ingest runtime call) admitted result)
    (answered : call.answer runtime db = .ok result) : AddsBatch runtime call db admitted := by
  obtain ⟨added, samples, built⟩ := stored.samples
  obtain ⟨observations, outbox⟩ := stored.outbox
  refine ⟨result, batchRow runtime call.source call.now admitted, added,
    outboxRow runtime call.source call.now call.outboxId admitted
      (envelope admitted.batchId result.observationIds observations),
    answered, stored.batchId, ?_, rfl, rfl, ?_⟩
  · show db.ingest runtime call = TelemetryDb.mk db.installations _ _ _
    rw [← stored.installations, ← stored.batches, ← samples, ← outbox]
  · refine built.imp fun sample row sampleOf => ?_
    obtain ⟨-, batch, counted⟩ := sampleRow_scope sampleOf
    exact ⟨batch, counted⟩

theorem qualityPolicy_raises {sender : Installation} {failure : IngestError}
    (raised : qualityPolicy sender = .error failure) : ∃ inner, failure = .python inner := by
  rcases bind_eq_error.mp raised with mapping | ⟨_, -, raised⟩
  · exact mapError_raises mapping
  rcases bind_eq_error.mp raised with fallback | ⟨_, -, raised⟩
  · exact mapError_raises fallback
  · cases raised

theorem capabilities_read {db : TelemetryDb} {admitted : AdmittedBatch}
    (admits : admission runtime call.source call.body call.now db = .ok admitted)
    (calm : ∀ raised, call.answer runtime db ≠ .error (.python raised)) :
    ∃ fields, admitted.installation.capabilities = .obj fields := by
  rcases policed : qualityPolicy admitted.installation with failure | policy
  · obtain ⟨inner, rfl⟩ := qualityPolicy_raises policed
    refine absurd ?_ (calm inner)
    unfold IngestCall.answer
    rw [ingestBatch_eq, admits]
    simp only [bind, Except.bind, policed, Except.map]
  · exact qualityPolicy_returned policed

theorem ingestBatch_admitted {db : TelemetryDb} {admitted : AdmittedBatch} {fields : List (String × Json)}
    (admits : admission runtime call.source call.body call.now db = .ok admitted)
    (object : admitted.installation.capabilities = .obj fields) :
    ingestBatch runtime call.source call.body call.now call.outboxId db =
      if batchTaken admitted.batchId db then
        (duplicateBatch runtime call.source admitted.batchId (payloadHash runtime.std admitted.canonical) db).map
          fun result => (result, db)
      else storeBatch runtime call.source call.now call.outboxId admitted
        (qualityMapping fields, defaultQualityClass fields) db := by
  rw [ingestBatch_eq, admits]
  simp only [bind, Except.bind, qualityPolicy_obj object]

theorem IngestHistory.Consistent.free
    (consistent : history.Consistent runtime tenant installation mine) {batchId : Uuid}
    (own : mine batchId) (isNew : ¬history.Knows batchId) :
    batchTaken batchId history.db = false ∧
      (∀ row ∈ history.db.samples, row.tenantId = tenant → row.batchId ≠ batchId) ∧
      ∀ row ∈ history.db.outbox, row.tenantId = tenant → row.batchId ≠ batchId := by
  refine ⟨?_, ?_, ?_⟩
  · rw [Bool.eq_false_iff]
    exact fun taken => isNew (consistent.knows_taken own taken)
  · rintro row member ofTenant rfl
    exact isNew (consistent.sampled row member ofTenant own)
  · rintro row member ofTenant rfl
    exact isNew (consistent.queued row member ofTenant own)

theorem IngestLaw.calm (law : IngestLaw runtime history call) {admitted : AdmittedBatch}
    (admits : admission runtime call.source call.body call.now history.db = .ok admitted)
    (raised : PyError) : call.answer runtime history.db ≠ .error (.python raised) := by
  intro answered
  by_cases knows : history.Knows admitted.batchId
  · obtain ⟨earlier, member, sameId⟩ := knows
    by_cases samePayload : canonicalLoaded runtime earlier.1.fields =
        canonicalLoaded runtime call.body.fields
    · obtain ⟨⟨result, returned, -⟩, -⟩ :=
        law.repeated admitted admits earlier member sameId samePayload
      rw [returned] at answered
      cases answered
    · obtain ⟨⟨hash, conflict⟩, -⟩ :=
        law.conflicting admitted admits earlier member sameId samePayload
      rw [conflict] at answered
      cases answered
  · obtain ⟨result, -, -, -, returned, -⟩ := law.added admitted admits knows
    rw [returned] at answered
    cases answered

theorem StorableCall.looksUp (storable : StorableCall runtime history call)
    (consistent : history.Consistent runtime tenant installation mine) {admitted : AdmittedBatch}
    (admits : admission runtime call.source call.body call.now history.db = .ok admitted)
    {earlier : Loaded × IngestResult} (member : earlier ∈ history.answered)
    (sameId : earlier.2.batchId = admitted.batchId) :
    ingestBatch runtime call.source call.body call.now call.outboxId history.db =
      (duplicateBatch runtime call.source admitted.batchId (payloadHash runtime.std admitted.canonical)
        history.db).map fun result => (result, history.db) := by
  obtain ⟨fields, object, -⟩ := storable admitted admits
  obtain ⟨row, rowIn, -, -, rowBatch, -⟩ := consistent.stored earlier member
  have taken : batchTaken admitted.batchId history.db = true :=
    List.any_eq_true.mpr ⟨row, rowIn, beq_iff_eq.mpr (rowBatch.trans sameId)⟩
  rw [ingestBatch_admitted admits object, if_pos taken]

section Allowed

variable (consistent : history.Consistent runtime tenant installation mine)
  (allowed : IngestAllowed runtime tenant installation mine history (.call call))

include consistent allowed

theorem IngestLaw.storable (law : IngestLaw runtime history call) : StorableCall runtime history call := by
  obtain ⟨ofTenant, -, ownIds, fresh, -⟩ := allowed
  intro admitted admits
  obtain ⟨fields, object⟩ := capabilities_read admits (law.calm admits)
  refine ⟨fields, object, fun isNew => ?_⟩
  have own : mine admitted.batchId := ownIds _ (sendsBatch_admitted admits)
  obtain ⟨free, samplesFree, outboxFree⟩ := consistent.free own isNew
  obtain ⟨result, -, -, -, returned, -⟩ := law.added admitted admits isNew
  rw [← ofTenant] at samplesFree outboxFree
  refine (storeBatch_returned_iff admits samplesFree outboxFree fresh).mp ?_
  unfold IngestCall.answer at returned
  rw [ingestBatch_admitted admits object, free, if_neg Bool.false_ne_true] at returned
  rcases stored : storeBatch runtime call.source call.now call.outboxId admitted
      (qualityMapping fields, defaultQualityClass fields) history.db with failure | accepted
  · rw [stored] at returned
    cases returned
  · exact ⟨accepted, rfl⟩

theorem StorableCall.adds (storable : StorableCall runtime history call) {admitted : AdmittedBatch}
    (admits : admission runtime call.source call.body call.now history.db = .ok admitted)
    (isNew : ¬history.Knows admitted.batchId) : AddsBatch runtime call history.db admitted := by
  obtain ⟨ofTenant, -, ownIds, fresh, -⟩ := allowed
  obtain ⟨fields, object, takes⟩ := storable admitted admits
  have own : mine admitted.batchId := ownIds _ (sendsBatch_admitted admits)
  obtain ⟨free, samplesFree, outboxFree⟩ := consistent.free own isNew
  rw [← ofTenant] at samplesFree outboxFree
  obtain ⟨⟨result, after⟩, stored⟩ :=
    (storeBatch_returned_iff admits samplesFree outboxFree fresh).mpr (takes isNew)
  have ran : ingestBatch runtime call.source call.body call.now call.outboxId history.db =
      .ok (result, after) := by
    rw [ingestBatch_admitted admits object, free, if_neg Bool.false_ne_true, stored]
  have tables : history.db.ingest runtime call = after := by
    unfold TelemetryDb.ingest
    rw [ran]
  have answered : call.answer runtime history.db = .ok result := by
    unfold IngestCall.answer
    rw [ran]
    rfl
  refine StoredBatch.adds ?_ answered
  rw [tables]
  exact storeBatch_eq_ok admits free stored

theorem StorableCall.law (storable : StorableCall runtime history call) : IngestLaw runtime history call where
  rejected := by
    intro failure refused
    have raised : ingestBatch runtime call.source call.body call.now call.outboxId history.db =
        .error failure := by
      rw [ingestBatch_eq, refused]
      rfl
    unfold IngestCall.answer TelemetryDb.ingest
    rw [raised]
    exact ⟨⟨failure, rfl⟩, rfl⟩
  repeated := by
    intro admitted admits earlier member sameId samePayload
    obtain ⟨canonical, isCanonical, repeats, -⟩ :=
      duplicateBatch_known consistent allowed.1 allowed.2.1 member
        (payloadHash runtime.std admitted.canonical)
    have same : canonical = admitted.canonical :=
      Except.ok.inj (isCanonical.symm.trans (samePayload.trans (canonical_admitted admits)))
    obtain ⟨receivedAt, found⟩ := repeats (congrArg (payloadHash runtime.std) same)
    rw [sameId] at found
    unfold IngestCall.answer TelemetryDb.ingest
    rw [storable.looksUp consistent admits member sameId, found]
    exact ⟨⟨_, rfl, rfl⟩, rfl⟩
  conflicting := by
    intro admitted admits earlier member sameId otherPayload
    obtain ⟨ofTenant, ofInstallation, -, -, noCollision⟩ := allowed
    obtain ⟨canonical, isCanonical, -, conflicts⟩ :=
      duplicateBatch_known consistent ofTenant ofInstallation member
        (payloadHash runtime.std admitted.canonical)
    have written := canonical_admitted admits
    have found := conflicts fun same => otherPayload <| by
      rw [isCanonical, written, noCollision earlier member _ _ isCanonical written same]
    rw [sameId] at found
    unfold IngestCall.answer TelemetryDb.ingest
    rw [storable.looksUp consistent admits member sameId, found]
    exact ⟨⟨_, rfl⟩, rfl⟩
  added := fun _ admits isNew => storable.adds consistent allowed admits isNew

end Allowed

/-- **A call keeps the contract exactly when it is storable**, in every history of the installation. -/
theorem ingest_law_iff (runtime : BodyRuntime) (tenant installation : Uuid) (mine : Uuid → Prop)
    (start : TelemetryDb) (unsent : start.Unsent tenant mine) (history : IngestHistory)
    (reached : (ingestSystem runtime).Reachable (IngestAllowed runtime tenant installation mine)
      { db := start, answered := [] } history) (call : IngestCall)
    (allowed : IngestAllowed runtime tenant installation mine history (.call call)) :
    IngestLaw runtime history call ↔ StorableCall runtime history call := by
  have consistent := reachable_consistent unsent reached
  constructor
  · exact fun law => law.storable consistent allowed
  · exact fun storable => storable.law consistent allowed

theorem cpuDb_unsent : cpuDb.Unsent 1 fun batchId => batchId = 50 where
  keyed := List.nodup_nil
  batches := fun _ member => nomatch member
  samples := fun _ member => nomatch member
  outbox := fun _ member => nomatch member

/-- `cpuBatch`, sent by its installation. -/
def cpuCall : IngestCall where
  source := cpuSource
  body := cpuBatch
  now := 1767225600000000
  outboxId := 60

/-- `cpuBatch` with a unit of more than twenty characters. -/
def longUnitCall : IngestCall :=
  { cpuCall with body := cpuBody 50 (cpuSample "percent of all processors") }

theorem cpuCall_sends (call : IngestCall)
    (checked : ((validateBody cpuRuntime call.body).toOption.map fun parsed => parsed.1) = some 50)
    (batchId : Uuid) (sent : SendsBatch cpuRuntime call batchId) : batchId = 50 := by
  obtain ⟨samples, validated⟩ := sent
  rw [validated] at checked
  exact Option.some.inj checked

theorem cpuCall_allowed : IngestAllowed cpuRuntime 1 10 (fun batchId => batchId = 50)
    { db := cpuDb, answered := [] } (.call cpuCall) :=
  ⟨rfl, rfl, cpuCall_sends cpuCall (by decide +kernel), (fun _ member => nomatch member),
    fun _ member => nomatch member⟩

theorem longUnitCall_allowed : IngestAllowed cpuRuntime 1 10 (fun batchId => batchId = 50)
    { db := cpuDb, answered := [] } (.call longUnitCall) :=
  ⟨rfl, rfl, cpuCall_sends longUnitCall (by decide +kernel), (fun _ member => nomatch member),
    fun _ member => nomatch member⟩

/-- The installation of `cpuDb`. -/
def cpuInstallation : Installation where
  id := 10
  tenantId := 1
  serverId := 12
  hostFingerprint := "fingerprint"
  agentType := "linux_agent"
  capabilities := .obj []
  status := .active
  lastSeenAt := none

theorem cpuBody_checked (batchId : Uuid) (sample : Loaded)
    (shaped : validateSamples 0 [sample] = .ok ()) :
    validateBody cpuRuntime (cpuBody batchId sample) = .ok (batchId, [sample]) := by
  have read : uuidOfPoints (pyText (uuidText batchId)) = some batchId := by
    rw [uuidOfPoints_pyText, parseUuid_uuidText]
  have sent : (cpuBody batchId sample).get "batch_id" = .str (pyText (uuidText batchId)) := rfl
  have listed : (cpuBody batchId sample).get "samples" = .arr [sample] := rfl
  unfold validateBody
  rw [sent, strLoaded, read, listed]
  simp only [shaped]
  rfl

theorem cpuCall_storable : StorableCall cpuRuntime { db := cpuDb, answered := [] } cpuCall := by
  intro admitted admits
  obtain ⟨validated, found⟩ := admission_eq_ok.mp admits
  obtain ⟨passes, -⟩ := validateLoaded_eq_ok.mp validated
  have same := Except.ok.inj ((cpuBody_checked 50 (cpuSample "percent") rfl).symm.trans passes)
  have samples : [cpuSample "percent"] = admitted.samples := congrArg Prod.snd same
  have installation : cpuInstallation = admitted.installation := Option.some.inj found
  refine ⟨[], by rw [← installation]; rfl, fun _ => ⟨rfl, ?_, ?_, ?_⟩⟩
  · intro sample member
    rw [← samples] at member
    rw [List.mem_singleton.mp member]
    refine ⟨⟨_, _, rfl, textOf_pyText _, .inl (by decide)⟩, ⟨_, _, rfl, textOf_pyText _, .inl (by decide)⟩,
      by decide, ?_⟩
    rintro points text - -
    exact storable_pyText (by decide)
  · rw [← installation]
    exact storable_pyText (by decide)
  · show (Loaded.str (pyText "2026-01-01T00:00:00+00:00")).Storable
    exact storable_pyText (by decide)

/-- The first `cpuBatch` of its installation keeps the contract. -/
theorem cpuCall_law : IngestLaw cpuRuntime { db := cpuDb, answered := [] } cpuCall :=
  (ingest_law_iff cpuRuntime 1 10 (fun batchId => batchId = 50) cpuDb cpuDb_unsent
    { db := cpuDb, answered := [] } Transition.System.Reachable.refl cpuCall cpuCall_allowed).mpr
    cpuCall_storable

/-- A new batch that passes the checks is not stored: its unit does not fit the column. -/
theorem longUnit_not_stored :
    ¬ ∀ (runtime : BodyRuntime) (tenant installation : Uuid) (mine : Uuid → Prop) (start : TelemetryDb),
      start.Unsent tenant mine → ∀ history : IngestHistory,
      (ingestSystem runtime).Reachable (IngestAllowed runtime tenant installation mine)
        { db := start, answered := [] } history →
      ∀ call : IngestCall, IngestAllowed runtime tenant installation mine history (.call call) →
        IngestLaw runtime history call := by
  intro contract
  have law := contract cpuRuntime 1 10 (fun batchId => batchId = 50) cpuDb cpuDb_unsent
    { db := cpuDb, answered := [] } Transition.System.Reachable.refl longUnitCall longUnitCall_allowed
  have passes : (admission cpuRuntime longUnitCall.source longUnitCall.body longUnitCall.now
      cpuDb).toOption.isSome = true := by decide +kernel
  obtain ⟨admitted, admits⟩ := Option.isSome_iff_exists.mp passes
  obtain ⟨result, -, -, -, returned, -⟩ := law.added admitted (toOption_eq_some admits)
    fun known => nomatch known.choose_spec.1
  have refused : (longUnitCall.answer cpuRuntime cpuDb).toOption.isSome = false := by decide +kernel
  rw [returned] at refused
  cases refused

end Law

end CosMonitor
