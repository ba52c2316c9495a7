/-
**Two histories of the ingest: with and without the calls of other tenants.**

The lookup of a duplicate is scoped by tenant and installation, the primary key of `metric_batches` is
the batch id alone.

* `TelemetryDb.ofTenant`: the rows of a tenant, and `ingestBatch_ofTenant`: a call of the tenant depends
  on them alone, where no other tenant holds its batch id;
* `ingestBatch_held`: where another tenant does, the call conflicts with a hash it cannot name;
* `ingest_noninterference_iff`: exactly when a tenant's answers are the same in both histories.
-/

import CosMonitor.Foundation.Purging
import CosMonitor.Telemetry.IngestSteps
import CosMonitor.Telemetry.Publisher

namespace CosMonitor

open Result

/-! ### The rows of a tenant -/

section View

/-- The rows of a tenant in the tables of the ingest. -/
def TelemetryDb.ofTenant (tenant : Uuid) (db : TelemetryDb) : TelemetryDb where
  installations := db.installations.filter fun row => row.tenantId == tenant
  batches := db.batches.filter fun row => row.tenantId == tenant
  samples := db.samples.filter fun row => row.tenantId == tenant
  outbox := db.outbox.filter fun row => row.tenantId == tenant

/-- Another tenant than the given one holds a batch id. -/
def TelemetryDb.HeldByOther (tenant batchId : Uuid) (db : TelemetryDb) : Prop :=
  ∃ row ∈ db.batches, row.batchId = batchId ∧ row.tenantId ≠ tenant

instance (tenant batchId : Uuid) (db : TelemetryDb) : Decidable (db.HeldByOther tenant batchId) :=
  inferInstanceAs (Decidable (∃ row ∈ db.batches, row.batchId = batchId ∧ row.tenantId ≠ tenant))

/-- The primary key of `metric_batches`. -/
def TelemetryDb.Keyed (db : TelemetryDb) : Prop :=
  (db.batches.map (·.batchId)).Nodup

theorem find?_part {Row : Type} {part wanted : Row → Bool} (rows : List Row)
    (within : ∀ row, wanted row = true → part row = true) :
    (rows.filter part).find? wanted = rows.find? wanted := by
  rw [List.find?_filter]
  congr 1
  funext row
  by_cases found : wanted row = true
  · simp [found, within row found]
  · simp [found]

theorem any_part {Row : Type} {part wanted : Row → Bool} (rows : List Row)
    (within : ∀ row ∈ rows, wanted row = true → part row = true) :
    (rows.filter part).any wanted = rows.any wanted := by
  rw [Bool.eq_iff_iff, List.any_eq_true, List.any_eq_true]
  constructor
  · rintro ⟨row, member, found⟩
    exact ⟨row, (List.mem_filter.mp member).1, found⟩
  · rintro ⟨row, member, found⟩
    exact ⟨row, List.mem_filter.mpr ⟨member, within row member found⟩, found⟩

variable {runtime : BodyRuntime} {source : IngestSource} {tenant batchId : Uuid} {db : TelemetryDb}

theorem resolveInstallation_ofTenant (own : source.tenantId = tenant) :
    resolveInstallation source (db.ofTenant tenant) = resolveInstallation source db := by
  refine find?_part _ fun row wanted => ?_
  rw [← own]
  simp only [Bool.and_eq_true] at wanted
  exact wanted.1.2

theorem admission_ofTenant {body : Loaded} {now : Timestamp} (own : source.tenantId = tenant) :
    admission runtime source body now (db.ofTenant tenant) = admission runtime source body now db := by
  unfold admission
  rw [resolveInstallation_ofTenant own]

theorem existingObservationIds_ofTenant (own : source.tenantId = tenant) :
    existingObservationIds runtime source batchId (db.ofTenant tenant) =
      existingObservationIds runtime source batchId db := by
  have same : (db.ofTenant tenant).outbox.find? (fun row => row.tenantId == source.tenantId &&
      row.batchId == batchId) = db.outbox.find? fun row => row.tenantId == source.tenantId &&
      row.batchId == batchId := by
    refine find?_part _ fun row wanted => ?_
    rw [← own]
    simp only [Bool.and_eq_true] at wanted
    exact wanted.1
  unfold existingObservationIds
  rw [same]

theorem duplicateBatch_ofTenant {hash : String} (own : source.tenantId = tenant) :
    duplicateBatch runtime source batchId hash (db.ofTenant tenant) =
      duplicateBatch runtime source batchId hash db := by
  have same : (db.ofTenant tenant).batches.find? (fun row => row.tenantId == source.tenantId &&
      row.installationId == source.installationId && row.batchId == batchId) =
        db.batches.find? fun row => row.tenantId == source.tenantId &&
          row.installationId == source.installationId && row.batchId == batchId := by
    refine find?_part _ fun row wanted => ?_
    rw [← own]
    simp only [Bool.and_eq_true] at wanted
    exact wanted.1.1
  unfold duplicateBatch
  rw [same, existingObservationIds_ofTenant own]

theorem batchTaken_ofTenant (apart : ¬db.HeldByOther tenant batchId) :
    batchTaken batchId (db.ofTenant tenant) = batchTaken batchId db := by
  refine any_part _ fun row member wanted => ?_
  by_contra other
  exact apart ⟨row, member, by simpa using wanted, by simpa using other⟩

theorem writeSamples_ofTenant {installation : Installation} {capturedAt : PyDatetime}
    {mapping defaultClass : Json} {samples : List Loaded} (own : source.tenantId = tenant)
    (rows : List MetricSample) :
    writeSamples runtime source installation batchId capturedAt mapping defaultClass samples
        (rows.filter fun row => row.tenantId == tenant) =
      (writeSamples runtime source installation batchId capturedAt mapping defaultClass samples rows).map
        fun written => (written.1, written.2.1, written.2.2.filter fun row => row.tenantId == tenant) := by
  induction samples generalizing rows with
  | nil => rfl
  | cons sample rest ih =>
      rw [writeSamples_cons, writeSamples_cons]
      rcases (qualityOf mapping (sample.get "fact_type") defaultClass).mapError IngestError.python with
        failure | qualityClass
      · rfl
      rcases built : (sampleRow source batchId sample).mapError IngestError.db with failure | row
      · simp only [bind, Except.bind, Except.map]
      obtain ⟨rowOwn, -, -⟩ := sampleRow_scope (mapError_eq_ok.mp built)
      have clashes : (rows.filter fun row => row.tenantId == tenant).any
          (fun other => other.tenantId == row.tenantId && other.batchId == row.batchId &&
            other.sequence == row.sequence) =
          rows.any fun other => other.tenantId == row.tenantId && other.batchId == row.batchId &&
            other.sequence == row.sequence := by
        refine any_part _ fun other _ wanted => ?_
        rw [← own, ← rowOwn]
        simp only [Bool.and_eq_true] at wanted
        exact wanted.1.1
      have extended : (rows.filter fun row => row.tenantId == tenant) ++ [row] =
          (rows ++ [row]).filter fun row => row.tenantId == tenant := by
        rw [List.filter_append, List.filter_cons_of_pos (by simp [rowOwn, own]), List.filter_nil]
      simp only [bind, Except.bind, insertSample, clashes]
      by_cases clash : (rows.any fun other => other.tenantId == row.tenantId &&
          other.batchId == row.batchId && other.sequence == row.sequence) = true
      · rw [if_pos clash, if_pos clash]
        rfl
      · rw [if_neg clash, if_neg clash]
        simp only [Except.mapError, extended, ih]
        rcases writeSamples runtime source installation batchId capturedAt mapping defaultClass rest
            (rows ++ [row]) with failure | written
        · rfl
        · rfl

theorem insertOutbox_ofTenant {row : OutboxRow} {rows : List OutboxRow} (own : row.tenantId = tenant)
    (fresh : ∀ other ∈ rows, other.id ≠ row.id) :
    insertOutbox row (rows.filter fun other => other.tenantId == tenant) =
      (insertOutbox row rows).map fun after => after.filter fun other => other.tenantId == tenant := by
  have keyFree : rows.any (fun other => other.id == row.id) = false := by
    rw [List.any_eq_false]
    exact fun other member same => fresh other member (by simpa using same)
  have partFree : (rows.filter fun other => other.tenantId == tenant).any
      (fun other => other.id == row.id) = false := by
    rw [List.any_eq_false]
    exact fun other member same => fresh other (List.mem_filter.mp member).1 (by simpa using same)
  have stored : (rows.filter fun other => other.tenantId == tenant).any (fun other =>
      other.tenantId == row.tenantId && other.installationId == row.installationId &&
        other.batchId == row.batchId && other.payloadHash == row.payloadHash) =
      rows.any fun other => other.tenantId == row.tenantId &&
        other.installationId == row.installationId && other.batchId == row.batchId &&
          other.payloadHash == row.payloadHash := by
    refine any_part _ fun other _ wanted => ?_
    rw [← own]
    simp only [Bool.and_eq_true] at wanted
    exact wanted.1.1.1
  unfold insertOutbox
  rw [keyFree, partFree, stored, if_neg Bool.false_ne_true, if_neg Bool.false_ne_true]
  split
  · rfl
  · rw [Except.map, List.filter_append, List.filter_cons_of_pos (by simp [own]), List.filter_nil]

end View

/-! ### One call -/

section OneCall

variable {runtime : BodyRuntime} {call : IngestCall} {tenant : Uuid} {db : TelemetryDb}

/-- The batch id that a call asks `metric_batches` for, when it gets as far as that. -/
def presentedBatch (runtime : BodyRuntime) (call : IngestCall) (db : TelemetryDb) : Option Uuid :=
  (admission runtime call.source call.body call.now db >>= fun admitted =>
    (qualityPolicy admitted.installation).map fun _ => admitted.batchId).toOption

theorem presentedBatch_eq_some {batchId : Uuid} :
    presentedBatch runtime call db = some batchId ↔
      ∃ admitted policy, admission runtime call.source call.body call.now db = .ok admitted ∧
        qualityPolicy admitted.installation = .ok policy ∧ admitted.batchId = batchId := by
  unfold presentedBatch
  rcases admission runtime call.source call.body call.now db with failure | admitted
  · simp [bind, Except.bind, Except.toOption]
  · rcases policed : qualityPolicy admitted.installation with failure | policy
    · simp [bind, Except.bind, Except.toOption, Except.map, policed]
    · simp only [bind, Except.bind, policed, Except.map, Except.toOption, Option.some.injEq]
      constructor
      · rintro rfl
        exact ⟨admitted, policy, rfl, policed, rfl⟩
      · rintro ⟨_, _, same, -, rfl⟩
        rw [Except.ok.inj same]

theorem storeBatch_ofTenant {admitted : AdmittedBatch} {policy : Json × Json}
    (own : call.source.tenantId = tenant) (fresh : ∀ row ∈ db.outbox, row.id ≠ call.outboxId) :
    storeBatch runtime call.source call.now call.outboxId admitted policy (db.ofTenant tenant) =
      (storeBatch runtime call.source call.now call.outboxId admitted policy db).map
        fun accepted => (accepted.1, accepted.2.ofTenant tenant) := by
  unfold storeBatch
  rw [show (db.ofTenant tenant).samples = db.samples.filter fun row => row.tenantId == tenant from rfl,
    writeSamples_ofTenant own]
  rcases writeSamples runtime call.source admitted.installation admitted.batchId admitted.capturedAt
      policy.1 policy.2 admitted.samples db.samples with failure | ⟨ids, observations, rows⟩
  · rfl
  simp only [bind, Except.bind, Except.map]
  rcases (jsonbLoaded (combinedObservation admitted.batchId ids observations)).mapError IngestError.db with
    failure | observation
  · rfl
  simp only [TelemetryDb.ofTenant]
  have ownRow : (outboxRow runtime call.source call.now call.outboxId admitted observation).tenantId =
      tenant := own
  rw [insertOutbox_ofTenant ownRow fresh]
  rcases insertOutbox (outboxRow runtime call.source call.now call.outboxId admitted observation)
      db.outbox with failure | outbox
  · rfl
  · have ownBatch : (batchRow runtime call.source call.now admitted).tenantId = tenant := own
    simp only [Except.map, Except.mapError, pure, Except.pure]
    rw [List.filter_append, List.filter_cons_of_pos (by simp [ownBatch]), List.filter_nil]

/-- **A call of a tenant depends on the rows of the tenant**, where no other tenant holds the batch id
that it presents. -/
theorem ingestBatch_ofTenant (own : call.source.tenantId = tenant)
    (fresh : ∀ row ∈ db.outbox, row.id ≠ call.outboxId)
    (apart : ∀ batchId, presentedBatch runtime call db = some batchId → ¬db.HeldByOther tenant batchId) :
    ingestBatch runtime call.source call.body call.now call.outboxId (db.ofTenant tenant) =
      (ingestBatch runtime call.source call.body call.now call.outboxId db).map
        fun accepted => (accepted.1, accepted.2.ofTenant tenant) := by
  rw [ingestBatch_eq, ingestBatch_eq, admission_ofTenant own]
  rcases admits : admission runtime call.source call.body call.now db with failure | admitted
  · rfl
  rcases policed : qualityPolicy admitted.installation with failure | policy
  · simp only [bind, Except.bind, Except.map, policed]
  have free : ¬db.HeldByOther tenant admitted.batchId :=
    apart _ (presentedBatch_eq_some.mpr ⟨admitted, policy, admits, policed, rfl⟩)
  simp only [bind, Except.bind, policed]
  rw [batchTaken_ofTenant free, duplicateBatch_ofTenant own, storeBatch_ofTenant own fresh]
  by_cases taken : batchTaken admitted.batchId db = true
  · rw [if_pos taken, if_pos taken]
    rcases duplicateBatch runtime call.source admitted.batchId (payloadHash runtime.std admitted.canonical) db with
      failure | result
    · rfl
    · rfl
  · rw [if_neg taken, if_neg taken]

/-- **Where another tenant holds the batch id**, the call conflicts with a hash it cannot name. -/
theorem ingestBatch_held (own : call.source.tenantId = tenant) (keyed : db.Keyed) {batchId : Uuid}
    (presented : presentedBatch runtime call db = some batchId) (held : db.HeldByOther tenant batchId) :
    ingestBatch runtime call.source call.body call.now call.outboxId db =
      .error (.payloadConflict batchId "unknown") := by
  obtain ⟨admitted, policy, admits, policed, rfl⟩ := presentedBatch_eq_some.mp presented
  obtain ⟨row, member, same, other⟩ := held
  have taken : batchTaken admitted.batchId db = true :=
    List.any_eq_true.mpr ⟨row, member, by simpa using same⟩
  -- The primary key leaves no row of the tenant with this batch id.
  have unseen : db.batches.find? (fun candidate => candidate.tenantId == call.source.tenantId &&
      candidate.installationId == call.source.installationId &&
        candidate.batchId == admitted.batchId) = none := by
    rw [List.find?_eq_none]
    intro candidate candidateIn wanted
    simp only [Bool.and_eq_true, beq_iff_eq] at wanted
    have one : candidate = row :=
      List.inj_on_of_nodup_map keyed candidateIn member (wanted.2.trans same.symm)
    exact other (by rw [← one, wanted.1.1, own])
  have conflict : duplicateBatch runtime call.source admitted.batchId
      (payloadHash runtime.std admitted.canonical) db =
        .error (.payloadConflict admitted.batchId "unknown") := by
    unfold duplicateBatch
    rw [unseen]
  rw [ingestBatch_eq, admits]
  simp only [bind, Except.bind, policed]
  rw [if_pos taken, conflict]
  rfl

theorem ingest_ofTenant_other (other : call.source.tenantId ≠ tenant) :
    (db.ingest runtime call).ofTenant tenant = db.ofTenant tenant := by
  rcases ingest_outcomes runtime call db with same | ⟨admitted, result, stored, -⟩
  · rw [same]
  obtain ⟨added, samples, built⟩ := stored.samples
  obtain ⟨observations, outbox⟩ := stored.outbox
  have noSample : added.filter (fun row => row.tenantId == tenant) = [] := by
    rw [List.filter_eq_nil_iff]
    intro row member own
    obtain ⟨sent, -⟩ := sampleRows_scope built row member
    exact other (by rw [← sent]; simpa using own)
  unfold TelemetryDb.ofTenant
  rw [stored.installations, stored.batches, samples, outbox]
  simp [List.filter_append, noSample, batchRow, outboxRow, other]

theorem TelemetryDb.Keyed.ingest (keyed : db.Keyed) : (db.ingest runtime call).Keyed := by
  rcases ingest_outcomes runtime call db with same | ⟨admitted, result, stored, -⟩
  · rw [same]
    exact keyed
  unfold TelemetryDb.Keyed
  rw [stored.batches, List.map_append, List.nodup_append]
  refine ⟨keyed, List.nodup_singleton _, ?_⟩
  rintro _ inside _ added rfl
  obtain ⟨row, member, same⟩ := List.mem_map.mp inside
  have free := List.any_eq_false.mp stored.isNew row member
  have clash : row.batchId = admitted.batchId := same.trans (List.mem_singleton.mp added)
  exact free (by simpa using clash)

end OneCall

/-! ### Generated keys -/

section Fresh

variable {runtime : BodyRuntime} {call : IngestCall} {calls : List IngestCall} {db : TelemetryDb}

/-- The keys generated for the outbox rows of the calls to come are new, and differ. -/
structure FreshOutbox (db : TelemetryDb) (calls : List IngestCall) : Prop where
  distinct : (calls.map (·.outboxId)).Nodup
  unused : ∀ call ∈ calls, ∀ row ∈ db.outbox, row.id ≠ call.outboxId

theorem FreshOutbox.skip (fresh : FreshOutbox db (call :: calls)) : FreshOutbox db calls where
  distinct := (List.nodup_cons.mp fresh.distinct).2
  unused := fun other member => fresh.unused other (List.mem_cons_of_mem _ member)

theorem FreshOutbox.ingest (fresh : FreshOutbox db (call :: calls)) :
    FreshOutbox (db.ingest runtime call) calls := by
  rcases ingest_outcomes runtime call db with same | ⟨admitted, result, stored, -⟩
  · rw [same]
    exact fresh.skip
  obtain ⟨observations, outbox⟩ := stored.outbox
  refine ⟨fresh.skip.distinct, fun other member row rowIn => ?_⟩
  rw [outbox] at rowIn
  rcases List.mem_append.mp rowIn with old | new
  · exact fresh.skip.unused other member row old
  · rw [List.mem_singleton.mp new]
    intro same
    exact (List.nodup_cons.mp fresh.distinct).1 (List.mem_map.mpr ⟨other, member, same.symm⟩)

end Fresh

/-! ### Two histories -/

section TwoHistories

/-- The ingest, as the callers see it. -/
def ingestMachine (runtime : BodyRuntime) :
    Purging.Machine TelemetryDb IngestCall (Except IngestError IngestResult) where
  step := fun db call => db.ingest runtime call
  answer := fun db call => call.answer runtime db

/-- The calls of a tenant. -/
def callsOf (tenant : Uuid) (call : IngestCall) : Bool :=
  call.source.tenantId == tenant

/-- Another tenant holds the batch id that a call presents in one of the two tables, and not in the
other. -/
def ContestedBatch (runtime : BodyRuntime) (tenant : Uuid) (whole purged : TelemetryDb) (call : IngestCall) :
    Prop :=
  ∃ batchId, presentedBatch runtime call whole = some batchId ∧
    ¬(whole.HeldByOther tenant batchId ↔ purged.HeldByOther tenant batchId)

/-- A tenant cannot tell two tables apart, and both are ready for the calls to come. -/
structure SameForTenant (tenant : Uuid) (whole purged : TelemetryDb) (calls : List IngestCall) :
    Prop where
  view : whole.ofTenant tenant = purged.ofTenant tenant
  wholeKeyed : whole.Keyed
  purgedKeyed : purged.Keyed
  wholeFresh : FreshOutbox whole calls
  purgedFresh : FreshOutbox purged calls

variable {runtime : BodyRuntime} {tenant : Uuid} {db whole purged : TelemetryDb} {call : IngestCall}
  {calls : List IngestCall}

theorem presentedBatch_ofTenant (own : call.source.tenantId = tenant) :
    presentedBatch runtime call (db.ofTenant tenant) = presentedBatch runtime call db := by
  unfold presentedBatch
  rw [admission_ofTenant own]

section Apart

variable (own : call.source.tenantId = tenant) (fresh : ∀ row ∈ db.outbox, row.id ≠ call.outboxId)
  (apart : ∀ batchId, presentedBatch runtime call db = some batchId → ¬db.HeldByOther tenant batchId)

include own fresh apart

theorem answer_ofTenant : call.answer runtime (db.ofTenant tenant) = call.answer runtime db := by
  unfold IngestCall.answer
  rw [ingestBatch_ofTenant own fresh apart]
  rcases ingestBatch runtime call.source call.body call.now call.outboxId db with failure | accepted
  · rfl
  · rfl

theorem ingest_ofTenant : (db.ofTenant tenant).ingest runtime call = (db.ingest runtime call).ofTenant tenant := by
  unfold TelemetryDb.ingest
  rw [ingestBatch_ofTenant own fresh apart]
  rcases ingestBatch runtime call.source call.body call.now call.outboxId db with failure | accepted
  · rfl
  · rfl

end Apart

theorem answer_free {batchId : Uuid} (presented : presentedBatch runtime call db = some batchId)
    (free : batchTaken batchId db = false) (conflicting : Uuid) (hash : String) :
    call.answer runtime db ≠ .error (.payloadConflict conflicting hash) := by
  obtain ⟨admitted, policy, admits, policed, rfl⟩ := presentedBatch_eq_some.mp presented
  unfold IngestCall.answer
  rw [ingestBatch_eq, admits]
  simp only [bind, Except.bind, policed]
  rw [free, if_neg Bool.false_ne_true]
  intro conflict
  rcases stored : storeBatch runtime call.source call.now call.outboxId admitted policy db with
    failure | accepted
  · rw [stored] at conflict
    cases Except.error.inj conflict
    rcases storeBatch_raises stored with ⟨raised, same⟩ | ⟨raised, same⟩
    · cases same
    · cases same
  · rw [stored] at conflict
    cases conflict

theorem answer_held (own : call.source.tenantId = tenant) (keyed : db.Keyed) {batchId : Uuid}
    (presented : presentedBatch runtime call db = some batchId) (held : db.HeldByOther tenant batchId) :
    call.answer runtime db = .error (.payloadConflict batchId "unknown") ∧ db.ingest runtime call = db := by
  have raised := ingestBatch_held own keyed presented held
  unfold IngestCall.answer TelemetryDb.ingest
  rw [raised]
  exact ⟨rfl, rfl⟩

theorem batchTaken_elsewhere (same : whole.ofTenant tenant = purged.ofTenant tenant)
    (keyed : whole.Keyed) {batchId : Uuid} (held : whole.HeldByOther tenant batchId)
    (free : ¬purged.HeldByOther tenant batchId) : batchTaken batchId purged = false := by
  refine List.any_eq_false.mpr fun row member taken => ?_
  have own : row.tenantId = tenant := by
    by_contra other
    exact free ⟨row, member, by simpa using taken, other⟩
  have inWhole : row ∈ (whole.ofTenant tenant).batches := by
    rw [same]
    exact List.mem_filter.mpr ⟨member, by simpa using own⟩
  obtain ⟨holder, holderIn, holds, notOwn⟩ := held
  have one : row = holder := List.inj_on_of_nodup_map keyed (List.mem_filter.mp inWhole).1 holderIn
    ((show row.batchId = batchId by simpa using taken).trans holds.symm)
  exact notOwn (one ▸ own)

/-- **The step of the two histories.** -/
theorem ingest_unwinding (runtime : BodyRuntime) (tenant : Uuid) {dropped : IngestCall → Bool}
    (others : ∀ call, dropped call = true → call.source.tenantId ≠ tenant) :
    (ingestMachine runtime).Unwinding (callsOf tenant) dropped (ContestedBatch runtime tenant)
      (SameForTenant tenant) where
  apart := by
    intro call out
    simpa [callsOf] using others call out
  drops := by
    intro whole purged call rest same out
    refine ⟨?_, same.wholeKeyed.ingest, same.purgedKeyed, same.wholeFresh.ingest,
      same.purgedFresh.skip⟩
    exact (ingest_ofTenant_other (others call out)).trans same.view
  keeps := by
    intro whole purged call rest same calm
    refine ⟨?_, same.wholeKeyed.ingest, same.purgedKeyed.ingest, same.wholeFresh.ingest,
      same.purgedFresh.ingest⟩
    show (whole.ingest runtime call).ofTenant tenant = (purged.ingest runtime call).ofTenant tenant
    by_cases own : call.source.tenantId = tenant
    · have agreed := calm (by simpa [callsOf] using own)
      have samePresented : presentedBatch runtime call whole = presentedBatch runtime call purged := by
        rw [← presentedBatch_ofTenant own, same.view, presentedBatch_ofTenant own]
      by_cases held : ∃ batchId, presentedBatch runtime call whole = some batchId ∧
          whole.HeldByOther tenant batchId
      · obtain ⟨batchId, presented, heldWhole⟩ := held
        have heldPurged : purged.HeldByOther tenant batchId := by
          by_contra free
          exact agreed ⟨batchId, presented, fun both => free (both.mp heldWhole)⟩
        rw [(answer_held own same.wholeKeyed presented heldWhole).2,
          (answer_held own same.purgedKeyed (samePresented ▸ presented) heldPurged).2]
        exact same.view
      · have apartWhole : ∀ batchId, presentedBatch runtime call whole = some batchId →
            ¬whole.HeldByOther tenant batchId := fun batchId presented heldWhole =>
          held ⟨batchId, presented, heldWhole⟩
        have apartPurged : ∀ batchId, presentedBatch runtime call purged = some batchId →
            ¬purged.HeldByOther tenant batchId := by
          intro batchId presented heldPurged
          rw [← samePresented] at presented
          exact agreed ⟨batchId, presented, fun both => apartWhole batchId presented (both.mpr heldPurged)⟩
        rw [← ingest_ofTenant own (same.wholeFresh.unused call List.mem_cons_self) apartWhole,
          ← ingest_ofTenant own (same.purgedFresh.unused call List.mem_cons_self) apartPurged, same.view]
    · rw [ingest_ofTenant_other own, ingest_ofTenant_other own]
      exact same.view
  decides := by
    intro whole purged call rest same mine
    have own : call.source.tenantId = tenant := by simpa [callsOf] using mine
    have samePresented : presentedBatch runtime call whole = presentedBatch runtime call purged := by
      rw [← presentedBatch_ofTenant own, same.view, presentedBatch_ofTenant own]
    show call.answer runtime whole = call.answer runtime purged ↔ _
    by_cases heldWhole : ∃ batchId, presentedBatch runtime call whole = some batchId ∧
        whole.HeldByOther tenant batchId
    · obtain ⟨batchId, presented, held⟩ := heldWhole
      have presentedPurged : presentedBatch runtime call purged = some batchId := samePresented ▸ presented
      rw [(answer_held own same.wholeKeyed presented held).1]
      by_cases heldPurged : purged.HeldByOther tenant batchId
      · rw [(answer_held own same.purgedKeyed presentedPurged heldPurged).1]
        refine iff_of_true rfl ?_
        rintro ⟨other, presentedToo, differ⟩
        obtain rfl := Option.some.inj (presented.symm.trans presentedToo)
        exact differ (iff_of_true held heldPurged)
      · refine iff_of_false (fun answered => ?_) fun calm => ?_
        · have free := batchTaken_elsewhere same.view same.wholeKeyed held heldPurged
          exact answer_free presentedPurged free _ _ answered.symm
        · exact calm ⟨batchId, presented, fun both => heldPurged (both.mp held)⟩
    · have apartWhole : ∀ batchId, presentedBatch runtime call whole = some batchId →
          ¬whole.HeldByOther tenant batchId := fun batchId presented held =>
        heldWhole ⟨batchId, presented, held⟩
      by_cases heldPurged : ∃ batchId, presentedBatch runtime call purged = some batchId ∧
          purged.HeldByOther tenant batchId
      · obtain ⟨batchId, presentedPurged, held⟩ := heldPurged
        have presented : presentedBatch runtime call whole = some batchId :=
          samePresented.trans presentedPurged
        rw [(answer_held own same.purgedKeyed presentedPurged held).1]
        refine iff_of_false (fun answered => ?_) fun calm => ?_
        · have free := batchTaken_elsewhere same.view.symm same.purgedKeyed held
            (apartWhole batchId presented)
          exact answer_free presented free _ _ answered
        · exact calm ⟨batchId, presented, fun both => apartWhole batchId presented (both.mpr held)⟩
      · have apartPurged : ∀ batchId, presentedBatch runtime call purged = some batchId →
            ¬purged.HeldByOther tenant batchId := fun batchId presented held =>
          heldPurged ⟨batchId, presented, held⟩
        refine iff_of_true ?_ ?_
        · rw [← answer_ofTenant own (same.wholeFresh.unused call List.mem_cons_self) apartWhole,
            ← answer_ofTenant own (same.purgedFresh.unused call List.mem_cons_self) apartPurged,
            same.view]
        · rintro ⟨batchId, presented, differ⟩
          exact differ (iff_of_false (apartWhole batchId presented)
            (apartPurged batchId (samePresented ▸ presented)))

/-- **A tenant's answers, with and without the calls of others.** They are the same exactly when no call
of the tenant presents a batch id that other tenants hold in one of the two histories only. -/
theorem ingest_noninterference_iff (runtime : BodyRuntime) (tenant : Uuid) (dropped : IngestCall → Bool)
    (others : ∀ call, dropped call = true → call.source.tenantId ≠ tenant) (start : TelemetryDb)
    (keyed : start.Keyed) (calls : List IngestCall) (fresh : FreshOutbox start calls) :
    (ingestMachine runtime).answers (callsOf tenant) start calls =
        (ingestMachine runtime).answers (callsOf tenant) start (Purging.Machine.purge dropped calls) ↔
      (ingestMachine runtime).Uncontested (callsOf tenant) dropped (ContestedBatch runtime tenant) start start
        calls :=
  Purging.Machine.answers_purged_iff (ingest_unwinding runtime tenant others)
    ⟨rfl, keyed, keyed, fresh, fresh⟩

/-- An active installation of tenant 1, and one of tenant 2. -/
def sharedDb : TelemetryDb :=
  { cpuDb with
    installations := cpuDb.installations ++
      [{ id := 11
         tenantId := 2
         serverId := 13
         hostFingerprint := "fingerprint"
         agentType := "linux_agent"
         capabilities := .obj []
         status := .active
         lastSeenAt := none }] }

/-- `cpuBatch`, sent by tenant 1. -/
def firstTenantCall : IngestCall where
  source := cpuSource
  body := cpuBatch
  now := 1767225600000000
  outboxId := 60

/-- `cpuBatch`, under the same batch id, sent by tenant 2. -/
def secondTenantCall : IngestCall where
  source :=
    { tenantId := 2
      installationId := 11
      instanceId := 41
      credentialId := 21 }
  body := cpuBatch
  now := 1767225600000000
  outboxId := 61

/-- A batch of tenant 1 under another batch id. -/
def apartCall : IngestCall :=
  { firstTenantCall with
    body := cpuBody 51 (cpuSample "percent") }

theorem sharedDb_keyed : sharedDb.Keyed :=
  List.nodup_nil

theorem sharedDb_fresh : FreshOutbox sharedDb [firstTenantCall, secondTenantCall] where
  distinct := by decide
  unused := fun _ _ _ member => nomatch member

/-- With another batch id before it, the call of tenant 2 is answered as without. -/
theorem ingest_noninterference_apart :
    (ingestMachine cpuRuntime).answers (callsOf 2) sharedDb [apartCall, secondTenantCall] =
        (ingestMachine cpuRuntime).answers (callsOf 2) sharedDb
          (Purging.Machine.purge (callsOf 1) [apartCall, secondTenantCall]) ∧
      (ingestMachine cpuRuntime).Uncontested (callsOf 2) (callsOf 1) (ContestedBatch cpuRuntime 2)
        sharedDb sharedDb [apartCall, secondTenantCall] := by
  have same : (ingestMachine cpuRuntime).answers (callsOf 2) sharedDb [apartCall, secondTenantCall] =
      (ingestMachine cpuRuntime).answers (callsOf 2) sharedDb
        (Purging.Machine.purge (callsOf 1) [apartCall, secondTenantCall]) := by
    decide +kernel
  have fresh : FreshOutbox sharedDb [apartCall, secondTenantCall] :=
    ⟨by decide, fun _ _ _ member => nomatch member⟩
  have others : ∀ call, callsOf 1 call = true → call.source.tenantId ≠ 2 := by
    intro call out
    rw [show call.source.tenantId = 1 by simpa [callsOf] using out]
    decide
  exact ⟨same, (ingest_noninterference_iff cpuRuntime 2 (callsOf 1) others sharedDb sharedDb_keyed
    [apartCall, secondTenantCall] fresh).mp same⟩

/-- The batch of tenant 1 makes the new batch of tenant 2 a conflict. -/
theorem ingest_interferes :
    ¬ ∀ (runtime : BodyRuntime) (tenant : Uuid) (dropped : IngestCall → Bool),
      (∀ call, dropped call = true → call.source.tenantId ≠ tenant) → ∀ start : TelemetryDb,
      start.Keyed → ∀ calls : List IngestCall, FreshOutbox start calls →
      (ingestMachine runtime).answers (callsOf tenant) start calls =
        (ingestMachine runtime).answers (callsOf tenant) start (Purging.Machine.purge dropped calls) := by
  intro noninterferes
  have others : ∀ call, callsOf 1 call = true → call.source.tenantId ≠ 2 := by
    intro call out
    rw [show call.source.tenantId = 1 by simpa [callsOf] using out]
    decide
  have same := noninterferes cpuRuntime 2 (callsOf 1) others sharedDb sharedDb_keyed
    [firstTenantCall, secondTenantCall] sharedDb_fresh
  revert same
  decide +kernel

end TwoHistories

end CosMonitor
