/-
**Which new batches the tables take.**

The checks of an ingest look at the shape of a body. What the columns ask beyond that is asked by the
inserts alone.

* `StorableSample`, `StorableBatch`: texts of fact type and unit that fit, values that `JSONB` takes, an object of
  classes;
* `storeBatch_returned_iff`: a batch whose keys are free is stored exactly when it is storable.
-/

import CosMonitor.Telemetry.IngestSteps

namespace CosMonitor

open Result

/-! ### Samples -/

section Samples

/-- A text that a `VARCHAR(limit)` column takes: only spaces stand behind the limit. -/
def TextFits (limit : Nat) (value : Loaded) : Prop :=
  ∃ points text, value = .str points ∧ textOf points = some text ∧
    (text.length ≤ limit ∨ (text.toList.drop limit).all (· == ' ') = true)

theorem varchar_returned_iff {limit : Nat} {text : String} :
    (∃ stored, varchar limit text = .ok stored) ↔
      text.length ≤ limit ∨ (text.toList.drop limit).all (· == ' ') = true := by
  unfold varchar
  split
  · rename_i fits
    exact iff_of_true ⟨_, rfl⟩ (.inl fits)
  · rename_i long
    split
    · rename_i spaces
      exact iff_of_true ⟨_, rfl⟩ (.inr spaces)
    · rename_i words
      refine iff_of_false (fun stored => ?_) fun fits => ?_
      · obtain ⟨_, impossible⟩ := stored
        cases impossible
      · exact fits.elim long words

theorem varcharArg_returned_iff {limit : Nat} {value : Loaded} (storable : value.Storable) :
    (∃ stored, varcharArg limit value = .ok stored) ↔ TextFits limit value := by
  cases value with
  | str points =>
      rw [Loaded.Storable, Loaded.stored, Option.isSome_map, jsonbText, Option.isSome_map] at storable
      unfold varcharArg
      simp only [jsonbChars_clean storable, Bool.false_eq_true, if_false]
      cases encoded : textOf points with
      | none =>
          refine iff_of_false ?_ ?_
          · rintro ⟨_, impossible⟩
            cases impossible
          · rintro ⟨other, text, same, found, -⟩
            obtain rfl := Loaded.str.inj same
            rw [encoded] at found
            cases found
      | some text =>
          simp only [varchar_returned_iff]
          constructor
          · exact fun fits => ⟨points, text, rfl, encoded, fits⟩
          · rintro ⟨other, found, same, isFound, fits⟩
            obtain rfl := Loaded.str.inj same
            obtain rfl := Option.some.inj (encoded.symm.trans isFound)
            exact fits
  | null | bool truth | int number | float number | arr items | obj fields =>
      refine iff_of_false ?_ ?_
      · rintro ⟨_, impossible⟩
        cases impossible
      · rintro ⟨_, _, impossible, -⟩
        cases impossible

theorem storable_empty : (Loaded.obj []).Storable ∧ (Loaded.str []).Storable :=
  ⟨rfl, rfl⟩

theorem sampleRow_returned_iff {source : IngestSource} {batchId : Uuid} {sample : Loaded} {sequence : Int}
    (counted : intOf (sample.get "sequence") = some sequence) (storable : sample.Storable) :
    (∃ row, sampleRow source batchId sample = .ok row) ↔
      TextFits 100 (sample.get "fact_type") ∧
        TextFits 20 ((sample.lookup "unit").getD (.str [])) := by
  obtain ⟨factValue, bindsFactValue⟩ :=
    jsonbLoaded_returned_iff.mpr (storable.getD storable_empty.1 :
      ((sample.lookup "fact_value").getD (.obj [])).Storable)
  obtain ⟨labels, bindsLabels⟩ :=
    jsonbLoaded_returned_iff.mpr (storable.getD storable_empty.1 :
      ((sample.lookup "labels").getD (.obj [])).Storable)
  have factTypeStorable : (sample.get "fact_type").Storable := storable.getD rfl
  rw [← varcharArg_returned_iff factTypeStorable, ← varcharArg_returned_iff (storable.getD storable_empty.2)]
  unfold sampleRow
  rw [counted]
  constructor
  · rintro ⟨row, built⟩
    obtain ⟨factType, bound, built⟩ := bind_eq_ok.mp built
    obtain ⟨_, -, built⟩ := bind_eq_ok.mp built
    obtain ⟨unit, boundToo, -⟩ := bind_eq_ok.mp built
    exact ⟨⟨factType, bound⟩, unit, boundToo⟩
  · rintro ⟨⟨factType, bound⟩, unit, boundToo⟩
    rw [bound, bindsFactValue, boundToo, bindsLabels]
    exact ⟨_, rfl⟩

/-- What the columns ask of a sample, beyond the checks of the body. -/
structure StorableSample (mapping defaultClass : Json) (sample : Loaded) : Prop where
  factType : TextFits 100 (sample.get "fact_type")
  unit : TextFits 20 ((sample.lookup "unit").getD (.str []))
  storable : sample.Storable
  quality : ∀ points text, sample.get "fact_type" = .str points → textOf points = some text →
    (Loaded.ofJson ((mapping.lookup text).getD defaultClass)).Storable

theorem qualityOf_text {mapping defaultClass : Json} {points : PyText} {text : String}
    (dict : mapping.isDict = true) (encoded : textOf points = some text) :
    qualityOf mapping (.str points) defaultClass = .ok ((mapping.lookup text).getD defaultClass) := by
  cases mapping with
  | obj fields =>
      show Except.ok (((textOf points).bind _).getD defaultClass) = _
      rw [encoded]
      rfl
  | null | bool truth | int number | float number | str words | arr items => cases dict

theorem qualityOf_dict {mapping defaultClass qualityClass : Json} {factType : Loaded}
    (found : qualityOf mapping factType defaultClass = .ok qualityClass) : mapping.isDict = true := by
  cases mapping with
  | obj fields => rfl
  | null | bool truth | int number | float number | str words | arr items => cases found

variable {runtime : BodyRuntime} {source : IngestSource} {installation : Installation} {batchId : Uuid}
  {capturedAt : PyDatetime} {mapping defaultClass : Json} {samples : List Loaded}

theorem storable_outboxObservation {observation : Uuid} {factType sample : Loaded} {qualityClass : Json} :
    (outboxObservation runtime source installation capturedAt observation factType qualityClass
        sample).Storable ↔
      (Loaded.str (pyText installation.agentType)).Storable ∧ factType.Storable ∧
        ((sample.lookup "fact_value").getD (.obj [])).Storable ∧
        ((sample.lookup "unit").getD (.str [])).Storable ∧
        (Loaded.str (pyText (runtime.std.isoformat capturedAt))).Storable ∧
        (Loaded.ofJson qualityClass).Storable ∧ sample.Storable := by
  have uuid : ∀ id, (Loaded.str (pyText (uuidText id))).Storable := fun id =>
    storable_pyText (uuidText_clean id)
  have named : ∀ key ∈ ["id", "tenant_id", "source_id", "source_type", "fact_type", "fact_value", "unit",
      "captured_at", "quality_class", "raw_payload"], (jsonbText (pyText key)).isSome = true := by
    intro key member
    have clean : '\x00' ∉ key.toList := by
      revert key
      decide
    rw [jsonbText_pyText clean]
    rfl
  simp only [List.forall_mem_cons] at named
  unfold outboxObservation
  rw [storable_obj]
  simp only [List.forall_mem_cons, uuid, named]
  simp

theorem sequence_cons {index : Nat} {expected : Int} {sample : Loaded}
    (checked : validateSequenceMonotonicity index expected (sample :: samples) = .ok ()) :
    intOf (sample.get "sequence") = some expected ∧
      validateSequenceMonotonicity (index + 1) (expected + 1) samples = .ok () := by
  unfold validateSequenceMonotonicity at checked
  split at checked
  · cases checked
  · rename_i sequence counted
    split at checked
    · cases checked
    · split at checked
      · cases checked
      · rename_i equal
        have same : sequence = expected := by simpa using equal
        rw [same] at checked counted
        exact ⟨counted, checked⟩

/-- **Storable samples are written**, where the batch has no rows from the next sequence on. -/
theorem writeSamples_returns {index : Nat} {expected : Int} {rows : List MetricSample}
    (dict : mapping.isDict = true)
    (checked : validateSequenceMonotonicity index expected samples = .ok ())
    (storable : ∀ sample ∈ samples, StorableSample mapping defaultClass sample)
    (below : ∀ row ∈ rows, row.tenantId = source.tenantId → row.batchId = batchId →
      row.sequence < expected) :
    ∃ written, writeSamples runtime source installation batchId capturedAt mapping defaultClass samples
      rows = .ok written := by
  induction samples generalizing index expected rows with
  | nil => exact ⟨_, rfl⟩
  | cons sample rest ih =>
      obtain ⟨counted, later⟩ := sequence_cons checked
      have fits := storable sample List.mem_cons_self
      obtain ⟨points, text, isText, encoded, -⟩ := fits.factType
      obtain ⟨row, built⟩ : ∃ row, sampleRow source batchId sample = .ok row :=
        (sampleRow_returned_iff counted fits.storable).mpr ⟨fits.factType, fits.unit⟩
      obtain ⟨rowTenant, rowBatch, rowSequence⟩ := sampleRow_scope built
      have sequence : row.sequence = expected := Option.some.inj (rowSequence.symm.trans counted)
      have inserted : insertSample row rows = .ok (rows ++ [row]) := by
        unfold insertSample
        rw [if_neg]
        intro clash
        obtain ⟨other, member, same⟩ := List.any_eq_true.mp clash
        simp only [Bool.and_eq_true, beq_iff_eq] at same
        have smaller := below other member (same.1.1.trans rowTenant) (same.1.2.trans rowBatch)
        rw [same.2, sequence] at smaller
        exact lt_irrefl _ smaller
      have belowNext : ∀ other ∈ rows ++ [row], other.tenantId = source.tenantId →
          other.batchId = batchId → other.sequence < expected + 1 := by
        intro other member tenant batch
        rcases List.mem_append.mp member with old | new
        · exact Int.lt_add_one_of_le (le_of_lt (below other old tenant batch))
        · rw [List.mem_singleton.mp new, sequence]
          exact Int.lt_succ expected
      obtain ⟨written, wrote⟩ := ih later (fun other member => storable other
        (List.mem_cons_of_mem _ member)) belowNext
      rw [writeSamples_cons, isText, qualityOf_text dict encoded, built]
      simp only [bind, Except.bind, Except.mapError, inserted, wrote]
      exact ⟨_, rfl⟩

/-- What a sample and its observation have to do with each other. -/
def Observed (runtime : BodyRuntime) (source : IngestSource) (installation : Installation) (batchId : Uuid)
    (capturedAt : PyDatetime) (mapping defaultClass : Json) (sample observation : Loaded) : Prop :=
  ∃ id qualityClass row,
    qualityOf mapping (sample.get "fact_type") defaultClass = .ok qualityClass ∧
      sampleRow source batchId sample = .ok row ∧
      observation = outboxObservation runtime source installation capturedAt id (sample.get "fact_type")
        qualityClass sample

theorem writeSamples_observes {rows final : List MetricSample} {ids : List Uuid}
    {observations : List Loaded}
    (written : writeSamples runtime source installation batchId capturedAt mapping defaultClass samples
      rows = .ok (ids, observations, final)) :
    List.Forall₂ (Observed runtime source installation batchId capturedAt mapping defaultClass) samples
      observations := by
  induction samples generalizing rows ids observations final with
  | nil =>
      obtain ⟨-, rfl, -⟩ : [] = ids ∧ [] = observations ∧ rows = final := by
        simpa [writeSamples] using written
      exact .nil
  | cons sample rest ih =>
      rw [writeSamples_cons] at written
      obtain ⟨qualityClass, quality, written⟩ := bind_eq_ok.mp written
      obtain ⟨row, built, written⟩ := bind_eq_ok.mp written
      obtain ⟨between, -, written⟩ := bind_eq_ok.mp written
      rcases later : writeSamples runtime source installation batchId capturedAt mapping defaultClass rest
          between with failure | ⟨laterIds, laterObservations, last⟩
      · rw [later] at written
        cases written
      · rw [later] at written
        obtain ⟨-, rfl, -⟩ : _ :: laterIds = ids ∧ _ :: laterObservations = observations ∧
            last = final := by
          simpa using Except.ok.inj written
        refine .cons ⟨_, qualityClass, row, ?_, ?_, rfl⟩ (ih later)
        · exact mapError_eq_ok.mp quality
        · exact mapError_eq_ok.mp built

end Samples

/-! ### Batches -/

section Batches

variable {runtime : BodyRuntime} {source : IngestSource} {body : Loaded} {now : Timestamp} {outboxId : Uuid}
  {admitted : AdmittedBatch} {db : TelemetryDb} {fields : List (String × Json)}

/-- The quality classes of the fact types among the capabilities. -/
def qualityMapping (fields : List (String × Json)) : Json :=
  (fields.lookup "quality_mapping").getD (.obj [])

/-- The quality class of the other fact types. -/
def defaultQualityClass (fields : List (String × Json)) : Json :=
  (fields.lookup "default_quality_class").getD (.str "Q3")

/-- What the tables ask of a new batch, beyond the checks of the body. -/
structure StorableBatch (runtime : BodyRuntime) (fields : List (String × Json)) (admitted : AdmittedBatch) :
    Prop where
  mapping : (qualityMapping fields).isDict = true
  samples : ∀ sample ∈ admitted.samples,
    StorableSample (qualityMapping fields) (defaultQualityClass fields) sample
  agentType : (Loaded.str (pyText admitted.installation.agentType)).Storable
  capturedAt : (Loaded.str (pyText (runtime.std.isoformat admitted.capturedAt))).Storable

theorem qualityPolicy_obj {installation : Installation}
    (object : installation.capabilities = .obj fields) :
    qualityPolicy installation = .ok (qualityMapping fields, defaultQualityClass fields) := by
  unfold qualityPolicy capability
  rw [object]
  rfl

theorem qualityPolicy_returned {installation : Installation} {policy : Json × Json}
    (policed : qualityPolicy installation = .ok policy) :
    ∃ fields, installation.capabilities = .obj fields := by
  unfold qualityPolicy capability at policed
  rcases object : installation.capabilities with - | flag | number | number | text | items | fields
  case obj => exact ⟨fields, rfl⟩
  all_goals
    rw [object] at policed
    cases policed

theorem validateBody_nonempty {batchId : Uuid} {samples : List Loaded}
    (validated : validateBody runtime body = .ok (batchId, samples)) : samples ≠ [] := by
  unfold validateBody at validated
  split at validated
  · cases validated
  split at validated
  · cases validated
  split at validated
  · cases validated
  split at validated
  · cases validated
  split at validated
  · split at validated
    · cases validated
    · obtain ⟨-, -, same⟩ := bind_eq_ok.mp validated
      rw [← (Prod.mk.inj (pure_eq_ok.mp same)).2]
      exact List.cons_ne_nil _ _
  · cases validated

theorem validateLoaded_eq_ok {validated : ValidatedBody} :
    validateLoaded runtime now body = .ok validated ↔
      validateBody runtime body = .ok (validated.batchId, validated.samples) ∧
        parseCapturedAt runtime (body.get "captured_at") = .ok validated.capturedAt ∧
        validateSequenceMonotonicity 0 1 validated.samples = .ok () ∧
        canonicalLoaded runtime body.fields = .ok validated.canonical ∧
        validateCapturedAtDrift now validated.capturedAt = .ok () := by
  constructor
  · intro checked
    obtain ⟨⟨batchId, samples⟩, passes, checked⟩ := bind_eq_ok.mp checked
    obtain ⟨capturedAt, parsed, checked⟩ := bind_eq_ok.mp checked
    obtain ⟨⟨⟩, counted, checked⟩ := bind_eq_ok.mp checked
    obtain ⟨canonical, written, checked⟩ := bind_eq_ok.mp checked
    obtain ⟨⟨⟩, near, checked⟩ := bind_eq_ok.mp checked
    rw [← pure_eq_ok.mp checked]
    exact ⟨passes, mapError_eq_ok.mp parsed, mapError_eq_ok.mp counted, mapError_eq_ok.mp written, near⟩
  · rintro ⟨passes, parsed, counted, written, near⟩
    rw [validateLoaded_checked passes parsed counted, written]
    show (validateCapturedAtDrift now validated.capturedAt >>= _) = _
    rw [near]
    rfl

theorem admission_eq_ok :
    admission runtime source body now db = .ok admitted ↔
      validateLoaded runtime now body = .ok admitted.toValidatedBody ∧
        resolveInstallation source db = some admitted.installation := by
  constructor
  · intro admits
    obtain ⟨validated, passes, rest⟩ := bind_eq_ok.mp admits
    have checked : validateLoaded runtime now body = .ok validated := by
      cases outcome : validateLoaded runtime now body with
      | error failure =>
          rw [outcome] at passes
          cases passes
      | ok other =>
          rw [outcome] at passes
          rw [Except.ok.inj passes]
    split at rest
    · exact (throw_eq_ok.mp rest).elim
    · rename_i installation found
      rw [← pure_eq_ok.mp rest]
      exact ⟨checked, found⟩
  · rintro ⟨checked, found⟩
    unfold admission
    rw [checked, found]
    rfl

theorem storable_observed {sample observation : Loaded} (storable : StorableBatch runtime fields admitted)
    (member : sample ∈ admitted.samples)
    (observed : Observed runtime source admitted.installation admitted.batchId admitted.capturedAt
      (qualityMapping fields) (defaultQualityClass fields) sample observation) :
    observation.Storable := by
  obtain ⟨id, qualityClass, row, quality, -, rfl⟩ := observed
  have fits := storable.samples sample member
  obtain ⟨points, text, isText, encoded, -⟩ := fits.factType
  refine storable_outboxObservation.mpr
    ⟨storable.agentType, fits.storable.getD rfl, ?_, ?_, storable.capturedAt, ?_, fits.storable⟩
  · exact fits.storable.getD storable_empty.1
  · exact fits.storable.getD storable_empty.2
  · rw [isText, qualityOf_text storable.mapping encoded] at quality
    rw [← Except.ok.inj quality]
    exact fits.quality points text isText encoded

theorem storable_combined {batchId : Uuid} {ids : List Uuid} {observations : List Loaded} :
    (combinedObservation batchId ids observations).Storable ↔
      ∀ observation ∈ observations, observation.Storable := by
  rw [Loaded.Storable, combinedObservation_stored, Option.isSome_map, storedItems_isSome]

/-- **A new batch is stored exactly when it is storable**, where its keys are free. -/
theorem storeBatch_returned_iff (admits : admission runtime source body now db = .ok admitted)
    (samplesFree : ∀ row ∈ db.samples, row.tenantId = source.tenantId → row.batchId ≠ admitted.batchId)
    (outboxFree : ∀ row ∈ db.outbox, row.tenantId = source.tenantId → row.batchId ≠ admitted.batchId)
    (fresh : ∀ row ∈ db.outbox, row.id ≠ outboxId) :
    (∃ accepted, storeBatch runtime source now outboxId admitted
        (qualityMapping fields, defaultQualityClass fields) db = .ok accepted) ↔
      StorableBatch runtime fields admitted := by
  obtain ⟨passes, -, checked, -, -⟩ := validateLoaded_eq_ok.mp (admission_eq_ok.mp admits).1
  have nonempty : admitted.samples ≠ [] := validateBody_nonempty passes
  constructor
  · rintro ⟨accepted, stored⟩
    obtain ⟨⟨ids, observations, rows⟩, written, stored⟩ := bind_eq_ok.mp stored
    obtain ⟨observation, bound, -⟩ := bind_eq_ok.mp stored
    have taken := storable_combined.mp (jsonbLoaded_returned_iff.mp ⟨_, mapError_eq_ok.mp bound⟩)
    have observes := writeSamples_observes written
    have each : ∀ sample ∈ admitted.samples, (qualityMapping fields).isDict = true ∧
        (Loaded.str (pyText admitted.installation.agentType)).Storable ∧
        (Loaded.str (pyText (runtime.std.isoformat admitted.capturedAt))).Storable ∧
        StorableSample (qualityMapping fields) (defaultQualityClass fields) sample := by
      intro sample member
      obtain ⟨observation, observed, id, qualityClass, row, quality, built, rfl⟩ :=
        Result.forall₂_left observes member
      obtain ⟨agentType, -, -, -, capturedAt, classTaken, sampleTaken⟩ :=
        storable_outboxObservation.mp (taken _ observed)
      obtain ⟨-, -, counted⟩ := sampleRow_scope built
      obtain ⟨factType, unit⟩ := (sampleRow_returned_iff counted sampleTaken).mp ⟨row, built⟩
      have dict := qualityOf_dict quality
      refine ⟨dict, agentType, capturedAt, factType, unit, sampleTaken, fun points text isText encoded => ?_⟩
      rw [isText, qualityOf_text dict encoded] at quality
      rw [Except.ok.inj quality]
      exact classTaken
    obtain ⟨sample, member⟩ := List.exists_mem_of_ne_nil _ nonempty
    obtain ⟨dict, agentType, capturedAt, -⟩ := each sample member
    exact ⟨dict, fun other otherIn => (each other otherIn).2.2.2, agentType, capturedAt⟩
  · intro storable
    obtain ⟨⟨ids, observations, rows⟩, written⟩ : ∃ written, writeSamples runtime source
        admitted.installation admitted.batchId admitted.capturedAt (qualityMapping fields)
        (defaultQualityClass fields) admitted.samples db.samples = .ok written :=
      writeSamples_returns storable.mapping checked storable.samples
        fun row member tenant batch => absurd batch (samplesFree row member tenant)
    have taken : (combinedObservation admitted.batchId ids observations).Storable := by
      refine storable_combined.mpr fun observation member => ?_
      obtain ⟨sample, sampleIn, observed⟩ := Result.forall₂_right (writeSamples_observes written) member
      exact storable_observed storable sampleIn observed
    obtain ⟨kept, bound⟩ := jsonbLoaded_returned_iff.mpr taken
    have inserted : insertOutbox (outboxRow runtime source now outboxId admitted kept) db.outbox =
        .ok (db.outbox ++ [outboxRow runtime source now outboxId admitted kept]) := by
      unfold insertOutbox
      rw [if_neg, if_neg]
      · intro clash
        obtain ⟨row, member, same⟩ := List.any_eq_true.mp clash
        simp only [Bool.and_eq_true, beq_iff_eq] at same
        exact outboxFree row member same.1.1.1 same.1.2
      · intro clash
        obtain ⟨row, member, same⟩ := List.any_eq_true.mp clash
        exact fresh row member (beq_iff_eq.mp same)
    unfold storeBatch
    rw [written]
    simp only [bind, Except.bind, bound, Except.mapError, inserted]
    exact ⟨_, rfl⟩

end Batches

end CosMonitor
