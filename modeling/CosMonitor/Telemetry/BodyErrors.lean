/-
**What the validation of an ingest can raise.**

`ingest_batch` checks the body, parses `captured_at`, checks the sequences, computes the canonical payload and
compares `captured_at` with the clock. Its docstring names the two exceptions that the gateway maps to an
answer.

* `validateLoaded`: these steps on any value of `json.loads`;
* `validation_handled_iff`: exactly which bodies raise anything else;
* `naive_timestamp_escapes`: a timestamp without an offset does, and a number out of the range of a double.
-/

import CosMonitor.Telemetry.LoadedBodies

namespace CosMonitor

open Result

/-! ### The steps -/

/-- The validation failures of an ingest (400). -/
inductive ValidationError where
  /-- "request body must be a JSON object" -/
  | bodyNotObject
  /-- "batch_id is required" -/
  | batchIdRequired
  /-- "batch_id must be a valid UUID" -/
  | batchIdInvalid
  /-- "samples must be a non-empty array" -/
  | samplesEmpty
  /-- "captured_at is required" -/
  | capturedAtRequired
  /-- "samples[i] must be a JSON object" -/
  | sampleNotObject (index : Nat)
  /-- "samples[i].field is required" -/
  | sampleFieldRequired (index : Nat) (field : String)
  /-- "captured_at must be a valid ISO 8601 timestamp" -/
  | capturedAtInvalid
  /-- "samples[i].sequence must be a positive integer" -/
  | sequenceNotPositive (index : Nat)
  /-- "samples[i].sequence must be …, got … (sequences must be 1-based and monotonic)" -/
  | sequenceNotExpected (index : Nat) (expected got : Int)
  /-- "captured_at drift too large: …s (max 300s)" -/
  | driftTooLarge (drift : Timestamp)
  /-- "installation not found or tenant mismatch" -/
  | installationNotFound
  deriving DecidableEq, Repr

/-- What the validation of a body raises. -/
inductive BodyError where
  | validation (failure : ValidationError)
  | escaping (failure : EscapingError)
  deriving DecidableEq, Repr

section Steps

variable (runtime : BodyRuntime)

/-- `value is None`. -/
def Loaded.isNone : Loaded → Bool
  | .null => true
  | _ => false

/-- `str(value)`. -/
def strLoaded : Loaded → PyText
  | .str text => text
  | .int value => pyText (toString value)
  | other => runtime.strOther other

/-- `uuid.UUID(text)`: a text with a surrogate is none, since `int(text, 16)` rejects it. -/
def uuidOfPoints (text : PyText) : Option Uuid :=
  (textOf text).bind parseUuid

theorem uuidOfPoints_pyText (text : String) : uuidOfPoints (pyText text) = parseUuid text := by
  rw [uuidOfPoints, textOf_pyText, Option.bind_some]

/-- The checks of one sample. -/
def validateSample (index : Nat) (sample : Loaded) : Except ValidationError Unit :=
  if sample.isDict then
    match ["sequence", "fact_type", "fact_value", "unit"].find? fun field =>
        (sample.lookup field).isNone with
    | some missing => .error (.sampleFieldRequired index missing)
    | none => .ok ()
  else .error (.sampleNotObject index)

/-- The samples in order, from an index on. -/
def validateSamples : (index : Nat) → List Loaded → Except ValidationError Unit
  | _, [] => .ok ()
  | index, sample :: rest => do
      validateSample index sample
      validateSamples (index + 1) rest

/-- `_validate_body`. -/
def validateBody (body : Loaded) : Except BodyError (Uuid × List Loaded) :=
  if !body.isDict then .error (.validation .bodyNotObject)
  else if (body.get "batch_id").isNone then .error (.validation .batchIdRequired)
  else if runtime.strOverflows (body.get "batch_id") then .error (.escaping .recursion)
  else match uuidOfPoints (strLoaded runtime (body.get "batch_id")) with
    | none => .error (.validation .batchIdInvalid)
    | some batchId =>
        match body.get "samples" with
        | .arr (first :: rest) =>
            if (body.lookup "captured_at").isNone then .error (.validation .capturedAtRequired)
            else do
              (validateSamples 0 (first :: rest)).mapError .validation
              return (batchId, first :: rest)
        | _ => .error (.validation .samplesEmpty)

/-- `text.replace("Z", "+00:00")`. -/
def replaceZulu (text : PyText) : PyText :=
  text.flatMap fun point => if point = codePoint 'Z' then pyText "+00:00" else [point]

/-- `_parse_captured_at`. -/
def parseCapturedAt (raw : Loaded) : Except ValidationError PyDatetime :=
  match raw with
  | .str text =>
      match runtime.fromisoformat (replaceZulu text) with
      | some parsed => .ok parsed
      | none => .error .capturedAtInvalid
  | _ => .error .capturedAtInvalid

/-- `isinstance(value, int)`. -/
def intOf : Loaded → Option Int
  | .int value => some value
  | .bool value => some (if value then 1 else 0)
  | _ => none

/-- `_validate_sequence_monotonicity`, from an index and its expected sequence on. -/
def validateSequenceMonotonicity : (index : Nat) → (expected : Int) → List Loaded → Except ValidationError Unit
  | _, _, [] => .ok ()
  | index, expected, sample :: rest =>
      match intOf (sample.get "sequence") with
      | none => .error (.sequenceNotPositive index)
      | some sequence =>
          if sequence < 1 then .error (.sequenceNotPositive index)
          else if sequence ≠ expected then .error (.sequenceNotExpected index expected sequence)
          else validateSequenceMonotonicity (index + 1) (sequence + 1) rest

/-- `CAPTURED_AT_MAX_DRIFT`. -/
def capturedAtMaxDrift : Timestamp := 300 * second

/-- `_validate_captured_at_drift`: a naive datetime cannot be subtracted from the clock. -/
def validateCapturedAtDrift (now : Timestamp) (capturedAt : PyDatetime) : Except BodyError Unit :=
  if capturedAt.offset.isNone then .error (.escaping .typeError)
  else if capturedAtMaxDrift ≤ |now - capturedAt.instant| then
    .error (.validation (.driftTooLarge |now - capturedAt.instant|))
  else .ok ()

/-- A body that passed the checks. -/
structure ValidatedBody where
  batchId : Uuid
  samples : List Loaded
  capturedAt : PyDatetime
  canonical : PyText

/-- `ingest_batch` before its first database action. -/
def validateLoaded (now : Timestamp) (body : Loaded) : Except BodyError ValidatedBody := do
  let (batchId, samples) ← validateBody runtime body
  let capturedAt ← (parseCapturedAt runtime (body.get "captured_at")).mapError .validation
  (validateSequenceMonotonicity 0 1 samples).mapError .validation
  let canonical ← (canonicalLoaded runtime body.fields).mapError .escaping
  validateCapturedAtDrift now capturedAt
  return { batchId, samples, capturedAt, canonical }

end Steps

/-! ### What is raised -/

section Raised

variable {runtime : BodyRuntime} {now : Timestamp} {body : Loaded}

theorem mapError_validation_ne {Value : Type} {called : Except ValidationError Value}
    {failure : EscapingError} : called.mapError BodyError.validation ≠ .error (.escaping failure) := by
  cases called with
  | ok value => exact fun same => nomatch same
  | error raised => exact fun same => nomatch same

theorem validateBody_escapes_iff :
    (∃ failure, validateBody runtime body = .error (.escaping failure)) ↔
      body.isDict = true ∧ (body.get "batch_id").isNone = false ∧
        runtime.strOverflows (body.get "batch_id") = true := by
  unfold validateBody
  cases body.isDict with
  | false => simp
  | true =>
      cases (body.get "batch_id").isNone with
      | true => simp
      | false =>
          cases runtime.strOverflows (body.get "batch_id") with
          | true => simp
          | false =>
              simp only [Bool.not_true, Bool.false_eq_true, if_false, and_false, iff_false, not_exists]
              intro failure raised
              split at raised
              · cases raised
              · split at raised
                · split at raised
                  · cases raised
                  · rcases bind_eq_error.mp raised with checked | ⟨-, -, returned⟩
                    · exact mapError_validation_ne checked
                    · cases returned
                · cases raised

theorem validateCapturedAtDrift_escapes_iff {capturedAt : PyDatetime} :
    (∃ failure, validateCapturedAtDrift now capturedAt = .error (.escaping failure)) ↔
      capturedAt.offset = none := by
  unfold validateCapturedAtDrift
  cases capturedAt.offset with
  | none => simp
  | some offset =>
      rw [Option.isNone_some, if_neg Bool.false_ne_true]
      split <;> simp

theorem validateLoaded_checked {batchId : Uuid} {samples : List Loaded} {capturedAt : PyDatetime}
    (checked : validateBody runtime body = .ok (batchId, samples))
    (parsed : parseCapturedAt runtime (body.get "captured_at") = .ok capturedAt)
    (ordered : validateSequenceMonotonicity 0 1 samples = .ok ()) :
    validateLoaded runtime now body =
      ((canonicalLoaded runtime body.fields).mapError .escaping >>= fun canonical =>
        validateCapturedAtDrift now capturedAt >>= fun _ =>
          return { batchId, samples, capturedAt, canonical }) := by
  rw [validateLoaded, checked, ok_bind]
  dsimp only
  rw [parsed, ordered]
  rfl

/-- **Which bodies are handled.** The validation of a body raises nothing but a `ValidationError` exactly when
`str` of its batch id returns and, unless a check before rejects the body, every float of its payload is finite,
the call stack suffices for its nesting, no text value of it has a surrogate, and its timestamp has an offset. -/
theorem validation_handled_iff (runtime : BodyRuntime) (now : Timestamp) (body : Loaded) :
    (∀ failure, validateLoaded runtime now body ≠ .error (.escaping failure)) ↔
      (body.isDict = true → (body.get "batch_id").isNone = false →
        runtime.strOverflows (body.get "batch_id") = false) ∧
      ∀ batchId samples capturedAt, validateBody runtime body = .ok (batchId, samples) →
        parseCapturedAt runtime (body.get "captured_at") = .ok capturedAt →
        validateSequenceMonotonicity 0 1 samples = .ok () →
        RendersFields runtime 0 (payloadFields body.fields) ∧
          EncodableFields (payloadFields body.fields) ∧ capturedAt.offset.isSome = true := by
  constructor
  · intro handled
    refine ⟨fun isDict present => ?_, fun batchId samples capturedAt checked parsed ordered => ?_⟩
    · by_contra overflows
      rw [Bool.not_eq_false] at overflows
      obtain ⟨failure, raised⟩ := validateBody_escapes_iff.mpr ⟨isDict, present, overflows⟩
      exact handled failure (by rw [validateLoaded, raised]; rfl)
    · have remaining := @validateLoaded_checked runtime now body _ _ _ checked parsed ordered
      cases canonical : canonicalLoaded runtime body.fields with
      | error failure =>
          rw [canonical] at remaining
          exact absurd remaining (handled failure)
      | ok text =>
          obtain ⟨renders, encodes⟩ := (canonicalLoaded_returns_iff _).mp ⟨text, canonical⟩
          refine ⟨renders, encodes, ?_⟩
          rw [Option.isSome_iff_ne_none]
          intro naive
          obtain ⟨failure, raised⟩ := (@validateCapturedAtDrift_escapes_iff now capturedAt).mpr naive
          rw [canonical, raised] at remaining
          exact handled failure remaining
  · rintro ⟨fits, clean⟩ failure raised
    rcases bind_eq_error.mp raised with escaped | ⟨⟨batchId, samples⟩, checked, raised⟩
    · obtain ⟨isDict, present, overflows⟩ := validateBody_escapes_iff.mp ⟨failure, escaped⟩
      rw [fits isDict present] at overflows
      cases overflows
    · dsimp only at raised
      rcases bind_eq_error.mp raised with escaped | ⟨capturedAt, parsed, raised⟩
      · exact mapError_validation_ne escaped
      · rcases bind_eq_error.mp raised with escaped | ⟨checkedSequences, ordered, raised⟩
        · exact mapError_validation_ne escaped
        · obtain ⟨renders, encodes, aware⟩ := clean batchId samples capturedAt checked
            (mapError_eq_ok.mp parsed) (mapError_eq_ok.mp ordered)
          obtain ⟨text, canonical⟩ := (canonicalLoaded_returns_iff _).mpr ⟨renders, encodes⟩
          rw [canonical] at raised
          rcases bind_eq_error.mp raised with escaped | ⟨written, isWritten, raised⟩
          · cases escaped
          · rcases bind_eq_error.mp raised with escaped | ⟨compared, isCompared, returned⟩
            · have naive := validateCapturedAtDrift_escapes_iff.mp ⟨failure, escaped⟩
              rw [naive] at aware
              cases aware
            · cases returned

end Raised

section Samples

/-- An interpreter that has read two timestamps. -/
def readingRuntime : BodyRuntime where
  std := .constant
  strOther := fun _ => []
  fromisoformat := fun text =>
    if text = pyText "2024-01-01T00:00:00" then some ⟨1704067200000000, none⟩
    else if text = pyText "2024-01-01T00:00:00+00:00" then some (.utc 1704067200000000)
    else none
  strOverflows := fun _ => false
  serializeOverflows := fun _ _ => false

/-- A sample with one number. -/
def loadedSample (load : PyFloat) : Loaded :=
  .obj
    [(pyText "sequence", .int 1), (pyText "fact_type", .str (pyText "cpu")),
      (pyText "fact_value", .obj [(pyText "load", .float load)]), (pyText "unit", .str (pyText "%"))]

/-- A body with that sample. -/
def loadedBody (batchId : Uuid) (capturedAt : String) (load : PyFloat) : Loaded :=
  .obj
    [(pyText "batch_id", .str (pyText (uuidText batchId))),
      (pyText "captured_at", .str (pyText capturedAt)),
      (pyText "samples", .arr [loadedSample load])]

theorem loadedBody_checked (batchId : Uuid) (capturedAt : String) (load : PyFloat) :
    validateBody readingRuntime (loadedBody batchId capturedAt load) =
      .ok (batchId, [loadedSample load]) := by
  have read : uuidOfPoints (pyText (uuidText batchId)) = some batchId := by
    rw [uuidOfPoints_pyText, parseUuid_uuidText]
  have sent : (loadedBody batchId capturedAt load).get "batch_id" = .str (pyText (uuidText batchId)) := rfl
  unfold validateBody
  rw [sent, strLoaded, read]
  rfl

theorem loadedBody_payload (batchId : Uuid) (capturedAt : String) (load : PyFloat) :
    payloadFields (loadedBody batchId capturedAt load).fields =
      [(pyText "captured_at", .str (pyText capturedAt)), (pyText "samples", .arr [loadedSample load])] := rfl

theorem loadedBody_canonical (batchId : Uuid) (capturedAt : String) (load : PyFloat) :
    (∃ text, canonicalLoaded readingRuntime (loadedBody batchId capturedAt load).fields = .ok text) ↔
      ∃ value, load = .finite value := by
  rw [canonicalLoaded_returns_iff, loadedBody_payload]
  simp only [RendersFields, RendersItems, EncodableFields, EncodableItems, Loaded.Renders, Loaded.Encodable,
    loadedSample, readingRuntime, true_and, and_true]
  exact and_iff_left ⟨encodes_map _, encodes_map _, encodes_map _⟩

/-- A timestamp without an offset, sent at that very moment, and a number such as `1e999` are no
`ValidationError`. -/
theorem naive_timestamp_escapes :
    validateLoaded readingRuntime 1704067200000000 (loadedBody 1 "2024-01-01T00:00:00" (.finite 1)) =
        .error (.escaping .typeError) ∧
      ∃ failure, validateLoaded readingRuntime 1704067200000000
        (loadedBody 1 "2024-01-01T00:00:00Z" (.infinite false)) = .error (.escaping failure) := by
  constructor
  · have parsed : parseCapturedAt readingRuntime (.str (pyText "2024-01-01T00:00:00")) =
        .ok ⟨1704067200000000, none⟩ := by decide +kernel
    obtain ⟨text, canonical⟩ := (loadedBody_canonical 1 "2024-01-01T00:00:00" (.finite 1)).mpr ⟨1, rfl⟩
    rw [validateLoaded_checked (loadedBody_checked _ _ _) parsed rfl, canonical]
    rfl
  · have parsed : parseCapturedAt readingRuntime (.str (pyText "2024-01-01T00:00:00Z")) =
        .ok (.utc 1704067200000000) := by decide +kernel
    rw [validateLoaded_checked (loadedBody_checked _ _ _) parsed rfl]
    cases canonical : canonicalLoaded readingRuntime (loadedBody 1 "2024-01-01T00:00:00Z" (.infinite false)).fields with
    | error failure => exact ⟨failure, rfl⟩
    | ok text =>
        obtain ⟨value, same⟩ := (loadedBody_canonical 1 _ _).mp ⟨text, canonical⟩
        cases same

end Samples

end CosMonitor
