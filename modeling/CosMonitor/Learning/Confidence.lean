/-
**Calibrated confidences: content-addressed, append-only rows.**

* `confidenceId`: the id hashes the target and the calibration inputs, not the time;
* `validateConfidenceEvidenceScope_ok`: the scope check accepts exactly the evidence of the scope;
* `saveConfidence_ids`: a save makes its id a stored id and keeps every row;
* `saveAll_ids`: the ids after any series of saves.
-/

import CosMonitor.Base.Stdlib
import CosMonitor.Foundation.Paging
import CosMonitor.Foundation.Result
import CosMonitor.Foundation.Table
import CosMonitor.Perception.Observation
import Mathlib.Data.List.Sort
import Mathlib.Data.Prod.Lex

namespace CosMonitor

open Table

/-- What a confidence can be about. -/
inductive TargetType where
  | hypothesis
  | recommendation
  | decision
  deriving DecidableEq, Repr

/-- The text of a target type. -/
def TargetType.name : TargetType → String
  | hypothesis => "hypothesis"
  | recommendation => "recommendation"
  | decision => "decision"

/-- The data that the text of a calibration justification shows, in its order. -/
structure Justification where
  judgment : String
  alpha : ℚ
  M : Int
  L0 : ℚ
  evidentialSupport : ℚ
  logOdds : ℚ
  supporting : List (String × QualityClass × ℚ)
  opposing : List String
  explanatoryCoherence : ℚ
  explains : List String
  contradicts : List String
  calibrationError : ℚ
  history : Option Nat
  historicalCalibration : ℚ
  finalConfidence : ℚ
  deriving DecidableEq

/-- A creation request for a confidence. -/
structure ConfidenceCreate where
  tenantId : Uuid
  targetType : TargetType
  targetId : Uuid
  evidentialSupport : UnitScore
  explanatoryCoherence : UnitScore
  historicalCalibration : UnitScore
  confidenceScore : UnitScore
  alpha : UnitScore
  calibrationJustification : Justification
  calibrationErrorEstimate : UnitScore
  evidenceIds : List Uuid
  deriving DecidableEq

/-- A calibrated confidence. -/
structure Confidence extends ConfidenceCreate where
  id : Uuid
  computedAt : Timestamp
  deriving DecidableEq

/-! ### The id -/

/-- The calibration inputs that determine the score. -/
structure CalibrationContent where
  evidentialSupport : ℚ
  explanatoryCoherence : ℚ
  historicalCalibration : ℚ
  alpha : ℚ
  evidenceIds : List Uuid
  deriving DecidableEq

/-- The namespace of confidence ids. -/
def confidenceNamespace : Uuid := 0x80

/-- The bytes that the id of a confidence hashes. -/
def confidencePreimage (std : Stdlib) (tenantId : Uuid) (targetType : TargetType) (targetId : Uuid)
    (content : CalibrationContent) : List UInt8 :=
  let encode (text : String) := text.toUTF8.toList
  [':'.toUInt8].intercalate
    ([encode (uuidText tenantId), encode targetType.name, encode (uuidText targetId),
      std.packDouble content.evidentialSupport, std.packDouble content.explanatoryCoherence,
      std.packDouble content.historicalCalibration, std.packDouble content.alpha] ++
    (content.evidenceIds.insertionSort (· ≤ ·)).map fun eid => encode (uuidText eid))

/-- Derive the id from the target and the calibration inputs. -/
def confidenceId (std : Stdlib) (tenantId : Uuid) (targetType : TargetType) (targetId : Uuid)
    (content : CalibrationContent) : Except PyError Uuid :=
  std.uuid5OfBytes confidenceNamespace (confidencePreimage std tenantId targetType targetId content)

/-- The content that the id of a creation request hashes. -/
def ConfidenceCreate.content (create : ConfidenceCreate) : CalibrationContent where
  evidentialSupport := create.evidentialSupport
  explanatoryCoherence := create.explanatoryCoherence
  historicalCalibration := create.historicalCalibration
  alpha := create.alpha
  evidenceIds := create.evidenceIds

/-- The bytes that the id of a creation request hashes. -/
def ConfidenceCreate.preimage (std : Stdlib) (create : ConfidenceCreate) : List UInt8 :=
  confidencePreimage std create.tenantId create.targetType create.targetId create.content

/-- The id that a creation request gets. -/
def ConfidenceCreate.confidenceId (std : Stdlib) (create : ConfidenceCreate) : Except PyError Uuid :=
  CosMonitor.confidenceId std create.tenantId create.targetType create.targetId create.content

/-- Materialise a confidence; the time is overwritten by the database. -/
def buildConfidence (std : Stdlib) (now : Timestamp) (create : ConfidenceCreate) :
    Except PyError Confidence := do
  let id ← create.confidenceId std
  return { create with id, computedAt := now }

theorem ConfidenceCreate.confidenceId_eq_ok {std : Stdlib} {create : ConfidenceCreate} {id : Uuid} :
    create.confidenceId std = .ok id ↔
      ∃ hash, std.uuid5Bytes = some hash ∧ hash confidenceNamespace (create.preimage std) = id :=
  Stdlib.uuid5OfBytes_eq_ok

/-- **A confidence is built where bytes have an id**, under the hash of its preimage. -/
theorem buildConfidence_eq_ok {std : Stdlib} {now : Timestamp} {create : ConfidenceCreate}
    {confidence : Confidence} :
    buildConfidence std now create = .ok confidence ↔ ∃ hash, std.uuid5Bytes = some hash ∧
      confidence = { create with id := hash confidenceNamespace (create.preimage std), computedAt := now } := by
  unfold buildConfidence
  rw [Result.bind_eq_ok]
  constructor
  · rintro ⟨id, hashed, built⟩
    obtain ⟨hash, supported, rfl⟩ := ConfidenceCreate.confidenceId_eq_ok.mp hashed
    exact ⟨hash, supported, (Result.pure_eq_ok.mp built).symm⟩
  · rintro ⟨hash, supported, rfl⟩
    exact ⟨_, ConfidenceCreate.confidenceId_eq_ok.mpr ⟨hash, supported, rfl⟩, rfl⟩

theorem buildConfidence_returns {std : Stdlib} {hash : Uuid → List UInt8 → Uuid} (now : Timestamp)
    (create : ConfidenceCreate) (supported : std.uuid5Bytes = some hash) :
    ∃ confidence, buildConfidence std now create = .ok confidence :=
  ⟨_, buildConfidence_eq_ok.mpr ⟨hash, supported, rfl⟩⟩

theorem buildConfidence_id {std : Stdlib} {now : Timestamp} {create : ConfidenceCreate}
    {confidence : Confidence} (built : buildConfidence std now create = .ok confidence) :
    create.confidenceId std = .ok confidence.id := by
  obtain ⟨hash, supported, rfl⟩ := buildConfidence_eq_ok.mp built
  exact ConfidenceCreate.confidenceId_eq_ok.mpr ⟨hash, supported, rfl⟩

/-! ### Scope -/

/-- An evidence outside the cognitive scope. -/
structure EvidenceScopeError where
  evidenceId : Uuid
  deriving DecidableEq

/-- Reject the first evidence outside the scope of the hypothesis. -/
def validateConfidenceEvidenceScope (confidenceEvidenceIds hypothesisEvidenceIds : List Uuid) :
    Except EvidenceScopeError Unit :=
  match confidenceEvidenceIds.find? fun eid => decide (eid ∉ hypothesisEvidenceIds) with
  | some eid => .error ⟨eid⟩
  | none => .ok ()

/-- **The check accepts exactly the evidence of the scope.** -/
theorem validateConfidenceEvidenceScope_ok {confidenceEvidenceIds hypothesisEvidenceIds : List Uuid} :
    validateConfidenceEvidenceScope confidenceEvidenceIds hypothesisEvidenceIds = .ok () ↔
      ∀ eid ∈ confidenceEvidenceIds, eid ∈ hypothesisEvidenceIds := by
  unfold validateConfidenceEvidenceScope
  cases outside : confidenceEvidenceIds.find? fun eid => decide (eid ∉ hypothesisEvidenceIds) with
  | none =>
      rw [List.find?_eq_none] at outside
      simpa using outside
  | some eid =>
      have found := List.find?_some outside
      have member := List.mem_of_find?_eq_some outside
      simp only [reduceCtorEq, false_iff, not_forall]
      exact ⟨eid, member, by simpa using found⟩

/-! ### The store -/

/-- The row that `INSERT INTO confidence_scores` stores at an instant: scores in `NUMERIC(5,4)`, the
mixing coefficient in `NUMERIC(3,2)`. -/
def Confidence.toRow (now : Timestamp) (confidence : Confidence) : Confidence :=
  { confidence with
    evidentialSupport := confidence.evidentialSupport.numeric 4
    explanatoryCoherence := confidence.explanatoryCoherence.numeric 4
    historicalCalibration := confidence.historicalCalibration.numeric 4
    confidenceScore := confidence.confidenceScore.numeric 4
    alpha := confidence.alpha.numeric 2
    calibrationErrorEstimate := confidence.calibrationErrorEstimate.numeric 4
    computedAt := now }

@[simp] theorem Confidence.toRow_id (now : Timestamp) (confidence : Confidence) :
    (confidence.toRow now).id = confidence.id := rfl

/-- Insert one confidence; the row, or `none` when its id is stored already. -/
def saveConfidence (now : Timestamp) (confidence : Confidence) (rows : List Confidence) :
    Option Confidence × List Confidence :=
  insertAbsent Confidence.id (confidence.toRow now) rows

/-- A series of saves, each at its own instant. -/
def saveAll (saves : List (Timestamp × Confidence)) (rows : List Confidence) : List Confidence :=
  saves.foldl (fun stored save => (saveConfidence save.1 save.2 stored).2) rows

/-- The rows of a tenant in the order of `ORDER BY computed_at, id`, one page of them. -/
def listConfidence (tenantId : Uuid) (limit offset : Nat) (rows : List Confidence) :
    List Confidence :=
  let ordered := (rows.filter fun row => row.tenantId == tenantId).insertionSort fun first second =>
    first.computedAt < second.computedAt ∨
      (first.computedAt = second.computedAt ∧ first.id ≤ second.id)
  (ordered.drop offset).take limit

/-- A listing puts the first row before the second. -/
def Confidence.Precedes (first second : Confidence) : Prop :=
  first.computedAt < second.computedAt ∨
    (first.computedAt = second.computedAt ∧ first.id < second.id)

instance : DecidableRel Confidence.Precedes :=
  fun first second => inferInstanceAs (Decidable (first.computedAt < second.computedAt ∨ (_ ∧ _)))

/-- How many rows of its tenant a listing puts before a row. -/
def Confidence.rank (rows : List Confidence) (row : Confidence) : Nat :=
  rows.countP fun other => decide (other.tenantId = row.tenantId ∧ other.Precedes row)

/-- What a listing is ordered by. -/
def Confidence.listingKey (confidence : Confidence) : Timestamp ×ₗ Uuid :=
  toLex (confidence.computedAt, confidence.id)

theorem Confidence.precedes_iff {first second : Confidence} :
    first.Precedes second ↔ first.listingKey < second.listingKey := by
  unfold Confidence.Precedes Confidence.listingKey
  rw [Prod.Lex.toLex_lt_toLex]

theorem Confidence.listingKey_le_iff {first second : Confidence} :
    first.listingKey ≤ second.listingKey ↔
      first.computedAt < second.computedAt ∨
        (first.computedAt = second.computedAt ∧ first.id ≤ second.id) := by
  unfold Confidence.listingKey
  rw [Prod.Lex.toLex_le_toLex]

/-- The rows of a tenant in the order of a listing. -/
def orderedConfidence (tenantId : Uuid) (rows : List Confidence) : List Confidence :=
  (rows.filter fun row => row.tenantId == tenantId).insertionSort fun first second =>
    first.computedAt < second.computedAt ∨
      (first.computedAt = second.computedAt ∧ first.id ≤ second.id)

theorem orderedConfidence_perm (tenantId : Uuid) (rows : List Confidence) :
    (orderedConfidence tenantId rows).Perm (rows.filter fun row => row.tenantId == tenantId) :=
  List.perm_insertionSort _ _

/-- **A listing of different rows is in strict order.** -/
theorem orderedConfidence_pairwise {rows : List Confidence}
    (distinct : (rows.map Confidence.id).Nodup) (tenantId : Uuid) :
    (orderedConfidence tenantId rows).Pairwise fun first second =>
      first.Precedes second ∧ ¬second.Precedes first := by
  let own := rows.filter fun row => row.tenantId == tenantId
  have distinctOwn : ((orderedConfidence tenantId rows).map Confidence.id).Nodup :=
    ((orderedConfidence_perm tenantId rows).map _).nodup_iff.mpr
      (distinct.sublist (List.filter_sublist.map _))
  have ordered := Sorting.pairwise_insertionSort
    (fun first second => (@Confidence.listingKey_le_iff first second).symm) own
  refine (ordered.and (List.pairwise_map.mp distinctOwn)).imp ?_
  rintro first second ⟨below, differ⟩
  have keys : first.listingKey ≠ second.listingKey := fun same => differ (Prod.ext_iff.mp same).2
  have strict := lt_of_le_of_ne below keys
  exact ⟨Confidence.precedes_iff.mpr strict,
    fun back => lt_asymm strict (Confidence.precedes_iff.mp back)⟩

theorem listConfidence_first (tenantId : Uuid) (limit : Nat) (rows : List Confidence) :
    listConfidence tenantId limit 0 rows = (orderedConfidence tenantId rows).take limit := by
  show ((orderedConfidence tenantId rows).drop 0).take limit = _
  rw [List.drop_zero]

/-- **The first page of a tenant**: its rows with fewer rows before them than the page holds. -/
theorem mem_listConfidence {rows : List Confidence} (distinct : (rows.map Confidence.id).Nodup)
    {tenantId : Uuid} {limit : Nat} {row : Confidence} :
    row ∈ listConfidence tenantId limit 0 rows ↔
      row ∈ rows ∧ row.tenantId = tenantId ∧ row.rank rows < limit := by
  rw [listConfidence_first, Paging.mem_take_iff
      (fun other same => lt_irrefl _ (Confidence.precedes_iff.mp same))
      (orderedConfidence_pairwise distinct tenantId),
    (orderedConfidence_perm tenantId rows).mem_iff, (orderedConfidence_perm tenantId rows).countP_eq,
    List.countP_filter, List.mem_filter, beq_iff_eq, and_assoc]
  refine and_congr_right fun member => and_congr_right fun isOwn => ?_
  unfold Confidence.rank
  rw [isOwn]
  have counted : (rows.countP fun other => decide (other.Precedes row) && (other.tenantId == tenantId)) =
      rows.countP fun other => decide (other.tenantId = tenantId ∧ other.Precedes row) :=
    List.countP_congr fun other _ => by simp [and_comm]
  rw [counted]

theorem listConfidence_ids {rows : List Confidence} (distinct : (rows.map Confidence.id).Nodup)
    (tenantId : Uuid) (limit offset : Nat) :
    ((listConfidence tenantId limit offset rows).map Confidence.id).Nodup := by
  refine List.Nodup.sublist (((List.take_sublist _ _).trans (List.drop_sublist _ _)).map _) ?_
  exact ((List.perm_insertionSort _ _).map _).nodup_iff.mpr
    (distinct.sublist (List.filter_sublist.map _))

theorem saveConfidence_cases (now : Timestamp) (confidence : Confidence) (rows : List Confidence) :
    ((∃ row ∈ rows, row.id = confidence.id) ∧ (saveConfidence now confidence rows).2 = rows) ∨
      (saveConfidence now confidence rows).2 = rows ++ [confidence.toRow now] := by
  by_cases stored : ∃ row ∈ rows, row.id = confidence.id
  · obtain ⟨row, member, same⟩ := stored
    refine .inl ⟨⟨row, member, same⟩, ?_⟩
    unfold saveConfidence
    rw [insertAbsent_of_mem member (by rw [same, Confidence.toRow_id])]
  · refine .inr ?_
    have fresh : ∀ row ∈ rows, row.id ≠ (confidence.toRow now).id :=
      fun row member same => stored ⟨row, member, same⟩
    unfold saveConfidence
    rw [insertAbsent_of_fresh fresh]

theorem saveConfidence_ids (now : Timestamp) (confidence : Confidence) (rows : List Confidence)
    (id : Uuid) :
    (∃ row ∈ (saveConfidence now confidence rows).2, row.id = id) ↔
      (∃ row ∈ rows, row.id = id) ∨ confidence.id = id := by
  rcases saveConfidence_cases now confidence rows with ⟨⟨row, member, same⟩, unchanged⟩ | appended
  · rw [unchanged]
    constructor
    · exact .inl
    · rintro (stored | rfl)
      · exact stored
      · exact ⟨row, member, same⟩
  · rw [appended]
    simp only [List.mem_append, List.mem_singleton, or_and_right, exists_or, exists_eq_left,
      Confidence.toRow_id]

/-- **The ids after a series of saves.** -/
theorem saveAll_ids (saves : List (Timestamp × Confidence)) (rows : List Confidence) (id : Uuid) :
    (∃ row ∈ saveAll saves rows, row.id = id) ↔
      (∃ row ∈ rows, row.id = id) ∨ ∃ save ∈ saves, save.2.id = id := by
  unfold saveAll
  induction saves generalizing rows with
  | nil => simp
  | cons save rest ih =>
      rw [List.foldl_cons, ih, saveConfidence_ids, or_assoc]
      simp only [List.mem_cons, exists_eq_or_imp]

theorem saveAll_new (saves : List (Timestamp × Confidence)) (rows : List Confidence)
    {row : Confidence} (member : row ∈ saveAll saves rows) :
    row ∈ rows ∨ ∃ save ∈ saves, row = save.2.toRow save.1 := by
  unfold saveAll at member
  induction saves generalizing rows with
  | nil => exact .inl member
  | cons save rest ih =>
      rw [List.foldl_cons] at member
      rcases ih _ member with stored | ⟨later, laterIn, rfl⟩
      · rcases saveConfidence_cases save.1 save.2 rows with ⟨-, unchanged⟩ | appended
        · rw [unchanged] at stored
          exact .inl stored
        · rw [appended] at stored
          rcases List.mem_append.mp stored with old | new
          · exact .inl old
          · exact .inr ⟨save, List.mem_cons_self, List.mem_singleton.mp new⟩
      · exact .inr ⟨later, List.mem_cons_of_mem _ laterIn, rfl⟩

end CosMonitor
