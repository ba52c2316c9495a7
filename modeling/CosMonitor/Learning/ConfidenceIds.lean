/-
**What the id of a confidence hashes.**

* `Stdlib.PacksDoubles`: doubles have eight bytes each, which tell them apart;
* `confidencePreimage_unique`: the bytes determine the tenant, the target and the calibration content, up to
  the order of the evidence. A colon among the bytes of a double confuses nothing: the fields before the
  evidence have known lengths, but for the target type.
-/

import CosMonitor.Base.Bytes
import CosMonitor.Foundation.Fields
import CosMonitor.Learning.Confidence

namespace CosMonitor

/-- `struct.pack("!d", value)` of doubles: eight bytes, which tell them apart. -/
structure Stdlib.PacksDoubles (std : Stdlib) (doubles : Set ℚ) : Prop where
  width : ∀ value ∈ doubles, (std.packDouble value).length = 8
  injective : Set.InjOn std.packDouble doubles

theorem packsDoubles_of_listed {std : Stdlib} {doubles : Set ℚ} {values : List ℚ}
    (listed : ∀ value ∈ doubles, value ∈ values)
    (widths : ∀ value ∈ values, (std.packDouble value).length = 8)
    (distinct : (values.map std.packDouble).Nodup) : std.PacksDoubles doubles where
  width := fun value inside => widths value (listed value inside)
  injective := fun first firstIn second secondIn same =>
    List.inj_on_of_nodup_map distinct (listed first firstIn) (listed second secondIn) same

/-- The doubles of a calibration content. -/
def CalibrationContent.numbers (content : CalibrationContent) : List ℚ :=
  [content.evidentialSupport, content.explanatoryCoherence, content.historicalCalibration, content.alpha]

/-- Two contents are the same, up to the order of their evidence. -/
def CalibrationContent.SameAs (content other : CalibrationContent) : Prop :=
  content.numbers = other.numbers ∧ content.evidenceIds.Perm other.evidenceIds

theorem perm_of_insertionSort {ids others : List Uuid}
    (same : ids.insertionSort (· ≤ ·) = others.insertionSort (· ≤ ·)) : ids.Perm others := by
  have sorted := List.perm_insertionSort (· ≤ ·) others
  rw [← same] at sorted
  exact (List.perm_insertionSort _ _).symm.trans sorted

section Preimage

variable {std : Stdlib} {doubles : Set ℚ}

theorem Stdlib.PacksDoubles.unique (packs : std.PacksDoubles doubles) {value other : ℚ}
    (isDouble : value ∈ doubles) (otherDouble : other ∈ doubles) {rest after : List UInt8}
    (same : std.packDouble value ++ rest = std.packDouble other ++ after) : value = other ∧ rest = after := by
  obtain ⟨bytes, rests⟩ := List.append_inj same
    ((packs.width value isDouble).trans (packs.width other otherDouble).symm)
  exact ⟨packs.injective isDouble otherDouble bytes, rests⟩

theorem colon_not_mem_targetType (targetType : TargetType) :
    ':'.toUInt8 ∉ targetType.name.toUTF8.toList := by
  rw [byteArray_toList]
  cases targetType <;> decide

theorem TargetType.name_injective : Function.Injective TargetType.name := by
  intro first second same
  cases first <;> cases second <;> first | rfl | (revert same; decide)

theorem uuidBytes_unique {id other : Uuid} {rest after : List UInt8}
    (same : (uuidText id).toUTF8.toList ++ rest = (uuidText other).toUTF8.toList ++ after) :
    id = other ∧ rest = after := by
  obtain ⟨bytes, rests⟩ := List.append_inj same
    ((length_toUTF8_uuidText id).trans (length_toUTF8_uuidText other).symm)
  exact ⟨uuidText_injective (toList_toUTF8_injective bytes), rests⟩

theorem evidenceBytes_unique {ids others : List Uuid}
    (same : ((ids.insertionSort (· ≤ ·)).map fun eid => (uuidText eid).toUTF8.toList).flatMap
        (':'.toUInt8 :: ·) =
      ((others.insertionSort (· ≤ ·)).map fun eid => (uuidText eid).toUTF8.toList).flatMap
        (':'.toUInt8 :: ·)) : ids.Perm others := by
  have widths : ∀ ids : List Uuid, ∀ word ∈ ids.map fun eid => (uuidText eid).toUTF8.toList,
      word.length = 36 := by
    intro ids word member
    obtain ⟨eid, -, rfl⟩ := List.mem_map.mp member
    exact length_toUTF8_uuidText eid
  have words := Fields.separated_unique (widths _) (widths _) same
  apply perm_of_insertionSort
  refine List.map_injective_iff.mpr ?_ words
  intro first second texts
  exact uuidText_injective (toList_toUTF8_injective texts)

/-- **The bytes under the id of a confidence determine what it is about and its content**, up to the order of
the evidence. -/
theorem confidencePreimage_unique (packs : std.PacksDoubles doubles) {tenantId otherTenant : Uuid}
    {targetType otherType : TargetType} {targetId otherTarget : Uuid} {content other : CalibrationContent}
    (within : ∀ number ∈ content.numbers, number ∈ doubles)
    (otherWithin : ∀ number ∈ other.numbers, number ∈ doubles)
    (same : confidencePreimage std tenantId targetType targetId content =
      confidencePreimage std otherTenant otherType otherTarget other) :
    tenantId = otherTenant ∧ targetType = otherType ∧ targetId = otherTarget ∧ content.SameAs other := by
  simp only [CalibrationContent.numbers, List.forall_mem_cons] at within otherWithin
  obtain ⟨support, coherence, history, alpha, -⟩ := within
  obtain ⟨otherSupport, otherCoherence, otherHistory, otherAlpha, -⟩ := otherWithin
  unfold confidencePreimage at same
  simp only [List.cons_append, List.nil_append, Fields.intercalate_cons, List.flatMap_cons] at same
  obtain ⟨tenants, same⟩ := uuidBytes_unique same
  obtain ⟨types, same⟩ := Fields.until_separator (colon_not_mem_targetType targetType)
    (colon_not_mem_targetType otherType) (List.cons.inj same).2
  obtain ⟨targets, same⟩ := uuidBytes_unique same
  obtain ⟨supports, same⟩ := packs.unique support otherSupport (List.cons.inj same).2
  obtain ⟨coherences, same⟩ := packs.unique coherence otherCoherence (List.cons.inj same).2
  obtain ⟨histories, same⟩ := packs.unique history otherHistory (List.cons.inj same).2
  obtain ⟨alphas, same⟩ := packs.unique alpha otherAlpha (List.cons.inj same).2
  refine ⟨tenants, TargetType.name_injective (toList_toUTF8_injective types), targets, ?_, ?_⟩
  · rw [CalibrationContent.numbers, CalibrationContent.numbers, supports, coherences, histories, alphas]
  · exact evidenceBytes_unique same

end Preimage

end CosMonitor
