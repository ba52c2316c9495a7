/-
**What content-addressed ids hash.**

The ids of evidence, hypotheses and contexts hash a text with colons between its fields, those of confidences
hash bytes.

* `evidencePreimage_unique`, `hypothesisPreimage_unique`, `contextPreimage_unique`: where names have no colon,
  the text determines every field, up to the order of the lists that are sorted before they are hashed;
* `contentPreimages_injective`: so do the preimages of all four kinds;
* `swapped_models_hash_alike`: the competing models are among these lists, although they are no ids.
-/

import CosMonitor.Learning.ConfidenceIds
import CosMonitor.Perception.Activator
import CosMonitor.Reasoning.Hypothesis
import CosMonitor.Telemetry.Dumps

namespace CosMonitor

open Sorting

/-! ### Fields -/

section Fields

theorem toList_joinedIds (ids : List Uuid) :
    (joinedIds ids).toList = [','].intercalate ((ids.insertionSort (· ≤ ·)).map uuidChars) := by
  unfold joinedIds
  rw [String.toList_intercalate, List.map_map]
  refine congrArg (List.intercalate [',']) (List.map_congr_left fun id _ => ?_)
  exact String.toList_ofList

/-- **Joined ids are determined**, up to their order. -/
theorem joinedIds_unique {ids others : List Uuid} (same : joinedIds ids = joinedIds others) :
    ids.Perm others := by
  have widths : ∀ ids : List Uuid, ∀ word ∈ ids.map uuidChars, word.length = 36 := by
    intro ids word member
    obtain ⟨id, -, rfl⟩ := List.mem_map.mp member
    exact length_uuidChars id
  have texts := congrArg String.toList same
  rw [toList_joinedIds, toList_joinedIds] at texts
  apply perm_of_insertionSort
  refine List.map_injective_iff.mpr ?_ (Fields.joined_unique (by decide) (widths _) (widths _) texts)
  intro first second characters
  exact uuidText_injective (congrArg String.ofList characters)

theorem colon_not_mem_uuidChars (id : Uuid) : ':' ∉ uuidChars id := by
  intro member
  rcases mem_uuidChars member with dash | digit
  · cases dash
  · obtain ⟨value, small, same⟩ := hexValue_of_mem_hexDigits digit
    have plain : ∀ value < 16, ':' ≠ hexChar value := by decide
    exact plain value small same

theorem colon_not_mem_joinedIds (ids : List Uuid) : ':' ∉ (joinedIds ids).toList := by
  rw [toList_joinedIds]
  intro member
  rcases Fields.mem_intercalate member with comma | ⟨word, isWord, inside⟩
  · cases comma
  · obtain ⟨id, -, rfl⟩ := List.mem_map.mp isWord
    exact colon_not_mem_uuidChars id inside

theorem IsNumeral.colon_not_mem {text : List Char} (numeral : IsNumeral text) : ':' ∉ text := by
  intro member
  have belongs := numeral.characters ':' member
  revert belongs
  decide

/-- **A field without colons is determined**, and so is the text after its colon. -/
theorem field_unique {field other rest after : String} (plain : ':' ∉ field.toList)
    (otherPlain : ':' ∉ other.toList) (same : field ++ (":" ++ rest) = other ++ (":" ++ after)) :
    field = other ∧ rest = after := by
  have texts := congrArg String.toList same
  rw [String.toList_append, String.toList_append, String.toList_append, String.toList_append] at texts
  obtain ⟨fields, rests⟩ := Fields.until_separator plain otherPlain texts
  exact ⟨String.toList_injective fields, String.toList_injective rests⟩

theorem uuidField_unique {id other : Uuid} {rest after : String}
    (same : uuidText id ++ (":" ++ rest) = uuidText other ++ (":" ++ after)) : id = other ∧ rest = after := by
  have plain : ∀ id : Uuid, ':' ∉ (uuidText id).toList := by
    intro id
    rw [uuidText, String.toList_ofList]
    exact colon_not_mem_uuidChars id
  obtain ⟨ids, rests⟩ := field_unique (plain id) (plain other) same
  exact ⟨uuidText_injective ids, rests⟩

theorem idsField_unique {ids others : List Uuid} {rest after : String}
    (same : joinedIds ids ++ (":" ++ rest) = joinedIds others ++ (":" ++ after)) :
    ids.Perm others ∧ rest = after := by
  obtain ⟨joined, rests⟩ := field_unique (colon_not_mem_joinedIds ids) (colon_not_mem_joinedIds others) same
  exact ⟨joinedIds_unique joined, rests⟩

end Fields

/-! ### Evidence and hypotheses -/

section Preimages

/-- **The text under the id of an evidence** determines its tenant, its type and its observations. -/
theorem evidencePreimage_unique {tenantId otherTenant : Uuid} {organizationType otherType : String}
    {observationIds otherIds : List Uuid} (plain : ':' ∉ organizationType.toList)
    (otherPlain : ':' ∉ otherType.toList)
    (same : evidencePreimage tenantId organizationType observationIds =
      evidencePreimage otherTenant otherType otherIds) :
    tenantId = otherTenant ∧ organizationType = otherType ∧ observationIds.Perm otherIds := by
  unfold evidencePreimage at same
  simp only [String.append_assoc] at same
  obtain ⟨tenants, same⟩ := uuidField_unique same
  obtain ⟨types, same⟩ := field_unique plain otherPlain same
  exact ⟨tenants, types, joinedIds_unique same⟩

/-- **The text under the id of a hypothesis** determines its tenant, its anomalies, its patterns and its
description, which may have colons: it comes last. -/
theorem hypothesisPreimage_unique {tenantId otherTenant : Uuid}
    {anomalyIds patternIds otherAnomalies otherPatterns : List Uuid} {description otherDescription : String}
    (same : hypothesisPreimage tenantId anomalyIds patternIds description =
      hypothesisPreimage otherTenant otherAnomalies otherPatterns otherDescription) :
    tenantId = otherTenant ∧ anomalyIds.Perm otherAnomalies ∧ patternIds.Perm otherPatterns ∧
      description = otherDescription := by
  unfold hypothesisPreimage at same
  simp only [String.append_assoc] at same
  obtain ⟨tenants, same⟩ := uuidField_unique same
  obtain ⟨anomalies, same⟩ := idsField_unique same
  obtain ⟨patterns, same⟩ := idsField_unique same
  exact ⟨tenants, anomalies, patterns, same⟩

end Preimages

/-! ### Contexts -/

section Contexts

/-- Two lists of models are the same, up to their order and the order of the keys of each. -/
def SameModels (models others : List Json) : Prop :=
  ∃ ordered otherOrdered, models.Perm ordered ∧ others.Perm otherOrdered ∧ SameTrees ordered otherOrdered

/-- Two contexts have the same content, up to the order of their evidence and of their competing models. -/
structure ContextCreate.SameAs (create other : ContextCreate) : Prop where
  tenantId : create.tenantId = other.tenantId
  purpose : create.purpose = other.purpose
  evidenceIds : create.evidenceIds.Perm other.evidenceIds
  mentalModelId : create.mentalModelId = other.mentalModelId
  coherenceScore : create.coherenceScore = other.coherenceScore
  competingModels : SameModels create.competingModels other.competingModels

variable {std : Stdlib}

theorem competingText_eq (std : Stdlib) (models : List Json) :
    competingText std (dumpsSpaced std) models = dumpsSpaced std (.arr (sortBy (modelKey std) models)) := by
  unfold competingText
  split
  · rename_i none
    rw [none, show sortBy (modelKey std) [] = [] from rfl, dumpsSpaced, JsonStyle.chars_arr]
    rfl
  · rfl

theorem competingText_unique (reads : std.ReadsFloatsBack) {models others : List Json}
    (same : competingText std (dumpsSpaced std) models = competingText std (dumpsSpaced std) others) :
    SameModels models others := by
  rw [competingText_eq, competingText_eq] at same
  cases dumpsSpaced_unique reads same with
  | arr trees => exact ⟨_, _, (sortBy_perm _ _).symm, (sortBy_perm _ _).symm, trees⟩

/-- **The text under the id of a context** determines its content. -/
theorem contextPreimage_unique (reads : std.ReadsFloatsBack) {create other : ContextCreate}
    (purpose : ':' ∉ create.purpose.toList) (otherPurpose : ':' ∉ other.purpose.toList)
    (model : ':' ∉ create.mentalModelId.toList) (otherModel : ':' ∉ other.mentalModelId.toList)
    (same : contextPreimage std (dumpsSpaced std) create = contextPreimage std (dumpsSpaced std) other) :
    create.SameAs other := by
  unfold contextPreimage at same
  simp only [String.append_assoc] at same
  obtain ⟨tenants, same⟩ := uuidField_unique same
  obtain ⟨purposes, same⟩ := field_unique purpose otherPurpose same
  obtain ⟨evidence, same⟩ := idsField_unique same
  obtain ⟨models, same⟩ := field_unique model otherModel same
  obtain ⟨scores, same⟩ := field_unique (reads.numerals _).colon_not_mem (reads.numerals _).colon_not_mem same
  exact ⟨tenants, purposes, evidence, models, Subtype.ext (reads.injective scores),
    competingText_unique reads same⟩

end Contexts

/-! ### All kinds -/

/-- **The preimages of content-addressed ids are injective** in the content they address: for confidences on
every set of doubles that `struct.pack` tells apart, for evidence and contexts where the names have no colon,
and up to the order of the lists that are sorted first: ids, and the competing models of a context. -/
theorem contentPreimages_injective {std : Stdlib} {doubles : Set ℚ} (reads : std.ReadsFloatsBack)
    (packs : std.PacksDoubles doubles) :
    (∀ (tenantId otherTenant : Uuid) (targetType otherType : TargetType) (targetId otherTarget : Uuid)
        (content other : CalibrationContent), (∀ number ∈ content.numbers, number ∈ doubles) →
        (∀ number ∈ other.numbers, number ∈ doubles) →
        confidencePreimage std tenantId targetType targetId content =
          confidencePreimage std otherTenant otherType otherTarget other →
        tenantId = otherTenant ∧ targetType = otherType ∧ targetId = otherTarget ∧ content.SameAs other) ∧
      (∀ create other : ContextCreate, ':' ∉ create.purpose.toList → ':' ∉ other.purpose.toList →
        ':' ∉ create.mentalModelId.toList → ':' ∉ other.mentalModelId.toList →
        contextPreimage std (dumpsSpaced std) create = contextPreimage std (dumpsSpaced std) other →
          create.SameAs other) ∧
      (∀ (tenantId otherTenant : Uuid) (anomalyIds patternIds otherAnomalies otherPatterns : List Uuid)
        (description otherDescription : String),
        hypothesisPreimage tenantId anomalyIds patternIds description =
          hypothesisPreimage otherTenant otherAnomalies otherPatterns otherDescription →
        tenantId = otherTenant ∧ anomalyIds.Perm otherAnomalies ∧ patternIds.Perm otherPatterns ∧
          description = otherDescription) ∧
      (∀ (tenantId otherTenant : Uuid) (organizationType otherType : String)
        (observationIds otherIds : List Uuid), ':' ∉ organizationType.toList → ':' ∉ otherType.toList →
        evidencePreimage tenantId organizationType observationIds =
          evidencePreimage otherTenant otherType otherIds →
        tenantId = otherTenant ∧ organizationType = otherType ∧ observationIds.Perm otherIds) := by
  refine ⟨?_, ?_, ?_, ?_⟩
  · intro tenantId otherTenant targetType otherType targetId otherTarget content other within otherWithin same
    exact confidencePreimage_unique packs within otherWithin same
  · intro create other purpose otherPurpose model otherModel same
    exact contextPreimage_unique reads purpose otherPurpose model otherModel same
  · intro tenantId otherTenant anomalyIds patternIds otherAnomalies otherPatterns description
      otherDescription same
    exact hypothesisPreimage_unique same
  · intro tenantId otherTenant organizationType otherType observationIds otherIds plain otherPlain same
    exact evidencePreimage_unique plain otherPlain same

/-! ### A library that meets the assumptions -/

section Sample

/-- A text for every rational: that of Python for the integral floats. -/
def decimalRepr (value : ℚ) : String :=
  if value.den = 1 then toString value.num ++ ".0" else toString value.num ++ ("e" ++ toString value.den)

/-- A library with these texts, and with the bytes of the doubles `0.0`, `0.5` and `1.0`. -/
def decimalStd : Stdlib :=
  { Stdlib.constant with
    floatRepr := decimalRepr
    packDouble := fun value =>
      if value = 0 then [0, 0, 0, 0, 0, 0, 0, 0]
      else if value = 1 / 2 then [0x3f, 0xe0, 0, 0, 0, 0, 0, 0]
      else [0x3f, 0xf0, 0, 0, 0, 0, 0, 0] }

theorem toList_natText (number : Nat) : (toString number).toList = Nat.toDigits 10 number :=
  Nat.toList_repr

theorem mark_not_mem_intText (number : Int) : 'e' ∉ (toString number).toList := by
  intro member
  rcases intText_characters number 'e' member with digit | minus
  · cases digit
  · cases minus

theorem isNumeral_decimalRepr (value : ℚ) : IsNumeral (decimalRepr value).toList := by
  obtain ⟨characters, first, rest, text, leads⟩ := isNumeral_int value.num
  have zero : ∀ character ∈ ".0".toList, numeralChar character = true := List.all_eq_true.mp (by decide)
  unfold decimalRepr
  split
  · rw [String.toList_append]
    refine ⟨fun character member => ?_, first, rest ++ ".0".toList, by rw [text]; rfl, leads⟩
    rcases List.mem_append.mp member with numerator | point
    · exact characters character numerator
    · exact zero character point
  · rw [String.toList_append, String.toList_append, toList_natText]
    refine ⟨fun character member => ?_, first, rest ++ ("e".toList ++ Nat.toDigits 10 value.den),
      by rw [text]; rfl, leads⟩
    rcases List.mem_append.mp member with numerator | later
    · exact characters character numerator
    · rcases List.mem_append.mp later with mark | denominator
      · obtain rfl := List.mem_singleton.mp mark
        decide
      · exact numeralChar_digit ((isNumeral_digits value.den).1 character denominator)

theorem mark_mem_decimalRepr {value : ℚ} : 'e' ∈ (decimalRepr value).toList ↔ value.den ≠ 1 := by
  unfold decimalRepr
  split
  · rename_i integral
    rw [String.toList_append, List.mem_append]
    refine iff_of_false ?_ (not_not_intro integral)
    rintro (numerator | point)
    · exact mark_not_mem_intText _ numerator
    · revert point
      decide
  · rename_i fraction
    rw [String.toList_append, String.toList_append]
    refine iff_of_true ?_ fraction
    exact List.mem_append_right _ (List.mem_append_left _ (List.mem_singleton_self _))

theorem decimalRepr_injective : Function.Injective decimalRepr := by
  intro first second same
  have marks := @mark_mem_decimalRepr first
  rw [same, mark_mem_decimalRepr] at marks
  unfold decimalRepr at same
  by_cases integral : first.den = 1
  · have otherIntegral : second.den = 1 := not_not.mp (mt marks.mp (not_not_intro integral))
    rw [if_pos integral, if_pos otherIntegral] at same
    have texts := congrArg String.toList same
    rw [String.toList_append, String.toList_append] at texts
    have numerators := intText_injective (String.toList_injective (List.append_cancel_right texts))
    exact Rat.ext numerators (integral.trans otherIntegral.symm)
  · rw [if_neg integral, if_neg (marks.mpr integral)] at same
    have texts := congrArg String.toList same
    rw [String.toList_append, String.toList_append, String.toList_append, String.toList_append,
      toList_natText, toList_natText] at texts
    obtain ⟨numerators, denominators⟩ := Fields.until_separator (mark_not_mem_intText _)
      (mark_not_mem_intText _) texts
    exact Rat.ext (intText_injective (String.toList_injective numerators)) (toDigits_injective denominators)

theorem decimalStd_reads : decimalStd.ReadsFloatsBack where
  numerals := isNumeral_decimalRepr
  injective := decimalRepr_injective
  fraction := by
    intro value
    by_cases integral : value.den = 1
    · refine .inl ?_
      show '.' ∈ (decimalRepr value).toList
      rw [decimalRepr, if_pos integral, String.toList_append]
      exact List.mem_append_right _ (by decide)
    · exact .inr (mark_mem_decimalRepr.mpr integral)

theorem decimalStd_packs : decimalStd.PacksDoubles {0, 1 / 2, 1} := by
  have listed : ∀ value ∈ ({0, 1 / 2, 1} : Set ℚ), value ∈ [0, 1 / 2, 1] := by simp
  exact packsDoubles_of_listed listed (List.forall_iff_forall_mem.mp (by decide +kernel))
    (by decide +kernel)

/-- A context over one evidence, with the competing models it keeps. -/
def contextWith (competingModels : List Json) : ContextCreate where
  tenantId := 1
  evidenceIds := [2]
  mentalModelId := "capacity_risk"
  purpose := "capacity_management"
  coherenceScore := ⟨1, one_isUnit⟩
  competingModels := competingModels

/-- Confidences with other evidence, and contexts with other evidence, have other preimages. -/
theorem contentPreimages_injective_samples :
    confidencePreimage decimalStd 1 .hypothesis 5 ⟨1, 1 / 2, 1, 1 / 2, [2, 3]⟩ ≠
        confidencePreimage decimalStd 1 .hypothesis 5 ⟨1, 1 / 2, 1, 1 / 2, [2, 4]⟩ ∧
      contextPreimage decimalStd (dumpsSpaced decimalStd) (contextWith []) ≠
        contextPreimage decimalStd (dumpsSpaced decimalStd) { contextWith [] with evidenceIds := [4] } := by
  obtain ⟨confidences, contexts, -, -⟩ := contentPreimages_injective decimalStd_reads decimalStd_packs
  constructor
  · intro same
    have within : ∀ ids : List Uuid, ∀ number ∈ CalibrationContent.numbers ⟨1, 1 / 2, 1, 1 / 2, ids⟩,
        number ∈ ({0, 1 / 2, 1} : Set ℚ) := by
      intro ids
      simp [CalibrationContent.numbers]
    have evidence := (confidences _ _ _ _ _ _ _ _ (within _) (within _) same).2.2.2.2
    have third : (3 : Uuid) ∈ [2, 4] := evidence.mem_iff.mp (by decide)
    revert third
    decide
  · intro same
    have evidence := (contexts _ _ (by decide) (by decide) (by decide) (by decide) same).evidenceIds
    have second : (2 : Uuid) ∈ [4] := evidence.mem_iff.mp (by decide)
    revert second
    decide

/-- **The competing models are sorted as well**: in two orders they are hashed to one id, though they are no
ids. -/
theorem swapped_models_hash_alike :
    ∃ create other : ContextCreate, create.evidenceIds = other.evidenceIds ∧
      create.competingModels ≠ other.competingModels ∧
      (':' ∉ create.purpose.toList ∧ ':' ∉ create.mentalModelId.toList) ∧
      (':' ∉ other.purpose.toList ∧ ':' ∉ other.mentalModelId.toList) ∧
      ∀ std : Stdlib, contextPreimage std (dumpsSpaced std) create = contextPreimage std (dumpsSpaced std) other := by
  let models : List Json := [.obj [("mental_model_id", .str "a")], .obj [("mental_model_id", .str "b")]]
  refine ⟨contextWith models, contextWith models.reverse, rfl, by decide, ⟨by decide, by decide⟩,
    ⟨by decide, by decide⟩, fun std => ?_⟩
  have distinct : (models.reverse.map (modelKey std)).Nodup := by
    show ["b", "a"].Nodup
    decide
  have sorted : sortBy (modelKey std) models = sortBy (modelKey std) models.reverse :=
    sortBy_congr (List.reverse_perm models).symm distinct
  unfold contextPreimage
  rw [competingText_eq, competingText_eq]
  show _ ++ dumpsSpaced std (.arr (sortBy (modelKey std) models)) =
    _ ++ dumpsSpaced std (.arr (sortBy (modelKey std) models.reverse))
  rw [sorted]
  rfl

end Sample

end CosMonitor
