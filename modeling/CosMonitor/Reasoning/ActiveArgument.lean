/-
**The anomaly detector with its active contexts given — where this is the default, and where it is not.**

`detect` derives the active contexts from the stream, or takes them as an argument. The argument is
filtered by `tenant_id` also when that is `None`, which leaves nothing; and it enters the anchors of the
patterns before it is filtered, so an active context of another tenant can anchor a pattern.

* `Expected`, `expectedPattern_iff`: the pattern that a scope is measured against;
* `Tolerated`, `inspect_isSome_iff`: a context is reported when it is more off its pattern than tolerated;
* `sameReports_iff`: two resolutions of the patterns report the same for some contexts exactly when these
  have the same expected pattern, or are tolerated by both;
* `active_argument_iff`: when the active subset as an argument reports what the default does;
* `agreesWithDefault_of_tenant`: it does for the contexts of one tenant, each with its own id;
* `active_argument_drops`: without a tenant the argument drops every anomaly.
-/

import CosMonitor.Reasoning.Cadence

namespace CosMonitor

namespace AnomalyDetector

/-! ### Reports -/

/-- The pattern that a scope is measured against. -/
def expectedPattern (contexts active : List Context) (patterns : List PatternRecord)
    (scope : String × String) : Option PatternRecord :=
  ((resolvePatternScopes contexts active patterns).lookup scope).bind List.head?

/-- The pattern is the latest of the active ones that are anchored in the scope, and of equally late ones
the first. -/
def Expected (contexts active : List Context) (patterns : List PatternRecord)
    (scope : String × String) (pattern : PatternRecord) : Prop :=
  ∃ before after, (patterns.filter fun known => known.isActive &&
        (anchor contexts active known.contextId).any fun found => decide (found.scope = scope)) =
      before ++ pattern :: after ∧
    (∀ earlier ∈ before, earlier.detectedAt < pattern.detectedAt) ∧
    ∀ later ∈ after, later.detectedAt ≤ pattern.detectedAt

/-- The context is no more off the pattern than the first tolerance that applies allows. -/
def Tolerated (contexts : List Context) (tolerances : List ToleranceDefinition)
    (pattern : PatternRecord) (context : Context) : Prop :=
  ∀ tolerance ∈ findTolerance tolerances context pattern.patternType,
    match tolerance.deviationSpec with
    | .countExceedingWindow => PyFloat.double (countActivationsInWindow context contexts tolerance /
        (max tolerance.expectedMaxActivations 1 : Int)) ≤ tolerance.threshold
    | .daysOffSchedule => ∀ interval ∈ frequencyIntervalDays.lookup pattern.frequency,
        OnSchedule tolerance interval (gapDays context pattern)

theorem mem_frequencyIntervalDays_pos {label : String} {interval : ℚ}
    (cadence : frequencyIntervalDays.lookup label = some interval) : 0 < interval := by
  rcases cadence_cases cadence with rfl | rfl | rfl
  · exact hour_range.1
  · exact one_pos
  · norm_num

section Reports

variable {formats : DetectorFormats} {std : Stdlib} {contexts : List Context}
  {byScope first second : List ((String × String) × List PatternRecord)}
  {tolerances : List ToleranceDefinition} {context : Context}

theorem exceeding_isSome_iff {pattern : PatternRecord} {tolerance : ToleranceDefinition} {score : ℚ}
    {rationale : String} :
    (exceeding context pattern tolerance score rationale).anomaly.isSome = true ↔
      tolerance.threshold < score := by
  unfold exceeding
  split
  · rename_i exceeds
    exact iff_of_true rfl exceeds
  · rename_i tolerated
    exact iff_of_false (by simp [Verdict.anomaly]) tolerated

/-- **A context is reported exactly when its pattern does not tolerate it.** -/
theorem inspect_isSome_iff :
    (inspect formats std contexts byScope tolerances context).anomaly.isSome = true ↔
      ∃ pattern ∈ (byScope.lookup context.scope).bind List.head?,
        ¬Tolerated contexts tolerances pattern context := by
  unfold inspect Tolerated
  rcases (byScope.lookup context.scope).bind List.head? with _ | pattern
  · simp [Verdict.anomaly]
  · dsimp only
    rcases found : findTolerance tolerances context pattern.patternType with _ | tolerance
    · simp [Verdict.anomaly, found]
    · rcases spec : tolerance.deviationSpec with _ | _
      · unfold deviationDaysOffSchedule
        rcases cadence : frequencyIntervalDays.lookup pattern.frequency with _ | interval
        · simp [Verdict.anomaly, found, spec, cadence]
        · have measured : _ ↔ OnSchedule tolerance interval (gapDays context pattern) :=
            onSchedule_iff (mem_frequencyIntervalDays_pos cadence)
          simp [found, spec, cadence, exceeding_isSome_iff, ← measured]
      · simp [found, spec, exceeding_isSome_iff, deviationCountExceedingWindow]

theorem inspect_report {anomaly : CandidateAnomaly}
    (reported : (inspect formats std contexts byScope tolerances context).anomaly = some anomaly) :
    (anomaly.mentalModelId, anomaly.purpose) = context.scope ∧
      ∃ pattern, (byScope.lookup context.scope).bind List.head? = some pattern ∧
        anomaly.patternId = pattern.id := by
  have exceeds : ∀ {pattern : PatternRecord} {tolerance : ToleranceDefinition} {score : ℚ}
      {rationale : String}, (exceeding context pattern tolerance score rationale).anomaly =
        some anomaly → (anomaly.mentalModelId, anomaly.purpose) = context.scope ∧
          anomaly.patternId = pattern.id := by
    intro pattern tolerance score rationale isReported
    unfold exceeding at isReported
    split at isReported
    · cases isReported
      exact ⟨rfl, rfl⟩
    · cases isReported
  unfold inspect at reported
  rcases expected : (byScope.lookup context.scope).bind List.head? with _ | pattern
  · rw [expected] at reported
    cases reported
  · rw [expected] at reported
    dsimp only at reported
    split at reported
    · cases reported
    · split at reported
      · obtain ⟨scope, isPattern⟩ := exceeds reported
        exact ⟨scope, pattern, rfl, isPattern⟩
      · split at reported
        · cases reported
        · obtain ⟨scope, isPattern⟩ := exceeds reported
          exact ⟨scope, pattern, rfl, isPattern⟩

theorem inspect_congr (same : (first.lookup context.scope).bind List.head? =
      (second.lookup context.scope).bind List.head?) :
    inspect formats std contexts first tolerances context =
      inspect formats std contexts second tolerances context := by
  unfold inspect
  rw [same]

/-! ### The expected pattern -/

theorem expectedPattern_iff {active : List Context} {patterns : List PatternRecord}
    {scope : String × String} {pattern : PatternRecord} :
    expectedPattern contexts active patterns scope = some pattern ↔
      Expected contexts active patterns scope pattern := by
  -- the patterns under the scope, in the order in which they are listed
  have listed : ∀ known : List PatternRecord,
      (((known.filterMap fun pattern =>
          if pattern.isActive then (anchor contexts active pattern.contextId).map fun found =>
            (found.scope, pattern)
          else none).filter fun entry => decide (entry.1 = scope)).map Prod.snd) =
        known.filter fun known => known.isActive &&
          (anchor contexts active known.contextId).any fun found => decide (found.scope = scope) := by
    intro known
    induction known with
    | nil => rfl
    | cons first rest ih =>
        by_cases isActive : first.isActive = true
        · rcases found : anchor contexts active first.contextId with _ | context
          · simp [found, ih]
          · by_cases same : context.scope = scope
            · simp [isActive, found, same, ih]
            · simp [isActive, found, same, ih]
        · simp [isActive, ih]
  unfold expectedPattern resolvePatternScopes Expected
  dsimp only
  rw [Grouping.lookup_groupBy fun group =>
    Sorting.sortByDesc (fun pattern : PatternRecord => pattern.detectedAt) (group.map Prod.snd),
    listed, ← Sorting.head_sortByDesc_iff]
  split
  · rfl
  · rename_i absent
    have empty : (patterns.filter fun known => known.isActive &&
        (anchor contexts active known.contextId).any fun found => decide (found.scope = scope)) = [] := by
      rw [← listed, List.map_eq_nil_iff, List.filter_eq_nil_iff]
      intro entry member same
      exact absent (List.mem_map.mpr ⟨entry, member, of_decide_eq_true same⟩)
    rw [empty]
    simp [Sorting.sortByDesc]

theorem Expected.mem {active : List Context} {patterns : List PatternRecord}
    {scope : String × String} {pattern : PatternRecord}
    (expected : Expected contexts active patterns scope pattern) : pattern ∈ patterns := by
  obtain ⟨before, after, split, -⟩ := expected
  have listed : pattern ∈ before ++ pattern :: after := List.mem_append_right _ List.mem_cons_self
  rw [← split] at listed
  exact List.mem_of_mem_filter listed

/-- The context is measured against the same pattern under both anchors, or tolerated under both. -/
def SameExpectation (contexts active other : List Context) (patterns : List PatternRecord)
    (tolerances : List ToleranceDefinition) (context : Context) : Prop :=
  (∀ pattern, Expected contexts active patterns context.scope pattern ↔
      Expected contexts other patterns context.scope pattern) ∨
    ∀ pattern, Expected contexts active patterns context.scope pattern ∨
      Expected contexts other patterns context.scope pattern →
        Tolerated contexts tolerances pattern context

/-- The anomalies that some contexts are reported with, under a resolution of the patterns. -/
def reports (formats : DetectorFormats) (std : Stdlib) (contexts active : List Context)
    (patterns : List PatternRecord) (tolerances : List ToleranceDefinition)
    (subjects : List Context) : List CandidateAnomaly :=
  subjects.filterMap fun context =>
    (inspect formats std contexts (resolvePatternScopes contexts active patterns) tolerances
      context).anomaly

variable {active other subjects : List Context} {patterns : List PatternRecord}

theorem expectedPattern_congr (same : ∀ pattern, Expected contexts active patterns context.scope pattern ↔
      Expected contexts other patterns context.scope pattern) :
    expectedPattern contexts active patterns context.scope =
      expectedPattern contexts other patterns context.scope :=
  Option.ext fun pattern => by
    rw [expectedPattern_iff, expectedPattern_iff]
    exact same pattern

theorem inspect_eq_none (tolerated : ∀ pattern, Expected contexts active patterns context.scope pattern →
      Tolerated contexts tolerances pattern context) :
    (inspect formats std contexts (resolvePatternScopes contexts active patterns) tolerances
      context).anomaly = none := by
  rw [← Option.not_isSome_iff_eq_none, inspect_isSome_iff]
  rintro ⟨pattern, expected, deviates⟩
  exact deviates (tolerated pattern (expectedPattern_iff.mp expected))

theorem reports_congr (same : ∀ context ∈ subjects,
      SameExpectation contexts active other patterns tolerances context) :
    reports formats std contexts active patterns tolerances subjects =
      reports formats std contexts other patterns tolerances subjects := by
  refine List.filterMap_congr fun context member => ?_
  rcases same context member with equal | tolerated
  · rw [inspect_congr (expectedPattern_congr equal)]
  · rw [inspect_eq_none fun pattern expected => tolerated pattern (.inl expected),
      inspect_eq_none fun pattern expected => tolerated pattern (.inr expected)]

theorem expected_of_reports (distinct : (patterns.map fun pattern => pattern.id).Nodup)
    (same : reports formats std contexts active patterns tolerances subjects =
      reports formats std contexts other patterns tolerances subjects)
    (member : context ∈ subjects) {pattern : PatternRecord}
    (expected : Expected contexts active patterns context.scope pattern)
    (deviates : ¬Tolerated contexts tolerances pattern context) :
    expectedPattern contexts active patterns context.scope =
      expectedPattern contexts other patterns context.scope := by
  have isExpected := expectedPattern_iff.mpr expected
  have isReported : (inspect formats std contexts (resolvePatternScopes contexts active patterns)
      tolerances context).anomaly.isSome = true :=
    inspect_isSome_iff.mpr ⟨pattern, isExpected, deviates⟩
  obtain ⟨anomaly, reported⟩ := Option.isSome_iff_exists.mp isReported
  obtain ⟨scope, measured, isMeasured, isPattern⟩ := inspect_report reported
  have inFirst : anomaly ∈ reports formats std contexts active patterns tolerances subjects :=
    List.mem_filterMap.mpr ⟨context, member, reported⟩
  rw [same] at inFirst
  obtain ⟨twin, -, reportedToo⟩ := List.mem_filterMap.mp inFirst
  obtain ⟨scopeToo, patternToo, isExpectedToo, isPatternToo⟩ := inspect_report reportedToo
  rw [scopeToo.symm.trans scope] at isExpectedToo
  obtain rfl : measured = pattern := Option.some.inj (isMeasured.symm.trans isExpected)
  have equal : measured = patternToo := List.inj_on_of_nodup_map distinct expected.mem
    (expectedPattern_iff.mp isExpectedToo).mem (isPattern.symm.trans isPatternToo)
  rw [isExpected, equal]
  exact isExpectedToo.symm

/-- **Two resolutions report the same**, for patterns with different ids, exactly when every context is
measured against the same pattern or tolerated under both. -/
theorem sameReports_iff (distinct : (patterns.map fun pattern => pattern.id).Nodup) :
    reports formats std contexts active patterns tolerances subjects =
        reports formats std contexts other patterns tolerances subjects ↔
      ∀ context ∈ subjects,
        SameExpectation contexts active other patterns tolerances context := by
  refine ⟨fun same context member => ?_, reports_congr⟩
  have equal_of : expectedPattern contexts active patterns context.scope =
      expectedPattern contexts other patterns context.scope →
        SameExpectation contexts active other patterns tolerances context := by
    refine fun equal => .inl fun pattern => ?_
    rw [← expectedPattern_iff, ← expectedPattern_iff, equal]
  by_contra differs
  refine differs (.inr fun pattern expected => ?_)
  by_contra deviates
  rcases expected with expected | expected
  · exact differs (equal_of (expected_of_reports distinct same member expected deviates))
  · exact differs (equal_of (expected_of_reports distinct same.symm member expected deviates).symm)

end Reports

/-! ### The two paths of the detector -/

/-- The contexts and the patterns that `detect` keeps for a tenant. -/
def ofTenant (tenantId : Option Uuid) (contexts : List Context) : List Context :=
  contexts.filter fun context => tenantId.all fun id => decide (context.tenantId = id)

def knownPatterns (tenantId : Option Uuid) (patterns : List PatternRecord) : List PatternRecord :=
  patterns.filter fun pattern => tenantId.all fun id => decide (pattern.tenantId = id)

/-- Without a tenant, every active context is tolerated by the pattern of its scope. With one, every active
context of the tenant is measured against the same pattern whether or not the active contexts of all tenants
are anchors, or is tolerated either way. -/
def AgreesWithDefault (contexts : List Context) (patterns : List PatternRecord)
    (tolerances : List ToleranceDefinition) (tenantId : Option Uuid) : Prop :=
  ∀ context ∈ ofTenant tenantId contexts, context.isActive = true →
    match tenantId with
    | none => ∀ pattern, Expected contexts [] patterns context.scope pattern →
        Tolerated contexts tolerances pattern context
    | some id => SameExpectation (ofTenant (some id) contexts) (contexts.filter (·.isActive)) []
        (knownPatterns (some id) patterns) tolerances context

theorem agreesWithDefault_of_tenant {contexts : List Context} {id : Uuid}
    (own : ∀ context ∈ contexts, context.tenantId = id)
    (distinct : (contexts.map fun context => context.id).Nodup) (patterns : List PatternRecord)
    (tolerances : List ToleranceDefinition) :
    AgreesWithDefault contexts patterns tolerances (some id) := by
  have all : ofTenant (some id) contexts = contexts :=
    List.filter_eq_self.mpr fun context member => decide_eq_true (own context member)
  have isAnchor : ∀ active : List Context, (∀ context ∈ active, context ∈ contexts) → ∀ found key,
      anchor contexts active key = some found ↔ found ∈ contexts ∧ found.id = key := by
    intro active known found key
    have mem : ∀ context, context ∈ (contexts ++ active).reverse ↔ context ∈ contexts := fun context => by
      rw [List.mem_reverse, List.mem_append]
      exact or_iff_left_of_imp (known context)
    unfold anchor
    constructor
    · intro isFound
      have isKey := List.find?_some isFound
      exact ⟨(mem found).mp (List.mem_of_find?_eq_some isFound), of_decide_eq_true isKey⟩
    · rintro ⟨member, isKey⟩
      obtain ⟨other, isOther⟩ : ∃ other, (contexts ++ active).reverse.find? (fun context =>
          decide (context.id = key)) = some other :=
        Option.isSome_iff_exists.mp (List.find?_isSome.mpr
          ⟨found, (mem found).mpr member, by simpa using isKey⟩)
      have otherKey := List.find?_some isOther
      have same : other = found := List.inj_on_of_nodup_map distinct
        ((mem other).mp (List.mem_of_find?_eq_some isOther)) member
        ((of_decide_eq_true otherKey).trans isKey.symm)
      rw [isOther, same]
  have anchors : anchor contexts (contexts.filter (·.isActive)) = anchor contexts [] := by
    funext key
    refine Option.ext fun found => ?_
    rw [isAnchor _ (fun _ member => List.mem_of_mem_filter member),
      isAnchor [] fun _ member => absurd member List.not_mem_nil]
  intro context _ _
  refine .inl fun pattern => ?_
  unfold Expected
  rw [all, anchors]

section Paths

variable (formats : DetectorFormats) (std : Stdlib) (contexts : List Context)
  (patterns : List PatternRecord) (tolerances : List ToleranceDefinition)

theorem candidates_default (tenantId : Option Uuid) :
    (detect formats std contexts patterns tolerances none tenantId).candidates =
      reports formats std (ofTenant tenantId contexts) [] (knownPatterns tenantId patterns) tolerances
        ((ofTenant tenantId contexts).filter (·.isActive)) := by
  unfold detect reports
  exact List.filterMap_map ..

theorem candidates_given_none (active : List Context) :
    (detect formats std contexts patterns tolerances (some active) none).candidates = [] := by
  have nobody : (active.filter fun context => decide (some context.tenantId = none)) = [] :=
    List.filter_eq_nil_iff.mpr fun context _ => by simp
  unfold detect
  dsimp only
  rw [nobody]
  rfl

theorem candidates_given_some (tenantId : Uuid) :
    (detect formats std contexts patterns tolerances (some (contexts.filter (·.isActive)))
        (some tenantId)).candidates =
      reports formats std (ofTenant (some tenantId) contexts) (contexts.filter (·.isActive))
        (knownPatterns (some tenantId) patterns) tolerances
        ((ofTenant (some tenantId) contexts).filter (·.isActive)) := by
  have subjects : ((contexts.filter (·.isActive)).filter fun context =>
      decide (some context.tenantId = some tenantId)) =
        (ofTenant (some tenantId) contexts).filter (·.isActive) := by
    unfold ofTenant
    rw [List.filter_filter, List.filter_filter]
    refine List.filter_congr fun context _ => ?_
    simp [Bool.and_comm]
  unfold detect reports
  dsimp only
  rw [subjects]
  exact List.filterMap_map ..

/-- **The active subset as an argument reports what the default does** when the two agree on what is
expected; and for patterns with different ids only then. -/
theorem active_argument_iff (tenantId : Option Uuid) :
    (AgreesWithDefault contexts patterns tolerances tenantId →
      (detect formats std contexts patterns tolerances (some (contexts.filter (·.isActive)))
          tenantId).candidates =
        (detect formats std contexts patterns tolerances none tenantId).candidates) ∧
      ((patterns.map fun pattern => pattern.id).Nodup →
        (detect formats std contexts patterns tolerances (some (contexts.filter (·.isActive)))
            tenantId).candidates =
          (detect formats std contexts patterns tolerances none tenantId).candidates →
        AgreesWithDefault contexts patterns tolerances tenantId) := by
  rw [candidates_default]
  cases tenantId with
  | none =>
      have all : ofTenant none contexts = contexts := List.filter_eq_self.mpr fun _ _ => rfl
      have known : knownPatterns none patterns = patterns := List.filter_eq_self.mpr fun _ _ => rfl
      rw [candidates_given_none, all, known]
      have silent : [] = reports formats std contexts [] patterns tolerances
          (contexts.filter (·.isActive)) ↔
            AgreesWithDefault contexts patterns tolerances none := by
        unfold AgreesWithDefault reports
        rw [all, eq_comm, List.filterMap_eq_nil_iff]
        simp only [List.mem_filter, and_imp]
        refine forall₃_congr fun context _ _ => ⟨fun quiet pattern expected => ?_, inspect_eq_none⟩
        rw [← Option.not_isSome_iff_eq_none, inspect_isSome_iff] at quiet
        by_contra deviates
        exact quiet ⟨pattern, expectedPattern_iff.mpr expected, deviates⟩
      exact ⟨silent.mpr, fun _ => silent.mp⟩
  | some id =>
      rw [candidates_given_some]
      constructor
      · intro agrees
        refine reports_congr fun context member => ?_
        obtain ⟨own, isActive⟩ := List.mem_filter.mp member
        exact agrees context own isActive
      · intro distinct same context own isActive
        have distinctKnown : ((knownPatterns (some id) patterns).map fun pattern =>
            pattern.id).Nodup := distinct.sublist (List.filter_sublist.map _)
        exact (sameReports_iff distinctKnown).mp same context (List.mem_filter.mpr ⟨own, isActive⟩)

end Paths

/-! ### An active context off its schedule -/

/-- A daily pattern of tenant 1 that was detected with the third activation. -/
def dailyPattern (contextId : Uuid) : PatternRecord where
  id := 9
  tenantId := 1
  contextId
  patternType := "temporal"
  strengthMeasure := 1
  detectedAt := 3 * day
  isActive := true
  description := ""
  frequency := "daily"

/-- The last activation of a daily stream, and one of another tenant. -/
def mixedStream : List Context :=
  [capacityActivation 3 true, { capacityActivation 4 true with tenantId := 2 }]

/-- The contexts that a run over the capacity model's schedule reports. -/
def reportedContexts (contexts : List Context) (pattern : PatternRecord)
    (active : Option (List Context)) (tenantId : Option Uuid) : List Uuid :=
  (detect plainDetector Stdlib.constant contexts [pattern] [scheduleDeviationCapacityRisk] active
    tenantId).candidates.map CandidateAnomaly.contextId

/-- Without a tenant the argument drops the anomaly of the default path. With a tenant it reports one
that the default path does not: the pattern is anchored in the context of the other tenant. -/
theorem active_argument_drops :
    reportedContexts dailyStream (dailyPattern 3) none none = [3] ∧
      reportedContexts dailyStream (dailyPattern 3) (some (dailyStream.filter (·.isActive))) none =
        [] ∧
      reportedContexts mixedStream (dailyPattern 4) none (some 1) = [] ∧
      reportedContexts mixedStream (dailyPattern 4) (some (mixedStream.filter (·.isActive)))
        (some 1) = [3] := by
  decide +kernel

end AnomalyDetector

end CosMonitor
