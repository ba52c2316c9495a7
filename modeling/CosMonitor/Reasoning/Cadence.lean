/-
**Periodic streams and the two detectors.**

A stream of activations of one scope recurs exactly with the period of a cadence. The pattern detector
measures the cadence; the anomaly detector counts the gap of an activation from the *detection time* of
the pattern, and not from the last activation before it.

* `Periodic.frequency`: the label that the detector derives; an exactly hourly stream is daily to it;
* `mem_candidates`: the candidates are those of the definitions that the windowed stream supports;
* `cadence_kept_iff`: no anomaly of the schedule is reported exactly when every active activation lies
  one interval after the detection time, up to the tolerance;
* `periodic_stream_deviates`: daily activations that are found at the time of the last one.
-/

import CosMonitor.Reasoning.AnomalyDetector

namespace CosMonitor

open PatternDetector Spacing

/-- The activations of one scope of a tenant, in any order, one period after the other. -/
structure Periodic (tenantId : Uuid) (scope : String × String) (period : Timestamp)
    (stream : List Context) : Prop where
  tenant : ∀ context ∈ stream, context.tenantId = tenantId
  scope : ∀ context ∈ stream, context.scope = scope
  spaced : ∃ ordered, stream.Perm ordered ∧ Spaced Context.activatedAt period ordered

/-- The interval of the label that the detector gives a stream with the interval of a cadence. -/
def measuredInterval (interval : ℚ) : ℚ :=
  max interval 1

section Stream

variable {tenantId : Uuid} {scope : String × String} {period : Timestamp} {stream : List Context}
  {label : String}

/-! ### The cadence of a periodic stream -/

theorem cadence_cases {interval : ℚ} (cadence : frequencyIntervalDays.lookup label = some interval) :
    interval = PyFloat.double (1 / 24) ∨ interval = 1 ∨ interval = 7 := by
  obtain ⟨before, after, same, -⟩ := List.lookup_eq_some_iff.mp cadence
  have member : (label, interval) ∈ frequencyIntervalDays := by simp [same]
  simp only [frequencyIntervalDays, List.mem_cons, Prod.mk.injEq, List.not_mem_nil, or_false] at member
  rcases member with ⟨-, same⟩ | ⟨-, same⟩ | ⟨-, same⟩
  · exact .inl same
  · exact .inr (.inl same)
  · exact .inr (.inr same)

theorem hour_range : 0 < PyFloat.double (1 / 24) ∧ PyFloat.double (1 / 24) ≤ 1 := by
  decide +kernel

theorem cadence_positive (cadence : frequencyIntervalDays.lookup label = some (totalDays period)) :
    0 < period := by
  have positive : (0 : ℚ) < totalDays period := by
    rcases cadence_cases cadence with same | same | same
    · rw [same]
      exact hour_range.1
    · rw [same]
      exact one_pos
    · rw [same]
      norm_num
  by_contra notPositive
  have nonpos := totalDays_mono (not_lt.mp notPositive)
  rw [totalDays_zero] at nonpos
  exact absurd positive (not_lt.mpr nonpos)

theorem Periodic.ofTenant (periodic : Periodic tenantId scope period stream) :
    (stream.filter fun context =>
      (some tenantId).all fun id => decide (context.tenantId = id)) = stream :=
  List.filter_eq_self.mpr fun context member => decide_eq_true (periodic.tenant context member)

theorem Periodic.inWindow (periodic : Periodic tenantId scope period stream) (positive : 0 < period)
    (windowDays : ℚ) (now : Timestamp) :
    Periodic tenantId scope period (windowed stream windowDays now) := by
  obtain ⟨ordered, same, spaced⟩ := periodic.spaced
  exact ⟨fun context member => periodic.tenant context (List.mem_of_mem_filter member),
    fun context member => periodic.scope context (List.mem_of_mem_filter member),
    _, same.filter _, spaced.window positive _ _⟩

/-- **The label of a periodic stream** of two activations or more. -/
theorem Periodic.frequency (periodic : Periodic tenantId scope period stream)
    (cadence : frequencyIntervalDays.lookup label = some (totalDays period))
    (several : 2 ≤ stream.length) :
    frequencyIntervalDays.lookup (deriveFrequency
        (Sorting.sortBy Context.activatedAt stream)).2.label =
      some (measuredInterval (totalDays period)) := by
  obtain ⟨ordered, same, spaced⟩ := periodic.spaced
  have sorted := spaced.sorted (cadence_positive cadence) same
  have length : 2 ≤ ordered.length := same.length_eq ▸ several
  have gaps : ∀ gap ∈ (ordered.zip ordered.tail).map (fun pair =>
      totalDays (pair.2.activatedAt - pair.1.activatedAt)), gap = totalDays period := by
    intro gap member
    obtain ⟨pair, inside, rfl⟩ := List.mem_map.mp member
    rw [spaced.pairs pair inside]
  have present : (ordered.zip ordered.tail).map (fun pair =>
      totalDays (pair.2.activatedAt - pair.1.activatedAt)) ≠ [] := by
    rw [← List.length_pos_iff, List.length_map, List.length_zip, List.length_tail]
    omega
  have median : medianIntervalDays ordered = some (totalDays period) := by
    unfold medianIntervalDays
    rw [if_neg (by omega), median_of_forall_eq present gaps, double_totalDays]
  rw [sorted]
  unfold deriveFrequency measuredInterval
  rw [median]
  have hour := hour_range.2
  rcases cadence_cases cadence with interval | interval | interval
  · rw [interval]
    dsimp only
    rw [if_neg (lt_irrefl _), if_pos hour, max_eq_right hour]
    exact interval_daily
  · rw [interval]
    dsimp only
    rw [if_neg (not_lt.mpr hour), if_pos le_rfl, max_self]
    exact interval_daily
  · rw [interval]
    dsimp only
    rw [if_neg (not_lt.mpr (hour.trans (by norm_num))), if_neg (by norm_num), if_pos le_rfl,
      max_eq_left (by norm_num)]
    exact interval_weekly

theorem Periodic.frequency_single (several : ¬2 ≤ stream.length) :
    frequencyIntervalDays.lookup (deriveFrequency
      (Sorting.sortBy Context.activatedAt stream)).2.label = none := by
  have median : medianIntervalDays (Sorting.sortBy Context.activatedAt stream) = none := by
    unfold medianIntervalDays
    rw [Sorting.length_sortBy, if_pos (by omega)]
  unfold deriveFrequency
  rw [median]
  exact interval_eventDriven

/-! ### The candidates of a periodic stream -/

theorem Periodic.groups_eq (periodic : Periodic tenantId scope period stream)
    (definition : PatternDefinition) :
    groups definition stream =
      if Covers definition scope = true ∧ stream ≠ [] then [(scope, stream)] else [] := by
  have kept : (stream.filter fun context => Covers definition context.scope) =
      if Covers definition scope = true then stream else [] := by
    split
    · rename_i covers
      exact List.filter_eq_self.mpr fun context member => by rw [periodic.scope context member, covers]
    · rename_i uncovered
      exact List.filter_eq_nil_iff.mpr fun context member => by
        rw [periodic.scope context member]
        exact uncovered
  unfold PatternDetector.groups
  rw [kept]
  by_cases covers : Covers definition scope = true
  · rw [if_pos covers]
    by_cases present : stream = []
    · subst present
      rw [if_neg (by simp)]
      rfl
    · rw [if_pos ⟨covers, present⟩]
      exact Grouping.groupBy_single present periodic.scope
  · rw [if_neg covers, if_neg (by simp [covers])]
    rfl

/-- **The candidates of a periodic stream** are those of the definitions that its activations within the
window support. -/
theorem Periodic.mem_candidates (periodic : Periodic tenantId scope period stream)
    (positive : 0 < period) {formats : DetectorFormats} {library : List PatternDefinition}
    {windowDays : ℚ} {now : Timestamp} {result : PatternDetector.DetectionResult}
    (detected : PatternDetector.detect formats stream library windowDays now (some tenantId) =
      .ok result) {candidate : CandidatePattern} :
    candidate ∈ result.candidates ↔ ∃ definition ∈ library,
      Covers definition scope = true ∧ windowed stream windowDays now ≠ [] ∧
      measureGroup formats windowDays definition (scope, windowed stream windowDays now) =
        .ok (some candidate) := by
  unfold PatternDetector.detect at detected
  rw [periodic.ofTenant] at detected
  obtain ⟨measured, mapped, built⟩ := Result.bind_eq_ok.mp detected
  rw [← Result.pure_eq_ok.mp built]
  show candidate ∈ measured.flatten.reduceOption ↔ _
  rw [List.reduceOption_mem_iff, List.mem_flatten]
  constructor
  · rintro ⟨outcomes, member, found⟩
    obtain ⟨definition, known, grouped⟩ := (Result.mem_mapM mapped).mp member
    obtain ⟨group, isGroup, ran⟩ := (Result.mem_mapM grouped).mp found
    rw [(periodic.inWindow positive windowDays now).groups_eq definition] at isGroup
    split at isGroup
    · rename_i supported
      rw [List.mem_singleton.mp isGroup] at ran
      exact ⟨definition, known, supported.1, supported.2, ran⟩
    · cases isGroup
  · rintro ⟨definition, known, covers, present, ran⟩
    obtain ⟨outcomes, grouped⟩ : ∃ outcomes, (PatternDetector.groups definition
        (windowed stream windowDays now)).mapM (measureGroup formats windowDays definition) =
          .ok outcomes := by
      rw [(periodic.inWindow positive windowDays now).groups_eq definition,
        if_pos ⟨covers, present⟩]
      exact ⟨_, Result.mapM_replicate fun group member => by rw [List.mem_singleton.mp member, ran]⟩
    refine ⟨outcomes, (Result.mem_mapM mapped).mpr ⟨definition, known, grouped⟩,
      (Result.mem_mapM grouped).mpr ⟨_, ?_, ran⟩⟩
    rw [(periodic.inWindow positive windowDays now).groups_eq definition, if_pos ⟨covers, present⟩]
    exact List.mem_singleton_self _

theorem Periodic.measured (periodic : Periodic tenantId scope period stream)
    (positive : 0 < period) {formats : DetectorFormats} {library : List PatternDefinition}
    {windowDays : ℚ} {now : Timestamp} {result : PatternDetector.DetectionResult}
    (detected : PatternDetector.detect formats stream library windowDays now (some tenantId) =
      .ok result) {definition : PatternDefinition} (known : definition ∈ library)
    (covers : Covers definition scope = true) (present : windowed stream windowDays now ≠ []) :
    ∃ answer, measureGroup formats windowDays definition (scope, windowed stream windowDays now) =
      .ok answer := by
  unfold PatternDetector.detect at detected
  rw [periodic.ofTenant] at detected
  obtain ⟨_, mapped, -⟩ := Result.bind_eq_ok.mp detected
  obtain ⟨_, grouped⟩ := Result.mapM_returns mapped known
  rw [(periodic.inWindow positive windowDays now).groups_eq definition, if_pos ⟨covers, present⟩]
    at grouped
  exact Result.mapM_returns grouped (List.mem_singleton_self _)

/-! ### The anomalies of a periodic stream -/

/-- The anomalies that a run reports as off their schedule. -/
def cadenceAnomalies (result : AnomalyDetector.DetectionResult) :
    List AnomalyDetector.CandidateAnomaly :=
  result.candidates.filter fun anomaly => decide (anomaly.deviationSpec = .daysOffSchedule)

theorem Periodic.resolved (periodic : Periodic tenantId scope period stream)
    {pattern : PatternRecord} (active : pattern.isActive = true)
    (anchored : ∃ context ∈ stream, pattern.contextId = context.id) :
    AnomalyDetector.resolvePatternScopes stream (stream.filter (·.isActive)) [pattern] =
      [(scope, [pattern])] := by
  obtain ⟨context, member, isAnchor⟩ := anchored
  obtain ⟨found, isFound⟩ : ∃ found, AnomalyDetector.anchor stream (stream.filter (·.isActive))
      pattern.contextId = some found := by
    refine Option.isSome_iff_exists.mp (List.find?_isSome.mpr ⟨context, ?_, ?_⟩)
    · simp [member]
    · simp [isAnchor]
  have inStream : found ∈ stream := by
    have either := List.mem_reverse.mp (List.mem_of_find?_eq_some isFound)
    rcases List.mem_append.mp either with own | activated
    · exact own
    · exact List.mem_of_mem_filter activated
  unfold AnomalyDetector.resolvePatternScopes
  have kept : [pattern].filterMap (fun pattern =>
      if pattern.isActive then
        (AnomalyDetector.anchor stream (stream.filter (·.isActive)) pattern.contextId).map
          fun found => (found.scope, pattern)
      else none) = [(scope, pattern)] := by
    simp [active, isFound, periodic.scope found inStream]
  dsimp only
  rw [kept, Grouping.groupBy_single (List.cons_ne_nil _ _)
    (fun element isElement => by rw [List.mem_singleton.mp isElement])]
  simp

/-- **The deviations of a periodic stream** from a pattern that is anchored in it. -/
theorem Periodic.deviates_iff (periodic : Periodic tenantId scope period stream)
    {pattern : PatternRecord} (active : pattern.isActive = true) (own : pattern.tenantId = tenantId)
    (anchored : ∃ context ∈ stream, pattern.contextId = context.id) (formats : DetectorFormats)
    (std : Stdlib) (tolerances : List ToleranceDefinition) :
    cadenceAnomalies (AnomalyDetector.detect formats std stream [pattern] tolerances
        (some (stream.filter (·.isActive))) (some tenantId)) = [] ↔
      ∀ context ∈ stream, context.isActive = true → ∀ tolerance ∈
        AnomalyDetector.findTolerance tolerances context pattern.patternType,
        tolerance.deviationSpec = .daysOffSchedule →
        ∀ score, AnomalyDetector.deviationDaysOffSchedule context pattern = some score →
          score ≤ tolerance.threshold := by
  have known : ([pattern].filter fun pattern =>
      (some tenantId).all fun id => decide (pattern.tenantId = id)) = [pattern] := by
    simp [own]
  have subjects : ((stream.filter (·.isActive)).filter fun context =>
      decide (some context.tenantId = some tenantId)) = stream.filter (·.isActive) :=
    List.filter_eq_self.mpr fun context member => by
      simp [periodic.tenant context (List.mem_of_mem_filter member)]
  have expected : ∀ context ∈ stream, (([(scope, [pattern])] :
      List ((String × String) × List PatternRecord)).lookup context.scope).bind List.head? =
        some pattern := by
    intro context member
    simp [periodic.scope context member]
  unfold cadenceAnomalies AnomalyDetector.detect
  simp only [periodic.ofTenant, known, Option.getD_some, subjects, periodic.resolved active anchored]
  rw [List.filter_eq_nil_iff]
  constructor
  · intro quiet context member isActive tolerance found schedule score measured
    by_contra exceeds
    obtain ⟨anomaly, reported, kind⟩ := (AnomalyDetector.inspect_schedule
      (expected context member)).mpr ⟨tolerance, found, schedule, score, measured, not_le.mp exceeds⟩
    refine quiet anomaly (List.mem_filterMap.mpr ⟨_, List.mem_map_of_mem
      (List.mem_filter.mpr ⟨member, isActive⟩), reported⟩) (decide_eq_true kind)
  · intro quiet anomaly reported kind
    obtain ⟨verdict, isVerdict, isAnomaly⟩ := List.mem_filterMap.mp reported
    obtain ⟨context, subject, rfl⟩ := List.mem_map.mp isVerdict
    obtain ⟨member, isActive⟩ := List.mem_filter.mp subject
    obtain ⟨tolerance, found, schedule, score, measured, exceeds⟩ :=
      (AnomalyDetector.inspect_schedule (expected context member)).mp
        ⟨anomaly, isAnomaly, of_decide_eq_true kind⟩
    exact absurd (quiet context member isActive tolerance found schedule score measured)
      (not_le.mpr exceeds)

/-! ### Feeding the one detector into the other -/

/-- By how many intervals the gap is longer than one. -/
def offSchedule (interval gap : ℚ) : ℚ :=
  PyFloat.double (PyFloat.double (gap - interval) / interval)

/-- The gap is one interval, up to the tolerance. -/
def OnSchedule (tolerance : ToleranceDefinition) (interval gap : ℚ) : Prop :=
  -tolerance.threshold ≤ offSchedule interval gap ∧ offSchedule interval gap ≤ tolerance.threshold

instance (tolerance : ToleranceDefinition) (interval gap : ℚ) :
    Decidable (OnSchedule tolerance interval gap) :=
  inferInstanceAs (Decidable (_ ∧ _))

theorem onSchedule_iff {tolerance : ToleranceDefinition} {interval gap : ℚ}
    (positive : 0 < interval) :
    PyFloat.double (|PyFloat.double (gap - interval)| / interval) ≤ tolerance.threshold ↔
      OnSchedule tolerance interval gap := by
  have signed : |PyFloat.double (gap - interval)| / interval =
      |PyFloat.double (gap - interval) / interval| := by
    rw [abs_div, abs_of_pos positive]
  rw [signed, PyFloat.double_abs, abs_le]
  rfl

theorem offSchedule_mono {interval gap longer : ℚ} (positive : 0 < interval) (atMost : gap ≤ longer) :
    offSchedule interval gap ≤ offSchedule interval longer :=
  PyFloat.double_mono (div_le_div_of_nonneg_right
    (PyFloat.double_mono (sub_le_sub_right atMost interval)) positive.le)

theorem le_offSchedule_iff {interval bound : ℚ} {least gap : Timestamp} (positive : 0 < interval)
    (before : offSchedule interval (totalDays (least - 1)) < bound)
    (reached : bound ≤ offSchedule interval (totalDays least)) :
    bound ≤ offSchedule interval (totalDays gap) ↔ least ≤ gap := by
  constructor
  · intro above
    by_contra less
    have atMost : gap ≤ least - 1 := Int.le_sub_one_of_lt (not_le.mp less)
    exact absurd (above.trans (offSchedule_mono positive (totalDays_mono atMost))) (not_le.mpr before)
  · intro atLeast
    exact reached.trans (offSchedule_mono positive (totalDays_mono atLeast))

theorem onSchedule_half {tolerance : ToleranceDefinition} (half : tolerance.threshold = 1 / 2)
    {interval : ℚ} (cadence : frequencyIntervalDays.lookup label = some interval) (gap : Timestamp) :
    OnSchedule tolerance (measuredInterval interval) (totalDays gap) ↔
      (1 - tolerance.threshold) * measuredInterval interval * 86400000000 ≤ gap ∧
        gap ≤ (1 + tolerance.threshold) * measuredInterval interval * 86400000000 := by
  have bounds : ∀ {days : ℚ} {least most : Timestamp}, 0 < days →
      (1 - 1 / 2) * days * 86400000000 = least → (1 + 1 / 2) * days * 86400000000 = most →
      offSchedule days (totalDays (least - 1)) < -(1 / 2) →
      -(1 / 2) ≤ offSchedule days (totalDays least) →
      offSchedule days (totalDays most) ≤ 1 / 2 →
      1 / 2 < offSchedule days (totalDays (most + 1)) →
      (OnSchedule tolerance days (totalDays gap) ↔
        (1 - tolerance.threshold) * days * 86400000000 ≤ gap ∧
          gap ≤ (1 + tolerance.threshold) * days * 86400000000) := by
    intro days least most positive isLeast isMost early low high late
    unfold OnSchedule
    rw [half, isLeast, isMost, le_offSchedule_iff positive early low, Int.cast_le, Int.cast_le]
    refine and_congr_right fun _ => ⟨fun atMost => ?_, fun atMost => ?_⟩
    · by_contra more
      have beyond : most + 1 ≤ gap := Int.add_one_le_of_lt (not_le.mp more)
      exact absurd (late.trans_le (offSchedule_mono positive (totalDays_mono beyond)))
        (not_lt.mpr atMost)
    · exact (offSchedule_mono positive (totalDays_mono atMost)).trans high
  have daily := @bounds 1 43200000000 129600000000 one_pos (by norm_num) (by norm_num)
    (by decide +kernel) (by decide +kernel) (by decide +kernel) (by decide +kernel)
  have weekly := @bounds 7 302400000000 907200000000 (by norm_num) (by norm_num) (by norm_num)
    (by decide +kernel) (by decide +kernel) (by decide +kernel) (by decide +kernel)
  unfold measuredInterval
  rcases cadence_cases cadence with rfl | rfl | rfl
  · rw [max_eq_right hour_range.2]
    exact daily
  · rw [max_self]
    exact daily
  · rw [max_eq_left (by norm_num)]
    exact weekly

-- Not so for an interval of an hour: ninety minutes are more than half an hour off.
example : 1 / 2 < offSchedule (PyFloat.double (1 / 24)) (totalDays (5400 * second)) := by
  decide +kernel

/-- **A periodic stream and its own pattern.** No deviation from the schedule is reported for any
candidate of the stream exactly when, for each definition that two activations or more support, every
active activation under a tolerance of the schedule lies one interval after the *detection time* of the
pattern, up to the tolerance; to the microsecond for a tolerance of half an interval. -/
theorem cadence_kept_iff (formats : DetectorFormats) (std : Stdlib) (library : List PatternDefinition)
    (tolerances : List ToleranceDefinition) (windowDays : ℚ) (now detectedAt : Timestamp)
    (tenantId : Uuid) (scope : String × String) (label : String) (period : Timestamp)
    (stream : List Context) (result : PatternDetector.DetectionResult)
    (periodic : Periodic tenantId scope period stream)
    (cadence : frequencyIntervalDays.lookup label = some (totalDays period))
    (detected : PatternDetector.detect formats stream library windowDays now (some tenantId) =
      .ok result) :
    ((∀ candidate ∈ result.candidates,
        cadenceAnomalies (AnomalyDetector.detect formats std stream
          [buildPattern std (candidate.toCreate tenantId detectedAt)] tolerances
          (some (stream.filter (·.isActive))) (some tenantId)) = []) ↔
      ∀ definition ∈ library, Supports definition scope (windowed stream windowDays now).length →
        2 ≤ (windowed stream windowDays now).length →
        ∀ context ∈ stream, context.isActive = true → ∀ tolerance ∈
          AnomalyDetector.findTolerance tolerances context definition.patternType.name,
          tolerance.deviationSpec = .daysOffSchedule →
          OnSchedule tolerance (measuredInterval (totalDays period))
            (totalDays (context.activatedAt - detectedAt))) ∧
      ∀ tolerance : ToleranceDefinition, tolerance.threshold = 1 / 2 → ∀ gap : Timestamp,
        (OnSchedule tolerance (measuredInterval (totalDays period)) (totalDays gap) ↔
          (1 - tolerance.threshold) * measuredInterval (totalDays period) * 86400000000 ≤ gap ∧
            gap ≤ (1 + tolerance.threshold) * measuredInterval (totalDays period) * 86400000000) := by
  refine ⟨?_, fun tolerance half gap => onSchedule_half half cadence gap⟩
  have positive := cadence_positive cadence
  have window := periodic.inWindow positive windowDays now
  have intervalPositive : 0 < measuredInterval (totalDays period) :=
    lt_of_lt_of_le one_pos (le_max_right _ _)
  -- a candidate of a definition, with the cadence of the stream
  have perCandidate : ∀ definition ∈ library, ∀ candidate,
      measureGroup formats windowDays definition (scope, windowed stream windowDays now) =
        .ok (some candidate) →
      (cadenceAnomalies (AnomalyDetector.detect formats std stream
          [buildPattern std (candidate.toCreate tenantId detectedAt)] tolerances
          (some (stream.filter (·.isActive))) (some tenantId)) = [] ↔
        (2 ≤ (windowed stream windowDays now).length →
          ∀ context ∈ stream, context.isActive = true → ∀ tolerance ∈
            AnomalyDetector.findTolerance tolerances context definition.patternType.name,
            tolerance.deviationSpec = .daysOffSchedule →
            OnSchedule tolerance (measuredInterval (totalDays period))
              (totalDays (context.activatedAt - detectedAt)))) := by
    intro definition known candidate measured
    obtain ⟨-, type, ⟨anchor, inWindow, isAnchor⟩, frequency⟩ :=
      (measureGroup_spec measured).1 candidate rfl
    rw [periodic.deviates_iff rfl rfl ⟨anchor, List.mem_of_mem_filter inWindow, isAnchor⟩]
    have interval : frequencyIntervalDays.lookup candidate.frequency.label =
        if 2 ≤ (windowed stream windowDays now).length then
          some (measuredInterval (totalDays period)) else none := by
      rw [frequency]
      split
      · rename_i several
        exact window.frequency cadence several
      · rename_i single
        exact Periodic.frequency_single single
    unfold AnomalyDetector.deviationDaysOffSchedule
    show (∀ context ∈ stream, context.isActive = true → ∀ tolerance ∈
        AnomalyDetector.findTolerance tolerances context candidate.patternType.name,
        tolerance.deviationSpec = .daysOffSchedule →
        ∀ score, (frequencyIntervalDays.lookup candidate.frequency.label).map (fun interval =>
          PyFloat.double (|PyFloat.double (totalDays (context.activatedAt - detectedAt) - interval)| /
            interval)) = some score →
            score ≤ tolerance.threshold) ↔ _
    rw [interval, type]
    split
    · rename_i several
      simp only [Option.map_some, Option.some.injEq, forall_eq', several, forall_const,
        onSchedule_iff intervalPositive]
    · rename_i single
      simp [single]
  constructor
  · rintro quiet definition known ⟨covers, present, strong⟩
    have filled : windowed stream windowDays now ≠ [] := List.length_pos_iff.mp present
    obtain ⟨answer, measured⟩ := periodic.measured positive detected known covers filled
    obtain ⟨candidate, rfl⟩ :=
      Option.ne_none_iff_exists'.mp ((measureGroup_spec measured).2 filled strong)
    exact (perCandidate definition known candidate measured).mp (quiet candidate
      ((periodic.mem_candidates positive detected).mpr ⟨definition, known, covers, filled, measured⟩))
  · intro onSchedule candidate isCandidate
    obtain ⟨definition, known, covers, present, measured⟩ :=
      (periodic.mem_candidates positive detected).mp isCandidate
    exact (perCandidate definition known candidate measured).mpr (onSchedule definition known
      ⟨covers, List.length_pos_iff.mpr present, ((measureGroup_spec measured).1 candidate rfl).1⟩)

end Stream

/-! ### A daily stream -/

/-- Texts of constants, for runs that do not depend on them. -/
def plainDetector : DetectorFormats where
  template := fun text _ => .ok text
  fixed1 := fun _ => ""
  signed1 := fun _ => ""
  general := fun _ => ""
  minute := fun _ => ""

/-- One day. -/
def day : Timestamp := 86400 * second

/-- The activation of the capacity model on a day. -/
def capacityActivation (number : Nat) (isActive : Bool) : Context where
  id := Fin.ofNat _ number
  tenantId := 1
  evidenceIds := []
  mentalModelId := "capacity_risk"
  purpose := "capacity"
  coherenceScore := ⟨1, one_isUnit⟩
  competingModels := []
  activatedAt := number * day
  isActive

/-- Three activations, a day from each to the next; the last one is active. -/
def dailyStream : List Context :=
  [capacityActivation 1 false, capacityActivation 2 false, capacityActivation 3 true]

theorem dailyStream_periodic : Periodic 1 ("capacity_risk", "capacity") day dailyStream where
  tenant := by decide
  scope := by decide
  spaced := ⟨dailyStream, .refl _, by
    unfold Spaced dailyStream
    simp [capacityActivation, day, second]⟩

/-- **The stream deviates from its own pattern** when that is detected at the time of the last
activation. -/
theorem periodic_stream_deviates :
    Periodic 1 ("capacity_risk", "capacity") day dailyStream ∧
    frequencyIntervalDays.lookup "daily" = some (totalDays day) ∧
    ∃ result candidate, PatternDetector.detect plainDetector dailyStream patternLibrary 28 (3 * day)
        (some 1) = .ok result ∧ candidate ∈ result.candidates ∧
      cadenceAnomalies (AnomalyDetector.detect plainDetector .constant dailyStream
        [buildPattern .constant (candidate.toCreate 1 (3 * day))] toleranceLibrary
        (some (dailyStream.filter (·.isActive))) (some 1)) ≠ [] := by
  have reported : (PatternDetector.detect plainDetector dailyStream patternLibrary 28 (3 * day)
      (some 1)).toOption.any (fun result => result.candidates.any fun candidate =>
        !(cadenceAnomalies (AnomalyDetector.detect plainDetector .constant dailyStream
          [buildPattern .constant (candidate.toCreate 1 (3 * day))] toleranceLibrary
          (some (dailyStream.filter (·.isActive))) (some 1))).isEmpty) = true := by
    decide +kernel
  obtain ⟨result, isResult, proposed⟩ := (Option.any_eq_true _ _).mp reported
  obtain ⟨candidate, member, deviates⟩ := List.any_eq_true.mp proposed
  refine ⟨dailyStream_periodic, by decide +kernel, result, candidate,
    Result.toOption_eq_some isResult, member, ?_⟩
  simpa using deviates

/-- Found a day before, the same stream keeps its schedule. -/
theorem cadence_kept_early : ∃ result,
    PatternDetector.detect plainDetector dailyStream patternLibrary 28 (3 * day) (some 1) =
      .ok result ∧
    ∀ candidate ∈ result.candidates,
      cadenceAnomalies (AnomalyDetector.detect plainDetector .constant dailyStream
        [buildPattern .constant (candidate.toCreate 1 (2 * day))] toleranceLibrary
        (some (dailyStream.filter (·.isActive))) (some 1)) = [] := by
  have returned : (PatternDetector.detect plainDetector dailyStream patternLibrary 28 (3 * day)
      (some 1)).toOption.isSome = true := by decide +kernel
  obtain ⟨result, isResult⟩ := Option.isSome_iff_exists.mp returned
  have detected := Result.toOption_eq_some isResult
  refine ⟨result, detected, (cadence_kept_iff plainDetector .constant patternLibrary toleranceLibrary
    28 (3 * day) (2 * day) 1 ("capacity_risk", "capacity") "daily" day dailyStream result
    dailyStream_periodic (by decide +kernel) detected).1.mpr ?_⟩
  decide +kernel

end CosMonitor
