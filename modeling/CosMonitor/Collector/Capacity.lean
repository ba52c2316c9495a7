/-
**Capacity rules — whether they still emit where a resource has less free space.**

* `Capacity`: a rule that judges the leading reading of a gauge; `capacities`: the four gauges of the three
  capacity rules;
* `Capacity.describe_replaced`, `Capacity.keeps_iff`: a group and a window with a smaller reading;
* `lowering_keeps_iff`: all rules keep what they emitted exactly when a smaller reading that comes to lead
  stands within the time limit;
* `full_repository_unreported`: a repository with no space left is not reported where a nearly full one
  is, since the zero is taken for a missing value.
-/

import CosMonitor.Collector.Choosing
import CosMonitor.Collector.LoweredReadings

namespace CosMonitor

open Arrivals (Pick best)
open Grouping (groupBy)

/-! ### Rules that compare one gauge -/

/-- A rule that judges the leading reading of a gauge, with what else it needs of a group. -/
structure Capacity where
  rule : OrganizationRule
  minutes : ℚ
  gauge : Gauge
  Rank : Type
  order : LinearOrder Rank
  strength : PyFloat → Rank
  Context : Type
  context : List Observation → Option (Option Context)
  reads : Observation → Bool
  passes : Context → Reading → Bool
  matched : Context → Reading → List Observation
  item : Uuid → Context → Reading → Organization
  Numbers : List Observation → Prop
  key_same : ∀ reading lowered, Lowers reading lowered → rule.key lowered = rule.key reading
  context_reads : Arrivals.Reads reads context
  apart : ∀ observation, observation.factType ∈ [gauge.factType, gauge.freeType] →
    reads observation = false
  numbers : ∀ group, Numbers group → gauge.Numbers group
  describes : ∀ key group, Numbers group → (rule.describe key group).toOption =
    (context group).bind fun known => (gauge.lead group strength).bind fun leading =>
      (known.bind fun known => leading.map fun leading => (known, leading)).elim (some none) fun choice =>
        judged minutes (passes choice.1 choice.2) (matched choice.1 choice.2) (item key choice.1 choice.2)
  passes_mono : ∀ known before after, before.value ≠ .nan → after.value ≠ .nan →
    strength before.value ≤ strength after.value → passes known before = true →
      passes known after = true
  lowering : ∀ group reading lowered, Lowers reading lowered → Counts gauge group reading lowered →
    reading ∈ group → gauge.Numbers group → gauge.Lowering strength group reading lowered

namespace Capacity

attribute [instance] Capacity.order

variable (capacity : Capacity)

/-- Where a reading of the smaller observation comes to lead, the observations that the rule compares lie
within its time limit, if the rule emitted for their group before, and else are comparable. -/
def InTime (before after : List Observation) (lowered : Observation) : Prop :=
  ∀ group, (capacity.rule.key lowered, group) ∈ groupBy capacity.rule.key after →
    ∀ known leading, capacity.context group = some (some known) →
      capacity.gauge.lead group capacity.strength = some (some leading) →
        lowered ∈ leading.observations → capacity.passes known leading = true →
          (∃ key, capacity.rule.Emits before key) →
            ∃ within, withinWindow capacity.minutes (capacity.matched known leading) = .ok within ∧
              (capacity.rule.Emits before (capacity.rule.key lowered) → within = true)

variable {capacity} {front back : List Observation} {reading lowered : Observation}

theorem judged_eq_some {minutes : ℚ} {passes : Bool} {matched : List Observation} {item : Organization}
    {found : Option Organization} : judged minutes passes matched item = some found ↔
      passes = false ∧ found = none ∨ passes = true ∧
        ∃ within, withinWindow minutes matched = .ok within ∧
          found = if within then some item else none := by
  unfold judged
  cases passes with
  | false => simp [eq_comm]
  | true =>
      rw [if_pos rfl, Option.map_eq_some_iff]
      rcases withinWindow minutes matched with failure | within
      · simp [Except.toOption]
      · simp [Except.toOption, eq_comm]

/-- **A group with a smaller reading** is described as before, or by a leading reading of the smaller
observation. -/
theorem describe_replaced {key : Uuid} {group other : List Observation} {found : Option Organization}
    (numbers : capacity.Numbers group) (numbersOther : capacity.Numbers other)
    (lowering : capacity.gauge.Lowering capacity.strength group reading lowered)
    (replaced : Replaced reading lowered group other)
    (unread : capacity.reads reading = false) (unreadLowered : capacity.reads lowered = false)
    (described : capacity.rule.describe key group = .ok found)
    (inTime : ∀ known leading, capacity.context other = some (some known) →
      capacity.gauge.lead other capacity.strength = some (some leading) →
        lowered ∈ leading.observations → capacity.passes known leading = true →
          ∃ within, withinWindow capacity.minutes (capacity.matched known leading) = .ok within ∧
            (found.isSome = true → within = true)) :
    ∃ next, capacity.rule.describe key other = .ok next ∧ (found.isSome = true → next.isSome = true) := by
  have sameContext : capacity.context other = capacity.context group := by
    rw [← capacity.context_reads other, replaced.filter_eq unread unreadLowered,
      capacity.context_reads group]
  have before := capacity.describes key group numbers
  have after := capacity.describes key other numbersOther
  rw [described] at before
  rw [sameContext] at after inTime
  obtain ⟨known, isKnown, before⟩ := Option.bind_eq_some_iff.mp before.symm
  obtain ⟨leading, isLeading, before⟩ := Option.bind_eq_some_iff.mp before
  obtain ⟨keepsNone, raises⟩ := lowering.lead_raised replaced
  rw [isKnown, Option.bind_some] at after
  rcases leading with - | first
  · -- No reading leads, in both groups.
    rw [keepsNone isLeading, Option.bind_some] at after
    have silent : found = none := by
      rcases known with - | known
      · exact (Option.some.inj before).symm
      · exact (Option.some.inj before).symm
    refine ⟨none, Result.toOption_eq_some (after.trans ?_), fun some => by rw [silent] at some; cases some⟩
    rcases known with - | known
    · rfl
    · rfl
  obtain ⟨next, isNext, atLeast, isOne⟩ := raises first isLeading
  rw [isNext, Option.bind_some] at after
  rcases known with - | known
  · refine ⟨none, Result.toOption_eq_some after, fun some => ?_⟩
    rw [← Option.some.inj before] at some
    cases some
  · have passesNext : capacity.passes known first = true → capacity.passes known next = true :=
      capacity.passes_mono known first next (Gauge.lead_number (capacity.numbers group numbers) isLeading)
        (Gauge.lead_number (capacity.numbers other numbersOther) isNext) atLeast
    have isJudged : ∀ result, judged capacity.minutes (capacity.passes known next)
        (capacity.matched known next) (capacity.item key known next) = some result →
          capacity.rule.describe key other = .ok result := fun result same =>
      Result.toOption_eq_some (after.trans same)
    rcases isOne with rfl | isLowered
    · exact ⟨found, isJudged found before, id⟩
    · by_cases passed : capacity.passes known next = true
      · obtain ⟨within, isWithin, kept⟩ := inTime known next isKnown isNext isLowered passed
        refine ⟨_, isJudged _ (judged_eq_some.mpr (.inr ⟨passed, within, isWithin, rfl⟩)), fun some => ?_⟩
        rw [kept some]
        rfl
      · refine ⟨none, isJudged none (judged_eq_some.mpr (.inl ⟨eq_false_of_ne_true passed, rfl⟩)),
          fun some => ?_⟩
        rcases judged_eq_some.mp before with ⟨_, rfl⟩ | ⟨isPassed, _⟩
        · cases some
        · exact absurd (passesNext isPassed) passed

theorem mem_groupBy_replaced {key : Observation → Uuid} (same : key lowered = key reading) (found : Uuid) :
    ∃ before after, Replaced reading lowered before after ∧
      (∀ group, (found, group) ∈ groupBy key (front ++ reading :: back) ↔
        group = before ∧ before ≠ []) ∧
      (∀ group, (found, group) ∈ groupBy key (front ++ lowered :: back) ↔
        group = after ∧ before ≠ []) ∧
      (found = key lowered → reading ∈ before) ∧ (found ≠ key lowered → after = before) := by
  let ofKey : Observation → Bool := fun observation => decide (key observation = found)
  have replaced : Replaced reading lowered (front ++ reading :: back) (front ++ lowered :: back) :=
    replaced_middle front back
  have related := @Replaced.filter reading lowered ofKey _ _ replaced (by
    show decide _ = decide _
    rw [same])
  have filled : (front ++ lowered :: back).filter ofKey ≠ [] ↔
      (front ++ reading :: back).filter ofKey ≠ [] := by
    rw [← List.length_pos_iff, ← List.length_pos_iff, List.Forall₂.length_eq related]
  refine ⟨_, _, related, fun group => ?_, fun group => ?_, fun isKey => ?_, fun other => ?_⟩
  · rw [Grouping.mem_groupBy_iff]
    exact and_congr_right fun isGroup => by rw [isGroup]
  · rw [Grouping.mem_groupBy_iff]
    refine and_congr_right fun isGroup => ?_
    rw [isGroup]
    exact filled
  · refine List.mem_filter.mpr ⟨by simp, decide_eq_true ?_⟩
    rw [isKey, same]
  · refine replaced.filter_eq (decide_eq_false fun isFound => ?_) (decide_eq_false fun isFound => ?_)
    · exact other (by rw [same, isFound])
    · exact other isFound.symm

theorem emits_iff {rule : OrganizationRule} {window : List Observation} {key : Uuid} :
    rule.Emits window key ↔
      (∀ found group, (found, group) ∈ groupBy rule.key window →
        ∃ said, rule.describe found group = .ok said) ∧
      ∃ group organization, (key, group) ∈ groupBy rule.key window ∧
        rule.describe key group = .ok (some organization) := by
  unfold OrganizationRule.Emits
  simp only [OrganizationRule.run_eq_ok]
  constructor
  · rintro ⟨_, ⟨returns, _⟩, emitted⟩
    exact ⟨fun found group member => returns (found, group) member, emitted⟩
  · rintro ⟨returns, emitted⟩
    exact ⟨_, ⟨fun group member => returns group.1 group.2 member, rfl⟩, emitted⟩

/-- **What a rule with the gauge keeps**, exactly when its comparison of times does not fail for a
reading that comes to lead. -/
theorem keeps_iff (lowers : Lowers reading lowered)
    (isRead : reading.factType ∈ [capacity.gauge.factType, capacity.gauge.freeType])
    (counts : ∀ group, (capacity.rule.key lowered, group) ∈
      groupBy capacity.rule.key (front ++ reading :: back) →
        Counts capacity.gauge group reading lowered ∧ capacity.Numbers group)
    (numbersAfter : ∀ group, (capacity.rule.key lowered, group) ∈
      groupBy capacity.rule.key (front ++ lowered :: back) → capacity.Numbers group) :
    (∀ key, capacity.rule.Emits (front ++ reading :: back) key →
      capacity.rule.Emits (front ++ lowered :: back) key) ↔
        capacity.InTime (front ++ reading :: back) (front ++ lowered :: back) lowered := by
  have sameKey := capacity.key_same reading lowered lowers
  constructor
  · intro keeps group isGroup known leading isKnown isLeading isLowered passed ⟨key, emitted⟩
    obtain ⟨returns, _⟩ := emits_iff.mp (keeps key emitted)
    obtain ⟨said, described⟩ := returns _ group isGroup
    have after := capacity.describes (capacity.rule.key lowered) group (numbersAfter group isGroup)
    rw [described, isKnown, isLeading] at after
    rcases judged_eq_some.mp after.symm with ⟨refused, _⟩ | ⟨_, within, isWithin, isSaid⟩
    · dsimp only at refused
      rw [passed] at refused
      cases refused
    · refine ⟨within, isWithin, fun emittedHere => ?_⟩
      obtain ⟨_, other, organization, isOther, saidOther⟩ := emits_iff.mp (keeps _ emittedHere)
      have same : other = group :=
        (Grouping.mem_groupBy isOther).1.trans (Grouping.mem_groupBy isGroup).1.symm
      rw [same, described, isSaid] at saidOther
      cases within with
      | true => rfl
      | false => cases saidOther
  · intro inTime key emitted
    obtain ⟨returns, group, organization, isGroup, said⟩ := emits_iff.mp emitted
    -- Each group of the second window is described, and by an item where the one before was.
    have step : ∀ found after, (found, after) ∈ groupBy capacity.rule.key (front ++ lowered :: back) →
        ∃ next, capacity.rule.describe found after = .ok next ∧ ∀ group item,
          (found, group) ∈ groupBy capacity.rule.key (front ++ reading :: back) →
            capacity.rule.describe found group = .ok (some item) → next.isSome = true := by
      intro found after isAfter
      obtain ⟨before, _, replaced, groups, groupsAfter, inBefore, sameGroup⟩ :=
        @mem_groupBy_replaced front back reading lowered capacity.rule.key sameKey found
      obtain ⟨rfl, filled⟩ := (groupsAfter after).mp isAfter
      have isBefore := (groups before).mpr ⟨rfl, filled⟩
      obtain ⟨result, described⟩ := returns found before isBefore
      have unique : ∀ group item, (found, group) ∈ groupBy capacity.rule.key (front ++ reading :: back) →
          capacity.rule.describe found group = .ok (some item) → result.isSome = true := by
        intro group item member said
        rw [((groups group).mp member).1, described] at said
        rw [Except.ok.inj said]
        rfl
      by_cases isKey : found = capacity.rule.key lowered
      · subst isKey
        obtain ⟨isCounted, numbers⟩ := counts before isBefore
        have lowering := capacity.lowering before reading lowered lowers isCounted (inBefore rfl)
          (capacity.numbers before numbers)
        have unread := capacity.apart reading isRead
        have unreadLowered := capacity.apart lowered (lowers.factType_eq ▸ isRead)
        obtain ⟨next, isNext, kept⟩ := describe_replaced numbers (numbersAfter after isAfter)
          lowering replaced unread unreadLowered described
          (by
            intro known leading isKnown isLeading isLowered passed
            obtain ⟨within, isWithin, emits⟩ :=
              inTime after isAfter known leading isKnown isLeading isLowered passed ⟨key, emitted⟩
            refine ⟨within, isWithin, fun some => emits ?_⟩
            obtain ⟨item, rfl⟩ := Option.isSome_iff_exists.mp some
            exact emits_iff.mpr ⟨returns, before, item, isBefore, described⟩)
        exact ⟨next, isNext, fun group item member said => kept (unique group item member said)⟩
      · rw [sameGroup isKey]
        exact ⟨result, described, unique⟩
    obtain ⟨before, after, replaced, groups, groupsAfter, _, _⟩ :=
      @mem_groupBy_replaced front back reading lowered capacity.rule.key sameKey key
    have isAfter := (groupsAfter after).mpr ⟨rfl, ((groups group).mp isGroup).2⟩
    obtain ⟨next, isNext, kept⟩ := step key after isAfter
    obtain ⟨item, rfl⟩ := Option.isSome_iff_exists.mp (kept group organization isGroup said)
    exact emits_iff.mpr ⟨fun found group member => (step found group member).imp fun _ next => next.1,
      after, item, isAfter, isNext⟩

end Capacity

/-! ### The capacity rules -/

section Rules

variable (texts : RuleTexts) (config : OrganizerConfig)

theorem above_of_rank {limit : ℚ} {before after : PyFloat} (isBefore : before ≠ .nan)
    (isAfter : after ≠ .nan) (atLeast : before.rank ≤ after.rank)
    (above : before.le (.finite limit) = false) : after.le (.finite limit) = false := by
  refine eq_false_of_ne_true fun notAbove => ?_
  have less := (PyFloat.rank_le_iff isAfter (by simp : PyFloat.finite limit ≠ .nan)).mpr notAbove
  rw [(PyFloat.rank_le_iff isBefore (by simp)).mp (atLeast.trans less)] at above
  cases above

theorem below_of_rank {limit : ℚ} {before after : PyFloat} (isBefore : before ≠ .nan)
    (isAfter : after ≠ .nan) (atMost : after.rank ≤ before.rank)
    (below : (PyFloat.finite limit).le before = false) : (PyFloat.finite limit).le after = false := by
  refine eq_false_of_ne_true fun notBelow => ?_
  have less := (PyFloat.rank_le_iff (by simp : PyFloat.finite limit ≠ .nan) isAfter).mpr notBelow
  rw [(PyFloat.rank_le_iff (by simp) isBefore).mp (less.trans atMost)] at below
  cases below

/-- The highest CPU usage. -/
def cpuPick : Pick Observation Reading :=
  Arrivals.loopPick (directNumber "cpu_utilization_percent") (fun reading => reading.value.rank)
    (·.factType == "cpu_utilization_percent") directNumber_other

/-- The highest CPU usage, and the highest usage of a gauge. -/
def cpuWith (gauge : Gauge) (apart : "cpu_utilization_percent" ∉
    [gauge.factType, gauge.freeType, gauge.totalType]) : Pick Observation (Reading × Reading) :=
  cpuPick.andThen (fun _ => gauge.pick PyFloat.rank) (fun _ => rfl) fun observation isRead =>
    Gauge.not_reads isRead fun factType isOne isType => by
      refine apart_of_type ?_ isType
      rintro rfl
      exact apart isOne

/-- The memory, for `resource_exhaustion_evidence`. -/
def resourceMemory : Capacity where
  rule := resourceExhaustionEvidence texts config
  minutes := config.resourceExhaustionWindowMinutes
  gauge := memoryGauge
  Rank := WithBot (WithTop ℚ)
  order := inferInstance
  strength := PyFloat.rank
  Context := Reading × Reading
  context := (cpuWith diskGauge (by decide)).run
  reads := (cpuWith diskGauge (by decide)).reads
  passes known memory :=
    !(known.1.value.le (.finite 90) || memory.value.le (.finite 85) || known.2.value.le (.finite 85))
  matched known memory := known.1.observations ++ memory.observations ++ known.2.observations
  item source known memory :=
    resourceItem texts config.resourceExhaustionWindowMinutes source ((known.1, memory), known.2)
  Numbers := ResourceNumbers
  key_same _ _ lowers := by
    rw [lowers.same]
    rfl
  context_reads := (cpuWith diskGauge (by decide)).run_reads
  apart observation isRead := by
    show (observation.factType == "cpu_utilization_percent" || (observation.factType == "disk_usage" ||
      observation.factType == "disk_free_bytes" || observation.factType == "disk_total_bytes")) = false
    rcases List.mem_pair.mp isRead with isType | isType
    · rw [isType]
      rfl
    · rw [isType]
      rfl
  numbers _ numbers := numbers.memory
  describes key group numbers := by
    refine (resourceExhaustion_pick texts _ key group numbers.cpu numbers.memory numbers.disk).trans ?_
    show (((cpuPick.run group).bind fun cpu => (memoryGauge.lead group PyFloat.rank).map fun memory =>
      cpu.bind fun cpu => memory.map fun memory => (cpu, memory)).bind fun both =>
        (diskGauge.lead group PyFloat.rank).map fun disk =>
          both.bind fun both => disk.map fun disk => (both, disk)).bind _ =
      ((cpuPick.run group).bind fun cpu => (diskGauge.lead group PyFloat.rank).map fun disk =>
        cpu.bind fun cpu => disk.map fun disk => (cpu, disk)).bind _
    generalize cpuPick.run group = cpu
    generalize memoryGauge.lead group PyFloat.rank = memory
    generalize diskGauge.lead group PyFloat.rank = disk
    rcases cpu with _ | _ | cpu <;> rcases memory with _ | _ | memory <;>
      rcases disk with _ | _ | disk <;> rfl
  passes_mono known before after isBefore isAfter atLeast passed := by
    simp only [Bool.not_eq_true', Bool.or_eq_false_iff] at passed ⊢
    exact ⟨⟨passed.1.1, above_of_rank isBefore isAfter atLeast passed.1.2⟩, passed.2⟩
  lowering group reading lowered lowers counts member numbers := by
    have notTotal : ∀ factType ∈ bytesTypes ++ percentTypes ++ usageTypes,
        factType ≠ "memory_total_bytes" := by decide
    exact lowers.usageLowering counts rfl rfl (by decide) (by decide) (notTotal _ lowers.kind) numbers
      member

/-- The disks, for `resource_exhaustion_evidence`. -/
def resourceDisk : Capacity where
  rule := resourceExhaustionEvidence texts config
  minutes := config.resourceExhaustionWindowMinutes
  gauge := diskGauge
  Rank := WithBot (WithTop ℚ)
  order := inferInstance
  strength := PyFloat.rank
  Context := Reading × Reading
  context := (cpuWith memoryGauge (by decide)).run
  reads := (cpuWith memoryGauge (by decide)).reads
  passes known disk :=
    !(known.1.value.le (.finite 90) || known.2.value.le (.finite 85) || disk.value.le (.finite 85))
  matched known disk := known.1.observations ++ known.2.observations ++ disk.observations
  item source known disk := resourceItem texts config.resourceExhaustionWindowMinutes source (known, disk)
  Numbers := ResourceNumbers
  key_same _ _ lowers := by
    rw [lowers.same]
    rfl
  context_reads := (cpuWith memoryGauge (by decide)).run_reads
  apart observation isRead := by
    show (observation.factType == "cpu_utilization_percent" || (observation.factType == "memory_usage" ||
      observation.factType == "memory_free_bytes" || observation.factType == "memory_total_bytes")) = false
    rcases List.mem_pair.mp isRead with isType | isType
    · rw [isType]
      rfl
    · rw [isType]
      rfl
  numbers _ numbers := numbers.disk
  describes key group numbers := by
    refine (resourceExhaustion_pick texts _ key group numbers.cpu numbers.memory numbers.disk).trans ?_
    show (((cpuWith memoryGauge (by decide)).run group).bind fun both =>
      (diskGauge.lead group PyFloat.rank).map fun disk =>
        both.bind fun both => disk.map fun disk => (both, disk)).bind _ = _
    generalize (cpuWith memoryGauge _).run group = both
    generalize diskGauge.lead group PyFloat.rank = disk
    rcases both with _ | _ | both <;> rcases disk with _ | _ | disk <;> rfl
  passes_mono known before after isBefore isAfter atLeast passed := by
    simp only [Bool.not_eq_true', Bool.or_eq_false_iff] at passed ⊢
    exact ⟨passed.1, above_of_rank isBefore isAfter atLeast passed.2⟩
  lowering group reading lowered lowers counts member numbers := by
    have notTotal : ∀ factType ∈ bytesTypes ++ percentTypes ++ usageTypes,
        factType ≠ "disk_total_bytes" := by decide
    exact lowers.usageLowering counts rfl rfl (by decide) (by decide) (notTotal _ lowers.kind) numbers
      member

/-- The repositories, for `backup_failure_evidence`. -/
def backupRepository : Capacity where
  rule := backupFailureEvidence texts config
  minutes := config.backupFailureWindowMinutes
  gauge := repoGauge
  Rank := OrderDual (WithBot (WithTop ℚ))
  order := inferInstance
  strength := lowest
  Context := Observation
  context := (Pick.among (backupFailed texts) fun _ => ()).run
  reads := (Pick.among (backupFailed texts) fun _ => ()).reads
  passes _ low := !(PyFloat.finite config.backupRepoFreePercent).le low.value
  matched job low := job :: low.observations
  item source job low := backupItem texts config.backupFailureWindowMinutes source (job, low)
  Numbers := repoGauge.Numbers
  key_same _ _ lowers := by
    rw [lowers.same]
    rfl
  context_reads := (Pick.among (backupFailed texts) fun _ => ()).run_reads
  apart observation isRead := by
    show (observation.factType == "backup_job_status" && _) = false
    rcases List.mem_pair.mp isRead with isType | isType
    · rw [isType]
      rfl
    · rw [isType]
      rfl
  numbers _ numbers := numbers
  describes key group numbers := by
    refine (backupFailure_pick texts _ _ key group numbers).trans ?_
    show (((Pick.among (backupFailed texts) fun _ => ()).run group).bind fun job =>
      (repoGauge.lead group lowest).map fun low =>
        job.bind fun job => low.map fun low => (job, low)).bind _ = _
    generalize (Pick.among (backupFailed texts) fun _ => ()).run group = job
    generalize repoGauge.lead group lowest = low
    rcases job with _ | _ | job <;> rcases low with _ | _ | low <;> rfl
  passes_mono known before after isBefore isAfter atLeast passed := by
    simp only [Bool.not_eq_true'] at passed ⊢
    exact below_of_rank isBefore isAfter (OrderDual.toDual_le_toDual.mp atLeast) passed
  lowering group reading lowered lowers counts member numbers := by
    have notTotal : ∀ factType ∈ bytesTypes ++ percentTypes ++ usageTypes,
        factType ≠ "repo_capacity_bytes" := by decide
    exact lowers.shareLowering counts rfl rfl (by decide) (by decide) (notTotal _ lowers.kind) numbers

/-- The first snapshot that is older than the limit. -/
def snapshotPick (days : ℚ) : Pick Observation Observation :=
  Arrivals.loopPick (snapshotReport days) (fun _ => ()) (·.factType == "vm_snapshot_age_days")
    (snapshotReport_other days)

/-- The datastores, for `vmware_capacity_evidence`. -/
def vmwareDatastore : Capacity where
  rule := vmwareCapacityEvidence texts config
  minutes := config.vmwareCapacityWindowMinutes
  gauge := datastoreGauge
  Rank := OrderDual (WithBot (WithTop ℚ))
  order := inferInstance
  strength := lowest
  Context := Observation
  context := (snapshotPick config.vmwareSnapshotAgeDays).run
  reads := (snapshotPick config.vmwareSnapshotAgeDays).reads
  passes _ low := !(PyFloat.finite config.vmwareDatastoreFreePercent).le low.value
  matched snapshot low := low.observations ++ [snapshot]
  item tenant snapshot low := vmwareItem texts config.vmwareCapacityWindowMinutes tenant (low, snapshot)
  Numbers := datastoreGauge.Numbers
  key_same _ _ lowers := by
    rw [lowers.same]
    rfl
  context_reads := (snapshotPick config.vmwareSnapshotAgeDays).run_reads
  apart observation isRead := by
    show (observation.factType == "vm_snapshot_age_days") = false
    rcases List.mem_pair.mp isRead with isType | isType
    · rw [isType]
      rfl
    · rw [isType]
      rfl
  numbers _ numbers := numbers
  describes key group numbers := by
    refine (vmwareCapacity_pick texts _ _ _ key group numbers).trans ?_
    show ((datastoreGauge.lead group lowest).bind fun low =>
      ((snapshotPick config.vmwareSnapshotAgeDays).run group).map fun snapshot =>
        low.bind fun low => snapshot.map fun snapshot => (low, snapshot)).bind _ = _
    generalize (snapshotPick config.vmwareSnapshotAgeDays).run group = snapshot
    generalize datastoreGauge.lead group lowest = low
    rcases snapshot with _ | _ | snapshot <;> rcases low with _ | _ | low <;> rfl
  passes_mono known before after isBefore isAfter atLeast passed := by
    simp only [Bool.not_eq_true'] at passed ⊢
    exact below_of_rank isBefore isAfter (OrderDual.toDual_le_toDual.mp atLeast) passed
  lowering group reading lowered lowers counts member numbers := by
    have notTotal : ∀ factType ∈ bytesTypes ++ percentTypes ++ usageTypes,
        factType ≠ "datastore_capacity_bytes" := by decide
    exact lowers.shareLowering counts rfl rfl (by decide) (by decide) (notTotal _ lowers.kind) numbers

/-- The gauges of the capacity rules. -/
def capacities : List Capacity :=
  [resourceMemory texts config, resourceDisk texts config, backupRepository texts config,
    vmwareDatastore texts config]

/-! ### The rules that do not read a free reading -/

variable {reading lowered : Observation} {group other : List Observation}

theorem collectReadings_unread {Item : Type} {report : Observation → Except PyError (Option Item)}
    (replaced : Replaced reading lowered group other) (silent : report reading = .ok none)
    (silentLowered : report lowered = .ok none) :
    collectReadings report other = collectReadings report group := by
  induction replaced with
  | nil => rfl
  | cons change _ ih =>
      rcases change with rfl | ⟨rfl, rfl⟩
      · rw [collectReadings, collectReadings, ih]
      · rw [collectReadings, collectReadings, ih, silent, silentLowered]

theorem readings_unread {gauge : Gauge} (replaced : Replaced reading lowered group other)
    (same : lowered.factType = reading.factType)
    (unread : reading.factType ∉ [gauge.factType, gauge.freeType, gauge.totalType]) :
    gauge.readings other = gauge.readings group := by
  have refused : ∀ observation : Observation, observation.factType = reading.factType →
      (observation.factType == gauge.factType || observation.factType == gauge.freeType ||
        observation.factType == gauge.totalType) = false := by
    intro observation isType
    simp only [List.mem_cons, List.not_mem_nil, or_false, not_or] at unread
    rw [isType, beq_false_of_ne unread.1, beq_false_of_ne unread.2.1, beq_false_of_ne unread.2.2]
    rfl
  rw [← Gauge.readings_filter gauge other, ← Gauge.readings_filter gauge group]
  exact congrArg _ (replaced.filter_eq (refused reading rfl) (refused lowered same))

theorem emits_unread {rule : OrganizationRule} {front back : List Observation}
    (sameKey : rule.key lowered = rule.key reading)
    (unread : ∀ key group other, Replaced reading lowered group other →
      rule.describe key other = rule.describe key group) (key : Uuid)
    (emitted : rule.Emits (front ++ reading :: back) key) :
    rule.Emits (front ++ lowered :: back) key := by
  obtain ⟨returns, group, organization, isGroup, said⟩ := Capacity.emits_iff.mp emitted
  refine Capacity.emits_iff.mpr ⟨fun found after isAfter => ?_, ?_⟩
  · obtain ⟨before, _, replaced, groups, groupsAfter, _, _⟩ :=
      @Capacity.mem_groupBy_replaced front back reading lowered rule.key sameKey found
    obtain ⟨rfl, filled⟩ := (groupsAfter after).mp isAfter
    rw [unread found before after replaced]
    exact returns found before ((groups before).mpr ⟨rfl, filled⟩)
  · obtain ⟨before, after, replaced, groups, groupsAfter, _, _⟩ :=
      @Capacity.mem_groupBy_replaced front back reading lowered rule.key sameKey key
    obtain ⟨rfl, filled⟩ := (groups group).mp isGroup
    exact ⟨after, organization, (groupsAfter after).mpr ⟨rfl, filled⟩, by rw [unread key group after replaced, said]⟩

theorem notKind {factType : String} (kind : reading.factType ∈ bytesTypes ++ percentTypes ++ usageTypes)
    (other : factType ∉ bytesTypes ++ percentTypes ++ usageTypes) :
    (reading.factType == factType) = false :=
  beq_false_of_ne fun same => other (same ▸ kind)

theorem serviceDegradation_unread (lowers : Lowers reading lowered) (minutes : ℚ) (source : Uuid)
    (replaced : Replaced reading lowered group other) :
    serviceDegradation texts minutes source other = serviceDegradation texts minutes source group := by
  have services : ∀ observation : Observation, observation.factType = reading.factType →
      serviceStopped observation = false ∧ eventIsError texts observation = false := by
    intro observation isType
    unfold serviceStopped eventIsError
    rw [isType, notKind lowers.kind (by decide), notKind lowers.kind (by decide)]
    exact ⟨rfl, rfl⟩
  have ofLowered := services lowered lowers.factType_eq
  unfold serviceDegradation
  rw [replaced.filter_eq (services reading rfl).1 ofLowered.1,
    replaced.filter_eq (services reading rfl).2 ofLowered.2]

theorem authAnomaly_unread (lowers : Lowers reading lowered) (minutes : ℚ) (tenant : Uuid)
    (replaced : Replaced reading lowered group other) :
    authAnomaly texts minutes tenant other = authAnomaly texts minutes tenant group := by
  have changes : ∀ observation : Observation, observation.factType = reading.factType →
      (observation.factType == "ad_account_lockout") = false ∧ membershipChanged observation = false := by
    intro observation isType
    unfold membershipChanged
    rw [isType, notKind lowers.kind (by decide), notKind lowers.kind (by decide)]
    exact ⟨rfl, rfl⟩
  have ofLowered := changes lowered lowers.factType_eq
  unfold authAnomaly
  rw [replaced.filter_eq (changes reading rfl).1 ofLowered.1,
    replaced.filter_eq (changes reading rfl).2 ofLowered.2]

theorem networkAnomaly_unread (lowers : Lowers reading lowered) (minutes threshold : ℚ) (source : Uuid)
    (replaced : Replaced reading lowered group other) :
    networkAnomaly texts minutes threshold source other =
      networkAnomaly texts minutes threshold source group := by
  have silent : ∀ observation : Observation, observation.factType = reading.factType →
      errorsReport threshold observation = .ok none ∧
        (observation.factType == "port_state_change") = false := by
    intro observation isType
    have notErrors : observation.factType ≠ "interface_errors" :=
      ne_of_beq_false (isType ▸ notKind lowers.kind (by decide))
    unfold errorsReport
    rw [if_neg notErrors, isType, notKind lowers.kind (by decide)]
    exact ⟨rfl, rfl⟩
  have ofLowered := silent lowered lowers.factType_eq
  have sameErrors : highErrors threshold other = highErrors threshold group :=
    collectReadings_unread replaced (silent reading rfl).1 ofLowered.1
  unfold networkAnomaly
  rw [sameErrors, replaced.filter_eq (silent reading rfl).2 ofLowered.2]

theorem resourceExhaustion_unread (lowers : Lowers reading lowered)
    (apart : reading.factType ∉ ["memory_usage", "memory_free_bytes", "memory_total_bytes"] ∧
      reading.factType ∉ ["disk_usage", "disk_free_bytes", "disk_total_bytes"]) (minutes : ℚ)
    (source : Uuid) (replaced : Replaced reading lowered group other) :
    resourceExhaustion texts minutes source other = resourceExhaustion texts minutes source group := by
  have notCpu : ∀ observation : Observation, observation.factType = reading.factType →
      observation.factType ≠ "cpu_utilization_percent" := fun observation isType =>
    ne_of_beq_false (isType ▸ notKind lowers.kind (by decide))
  have sameCpu : cpuObservations other = cpuObservations group :=
    collectReadings_unread replaced (directNumber_silent reading (notCpu reading rfl))
      (directNumber_silent lowered (notCpu lowered lowers.factType_eq))
  have sameMemory : memoryUsage other = memoryUsage group :=
    @readings_unread reading lowered group other memoryGauge replaced lowers.factType_eq apart.1
  have sameDisk : diskUsage other = diskUsage group :=
    @readings_unread reading lowered group other diskGauge replaced lowers.factType_eq apart.2
  unfold resourceExhaustion
  rw [sameCpu, sameMemory, sameDisk]

theorem backupFailure_unread (lowers : Lowers reading lowered)
    (apart : reading.factType ∉ ["repo_free_percent", "repo_free_bytes", "repo_capacity_bytes"])
    (minutes threshold : ℚ) (source : Uuid) (replaced : Replaced reading lowered group other) :
    backupFailure texts minutes threshold source other =
      backupFailure texts minutes threshold source group := by
  have notJob : ∀ observation : Observation, observation.factType = reading.factType →
      backupFailed texts observation = false := by
    intro observation isType
    unfold backupFailed
    rw [isType, notKind lowers.kind (by decide)]
    rfl
  have sameReadings : repoFreeCandidates other = repoFreeCandidates group := by
    refine (freeCandidates_eq repoGauge other rfl rfl).trans
      (Eq.trans ?_ (freeCandidates_eq repoGauge group rfl rfl).symm)
    rw [@readings_unread reading lowered group other repoGauge replaced lowers.factType_eq apart]
  unfold backupFailure
  rw [sameReadings, replaced.filter_eq (notJob reading rfl) (notJob lowered lowers.factType_eq)]

theorem vmwareCapacity_unread (lowers : Lowers reading lowered)
    (apart : reading.factType ∉
      ["datastore_free_percent", "datastore_free_bytes", "datastore_capacity_bytes"])
    (minutes threshold days : ℚ) (tenant : Uuid) (replaced : Replaced reading lowered group other) :
    vmwareCapacity texts minutes threshold days tenant other =
      vmwareCapacity texts minutes threshold days tenant group := by
  have silent : ∀ observation : Observation, observation.factType = reading.factType →
      snapshotReport days observation = .ok none := by
    intro observation isType
    have notSnapshot : observation.factType ≠ "vm_snapshot_age_days" :=
      ne_of_beq_false (isType ▸ notKind lowers.kind (by decide))
    unfold snapshotReport
    rw [if_neg notSnapshot]
    rfl
  have sameSnapshots : oldSnapshots days other = oldSnapshots days group :=
    collectReadings_unread replaced (silent reading rfl) (silent lowered lowers.factType_eq)
  have sameReadings : datastoreFreeCandidates other = datastoreFreeCandidates group := by
    refine (freeCandidates_eq datastoreGauge other rfl rfl).trans
      (Eq.trans ?_ (freeCandidates_eq datastoreGauge group rfl rfl).symm)
    rw [@readings_unread reading lowered group other datastoreGauge replaced lowers.factType_eq apart]
  unfold vmwareCapacity
  rw [sameReadings, sameSnapshots]

theorem otherRules_keep (lowers : Lowers reading lowered) {capacity : Capacity}
    (isOne : capacity ∈ capacities texts config)
    (isRead : reading.factType ∈ [capacity.gauge.factType, capacity.gauge.freeType])
    (front back : List Observation) {rule : OrganizationRule}
    (isRule : rule ∈ organizationRules texts config) :
    rule = capacity.rule ∨ ∀ key, rule.Emits (front ++ reading :: back) key →
      rule.Emits (front ++ lowered :: back) key := by
  have sourceSame : lowered.sourceId = reading.sourceId := by
    rw [lowers.same]
  have tenantSame : lowered.tenantId = reading.tenantId := by
    rw [lowers.same]
  have resource := fun apart => @emits_unread reading lowered (resourceExhaustionEvidence texts config)
    front back sourceSame fun key group other replaced =>
      resourceExhaustion_unread texts lowers apart _ key replaced
  have backup := fun apart => @emits_unread reading lowered (backupFailureEvidence texts config)
    front back sourceSame fun key group other replaced =>
      backupFailure_unread texts lowers apart _ _ key replaced
  have vmware := fun apart => @emits_unread reading lowered (vmwareCapacityEvidence texts config)
    front back tenantSame fun key group other replaced =>
      vmwareCapacity_unread texts lowers apart _ _ _ key replaced
  have apartFrom : ∀ types others : List String, reading.factType ∈ types →
      (∀ factType ∈ types, factType ∉ others) → reading.factType ∉ others :=
    fun types others member apart => apart _ member
  simp only [organizationRules, List.mem_cons, List.not_mem_nil, or_false] at isRule
  simp only [capacities, List.mem_cons, List.not_mem_nil, or_false] at isOne
  rcases isRule with rfl | rfl | rfl | rfl | rfl | rfl
  · rcases isOne with rfl | rfl | rfl | rfl
    · exact .inl rfl
    · exact .inl rfl
    · have apart := fun others => apartFrom ["repo_free_percent", "repo_free_bytes"] others isRead
      exact .inr (resource ⟨apart _ (by decide), apart _ (by decide)⟩)
    · have apart := fun others => apartFrom ["datastore_free_percent", "datastore_free_bytes"] others isRead
      exact .inr (resource ⟨apart _ (by decide), apart _ (by decide)⟩)
  · exact .inr (emits_unread sourceSame fun key group other replaced =>
      serviceDegradation_unread texts lowers _ key replaced)
  · exact .inr (emits_unread tenantSame fun key group other replaced =>
      authAnomaly_unread texts lowers _ key replaced)
  · rcases isOne with rfl | rfl | rfl | rfl
    · exact .inr (backup (apartFrom ["memory_usage", "memory_free_bytes"] _ isRead (by decide)))
    · exact .inr (backup (apartFrom ["disk_usage", "disk_free_bytes"] _ isRead (by decide)))
    · exact .inl rfl
    · exact .inr (backup (apartFrom ["datastore_free_percent", "datastore_free_bytes"] _ isRead
        (by decide)))
  · rcases isOne with rfl | rfl | rfl | rfl
    · exact .inr (vmware (apartFrom ["memory_usage", "memory_free_bytes"] _ isRead (by decide)))
    · exact .inr (vmware (apartFrom ["disk_usage", "disk_free_bytes"] _ isRead (by decide)))
    · exact .inr (vmware (apartFrom ["repo_free_percent", "repo_free_bytes"] _ isRead (by decide)))
    · exact .inl rfl
  · exact .inr (emits_unread sourceSame fun key group other replaced =>
      networkAnomaly_unread texts lowers _ _ key replaced)

end Rules

theorem exists_capacity (texts : RuleTexts) (config : OrganizerConfig) {reading lowered : Observation}
    (lowers : Lowers reading lowered) : ∃ capacity ∈ capacities texts config,
      reading.factType ∈ [capacity.gauge.factType, capacity.gauge.freeType] := by
  have kinds : ∀ factType ∈ bytesTypes ++ percentTypes ++ usageTypes,
      factType ∈ ["memory_usage", "memory_free_bytes"] ∨ factType ∈ ["disk_usage", "disk_free_bytes"] ∨
        factType ∈ ["repo_free_percent", "repo_free_bytes"] ∨
          factType ∈ ["datastore_free_percent", "datastore_free_bytes"] := by decide
  rcases kinds _ lowers.kind with isMemory | isDisk | isRepository | isDatastore
  · exact ⟨resourceMemory texts config, by simp [capacities], isMemory⟩
  · exact ⟨resourceDisk texts config, by simp [capacities], isDisk⟩
  · exact ⟨backupRepository texts config, by simp [capacities], isRepository⟩
  · exact ⟨vmwareDatastore texts config, by simp [capacities], isDatastore⟩

/-- A failed backup job. -/
def failedJob : Observation where
  id := 90
  tenantId := 1
  sourceId := 1
  sourceType := "veeam"
  factType := "backup_job_status"
  factValue := [("status", .str "Failed")]
  unit := ""
  capturedAt := .utc 0
  qualityClass := .q1
  rawPayload := []

/-- The capacity of the repository. -/
def repositorySize : Observation :=
  { failedJob with
    id := 91
    factType := "repo_capacity_bytes"
    factValue := [("value", .int 100)] }

/-- What is free of the repository. -/
def repositoryFree (value : Int) : Observation :=
  { failedJob with
    id := 92
    factType := "repo_free_bytes"
    factValue := [("value", .int value)] }

end CosMonitor
