/-
**The organizer engine — the six rules over a buffer, and the creations that come of them.**

* `OrganizationRule`: what a rule groups the observations by, and what it does with a group;
* `resourceExhaustionEvidence`, …, `networkAnomalyEvidence`: the rules under the names of the source;
* `organize`, `organizerEngine`: the rules in the order of the engine, with the weights of the quality
  classes;
* `OrganizationRule.run_tenants`, `OrganizationRule.run_part`: an organization is about the tenant of an
  observation of its group, and the groups of a tenant are organized as they would be on their own.
-/

import CosMonitor.Collector.Consumer
import CosMonitor.Collector.Rules
import CosMonitor.Foundation.Result

namespace CosMonitor

open Grouping (groupBy)

/-! ### The rules -/

/-- A rule: the attribute that it groups by, and what it says about a group. -/
structure OrganizationRule where
  key : Observation → Uuid
  describe : Uuid → List Observation → Except PyError (Option Organization)

/-- Run the rule over a buffer. -/
def OrganizationRule.run (rule : OrganizationRule) (observations : List Observation) :
    Except PyError (List Organization) :=
  organizeGroups rule.describe (groupBy rule.key observations)

/-- `OrganizerConfig`, with its defaults. -/
structure OrganizerConfig where
  resourceExhaustionWindowMinutes : ℚ := 5
  serviceDegradationWindowMinutes : ℚ := 15
  authAnomalyWindowMinutes : ℚ := 60
  backupFailureWindowMinutes : ℚ := 60
  vmwareCapacityWindowMinutes : ℚ := 30
  networkAnomalyWindowMinutes : ℚ := 15
  networkAnomalyErrorThreshold : ℚ := 100
  backupRepoFreePercent : ℚ := 10
  vmwareDatastoreFreePercent : ℚ := 15
  vmwareSnapshotAgeDays : ℚ := 7

/-- `max_window_minutes`. -/
def OrganizerConfig.maxWindowMinutes (config : OrganizerConfig) : ℚ :=
  [config.serviceDegradationWindowMinutes, config.authAnomalyWindowMinutes,
    config.backupFailureWindowMinutes, config.vmwareCapacityWindowMinutes,
    config.networkAnomalyWindowMinutes].foldl max config.resourceExhaustionWindowMinutes

section Engine

variable (texts : RuleTexts) (config : OrganizerConfig)

/-- `resource_exhaustion_evidence`. -/
def resourceExhaustionEvidence : OrganizationRule where
  key := Observation.sourceId
  describe := resourceExhaustion texts config.resourceExhaustionWindowMinutes

/-- `service_degradation_evidence`. -/
def serviceDegradationEvidence : OrganizationRule where
  key := Observation.sourceId
  describe := serviceDegradation texts config.serviceDegradationWindowMinutes

/-- `auth_anomaly_evidence`. -/
def authAnomalyEvidence : OrganizationRule where
  key := Observation.tenantId
  describe := authAnomaly texts config.authAnomalyWindowMinutes

/-- `backup_failure_evidence`. -/
def backupFailureEvidence : OrganizationRule where
  key := Observation.sourceId
  describe := backupFailure texts config.backupFailureWindowMinutes config.backupRepoFreePercent

/-- `vmware_capacity_evidence`. -/
def vmwareCapacityEvidence : OrganizationRule where
  key := Observation.tenantId
  describe := vmwareCapacity texts config.vmwareCapacityWindowMinutes
    config.vmwareDatastoreFreePercent config.vmwareSnapshotAgeDays

/-- `network_anomaly_evidence`. -/
def networkAnomalyEvidence : OrganizationRule where
  key := Observation.sourceId
  describe := networkAnomaly texts config.networkAnomalyWindowMinutes
    config.networkAnomalyErrorThreshold

/-- The rules, in the order of the engine. -/
def organizationRules : List OrganizationRule :=
  [resourceExhaustionEvidence texts config, serviceDegradationEvidence texts config,
    authAnomalyEvidence texts config, backupFailureEvidence texts config,
    vmwareCapacityEvidence texts config, networkAnomalyEvidence texts config]

/-- `QUALITY_WEIGHTS`. -/
def qualityWeight : QualityClass → UnitScore
  | .q1 => ⟨7 / 8, sevenEighths_isUnit⟩
  | .q2 => ⟨5 / 8, by norm_num⟩
  | .q3 => ⟨3 / 8, by norm_num⟩
  | .q4 => ⟨1 / 8, by norm_num⟩

/-- `_to_create`. -/
def toCreate (organization : Organization) : EvidenceCreate where
  tenantId := organization.tenantId
  observationIds := organization.observationIds
  organizationType := organization.organizationType
  description := organization.description
  qualityClass := organization.qualityClass
  weight := qualityWeight organization.qualityClass

/-- `organizations += rule(observations)`, rule after rule. -/
def applyRules (observations : List Observation) :
    List OrganizationRule → Except PyError (List Organization)
  | [] => .ok []
  | rule :: rest => do
      let found ← rule.run observations
      let others ← applyRules observations rest
      return found ++ others

/-- `organize`. -/
def organize (observations : List Observation) : Except PyError (List EvidenceCreate) :=
  (applyRules observations (organizationRules texts config)).map (List.map toCreate)

/-- `OrganizerEngine(config)`, as the consumer uses it. -/
def organizerEngine : Organizer where
  retention := minutesSpan config.maxWindowMinutes
  organize := organize texts config

end Engine

/-! ### What a rule reads -/

section Members

variable {group : List Observation}

theorem pyMax_mem {Item : Type} (key : Item → PyFloat) (item : Item) (rest : List Item) :
    pyMax key item rest ∈ item :: rest := by
  unfold pyMax
  induction rest generalizing item with
  | nil => exact List.mem_singleton_self _
  | cons other others ih =>
      rw [List.foldl_cons]
      split
      · exact List.mem_cons_of_mem _ (ih other)
      · rcases List.mem_cons.mp (ih item) with same | member
        · exact List.mem_cons.mpr (.inl same)
        · exact List.mem_cons_of_mem _ (List.mem_cons_of_mem _ member)

theorem mem_collectReadings {Item : Type} {report : Observation → Except PyError (Option Item)}
    {items : List Item} {item : Item} (collected : collectReadings report group = .ok items)
    (member : item ∈ items) : ∃ observation ∈ group, report observation = .ok (some item) := by
  induction group generalizing items with
  | nil =>
      cases collected
      cases member
  | cons observation rest ih =>
      obtain ⟨found, reported, collected⟩ := Result.bind_eq_ok.mp collected
      obtain ⟨others, remaining, same⟩ := Result.bind_eq_ok.mp collected
      rw [← Except.ok.inj same] at member
      rcases List.mem_append.mp member with isFound | isOther
      · refine ⟨observation, List.mem_cons_self, ?_⟩
        rw [reported, Option.mem_toList.mp isFound]
      · obtain ⟨other, inRest, reportedOther⟩ := ih remaining isOther
        exact ⟨other, List.mem_cons_of_mem _ inRest, reportedOther⟩

theorem directNumber_observations {factType : String} {observation : Observation} {reading : Reading}
    (reported : directNumber factType observation = .ok (some reading)) :
    reading.observations = [observation] := by
  unfold directNumber at reported
  split at reported
  · obtain ⟨number, _, same⟩ := Result.bind_eq_ok.mp reported
    obtain ⟨value, _, rfl⟩ := Option.map_eq_some_iff.mp (Except.ok.inj same)
    rfl
  · cases reported

/-- The tenant of an organization is the tenant of an observation of the group. -/
def OrganizationRule.Local (rule : OrganizationRule) : Prop :=
  ∀ key group organization, (∀ observation ∈ group, rule.key observation = key) →
    rule.describe key group = .ok (some organization) →
      ∃ observation ∈ group, observation.tenantId = organization.tenantId

variable (texts : RuleTexts) (config : OrganizerConfig)

theorem resourceExhaustionEvidence_local : (resourceExhaustionEvidence texts config).Local := by
  intro key group organization _ described
  obtain ⟨cpus, readCpus, described⟩ := Result.bind_eq_ok.mp described
  obtain ⟨memories, _, described⟩ := Result.bind_eq_ok.mp described
  obtain ⟨disks, _, described⟩ := Result.bind_eq_ok.mp described
  split at described
  · dsimp only at described
    split at described
    · cases described
    obtain ⟨within, _, described⟩ := Result.bind_eq_ok.mp described
    split at described
    · cases described
    · obtain ⟨cpu, head, rfl⟩ := Option.map_eq_some_iff.mp (Except.ok.inj described)
      obtain ⟨observation, member, reported⟩ :=
        mem_collectReadings readCpus (pyMax_mem Reading.value _ _)
      rw [directNumber_observations reported] at head
      cases head
      exact ⟨_, member, rfl⟩
  · cases described

theorem serviceDegradationEvidence_local : (serviceDegradationEvidence texts config).Local := by
  intro key group organization _ described
  change serviceDegradation texts _ key group = _ at described
  unfold serviceDegradation at described
  split at described
  · rename_i service _ _ _ stopped _
    obtain ⟨within, _, described⟩ := Result.bind_eq_ok.mp described
    split at described
    · cases described
    · cases Except.ok.inj described
      have member : service ∈ group.filter serviceStopped := stopped ▸ List.mem_cons_self
      exact ⟨service, (List.mem_filter.mp member).1, rfl⟩
  · cases described

theorem authAnomalyEvidence_local : (authAnomalyEvidence texts config).Local := by
  intro key group organization ofKey described
  change authAnomaly texts _ key group = _ at described
  unfold authAnomaly at described
  split at described
  · rename_i lockout _ _ _ lockouts _
    obtain ⟨within, _, described⟩ := Result.bind_eq_ok.mp described
    split at described
    · cases described
    · cases Except.ok.inj described
      have member : lockout ∈ group.filter (·.factType == "ad_account_lockout") :=
        lockouts ▸ List.mem_cons_self
      exact ⟨lockout, (List.mem_filter.mp member).1, ofKey _ (List.mem_filter.mp member).1⟩
  · cases described

theorem backupFailureEvidence_local : (backupFailureEvidence texts config).Local := by
  intro key group organization _ described
  change backupFailure texts _ _ key group = _ at described
  unfold backupFailure at described
  obtain ⟨candidates, _, described⟩ := Result.bind_eq_ok.mp described
  split at described
  · rename_i job _ _ _ failed _
    split at described
    · cases described
    obtain ⟨within, _, described⟩ := Result.bind_eq_ok.mp described
    split at described
    · cases described
    · cases Except.ok.inj described
      have member : job ∈ group.filter (backupFailed texts) := failed ▸ List.mem_cons_self
      exact ⟨job, (List.mem_filter.mp member).1, rfl⟩
  · cases described

theorem vmwareCapacityEvidence_local : (vmwareCapacityEvidence texts config).Local := by
  intro key group organization ofKey described
  obtain ⟨candidates, _, described⟩ := Result.bind_eq_ok.mp described
  obtain ⟨snapshots, old, described⟩ := Result.bind_eq_ok.mp described
  split at described
  · rename_i snapshot _
    split at described
    · cases described
    obtain ⟨within, _, described⟩ := Result.bind_eq_ok.mp described
    split at described
    · cases described
    · cases Except.ok.inj described
      obtain ⟨observation, member, _⟩ := mem_collectReadings old List.mem_cons_self
      exact ⟨observation, member, ofKey _ member⟩
  · cases described

theorem networkAnomalyEvidence_local : (networkAnomalyEvidence texts config).Local := by
  intro key group organization _ described
  obtain ⟨errors, high, described⟩ := Result.bind_eq_ok.mp described
  split at described
  · rename_i first others _ _ _
    dsimp only at described
    obtain ⟨within, _, described⟩ := Result.bind_eq_ok.mp described
    split at described
    · cases described
    · cases Except.ok.inj described
      obtain ⟨observation, member, reported⟩ := mem_collectReadings high (pyMax_mem Prod.fst first others)
      have same : (pyMax Prod.fst first others).2 = observation := by
        split at reported
        · obtain ⟨number, _, reported⟩ := Result.bind_eq_ok.mp reported
          split at reported
          · rw [← Option.some.inj (Except.ok.inj reported)]
          · cases reported
        · cases reported
      exact ⟨observation, member, congrArg Observation.tenantId same.symm⟩
  · cases described

/-- **Every rule of the engine speaks about a tenant of the group.** -/
theorem organizationRules_local : ∀ rule ∈ organizationRules texts config, rule.Local := by
  intro rule member
  simp only [organizationRules, List.mem_cons, List.not_mem_nil, or_false] at member
  rcases member with rfl | rfl | rfl | rfl | rfl | rfl
  · exact resourceExhaustionEvidence_local texts config
  · exact serviceDegradationEvidence_local texts config
  · exact authAnomalyEvidence_local texts config
  · exact backupFailureEvidence_local texts config
  · exact vmwareCapacityEvidence_local texts config
  · exact networkAnomalyEvidence_local texts config

theorem organizationRules_key : ∀ rule ∈ organizationRules texts config,
    rule.key = Observation.sourceId ∨ rule.key = Observation.tenantId := by
  intro rule member
  simp only [organizationRules, List.mem_cons, List.not_mem_nil, or_false] at member
  rcases member with rfl | rfl | rfl | rfl | rfl | rfl
  · exact .inl rfl
  · exact .inl rfl
  · exact .inr rfl
  · exact .inl rfl
  · exact .inr rfl
  · exact .inl rfl

end Members

/-! ### The groups of some of the tenants -/

section Parts

variable {describe : Uuid → List Observation → Except PyError (Option Organization)}
  {groups : List (Uuid × List Observation)} {organizations : List Organization}

/-- What is said about a group. -/
def described (describe : Uuid → List Observation → Except PyError (Option Organization))
    (group : Uuid × List Observation) : Option Organization :=
  (describe group.1 group.2).toOption.join

theorem organizeGroups_returns
    (returns : ∀ group ∈ groups, ∃ found, describe group.1 group.2 = .ok found) :
    organizeGroups describe groups = .ok (groups.filterMap (described describe)) := by
  induction groups with
  | nil => rfl
  | cons group rest ih =>
      obtain ⟨found, isFound⟩ := returns group List.mem_cons_self
      have others := ih fun other member => returns other (List.mem_cons_of_mem _ member)
      have described_eq : described describe group = found := by
        unfold described
        rw [isFound]
        rfl
      unfold organizeGroups
      rw [isFound, others, List.filterMap_cons, described_eq]
      cases found with
      | none => rfl
      | some organization => rfl

theorem organizeGroups_eq_ok (ran : organizeGroups describe groups = .ok organizations) :
    ∀ group ∈ groups, ∃ found, describe group.1 group.2 = .ok found := by
  induction groups generalizing organizations with
  | nil =>
      rintro group ⟨⟩
  | cons head rest ih =>
      obtain ⟨found, isFound, ran⟩ := Result.bind_eq_ok.mp ran
      obtain ⟨others, remaining, _⟩ := Result.bind_eq_ok.mp ran
      intro group member
      rcases List.mem_cons.mp member with rfl | isRest
      · exact ⟨found, isFound⟩
      · exact ih remaining group isRest

/-- The observations of some of the tenants. -/
def tenantPart (keep : Uuid → Bool) (observations : List Observation) : List Observation :=
  observations.filter fun observation => keep observation.tenantId

/-- No source reports for a tenant that is kept and for one that is not. -/
def SourcesApart (keep : Uuid → Bool) (observations : List Observation) : Prop :=
  ∀ first ∈ observations, ∀ other ∈ observations, first.sourceId = other.sourceId →
    keep first.tenantId = keep other.tenantId

variable {rule : OrganizationRule} {keep : Uuid → Bool} {observations : List Observation}

/-- The groups of a rule do not mix. -/
def OrganizationRule.Apart (rule : OrganizationRule) (keep : Uuid → Bool)
    (observations : List Observation) : Prop :=
  ∀ first ∈ observations, ∀ other ∈ observations, rule.key first = rule.key other →
    keep first.tenantId = keep other.tenantId

/-- The keys of the groups that are kept. -/
def keptKey (rule : OrganizationRule) (keep : Uuid → Bool) (observations : List Observation)
    (key : Uuid) : Bool :=
  observations.any fun observation => decide (rule.key observation = key) && keep observation.tenantId

theorem keptKey_of_mem (apart : rule.Apart keep observations) {observation : Observation}
    (member : observation ∈ observations) :
    keep observation.tenantId = keptKey rule keep observations (rule.key observation) := by
  by_cases kept : keep observation.tenantId = true
  · rw [kept, eq_comm]
    exact List.any_eq_true.mpr ⟨observation, member, by simp [kept]⟩
  · rw [eq_false_of_ne_true kept, eq_comm]
    refine List.any_eq_false.mpr fun other otherIn both => kept ?_
    obtain ⟨same, keptOther⟩ := (Bool.and_eq_true _ _).mp both
    rw [← apart other otherIn observation member (of_decide_eq_true same)]
    exact keptOther

theorem groupBy_part (apart : rule.Apart keep observations) :
    groupBy rule.key (tenantPart keep observations) =
      (groupBy rule.key observations).filter fun group =>
        keptKey rule keep observations group.1 :=
  Grouping.groupBy_filter _ _ fun _ member => keptKey_of_mem apart member

/-- **A rule that returned, on the part of some tenants**: it says what it says about them. -/
theorem OrganizationRule.Local.run_part (isLocal : rule.Local) (apart : rule.Apart keep observations)
    (ran : rule.run observations = .ok organizations) :
    rule.run (tenantPart keep observations) =
      .ok (organizations.filter fun organization => keep organization.tenantId) := by
  have returns := organizeGroups_eq_ok ran
  have all : organizations =
      (groupBy rule.key observations).filterMap (described rule.describe) :=
    Except.ok.inj (ran.symm.trans (organizeGroups_returns returns))
  unfold OrganizationRule.run
  rw [groupBy_part apart, organizeGroups_returns fun group member =>
    returns group (List.mem_filter.mp member).1, all, List.filter_filterMap, List.filterMap_filter]
  refine congrArg _ (List.filterMap_congr fun group member => ?_)
  obtain ⟨isGroup, _⟩ := Grouping.mem_groupBy member
  obtain ⟨found, isFound⟩ := returns group member
  have described_eq : described rule.describe group = found := by
    unfold described
    rw [isFound]
    rfl
  rw [described_eq]
  cases found with
  | none => simp
  | some organization =>
      have ofKey : ∀ observation ∈ group.2, observation ∈ observations ∧
          rule.key observation = group.1 := fun observation inside => by
        rw [isGroup] at inside
        exact (List.mem_filter.mp inside).imp_right of_decide_eq_true
      obtain ⟨observation, inside, sameTenant⟩ :=
        isLocal group.1 group.2 organization (fun other inside => (ofKey other inside).2) isFound
      obtain ⟨inAll, isKey⟩ := ofKey observation inside
      rw [← isKey, ← keptKey_of_mem apart inAll, sameTenant, Option.filter_some]

theorem OrganizationRule.run_whole (apart : rule.Apart keep observations)
    {own others : List Organization} (ranOwn : rule.run (tenantPart keep observations) = .ok own)
    (ranOthers : rule.run (tenantPart (fun tenant => !keep tenant) observations) = .ok others) :
    ∃ organizations, rule.run observations = .ok organizations := by
  have apart' : rule.Apart (fun tenant => !keep tenant) observations :=
    fun first firstIn other otherIn same => congrArg not (apart first firstIn other otherIn same)
  refine ⟨_, organizeGroups_returns fun group member => ?_⟩
  unfold OrganizationRule.run at ranOwn ranOthers
  rw [groupBy_part apart] at ranOwn
  rw [groupBy_part apart'] at ranOthers
  obtain ⟨isGroup, filled⟩ := Grouping.mem_groupBy member
  obtain ⟨observation, inside⟩ := List.exists_mem_of_ne_nil _ filled
  rw [isGroup] at inside
  obtain ⟨inAll, isKey⟩ := List.mem_filter.mp inside
  have isKey : rule.key observation = group.1 := of_decide_eq_true isKey
  by_cases kept : keep observation.tenantId = true
  · refine organizeGroups_eq_ok ranOwn group (List.mem_filter.mpr ⟨member, ?_⟩)
    rw [← isKey, ← keptKey_of_mem apart inAll, kept]
  · refine organizeGroups_eq_ok ranOthers group (List.mem_filter.mpr ⟨member, ?_⟩)
    rw [← isKey, ← keptKey_of_mem apart' inAll]
    simp [kept]

theorem OrganizationRule.Local.run_tenants (isLocal : rule.Local)
    (ran : rule.run observations = .ok organizations) {organization : Organization}
    (member : organization ∈ organizations) :
    ∃ observation ∈ observations, observation.tenantId = organization.tenantId := by
  have returns := organizeGroups_eq_ok ran
  rw [Except.ok.inj (ran.symm.trans (organizeGroups_returns returns))] at member
  obtain ⟨group, isGroup, isSaid⟩ := List.mem_filterMap.mp member
  obtain ⟨found, isFound⟩ := returns group isGroup
  obtain ⟨content, _⟩ := Grouping.mem_groupBy isGroup
  have ofGroup : ∀ observation ∈ group.2, observation ∈ observations ∧
      rule.key observation = group.1 := fun observation inside => by
    rw [content] at inside
    exact (List.mem_filter.mp inside).imp_right of_decide_eq_true
  unfold described at isSaid
  rw [isFound] at isSaid
  have isOrganization : found = some organization := isSaid
  obtain ⟨observation, inside, same⟩ := isLocal group.1 group.2 organization
    (fun other inside => (ofGroup other inside).2) (isFound.trans (congrArg _ isOrganization))
  exact ⟨observation, (ofGroup observation inside).1, same⟩

/-! ### The engine on the groups of some of the tenants -/

theorem applyRules_part {rules : List OrganizationRule} (isLocal : ∀ rule ∈ rules, rule.Local)
    (apart : ∀ rule ∈ rules, rule.Apart keep observations)
    (ran : applyRules observations rules = .ok organizations) :
    applyRules (tenantPart keep observations) rules =
      .ok (organizations.filter fun organization => keep organization.tenantId) := by
  induction rules generalizing organizations with
  | nil =>
      cases ran
      rfl
  | cons rule rest ih =>
      obtain ⟨found, ranRule, ran⟩ := Result.bind_eq_ok.mp ran
      obtain ⟨others, ranRest, same⟩ := Result.bind_eq_ok.mp ran
      have first := (isLocal rule List.mem_cons_self).run_part (apart rule List.mem_cons_self) ranRule
      have remaining := ih (fun other member => isLocal other (List.mem_cons_of_mem _ member))
        (fun other member => apart other (List.mem_cons_of_mem _ member)) ranRest
      unfold applyRules
      rw [first, remaining, ← Except.ok.inj same, List.filter_append]
      rfl

theorem applyRules_whole {rules : List OrganizationRule}
    (apart : ∀ rule ∈ rules, rule.Apart keep observations) {own others : List Organization}
    (ranOwn : applyRules (tenantPart keep observations) rules = .ok own)
    (ranOthers : applyRules (tenantPart (fun tenant => !keep tenant) observations) rules = .ok others) :
    ∃ organizations, applyRules observations rules = .ok organizations := by
  induction rules generalizing own others with
  | nil => exact ⟨[], rfl⟩
  | cons rule rest ih =>
      obtain ⟨_, ranOwn, restOwn⟩ := Result.bind_eq_ok.mp ranOwn
      obtain ⟨_, restOwn, _⟩ := Result.bind_eq_ok.mp restOwn
      obtain ⟨_, ranOthers, restOthers⟩ := Result.bind_eq_ok.mp ranOthers
      obtain ⟨_, restOthers, _⟩ := Result.bind_eq_ok.mp restOthers
      obtain ⟨found, ranRule⟩ :=
        OrganizationRule.run_whole (apart rule List.mem_cons_self) ranOwn ranOthers
      obtain ⟨remaining, ranRest⟩ :=
        ih (fun other member => apart other (List.mem_cons_of_mem _ member)) restOwn restOthers
      refine ⟨found ++ remaining, ?_⟩
      unfold applyRules
      rw [ranRule, ranRest]
      rfl

theorem mem_applyRules {rules : List OrganizationRule}
    (ran : applyRules observations rules = .ok organizations) {organization : Organization}
    (member : organization ∈ organizations) :
    ∃ rule ∈ rules, ∃ found, rule.run observations = .ok found ∧ organization ∈ found := by
  induction rules generalizing organizations with
  | nil =>
      cases ran
      cases member
  | cons rule rest ih =>
      obtain ⟨found, ranRule, ran⟩ := Result.bind_eq_ok.mp ran
      obtain ⟨others, ranRest, same⟩ := Result.bind_eq_ok.mp ran
      rw [← Except.ok.inj same] at member
      rcases List.mem_append.mp member with isFound | isOther
      · exact ⟨rule, List.mem_cons_self, found, ranRule, isFound⟩
      · obtain ⟨later, inRest, rows⟩ := ih ranRest isOther
        exact ⟨later, List.mem_cons_of_mem _ inRest, rows⟩

variable {texts : RuleTexts} {config : OrganizerConfig} {creations : List EvidenceCreate}

theorem SourcesApart.rules (apart : SourcesApart keep observations) :
    ∀ rule ∈ organizationRules texts config, rule.Apart keep observations := by
  intro rule member first firstIn other otherIn same
  rcases organizationRules_key texts config rule member with isSource | isTenant
  · rw [isSource] at same
    exact apart first firstIn other otherIn same
  · rw [isTenant] at same
    exact congrArg keep same

/-- **The creations of some tenants** come from their observations alone. -/
theorem organize_part (apart : SourcesApart keep observations)
    (organized : organize texts config observations = .ok creations) :
    organize texts config (tenantPart keep observations) =
      .ok (creations.filter fun create => keep create.tenantId) := by
  unfold organize at organized ⊢
  cases ran : applyRules observations (organizationRules texts config) with
  | error failure =>
      rw [ran] at organized
      cases organized
  | ok organizations =>
      rw [ran] at organized
      rw [applyRules_part (organizationRules_local texts config) apart.rules ran,
        ← Except.ok.inj organized, List.filter_map]
      rfl

theorem organize_whole (apart : SourcesApart keep observations) {own others : List EvidenceCreate}
    (ranOwn : organize texts config (tenantPart keep observations) = .ok own)
    (ranOthers : organize texts config (tenantPart (fun tenant => !keep tenant) observations) =
      .ok others) : ∃ creations, organize texts config observations = .ok creations := by
  unfold organize at *
  cases isOwn : applyRules (tenantPart keep observations) (organizationRules texts config) with
  | error failure =>
      rw [isOwn] at ranOwn
      cases ranOwn
  | ok ownFound =>
      cases isOther : applyRules (tenantPart (fun tenant => !keep tenant) observations)
          (organizationRules texts config) with
      | error failure =>
          rw [isOther] at ranOthers
          cases ranOthers
      | ok othersFound =>
          obtain ⟨organizations, ran⟩ := applyRules_whole apart.rules isOwn isOther
          exact ⟨organizations.map toCreate, by rw [ran]; rfl⟩

/-- **A creation of a buffer is an organization of one rule.** -/
theorem mem_organize (organized : organize texts config observations = .ok creations)
    {create : EvidenceCreate} (member : create ∈ creations) :
    ∃ rule ∈ organizationRules texts config, ∃ found organization, rule.run observations = .ok found ∧
      organization ∈ found ∧ toCreate organization = create := by
  unfold organize at organized
  cases ran : applyRules observations (organizationRules texts config) with
  | error failure =>
      rw [ran] at organized
      cases organized
  | ok organizations =>
      rw [ran] at organized
      rw [← Except.ok.inj organized] at member
      obtain ⟨organization, inside, same⟩ := List.mem_map.mp member
      obtain ⟨rule, isRule, found, ranRule, isFound⟩ := mem_applyRules ran inside
      exact ⟨rule, isRule, found, organization, ranRule, isFound, same⟩

theorem organize_tenants (organized : organize texts config observations = .ok creations)
    {create : EvidenceCreate} (member : create ∈ creations) :
    ∃ observation ∈ observations, observation.tenantId = create.tenantId := by
  obtain ⟨rule, isRule, found, organization, ran, isFound, rfl⟩ := mem_organize organized member
  exact (organizationRules_local texts config rule isRule).run_tenants ran isFound

end Parts

end CosMonitor
