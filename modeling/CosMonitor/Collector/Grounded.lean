/-
**The observations that evidence names.**

Every rule of the organizer engine writes the ids of observations of its group, and of at least one. So the
evidence that is organised from a buffer names observations of the buffer.

* `OrganizationRule.Grounded`: what a rule says names observations of the group;
* `organizationRules_grounded`: every rule of the engine does;
* `organize_grounded`: so do the creations of a buffer.
-/

import CosMonitor.Collector.ResourcePairs

namespace CosMonitor

/-! ### Readings -/

section Readings

variable {group : List Observation} {freeType totalType factType : String}

theorem pairUsage_observations (apart : freeType ≠ totalType) {readings : List Reading}
    (paired : pairUsage freeType totalType group = .ok readings) {reading : Reading}
    (member : reading ∈ readings) : ∀ observation ∈ reading.observations, observation ∈ group := by
  obtain ⟨free, total, ⟨key, isFree, isTotal⟩, made⟩ := (mem_pairUsage apart paired).mp member
  obtain ⟨value, observations⟩ := reading
  obtain ⟨_, rfl, _⟩ := percentFree_eq_some.mp made
  intro observation inPair
  rcases List.mem_cons.mp inPair with rfl | inPair
  · exact (lastReading_spec isFree).1
  · rw [List.mem_singleton.mp inPair]
    exact (lastReading_spec isTotal).1

theorem usageReadings_observations (apart : freeType ≠ totalType) {found : List Reading}
    (read : usageReadings factType freeType totalType group = .ok found) {reading : Reading}
    (member : reading ∈ found) : ∀ observation ∈ reading.observations, observation ∈ group := by
  rcases usageReadings_pairs factType freeType totalType group found read reading member with
    ⟨observation, inGroup, direct⟩ | ⟨pairs, paired, pair, inPairs, rfl⟩
  · rw [direct]
    intro other isOther
    rw [List.mem_singleton.mp isOther]
    exact inGroup
  · have ofPair := pairUsage_observations apart paired inPairs
    exact ofPair

theorem freeCandidates_observations (apart : freeType ≠ totalType) {found : List Reading}
    (read : freeCandidates factType freeType totalType group = .ok found) {reading : Reading}
    (member : reading ∈ found) : ∀ observation ∈ reading.observations, observation ∈ group := by
  rcases freeCandidates_pairs factType freeType totalType group found read reading member with
    ⟨observation, inGroup, direct⟩ | ⟨pairs, paired, pair, inPairs, rfl⟩
  · rw [direct]
    intro other isOther
    rw [List.mem_singleton.mp isOther]
    exact inGroup
  · exact pairUsage_observations apart paired inPairs

end Readings

/-! ### Rules -/

/-- An organization names observations of a group, and at least one. -/
def Organization.Names (organization : Organization) (group : List Observation) : Prop :=
  ∃ matched, matched ≠ [] ∧ (∀ observation ∈ matched, observation ∈ group) ∧
    organization.observationIds = matched.map Observation.id

/-- What a rule says of a group names observations of the group. -/
def OrganizationRule.Grounded (rule : OrganizationRule) : Prop :=
  ∀ key group organization, rule.describe key group = .ok (some organization) → organization.Names group

section Rules

variable (texts : RuleTexts) (config : OrganizerConfig)

theorem resourceExhaustionEvidence_grounded : (resourceExhaustionEvidence texts config).Grounded := by
  intro key group organization described
  obtain ⟨cpus, readCpus, described⟩ := Result.bind_eq_ok.mp described
  obtain ⟨memories, readMemories, described⟩ := Result.bind_eq_ok.mp described
  obtain ⟨disks, readDisks, described⟩ := Result.bind_eq_ok.mp described
  split at described
  · dsimp only at described
    split at described
    · cases described
    obtain ⟨within, _, described⟩ := Result.bind_eq_ok.mp described
    split at described
    · cases described
    · obtain ⟨cpu, head, rfl⟩ := Option.map_eq_some_iff.mp (Except.ok.inj described)
      refine ⟨_, fun nothing => ?_, fun observation member => ?_, rfl⟩
      · rw [List.append_eq_nil_iff, List.append_eq_nil_iff] at nothing
        rw [nothing.1.1] at head
        cases head
      · rcases List.mem_append.mp member with member | ofDisk
        · rcases List.mem_append.mp member with ofCpu | ofMemory
          · obtain ⟨reporting, inGroup, reported⟩ :=
              mem_collectReadings readCpus (pyMax_mem Reading.value _ _)
            rw [directNumber_observations reported] at ofCpu
            rw [List.mem_singleton.mp ofCpu]
            exact inGroup
          · exact usageReadings_observations (by decide) readMemories (pyMax_mem Reading.value _ _)
              observation ofMemory
        · exact usageReadings_observations (by decide) readDisks (pyMax_mem Reading.value _ _)
            observation ofDisk
  · cases described

theorem names_pair {group : List Observation} {organization : Organization} {first second : Observation}
    (firstIn : first ∈ group) (secondIn : second ∈ group)
    (named : organization.observationIds = [first.id, second.id]) : organization.Names group := by
  refine ⟨[first, second], List.cons_ne_nil _ _, fun observation member => ?_, named⟩
  rcases List.mem_cons.mp member with rfl | member
  · exact firstIn
  · rw [List.mem_singleton.mp member]
    exact secondIn

theorem serviceDegradationEvidence_grounded : (serviceDegradationEvidence texts config).Grounded := by
  intro key group organization described
  change serviceDegradation texts _ key group = _ at described
  unfold serviceDegradation at described
  split at described
  · rename_i service _ firstError errors stopped failed
    obtain ⟨within, _, described⟩ := Result.bind_eq_ok.mp described
    split at described
    · cases described
    · cases Except.ok.inj described
      have isStopped : service ∈ group.filter serviceStopped := stopped ▸ List.mem_cons_self
      refine names_pair (List.mem_filter.mp isStopped).1 ?_ rfl
      -- The event is the first one that names the service, or the first one.
      have inErrors : ∀ error ∈ firstError :: errors, error ∈ group := by
        rw [← failed]
        exact fun error member => (List.mem_filter.mp member).1
      have chosen : ∀ wanted : Observation → Bool,
          ((firstError :: errors).find? wanted).getD firstError ∈ firstError :: errors := by
        intro wanted
        cases found : (firstError :: errors).find? wanted with
        | none => exact List.mem_cons_self
        | some event => exact List.mem_of_find?_eq_some found
      exact inErrors _ (chosen _)
  · cases described

theorem authAnomalyEvidence_grounded : (authAnomalyEvidence texts config).Grounded := by
  intro key group organization described
  change authAnomaly texts _ key group = _ at described
  unfold authAnomaly at described
  split at described
  · rename_i lockout _ change _ lockouts changes
    obtain ⟨within, _, described⟩ := Result.bind_eq_ok.mp described
    split at described
    · cases described
    · cases Except.ok.inj described
      have isLockout : lockout ∈ group.filter (·.factType == "ad_account_lockout") :=
        lockouts ▸ List.mem_cons_self
      have isChange : change ∈ group.filter membershipChanged := changes ▸ List.mem_cons_self
      exact names_pair (List.mem_filter.mp isLockout).1 (List.mem_filter.mp isChange).1 rfl
  · cases described

theorem backupFailureEvidence_grounded : (backupFailureEvidence texts config).Grounded := by
  intro key group organization described
  change backupFailure texts _ _ key group = _ at described
  unfold backupFailure at described
  obtain ⟨candidates, read, described⟩ := Result.bind_eq_ok.mp described
  split at described
  · rename_i job _ low _ failed
    split at described
    · cases described
    obtain ⟨within, _, described⟩ := Result.bind_eq_ok.mp described
    split at described
    · cases described
    · cases Except.ok.inj described
      refine ⟨_, List.cons_ne_nil _ _, fun observation member => ?_, rfl⟩
      rcases List.mem_cons.mp member with rfl | ofLow
      · have isFailed : observation ∈ group.filter (backupFailed texts) := failed ▸ List.mem_cons_self
        exact (List.mem_filter.mp isFailed).1
      · exact freeCandidates_observations (by decide) read List.mem_cons_self observation ofLow
  · cases described

theorem vmwareCapacityEvidence_grounded : (vmwareCapacityEvidence texts config).Grounded := by
  intro key group organization described
  obtain ⟨candidates, read, described⟩ := Result.bind_eq_ok.mp described
  obtain ⟨snapshots, old, described⟩ := Result.bind_eq_ok.mp described
  split at described
  · rename_i low _ snapshot _
    split at described
    · cases described
    obtain ⟨within, _, described⟩ := Result.bind_eq_ok.mp described
    split at described
    · cases described
    · cases Except.ok.inj described
      refine ⟨_, List.append_ne_nil_of_right_ne_nil _ (List.cons_ne_nil _ _), fun observation member => ?_,
        rfl⟩
      rcases List.mem_append.mp member with ofLow | isSnapshot
      · exact freeCandidates_observations (by decide) read List.mem_cons_self observation ofLow
      · rw [List.mem_singleton.mp isSnapshot]
        obtain ⟨reporting, inGroup, reported⟩ := mem_collectReadings old List.mem_cons_self
        split at reported
        · obtain ⟨late, -, reported⟩ := Result.bind_eq_ok.mp reported
          split at reported
          · rw [← Option.some.inj (Except.ok.inj reported)]
            exact inGroup
          · cases reported
        · cases reported
  · cases described

theorem networkAnomalyEvidence_grounded : (networkAnomalyEvidence texts config).Grounded := by
  intro key group organization described
  obtain ⟨errors, high, described⟩ := Result.bind_eq_ok.mp described
  split at described
  · rename_i first others change _ changed
    dsimp only at described
    obtain ⟨within, _, described⟩ := Result.bind_eq_ok.mp described
    split at described
    · cases described
    · cases Except.ok.inj described
      have isChange : change ∈ group.filter (·.factType == "port_state_change") :=
        changed ▸ List.mem_cons_self
      refine names_pair ?_ (List.mem_filter.mp isChange).1 rfl
      obtain ⟨reporting, inGroup, reported⟩ :=
        mem_collectReadings high (pyMax_mem Prod.fst first others)
      split at reported
      · obtain ⟨number, _, reported⟩ := Result.bind_eq_ok.mp reported
        split at reported
        · rw [← Option.some.inj (Except.ok.inj reported)]
          exact inGroup
        · cases reported
      · cases reported
  · cases described

/-- **Every rule of the engine names observations of the group.** -/
theorem organizationRules_grounded : ∀ rule ∈ organizationRules texts config, rule.Grounded := by
  intro rule member
  simp only [organizationRules, List.mem_cons, List.not_mem_nil, or_false] at member
  rcases member with rfl | rfl | rfl | rfl | rfl | rfl
  · exact resourceExhaustionEvidence_grounded texts config
  · exact serviceDegradationEvidence_grounded texts config
  · exact authAnomalyEvidence_grounded texts config
  · exact backupFailureEvidence_grounded texts config
  · exact vmwareCapacityEvidence_grounded texts config
  · exact networkAnomalyEvidence_grounded texts config

end Rules

/-! ### The engine -/

section Engine

variable {observations : List Observation} {rule : OrganizationRule} {organizations : List Organization}

theorem Organization.Names.mono {organization : Organization} {group : List Observation}
    (names : organization.Names group) (inside : ∀ observation ∈ group, observation ∈ observations) :
    organization.Names observations := by
  obtain ⟨matched, some, ofGroup, named⟩ := names
  exact ⟨matched, some, fun observation member => inside _ (ofGroup observation member), named⟩

theorem OrganizationRule.Grounded.run (grounded : rule.Grounded)
    (ran : rule.run observations = .ok organizations) {organization : Organization}
    (member : organization ∈ organizations) : organization.Names observations := by
  have returns := organizeGroups_eq_ok ran
  rw [Except.ok.inj (ran.symm.trans (organizeGroups_returns returns))] at member
  obtain ⟨group, isGroup, isSaid⟩ := List.mem_filterMap.mp member
  obtain ⟨found, isFound⟩ := returns group isGroup
  obtain ⟨content, -⟩ := Grouping.mem_groupBy isGroup
  unfold described at isSaid
  rw [isFound] at isSaid
  have isOrganization : found = some organization := isSaid
  refine (grounded group.1 group.2 organization (isFound.trans (congrArg _ isOrganization))).mono ?_
  intro observation inside
  rw [content] at inside
  exact (List.mem_filter.mp inside).1

variable {texts : RuleTexts} {config : OrganizerConfig} {creations : List EvidenceCreate}

/-- **The creations of a buffer name its observations**, and at least one. -/
theorem organize_grounded (organized : organize texts config observations = .ok creations)
    {create : EvidenceCreate} (member : create ∈ creations) :
    create.observationIds ≠ [] ∧
      ∀ id ∈ create.observationIds, ∃ observation ∈ observations, observation.id = id := by
  obtain ⟨rule, isRule, found, organization, ran, isFound, rfl⟩ := mem_organize organized member
  obtain ⟨matched, some, ofBuffer, named⟩ :=
    (organizationRules_grounded texts config rule isRule).run ran isFound
  show organization.observationIds ≠ [] ∧ ∀ id ∈ organization.observationIds, _
  rw [named]
  refine ⟨fun nothing => some (List.map_eq_nil_iff.mp nothing), fun id isNamed => ?_⟩
  obtain ⟨observation, isMatched, same⟩ := List.mem_map.mp isNamed
  exact ⟨observation, ofBuffer observation isMatched, same⟩

end Engine

end CosMonitor
