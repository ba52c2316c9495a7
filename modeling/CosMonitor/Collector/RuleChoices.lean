/-
**The choices of the six rules — where the evidence of a window does not depend on the order of arrival.**

Each rule as a `Choosing`: the combinations that a group holds, and those that some order of arrival puts
in front. The service, the account lockout, the membership change, the failed job, the snapshot and the
port change that a rule looks at are the first ones of a group; the errors and the readings are extreme.

* `resourceChoosing`, …, `networkChoosing`: the rules, in the order of `organizerChoices`;
* `emission_decided`: what the rules emit is a matter of what a window holds exactly when no group holds
  a combination that qualifies, or every group is settled;
* `lockout_hidden`: an earlier lockout hides the one that happened with a membership change.
-/

import CosMonitor.Collector.Choosing
import CosMonitor.Collector.Gauges

namespace CosMonitor

open Arrivals (Pick best)
open Grouping (groupBy)

/-! ### Combinations of two observations -/

section Pairs

variable (texts : RuleTexts)

theorem apart_of_type {observation : Observation} {factType other : String} (differ : factType ≠ other)
    (isType : observation.factType = factType) : (observation.factType == other) = false :=
  beq_false_of_ne fun same => differ (isType.symm.trans same)

theorem judged_eq {minutes : ℚ} {matched : List Observation} {item : Organization} :
    (do
      if !(← withinWindow minutes matched) then return none
      return some item : Except PyError (Option Organization)).toOption =
        judged minutes true matched item := by
  unfold judged
  rcases withinWindow minutes matched with failure | _ | _
  · rfl
  · rfl
  · rfl

theorem judged_unless {minutes : ℚ} {refused : Bool} {matched : List Observation}
    {item : Organization} :
    (do
      if refused then return none
      if !(← withinWindow minutes matched) then return none
      return some item : Except PyError (Option Organization)).toOption =
        judged minutes (!refused) matched item := by
  cases refused with
  | true => rfl
  | false => exact judged_eq

/-- An organization of `auth_anomaly_evidence`. -/
def authItem (minutes : ℚ) (tenant : Uuid) (choice : Observation × Observation) : Organization where
  organizationType := "auth_anomaly_evidence"
  description := "Within " ++ texts.std.floatRepr minutes ++ " min in tenant " ++ uuidText tenant ++
    ": ad_account_lockout account=" ++
    texts.std.str (((choice.1.fact "account").or (choice.1.fact "account_name")).or (.str "unknown")) ++
    "; ad_privileged_group_membership changed group=" ++
    texts.std.str (((choice.2.fact "group").or (choice.2.fact "group_name")).or (.str "unknown")) ++ "."
  observationIds := [choice.1.id, choice.2.id]
  qualityClass := .q2
  tenantId := tenant

/-- The first lockout and the first change. -/
def authPick : Pick Observation (Observation × Observation) :=
  (Pick.among (·.factType == "ad_account_lockout") fun _ => ()).andThen
    (fun _ => Pick.among membershipChanged fun _ => ()) (fun _ => rfl) fun _ changed =>
      apart_of_type (by decide) (eq_of_beq ((Bool.and_eq_true _ _).mp changed).1)

theorem authPick_run (order : List Observation) : authPick.run order =
    some ((order.filter (·.factType == "ad_account_lockout")).head?.bind fun lockout =>
      (order.filter membershipChanged).head?.map fun change => (lockout, change)) := by
  refine (Pick.andThen_run _ _ _ _ order).trans ?_
  rw [Pick.among_run, Option.bind_some, Pick.among_run, Option.map_some, Arrivals.best_const,
    Arrivals.best_const]

theorem authAnomaly_pick (minutes : ℚ) (tenant : Uuid) (order : List Observation) :
    (authAnomaly texts minutes tenant order).toOption = (authPick.run order).bind fun kept =>
      kept.elim (some none) fun choice =>
        judged minutes true [choice.1, choice.2] (authItem texts minutes tenant choice) := by
  rw [authPick_run]
  unfold authAnomaly
  generalize order.filter (·.factType == "ad_account_lockout") = lockouts
  generalize order.filter membershipChanged = changes
  rcases lockouts with - | ⟨lockout, _⟩
  · rfl
  · rcases changes with - | ⟨change, _⟩
    · rfl
    · exact judged_eq

/-- The combinations of `auth_anomaly_evidence`. -/
def AuthCandidate (group : List Observation) (choice : Observation × Observation) : Prop :=
  (choice.1 ∈ group ∧ choice.1.factType = "ad_account_lockout") ∧
    choice.2 ∈ group ∧ membershipChanged choice.2 = true

/-- `auth_anomaly_evidence`. -/
def authChoosing (config : OrganizerConfig) : Choosing :=
  Choosing.ofPick (authAnomalyEvidence texts config) config.authAnomalyWindowMinutes authPick
    (fun _ => true) (fun choice => [choice.1, choice.2])
    (authItem texts config.authAnomalyWindowMinutes) AuthCandidate (fun _ => True)
    (fun _ _ _ _ => trivial) (fun tenant order _ => authAnomaly_pick texts _ tenant order)
    (by
      rintro group ⟨lockout, change⟩ ⟨isLockout, isChange⟩
      obtain ⟨lockoutIn, isType, _⟩ := Pick.among_leads_some.mp isLockout
      obtain ⟨changeIn, changed, _⟩ := Pick.among_leads_some.mp isChange
      exact ⟨⟨lockoutIn, eq_of_beq isType⟩, changeIn, changed⟩)
    (by
      rintro group order choice perm ⟨⟨lockoutIn, isType⟩, changeIn, changed⟩
      exact ⟨⟨perm.mem_iff.mp lockoutIn, isType⟩, perm.mem_iff.mp changeIn, changed⟩)

/-- An organization of `service_degradation_evidence`. -/
def serviceItem (minutes : ℚ) (source : Uuid) (choice : Observation × Observation) : Organization where
  organizationType := "service_degradation_evidence"
  description := "Within " ++ texts.std.floatRepr minutes ++ " min on source " ++ uuidText source ++
    ": windows_service_state service=" ++ texts.std.str (choice.1.fact "name") ++
    " state=Stopped start_mode=Auto; " ++ "windows_event_log type=" ++
    texts.std.str (choice.2.fact "type") ++ " source=" ++ texts.std.str (choice.2.fact "source") ++
    " event_code=" ++ texts.std.str (choice.2.fact "event_code") ++ "."
  observationIds := [choice.1.id, choice.2.id]
  qualityClass := .q1
  tenantId := choice.1.tenantId

/-- An event of the service. -/
def namesService (service event : Observation) : Bool :=
  (service.fact "name").truthy && texts.lowered (event.fact "source") ==
    texts.lower (texts.std.str (service.fact "name"))

/-- The first stopped service, and the first error of the service or else the first error. -/
def servicePick : Pick Observation (Observation × Observation) :=
  (Pick.among serviceStopped fun _ => ()).andThen
    (fun kept => Pick.among (eventIsError texts) fun event =>
      kept.elim false fun service => namesService texts service event)
    (fun _ => rfl) fun _ isError => by
      have isType := eq_of_beq ((Bool.and_eq_true _ _).mp isError).1
      show (_ && _ && _) = false
      rw [apart_of_type (by decide) isType, Bool.false_and, Bool.false_and]

theorem servicePick_run (order : List Observation) : (servicePick texts).run order =
    some ((order.filter serviceStopped).head?.bind fun service =>
      (best (namesService texts service) (order.filter (eventIsError texts))).map fun event =>
        (service, event)) := by
  refine (Pick.andThen_run _ _ _ _ order).trans ?_
  rw [Pick.among_run, Option.bind_some, Pick.among_run, Option.map_some, Arrivals.best_const]
  rcases (order.filter serviceStopped).head? with - | service
  · rfl
  · rfl

theorem serviceDegradation_pick (minutes : ℚ) (source : Uuid) (order : List Observation) :
    (serviceDegradation texts minutes source order).toOption =
      ((servicePick texts).run order).bind fun kept => kept.elim (some none) fun choice =>
        judged minutes true [choice.1, choice.2] (serviceItem texts minutes source choice) := by
  rw [servicePick_run]
  unfold serviceDegradation
  generalize order.filter serviceStopped = services
  generalize order.filter (eventIsError texts) = errors
  rcases services with - | ⟨service, _⟩
  · rfl
  · rcases errors with - | ⟨firstError, errors⟩
    · rfl
    · simp only [List.head?_cons, Option.bind_some]
      rw [Arrivals.best_test]
      have isEvent : ((firstError :: errors).find? (namesService texts service)).or
          (firstError :: errors).head? =
            some (((firstError :: errors).find? (namesService texts service)).getD firstError) := by
        rcases (firstError :: errors).find? (namesService texts service) with - | event
        · rfl
        · rfl
      rw [isEvent]
      exact judged_eq

/-- The combinations of `service_degradation_evidence`. -/
def ServiceCandidate (group : List Observation) (choice : Observation × Observation) : Prop :=
  (choice.1 ∈ group ∧ serviceStopped choice.1 = true) ∧
    choice.2 ∈ group ∧ eventIsError texts choice.2 = true

/-- `service_degradation_evidence`. -/
def serviceChoosing (config : OrganizerConfig) : Choosing :=
  Choosing.ofPick (serviceDegradationEvidence texts config) config.serviceDegradationWindowMinutes
    (servicePick texts) (fun _ => true) (fun choice => [choice.1, choice.2])
    (serviceItem texts config.serviceDegradationWindowMinutes) (ServiceCandidate texts)
    (fun _ => True) (fun _ _ _ _ => trivial)
    (fun source order _ => serviceDegradation_pick texts _ source order)
    (by
      rintro group ⟨service, event⟩ ⟨isService, isEvent⟩
      obtain ⟨serviceIn, stopped, _⟩ := Pick.among_leads_some.mp isService
      obtain ⟨eventIn, isError, _⟩ := Pick.among_leads_some.mp isEvent
      exact ⟨⟨serviceIn, stopped⟩, eventIn, isError⟩)
    (by
      rintro group order choice perm ⟨⟨serviceIn, stopped⟩, eventIn, isError⟩
      exact ⟨⟨perm.mem_iff.mp serviceIn, stopped⟩, perm.mem_iff.mp eventIn, isError⟩)

/-- An organization of `network_anomaly_evidence`. -/
def networkItem (minutes : ℚ) (source : Uuid) (choice : (PyFloat × Observation) × Observation) :
    Organization where
  organizationType := "network_anomaly_evidence"
  description := "Within " ++ texts.std.floatRepr minutes ++ " min on source " ++ uuidText source ++
    ": interface_errors=" ++ texts.fixed 0 choice.1.1 ++ " interface=" ++
    texts.std.str (((choice.1.2.payload "interface").or (choice.1.2.fact "interface")).or (.str "")) ++
    "; port_state_change detected."
  observationIds := [choice.1.2.id, choice.2.id]
  qualityClass := .q2
  tenantId := choice.1.2.tenantId

/-- The errors of an interface that has more than the threshold. -/
def errorsReport (threshold : ℚ) (observation : Observation) :
    Except PyError (Option (PyFloat × Observation)) := do
  if observation.factType = "interface_errors" then
    let errors ← interfaceErrors observation
    if (PyFloat.finite threshold).lt errors then return some (errors, observation) else return none
  else return none

theorem errorsReport_eq_some {threshold : ℚ} {observation : Observation}
    {found : PyFloat × Observation} : errorsReport threshold observation = .ok (some found) ↔
      observation.factType = "interface_errors" ∧ interfaceErrors observation = .ok found.1 ∧
        (PyFloat.finite threshold).lt found.1 = true ∧ found.2 = observation := by
  obtain ⟨errors, reported⟩ := found
  unfold errorsReport
  split
  · rename_i isType
    simp only [isType, true_and, Result.bind_eq_ok]
    constructor
    · rintro ⟨number, isNumber, same⟩
      split at same
      · rename_i above
        obtain ⟨rfl, rfl⟩ := Prod.mk.inj (Option.some.inj (Except.ok.inj same))
        exact ⟨isNumber, above, rfl⟩
      · cases same
    · rintro ⟨isNumber, above, rfl⟩
      exact ⟨errors, isNumber, by rw [if_pos above]; rfl⟩
  · rename_i otherType
    simp [otherType, pure, Except.pure]

/-- The largest number of errors above the threshold, and the first change of a port. -/
def networkPick (threshold : ℚ) : Pick Observation ((PyFloat × Observation) × Observation) :=
  (Arrivals.loopPick (errorsReport threshold) (fun found => found.1.rank)
    (·.factType == "interface_errors") fun observation otherType => by
      unfold errorsReport
      rw [if_neg fun same => by simp [same] at otherType]
      rfl).andThen
    (fun _ => Pick.among (·.factType == "port_state_change") fun _ => ()) (fun _ => rfl)
    fun _ isChange => apart_of_type (by decide) (eq_of_beq isChange)

theorem networkAnomaly_pick (minutes threshold : ℚ) (source : Uuid) (order : List Observation) :
    (networkAnomaly texts minutes threshold source order).toOption =
      ((networkPick threshold).run order).bind fun kept => kept.elim (some none) fun choice =>
        judged minutes true [choice.1.2, choice.2] (networkItem texts minutes source choice) := by
  have ran : (networkPick threshold).run order =
      ((Result.gather (errorsReport threshold) order).toOption.map
        (best fun found => found.1.rank)).bind fun kept =>
          some (kept.bind fun found => (order.filter (·.factType == "port_state_change")).head?.map
            fun change => (found, change)) := by
    refine (Pick.andThen_run _ _ _ _ order).trans ?_
    simp only [Pick.among_run, Option.map_some, Arrivals.best_const]
    rfl
  have isLoop : highErrors threshold order = Result.gather (errorsReport threshold) order :=
    collectReadings_eq_gather (errorsReport threshold) order
  rw [ran]
  unfold networkAnomaly
  rw [isLoop]
  generalize order.filter (·.factType == "port_state_change") = changes
  rcases gathered : Result.gather (errorsReport threshold) order with failure | found
  · rfl
  · rw [Result.ok_bind]
    rcases found with - | ⟨first, others⟩
    · rfl
    · have numbers : ∀ other ∈ first :: others, other.1 ≠ .nan := by
        intro other member isNan
        obtain ⟨_, _, reported⟩ := (Result.mem_gather gathered).mp member
        have above := (errorsReport_eq_some.mp reported).2.2.1
        rw [isNan] at above
        cases above
      have top := pyMax_eq_best numbers
      rcases changes with - | ⟨change, _⟩
      · rw [Except.toOption, Option.map_some, ← top]
        rfl
      · rw [Except.toOption, Option.map_some, ← top]
        exact judged_eq

/-- The combinations of `network_anomaly_evidence`. -/
def NetworkCandidate (threshold : ℚ) (group : List Observation)
    (choice : (PyFloat × Observation) × Observation) : Prop :=
  (choice.1.2 ∈ group ∧ choice.1.2.factType = "interface_errors" ∧
      interfaceErrors choice.1.2 = .ok choice.1.1 ∧
        (PyFloat.finite threshold).lt choice.1.1 = true) ∧
    choice.2 ∈ group ∧ choice.2.factType = "port_state_change"

/-- `network_anomaly_evidence`. -/
def networkChoosing (config : OrganizerConfig) : Choosing :=
  Choosing.ofPick (networkAnomalyEvidence texts config) config.networkAnomalyWindowMinutes
    (networkPick config.networkAnomalyErrorThreshold) (fun _ => true)
    (fun choice => [choice.1.2, choice.2])
    (networkItem texts config.networkAnomalyWindowMinutes)
    (NetworkCandidate config.networkAnomalyErrorThreshold) (fun _ => True) (fun _ _ _ _ => trivial)
    (fun source order _ => networkAnomaly_pick texts _ _ source order)
    (by
      rintro group ⟨⟨errors, observation⟩, change⟩ ⟨⟨_, other, member, reported, _⟩, isChange⟩
      obtain ⟨isType, isNumber, above, rfl⟩ := errorsReport_eq_some.mp reported
      obtain ⟨changeIn, ofType, _⟩ := Pick.among_leads_some.mp isChange
      exact ⟨⟨member, isType, isNumber, above⟩, changeIn, eq_of_beq ofType⟩)
    (by
      rintro group order choice perm ⟨⟨member, reported⟩, changeIn, ofType⟩
      exact ⟨⟨perm.mem_iff.mp member, reported⟩, perm.mem_iff.mp changeIn, ofType⟩)

end Pairs

/-! ### The gauges of the capacity rules -/

theorem directUsage_silent {factType : String} (observation : Observation)
    (other : observation.factType ≠ factType) : directUsage factType observation = .ok none := by
  unfold directUsage
  rw [if_neg fun both => other both.1]
  rfl

theorem directNumber_silent {factType : String} (observation : Observation)
    (other : observation.factType ≠ factType) : directNumber factType observation = .ok none := by
  unfold directNumber
  rw [if_neg other]
  rfl

theorem directNumber_other {factType : String} (observation : Observation)
    (other : (observation.factType == factType) = false) : directNumber factType observation = .ok none :=
  directNumber_silent observation (ne_of_beq_false other)

theorem memoryBytes_apart : "memory_free_bytes" ≠ "memory_total_bytes" := by decide

theorem diskBytes_apart : "disk_free_bytes" ≠ "disk_total_bytes" := by decide

theorem repoBytes_apart : "repo_free_bytes" ≠ "repo_capacity_bytes" := by decide

theorem datastoreBytes_apart : "datastore_free_bytes" ≠ "datastore_capacity_bytes" := by decide

/-- The memory of a source. -/
def memoryGauge : Gauge where
  factType := "memory_usage"
  freeType := "memory_free_bytes"
  totalType := "memory_total_bytes"
  report := directUsage "memory_usage"
  usage := PyFloat.complement
  directFree := by decide
  directTotal := by decide
  freeTotal := memoryBytes_apart
  silent := directUsage_silent

/-- The disks of a source. -/
def diskGauge : Gauge where
  factType := "disk_usage"
  freeType := "disk_free_bytes"
  totalType := "disk_total_bytes"
  report := directUsage "disk_usage"
  usage := PyFloat.complement
  directFree := by decide
  directTotal := by decide
  freeTotal := diskBytes_apart
  silent := directUsage_silent

/-- The backup repositories of a source. -/
def repoGauge : Gauge where
  factType := "repo_free_percent"
  freeType := "repo_free_bytes"
  totalType := "repo_capacity_bytes"
  report := directNumber "repo_free_percent"
  usage := id
  directFree := by decide
  directTotal := by decide
  freeTotal := repoBytes_apart
  silent := directNumber_silent

/-- The datastores of a tenant. -/
def datastoreGauge : Gauge where
  factType := "datastore_free_percent"
  freeType := "datastore_free_bytes"
  totalType := "datastore_capacity_bytes"
  report := directNumber "datastore_free_percent"
  usage := id
  directFree := by decide
  directTotal := by decide
  freeTotal := datastoreBytes_apart
  silent := directNumber_silent

theorem freeCandidates_eq (gauge : Gauge) {factType : String} (group : List Observation)
    (reports : gauge.report = directNumber factType) (keeps : gauge.usage = id) :
    freeCandidates factType gauge.freeType gauge.totalType group =
      (gauge.readings group).map (pySorted Reading.value) := by
  unfold freeCandidates Gauge.readings
  rw [reports, keeps]
  rcases collectReadings (directNumber factType) group with failure | direct
  · rfl
  · rw [Result.ok_bind, Result.ok_bind]
    rcases pairUsage gauge.freeType gauge.totalType group with failure | pairs
    · rfl
    · rw [Result.ok_bind, Result.ok_bind]
      have same : (pairs.map fun reading => { reading with value := id reading.value }) = pairs :=
        List.map_id _
      rw [same]
      rfl

/-! ### Combinations with a reading -/

section Readings

variable (texts : RuleTexts)

/-- The smaller reading leads. -/
def lowest (value : PyFloat) : OrderDual (WithBot (WithTop ℚ)) :=
  OrderDual.toDual value.rank

/-- An organization of `backup_failure_evidence`. -/
def backupItem (minutes : ℚ) (source : Uuid) (choice : Observation × Reading) : Organization where
  organizationType := "backup_failure_evidence"
  description := "Within " ++ texts.std.floatRepr minutes ++ " min on source " ++ uuidText source ++
    ": backup_job_status=Failed job=" ++ texts.std.str ((choice.1.fact "job").or (.str "")) ++
    "; repo_free_percent=" ++ texts.fixed 1 choice.2.value ++ "."
  observationIds := (choice.1 :: choice.2.observations).map Observation.id
  qualityClass := .q1
  tenantId := choice.1.tenantId

/-- The first failed job and the least free repository. -/
def backupPick : Pick Observation (Observation × Reading) :=
  (Pick.among (backupFailed texts) fun _ => ()).andThen (fun _ => repoGauge.pick lowest)
    (fun _ => rfl) fun observation isRead => Gauge.not_reads isRead fun factType isOne isType => by
      have differ : factType ≠ "backup_job_status" := by
        rintro rfl
        revert isOne
        decide
      show (_ && _) = false
      rw [apart_of_type differ isType, Bool.false_and]

theorem backupFailure_pick (minutes threshold : ℚ) (source : Uuid) (order : List Observation)
    (numbers : repoGauge.Numbers order) :
    (backupFailure texts minutes threshold source order).toOption =
      ((backupPick texts).run order).bind fun kept => kept.elim (some none) fun choice =>
        judged minutes (!(PyFloat.finite threshold).le choice.2.value)
          (choice.1 :: choice.2.observations) (backupItem texts minutes source choice) := by
  have ran : (backupPick texts).run order =
      ((repoGauge.readings order).toOption.map fun found =>
        (order.filter (backupFailed texts)).head?.bind fun job =>
          (pySorted Reading.value found).head?.map fun low => (job, low)) := by
    refine (Pick.andThen_run _ _ _ _ order).trans ?_
    rw [Pick.among_run, Arrivals.best_const, Option.bind_some]
    show (repoGauge.lead order lowest).map _ = _
    rw [show repoGauge.lead order lowest = _ from Gauge.lead_dual numbers, Option.map_map]
    rfl
  have isRead : repoFreeCandidates order = (repoGauge.readings order).map (pySorted Reading.value) :=
    freeCandidates_eq repoGauge order rfl rfl
  rw [ran]
  unfold backupFailure
  rw [isRead]
  generalize order.filter (backupFailed texts) = jobs
  rcases repoGauge.readings order with failure | found
  · rfl
  · dsimp only [Except.map]
    rw [Result.ok_bind, Except.toOption.eq_def (Except.ok found), Option.map_some, Option.bind_some]
    generalize pySorted Reading.value found = sorted
    rcases jobs with - | ⟨job, _⟩
    · rfl
    · rcases sorted with - | ⟨low, _⟩
      · rfl
      · exact judged_unless

/-- The combinations of `backup_failure_evidence`. -/
def BackupCandidate (group : List Observation) (choice : Observation × Reading) : Prop :=
  (choice.1 ∈ group ∧ backupFailed texts choice.1 = true) ∧ repoGauge.Candidate group choice.2

/-- `backup_failure_evidence`. -/
def backupChoosing (config : OrganizerConfig) : Choosing :=
  Choosing.ofPick (backupFailureEvidence texts config) config.backupFailureWindowMinutes
    (backupPick texts) (fun choice => !(PyFloat.finite config.backupRepoFreePercent).le choice.2.value)
    (fun choice => choice.1 :: choice.2.observations)
    (backupItem texts config.backupFailureWindowMinutes) (BackupCandidate texts) repoGauge.Numbers
    (fun _ _ perm numbers => numbers.perm perm)
    (fun source order numbers => backupFailure_pick texts _ _ source order numbers)
    (by
      rintro group ⟨job, low⟩ ⟨isJob, isLow⟩
      obtain ⟨jobIn, failed, _⟩ := Pick.among_leads_some.mp isJob
      exact ⟨⟨jobIn, failed⟩, Gauge.Leads.candidate isLow⟩)
    (by
      rintro group order choice perm ⟨⟨jobIn, failed⟩, candidate⟩
      exact ⟨⟨perm.mem_iff.mp jobIn, failed⟩, candidate.perm perm⟩)

/-- An organization of `vmware_capacity_evidence`. -/
def vmwareItem (minutes : ℚ) (tenant : Uuid) (choice : Reading × Observation) : Organization where
  organizationType := "vmware_capacity_evidence"
  description := "Within " ++ texts.std.floatRepr minutes ++ " min in tenant " ++ uuidText tenant ++
    ": datastore_free_percent=" ++ texts.fixed 1 choice.1.value ++ "; vm_snapshot_age_days=" ++
    texts.std.str (choice.2.fact "age_days") ++ " vm=" ++ texts.std.str (choice.2.fact "vm") ++ "."
  observationIds := (choice.1.observations ++ [choice.2]).map Observation.id
  qualityClass := .q1
  tenantId := tenant

/-- A snapshot that is older than the limit. -/
def snapshotReport (days : ℚ) (observation : Observation) : Except PyError (Option Observation) := do
  if observation.factType = "vm_snapshot_age_days" then
    if ← snapshotOlderThan days observation then return some observation else return none
  else return none

theorem snapshotReport_eq_some {days : ℚ} {observation found : Observation} :
    snapshotReport days observation = .ok (some found) ↔
      observation.factType = "vm_snapshot_age_days" ∧ snapshotOlderThan days observation = .ok true ∧
        observation = found := by
  unfold snapshotReport
  split
  · rename_i isType
    rcases snapshotOlderThan days observation with failure | _ | _
    · simp [Result.error_bind]
    · simp [Result.ok_bind, pure, Except.pure]
    · simp [Result.ok_bind, pure, Except.pure, isType]
  · rename_i otherType
    simp [otherType, pure, Except.pure]

theorem snapshotReport_other (days : ℚ) (observation : Observation)
    (otherType : (observation.factType == "vm_snapshot_age_days") = false) :
    snapshotReport days observation = .ok none := by
  unfold snapshotReport
  rw [if_neg fun same => by simp [same] at otherType]
  rfl

/-- The least free datastore and the first old snapshot. -/
def vmwarePick (days : ℚ) : Pick Observation (Reading × Observation) :=
  (datastoreGauge.pick lowest).andThen
    (fun _ => Arrivals.loopPick (snapshotReport days) (fun _ => ())
      (·.factType == "vm_snapshot_age_days") (snapshotReport_other days))
    (fun _ => rfl) fun observation isSnapshot => by
      have isType : observation.factType = "vm_snapshot_age_days" := eq_of_beq isSnapshot
      show (_ || _ || _) = false
      rw [apart_of_type (by decide) isType, apart_of_type (by decide) isType,
        apart_of_type (by decide) isType]
      rfl

theorem vmwareCapacity_pick (minutes threshold days : ℚ) (tenant : Uuid) (order : List Observation)
    (numbers : datastoreGauge.Numbers order) :
    (vmwareCapacity texts minutes threshold days tenant order).toOption =
      ((vmwarePick days).run order).bind fun kept => kept.elim (some none) fun choice =>
        judged minutes (!(PyFloat.finite threshold).le choice.1.value)
          (choice.1.observations ++ [choice.2]) (vmwareItem texts minutes tenant choice) := by
  have ran : (vmwarePick days).run order =
      ((datastoreGauge.readings order).toOption.map fun found =>
        (pySorted Reading.value found).head?).bind fun low =>
          (Result.gather (snapshotReport days) order).toOption.map fun snapshots =>
            low.bind fun low => snapshots.head?.map fun snapshot => (low, snapshot) := by
    refine (Pick.andThen_run _ _ _ _ order).trans ?_
    show (datastoreGauge.lead order lowest).bind _ = _
    rw [show datastoreGauge.lead order lowest = _ from Gauge.lead_dual numbers]
    refine congrArg _ (funext fun low => ?_)
    show ((Result.gather (snapshotReport days) order).toOption.map (best fun _ => ())).map _ = _
    rw [Option.map_map]
    refine congrArg (fun next => Option.map next _) (funext fun snapshots => ?_)
    rw [Function.comp_apply, Arrivals.best_const]
  have isRead : datastoreFreeCandidates order =
      (datastoreGauge.readings order).map (pySorted Reading.value) :=
    freeCandidates_eq datastoreGauge order rfl rfl
  have isLoop : oldSnapshots days order = Result.gather (snapshotReport days) order :=
    collectReadings_eq_gather (snapshotReport days) order
  rw [ran]
  unfold vmwareCapacity
  rw [isRead, isLoop]
  rcases datastoreGauge.readings order with failure | found
  · rfl
  · dsimp only [Except.map]
    rw [Result.ok_bind, Except.toOption.eq_def (Except.ok found), Option.map_some, Option.bind_some]
    generalize pySorted Reading.value found = sorted
    rcases Result.gather (snapshotReport days) order with failure | snapshots
    · rfl
    · rcases sorted with - | ⟨low, _⟩
      · rfl
      · rcases snapshots with - | ⟨snapshot, _⟩
        · rfl
        · exact judged_unless

/-- The combinations of `vmware_capacity_evidence`. -/
def VmwareCandidate (days : ℚ) (group : List Observation) (choice : Reading × Observation) : Prop :=
  datastoreGauge.Candidate group choice.1 ∧ choice.2 ∈ group ∧
    choice.2.factType = "vm_snapshot_age_days" ∧ snapshotOlderThan days choice.2 = .ok true

/-- `vmware_capacity_evidence`. -/
def vmwareChoosing (config : OrganizerConfig) : Choosing :=
  Choosing.ofPick (vmwareCapacityEvidence texts config) config.vmwareCapacityWindowMinutes
    (vmwarePick config.vmwareSnapshotAgeDays)
    (fun choice => !(PyFloat.finite config.vmwareDatastoreFreePercent).le choice.1.value)
    (fun choice => choice.1.observations ++ [choice.2])
    (vmwareItem texts config.vmwareCapacityWindowMinutes)
    (VmwareCandidate config.vmwareSnapshotAgeDays) datastoreGauge.Numbers
    (fun _ _ perm numbers => numbers.perm perm)
    (fun tenant order numbers => vmwareCapacity_pick texts _ _ _ tenant order numbers)
    (by
      rintro group ⟨low, snapshot⟩ ⟨isLow, _, other, member, reported, _⟩
      obtain ⟨isType, old, rfl⟩ := snapshotReport_eq_some.mp reported
      exact ⟨Gauge.Leads.candidate isLow, member, isType, old⟩)
    (by
      rintro group order choice perm ⟨candidate, member, isOld⟩
      exact ⟨candidate.perm perm, perm.mem_iff.mp member, isOld⟩)

/-- An organization of `resource_exhaustion_evidence`, with the CPU, the memory and the disk. -/
def resourceItem (minutes : ℚ) (source : Uuid) (choice : (Reading × Reading) × Reading) :
    Organization where
  organizationType := "resource_exhaustion_evidence"
  description := "Within " ++ texts.std.floatRepr minutes ++ " min on source " ++ uuidText source ++
    ": cpu_utilization_percent=" ++ texts.fixed 1 choice.1.1.value ++ ", memory_usage_percent=" ++
    texts.fixed 1 choice.1.2.value ++ ", disk_usage_percent=" ++ texts.fixed 1 choice.2.value ++ "."
  observationIds :=
    (choice.1.1.observations ++ choice.1.2.observations ++ choice.2.observations).map Observation.id
  qualityClass :=
    if (choice.1.1.observations ++ choice.1.2.observations ++ choice.2.observations).all fun observation =>
      observation.qualityClass == .q1 then .q1 else .q2
  tenantId := (choice.1.1.observations.map Observation.tenantId).headD 0

/-- The highest CPU, memory and disk usage. -/
def resourcePick : Pick Observation ((Reading × Reading) × Reading) :=
  ((Arrivals.loopPick (directNumber "cpu_utilization_percent") (fun reading => reading.value.rank)
    (·.factType == "cpu_utilization_percent") directNumber_other).andThen
        (fun _ => memoryGauge.pick PyFloat.rank) (fun _ => rfl) fun observation isRead =>
          Gauge.not_reads isRead fun factType isOne isType => by
            refine apart_of_type ?_ isType
            rintro rfl
            revert isOne
            decide).andThen
    (fun _ => diskGauge.pick PyFloat.rank) (fun _ => rfl) fun observation isRead =>
      Gauge.not_reads isRead fun factType isOne isType => by
        have differ : ∀ one ∈ ["disk_usage", "disk_free_bytes", "disk_total_bytes"],
            ∀ other ∈ ["cpu_utilization_percent", "memory_usage", "memory_free_bytes",
              "memory_total_bytes"], one ≠ other := by decide
        have apart := fun other isOther => apart_of_type (differ factType isOne other isOther) isType
        show (observation.factType == "cpu_utilization_percent" ||
          (observation.factType == "memory_usage" || observation.factType == "memory_free_bytes" ||
            observation.factType == "memory_total_bytes")) = false
        rw [apart _ (by simp), apart _ (by simp), apart _ (by simp), apart _ (by simp)]
        rfl

theorem resourceExhaustion_pick (minutes : ℚ) (source : Uuid) (order : List Observation)
    (cpuNumbers : ∀ observation ∈ order, ∀ reading,
      directNumber "cpu_utilization_percent" observation = .ok (some reading) → reading.value ≠ .nan)
    (memoryNumbers : memoryGauge.Numbers order) (diskNumbers : diskGauge.Numbers order) :
    (resourceExhaustion texts minutes source order).toOption =
      (resourcePick.run order).bind fun kept => kept.elim (some none) fun choice =>
        judged minutes (!(choice.1.1.value.le (.finite 90) || choice.1.2.value.le (.finite 85) ||
            choice.2.value.le (.finite 85)))
          (choice.1.1.observations ++ choice.1.2.observations ++ choice.2.observations)
          (resourceItem texts minutes source choice) := by
  have ran : resourcePick.run order =
      (((Result.gather (directNumber "cpu_utilization_percent") order).toOption.map
        (best fun reading => reading.value.rank)).bind fun cpu =>
          (memoryGauge.lead order PyFloat.rank).map fun memory =>
            cpu.bind fun cpu => memory.map fun memory => (cpu, memory)).bind fun both =>
              (diskGauge.lead order PyFloat.rank).map fun disk =>
                both.bind fun both => disk.map fun disk => (both, disk) := rfl
  have isCpu : cpuObservations order =
      Result.gather (directNumber "cpu_utilization_percent") order :=
    collectReadings_eq_gather _ order
  have isMemory : memoryUsage order = memoryGauge.readings order := rfl
  have isDisk : diskUsage order = diskGauge.readings order := rfl
  rw [ran, Gauge.lead_rank memoryNumbers, Gauge.lead_rank diskNumbers]
  unfold resourceExhaustion
  rw [isCpu, isMemory, isDisk]
  rcases gathered : Result.gather (directNumber "cpu_utilization_percent") order with failure | cpus
  · rfl
  rcases memoryGauge.readings order with failure | memories
  · rfl
  rcases diskGauge.readings order with failure | disks
  · rfl
  rw [Result.ok_bind, Result.ok_bind, Result.ok_bind]
  rcases cpus with - | ⟨firstCpu, cpus⟩
  · rfl
  have top := @pyMax_eq_best Reading Reading.value firstCpu cpus fun other member => by
    obtain ⟨observation, inOrder, reported⟩ := (Result.mem_gather gathered).mp member
    exact cpuNumbers observation inOrder other reported
  obtain ⟨observation, _, reported⟩ :=
    (Result.mem_gather gathered).mp (pyMax_mem Reading.value firstCpu cpus)
  have single := directNumber_observations reported
  rw [Except.toOption.eq_def (Except.ok (firstCpu :: cpus)), Option.map_some, ← top]
  rcases memories with - | ⟨firstMemory, memories⟩
  · rfl
  rcases disks with - | ⟨firstDisk, disks⟩
  · rfl
  dsimp only
  generalize pyMax Reading.value firstCpu cpus = cpu at single ⊢
  obtain ⟨value, observations⟩ := cpu
  obtain rfl : observations = [observation] := single
  exact judged_unless

/-- The combinations of `resource_exhaustion_evidence`. -/
def ResourceCandidate (group : List Observation) (choice : (Reading × Reading) × Reading) : Prop :=
  (∃ observation ∈ group,
      directNumber "cpu_utilization_percent" observation = .ok (some choice.1.1)) ∧
    memoryGauge.Candidate group choice.1.2 ∧ diskGauge.Candidate group choice.2

/-- Every reading of the CPU, of the memory and of a disk is a number. -/
structure ResourceNumbers (group : List Observation) : Prop where
  cpu : ∀ observation ∈ group, ∀ reading,
    directNumber "cpu_utilization_percent" observation = .ok (some reading) → reading.value ≠ .nan
  memory : memoryGauge.Numbers group
  disk : diskGauge.Numbers group

/-- `resource_exhaustion_evidence`. -/
def resourceChoosing (config : OrganizerConfig) : Choosing :=
  Choosing.ofPick (resourceExhaustionEvidence texts config) config.resourceExhaustionWindowMinutes
    resourcePick
    (fun choice => !(choice.1.1.value.le (.finite 90) || choice.1.2.value.le (.finite 85) ||
      choice.2.value.le (.finite 85)))
    (fun choice => choice.1.1.observations ++ choice.1.2.observations ++ choice.2.observations)
    (resourceItem texts config.resourceExhaustionWindowMinutes) ResourceCandidate ResourceNumbers
    (fun _ _ perm numbers => ⟨fun observation member => numbers.cpu observation (perm.mem_iff.mp member),
      numbers.memory.perm perm, numbers.disk.perm perm⟩)
    (fun source order numbers =>
      resourceExhaustion_pick texts _ source order numbers.cpu numbers.memory numbers.disk)
    (by
      rintro group ⟨⟨cpu, memory⟩, disk⟩ ⟨⟨⟨_, observation, member, reported, _⟩, isMemory⟩, isDisk⟩
      exact ⟨⟨observation, member, reported⟩, Gauge.Leads.candidate isMemory,
        Gauge.Leads.candidate isDisk⟩)
    (by
      rintro group order choice perm ⟨⟨observation, member, reported⟩, isMemory, isDisk⟩
      exact ⟨⟨observation, perm.mem_iff.mp member, reported⟩, isMemory.perm perm, isDisk.perm perm⟩)

end Readings

/-! ### The six rules -/

/-- The rules of the engine with their choices, in its order. -/
def organizerChoices (texts : RuleTexts) (config : OrganizerConfig) : List Choosing :=
  [resourceChoosing texts config, serviceChoosing texts config, authChoosing texts config,
    backupChoosing texts config, vmwareChoosing texts config, networkChoosing texts config]

/-- A lockout two hours before the one that came with the change. -/
def earlyLockout : Observation :=
  { lockoutObservation with
    id := 79
    capturedAt := .utc (-7200 * second) }

end CosMonitor
