/-
**The organization rules of the evidence organizer.**

Each rule looks at the observations of one source or of one tenant and describes what it finds; an
exception that it raises ends the organization of the whole buffer.

* `Reading`, `percentFree`: a number with the observations that it was read from;
* `pairUsage`: free and total readings paired by the resource that their payload names;
* `resourceExhaustion`, …, `networkAnomaly`: the rules for one group, and `organizeGroups`, which runs a
  rule over the groups of a buffer.
-/

import CosMonitor.Base.PyFloat
import CosMonitor.Foundation.Grouping
import CosMonitor.Perception.Observation

namespace CosMonitor

/-! ### Floats -/

namespace PyFloat

/-- `first < second`. -/
def lt : PyFloat → PyFloat → Bool
  | nan, _ | _, nan => false
  | finite first, finite second => decide (first < second)
  | infinite negative, finite _ => negative
  | finite _, infinite negative => !negative
  | infinite first, infinite second => first && !second

/-- `first <= second`. -/
def le : PyFloat → PyFloat → Bool
  | nan, _ | _, nan => false
  | first, second => !lt second first

/-- `first / second`. -/
def div : PyFloat → PyFloat → Except PyError PyFloat
  | first, finite second =>
      if second = 0 then .error .zeroDivisionError
      else
        match first with
        | finite value => .ok (ofRat (value / second))
        | infinite negative => .ok (infinite (negative != decide (second < 0)))
        | nan => .ok nan
  | finite _, infinite _ => .ok (finite 0)
  | infinite _, infinite _ | nan, infinite _ | _, nan => .ok nan

/-- `value * 100.0`. -/
def percent : PyFloat → PyFloat
  | finite value => ofRat (value * 100)
  | infinite negative => infinite negative
  | nan => nan

/-- `100.0 - value`. -/
def complement : PyFloat → PyFloat
  | finite value => ofRat (100 - value)
  | infinite negative => infinite !negative
  | nan => nan

/-- `first - second`. -/
def sub (first second : PyFloat) : PyFloat :=
  match second with
  | finite value => first.add (finite (-value))
  | infinite negative => first.add (infinite !negative)
  | nan => nan

end PyFloat

/-- `max(item, *rest, key=…)`: the first of the largest. -/
def pyMax {Item : Type} (key : Item → PyFloat) (item : Item) (rest : List Item) : Item :=
  rest.foldl (fun best other => if (key best).lt (key other) then other else best) item

/-- `sorted(items, key=…)`, which is stable. -/
def pySorted {Item : Type} (key : Item → PyFloat) (items : List Item) : List Item :=
  items.mergeSort fun first second => !(key second).lt (key first)

/-! ### Facts -/

namespace Observation

/-- `obs.fact_value.get(key)`. -/
def fact (observation : Observation) (key : String) : Json :=
  (Json.obj observation.factValue).get key

/-- `obs.raw_payload.get(key)`. -/
def payload (observation : Observation) (key : String) : Json :=
  (Json.obj observation.rawPayload).get key

end Observation

/-- What the rules write their descriptions with, and compare texts by. -/
structure RuleTexts where
  std : Stdlib
  /-- `str.lower` -/
  lower : String → String
  /-- `format(value, ".Nf")` -/
  fixed : Nat → PyFloat → String

/-- `str(value or "").lower()`. -/
def RuleTexts.lowered (texts : RuleTexts) (value : Json) : String :=
  texts.lower (texts.std.str (value.or (.str "")))

/-- A factual organization of some observations. -/
structure Organization where
  organizationType : String
  description : String
  observationIds : List Uuid
  qualityClass : QualityClass
  tenantId : Uuid
  deriving DecidableEq

/-- `timedelta(minutes=minutes)`. -/
def minutesSpan (minutes : ℚ) : Timestamp :=
  ⌊roundHalfEven 0 (minutes * 60 * second)⌋

/-- `_within_window`: sorting naive and aware instants raises. -/
def withinWindow (minutes : ℚ) (matched : List Observation) : Except PyError Bool :=
  if matched.length < 2 then .ok true
  else if matched.any (·.capturedAt.offset.isSome) && matched.any (·.capturedAt.offset.isNone) then
    .error .typeError
  else .ok (decide (∀ first ∈ matched, ∀ last ∈ matched,
    last.capturedAt.instant - first.capturedAt.instant ≤ minutesSpan minutes))

/-- `_fact_number`. -/
def factNumber (observation : Observation) (key : String) : Except PyError (Option PyFloat) :=
  let value := if observation.fact key = .null then observation.fact "value" else observation.fact key
  match value.pyFloat with
  | .ok number => .ok (some number)
  | .error .typeError | .error (.valueError _) => .ok none
  | .error failure => .error failure

/-! ### Readings -/

/-- A number with the observations that it was read from. -/
structure Reading where
  value : PyFloat
  observations : List Observation

/-- `float(free) / float(total) * 100.0`. -/
def percentOf (part total : Except PyError PyFloat) : Except PyError PyFloat := do
  let part ← part
  let total ← total
  return (← part.div total).percent

/-- `float(total - free)`. -/
def differenceFloat : Json → Json → Except PyError PyFloat
  | .str _, _ | .arr _, _ | .obj _, _ | .null, _ | _, .str _ | _, .arr _ | _, .obj _ | _, .null =>
      .error .typeError
  | .float total, free => return (PyFloat.finite total).sub (← free.pyFloat)
  | total, .float free => return (← total.pyFloat).sub (.finite free)
  | .int total, .int free => (Json.int (total - free)).pyFloat
  | .int total, .bool free => (Json.int (total - if free then 1 else 0)).pyFloat
  | .bool total, .int free => (Json.int ((if total then 1 else 0) - free)).pyFloat
  | .bool total, .bool free =>
      (Json.int ((if total then 1 else 0) - if free then 1 else 0)).pyFloat

/-- The usage that one observation reports. -/
def directUsage (factType : String) (observation : Observation) : Except PyError (Option Reading) := do
  if observation.factType = factType ∧ (observation.fact "total_bytes").truthy then
    let total := observation.fact "total_bytes"
    let used := observation.fact "used_bytes"
    let free := ((Json.obj observation.factValue).lookup "free_bytes").getD (.int 0)
    let value ← percentOf (if used = .null then differenceFloat total free else used.pyFloat)
      total.pyFloat
    return some { value, observations := [observation] }
  else return none

/-- The number that one observation reports directly. -/
def directNumber (factType : String) (observation : Observation) : Except PyError (Option Reading) := do
  if observation.factType = factType then
    return (← factNumber observation "value").map fun value => { value, observations := [observation] }
  else return none

/-- The loop that collects what the observations report. -/
def collectReadings {Item : Type} (report : Observation → Except PyError (Option Item)) :
    List Observation → Except PyError (List Item)
  | [] => .ok []
  | observation :: rest => do
      let found ← report observation
      let others ← collectReadings report rest
      return found.toList ++ others

/-- A key of a dictionary: numbers that are equal are one key. -/
inductive PairKey where
  | text (text : String)
  | number (value : ℚ)
  deriving DecidableEq

/-- The resource that a payload names; a list or a dict is no key. -/
def pairKey (observation : Observation) : Except PyError PairKey :=
  match ((((observation.payload "device").or (observation.payload "datastore")).or
      (observation.payload "mountpoint")).or (observation.payload "repository")).or (.str "default") with
  | .str text => .ok (.text text)
  | .int value => .ok (.number value)
  | .float value => .ok (.number value)
  | .bool value => .ok (.number (if value then 1 else 0))
  | .null | .arr _ | .obj _ => .error .typeError

/-- The free and the total reading of a resource. -/
structure UsagePair where
  free : Option Observation
  total : Option Observation

/-- `pairs[key][part] = obs`. -/
def setPair (key : PairKey) (change : UsagePair → UsagePair) :
    List (PairKey × UsagePair) → List (PairKey × UsagePair)
  | [] => [(key, change { free := none, total := none })]
  | (other, pair) :: rest =>
      if other = key then (other, change pair) :: rest else (other, pair) :: setPair key change rest

/-- The loop of `_pair_usage`: the last reading of a part stays. -/
def collectPairs (freeType totalType : String) :
    List Observation → List (PairKey × UsagePair) → Except PyError (List (PairKey × UsagePair))
  | [], pairs => .ok pairs
  | observation :: rest, pairs => do
      if observation.factType = freeType then
        let key ← pairKey observation
        collectPairs freeType totalType rest (setPair key ({ · with free := some observation }) pairs)
      else if observation.factType = totalType then
        let key ← pairKey observation
        collectPairs freeType totalType rest (setPair key ({ · with total := some observation }) pairs)
      else collectPairs freeType totalType rest pairs

/-- The free percentage of a pair; a pair without a total, or whose free value is false, has none. -/
def percentFree (pair : UsagePair) : Except PyError (Option Reading) :=
  match pair.free, pair.total with
  | some free, some total => do
      let totalValue := (total.fact "value").or (total.fact "total_bytes")
      let freeValue := (free.fact "value").or (free.fact "free_bytes")
      if totalValue.truthy ∧ freeValue ≠ .null then
        let value ← percentOf freeValue.pyFloat totalValue.pyFloat
        return some { value, observations := [free, total] }
      else return none
  | _, _ => .ok none

/-- The readings of the pairs. -/
def pairReadings : List (PairKey × UsagePair) → Except PyError (List Reading)
  | [] => .ok []
  | (_, pair) :: rest => do
      let found ← percentFree pair
      let others ← pairReadings rest
      return found.toList ++ others

/-- `_pair_usage`. -/
def pairUsage (freeType totalType : String) (group : List Observation) : Except PyError (List Reading) := do
  pairReadings (← collectPairs freeType totalType group [])

/-- `_memory_usage` and `_disk_usage`, by the types of their facts. -/
def usageReadings (factType freeType totalType : String) (group : List Observation) :
    Except PyError (List Reading) := do
  let direct ← collectReadings (directUsage factType) group
  let pairs ← pairUsage freeType totalType group
  return direct ++ pairs.map fun reading => { reading with value := reading.value.complement }

/-- `_memory_usage`. -/
def memoryUsage : List Observation → Except PyError (List Reading) :=
  usageReadings "memory_usage" "memory_free_bytes" "memory_total_bytes"

/-- `_disk_usage`. -/
def diskUsage : List Observation → Except PyError (List Reading) :=
  usageReadings "disk_usage" "disk_free_bytes" "disk_total_bytes"

/-- `_repo_free_candidates` and `_datastore_free_candidates`, by the types of their facts. -/
def freeCandidates (factType freeType totalType : String) (group : List Observation) :
    Except PyError (List Reading) := do
  let direct ← collectReadings (directNumber factType) group
  let pairs ← pairUsage freeType totalType group
  return pySorted Reading.value (direct ++ pairs)

/-- `_repo_free_candidates`. -/
def repoFreeCandidates : List Observation → Except PyError (List Reading) :=
  freeCandidates "repo_free_percent" "repo_free_bytes" "repo_capacity_bytes"

/-- `_datastore_free_candidates`. -/
def datastoreFreeCandidates : List Observation → Except PyError (List Reading) :=
  freeCandidates "datastore_free_percent" "datastore_free_bytes" "datastore_capacity_bytes"

/-- `_cpu_observations`. -/
def cpuObservations : List Observation → Except PyError (List Reading) :=
  collectReadings (directNumber "cpu_utilization_percent")

/-- `_snapshot_older_than`. -/
def snapshotOlderThan (days : ℚ) (observation : Observation) : Except PyError Bool :=
  let age := if observation.fact "age_days" = .null then observation.fact "value"
    else observation.fact "age_days"
  match age.pyFloat with
  | .ok number => .ok ((PyFloat.finite days).lt number)
  | .error .typeError | .error (.valueError _) => .ok false
  | .error failure => .error failure

/-- `_interface_errors`. -/
def interfaceErrors (observation : Observation) : Except PyError PyFloat := do
  match ← factNumber observation "value" with
  | some value => return value
  | none => return (← factNumber observation "errors").getD (.finite 0)

/-! ### The rules, for one group -/

section Rules

variable (texts : RuleTexts)

/-- `resource_exhaustion_evidence`, for the group of a source. -/
def resourceExhaustion (minutes : ℚ) (source : Uuid) (group : List Observation) :
    Except PyError (Option Organization) := do
  match ← cpuObservations group, ← memoryUsage group, ← diskUsage group with
  | firstCpu :: cpus, firstMemory :: memories, firstDisk :: disks =>
      let cpu := pyMax Reading.value firstCpu cpus
      let memory := pyMax Reading.value firstMemory memories
      let disk := pyMax Reading.value firstDisk disks
      if cpu.value.le (.finite 90) || memory.value.le (.finite 85) || disk.value.le (.finite 85) then
        return none
      let matched := cpu.observations ++ memory.observations ++ disk.observations
      if !(← withinWindow minutes matched) then return none
      return cpu.observations.head?.map fun cpuObservation => {
        organizationType := "resource_exhaustion_evidence"
        description := "Within " ++ texts.std.floatRepr minutes ++ " min on source " ++ uuidText source ++
          ": cpu_utilization_percent=" ++ texts.fixed 1 cpu.value ++ ", memory_usage_percent=" ++
          texts.fixed 1 memory.value ++ ", disk_usage_percent=" ++ texts.fixed 1 disk.value ++ "."
        observationIds := matched.map Observation.id
        qualityClass := if matched.all fun observation => observation.qualityClass == .q1 then .q1 else .q2
        tenantId := cpuObservation.tenantId }
  | _, _, _ => return none

/-- `_service_is_stopped_auto`, for a service state. -/
def serviceStopped (observation : Observation) : Bool :=
  observation.factType == "windows_service_state" && observation.fact "state" == .str "Stopped" &&
    observation.fact "start_mode" == .str "Auto"

/-- `_event_is_error`, for an event. -/
def eventIsError (observation : Observation) : Bool :=
  observation.factType == "windows_event_log" && texts.lowered (observation.fact "type") == "error"

/-- `service_degradation_evidence`, for the group of a source. -/
def serviceDegradation (minutes : ℚ) (source : Uuid) (group : List Observation) :
    Except PyError (Option Organization) := do
  match group.filter serviceStopped, group.filter (eventIsError texts) with
  | service :: _, firstError :: errors =>
      let name := service.fact "name"
      let event := ((firstError :: errors).find? fun error => name.truthy &&
        texts.lowered (error.fact "source") == texts.lower (texts.std.str name)).getD firstError
      if !(← withinWindow minutes [service, event]) then return none
      return some {
        organizationType := "service_degradation_evidence"
        description := "Within " ++ texts.std.floatRepr minutes ++ " min on source " ++ uuidText source ++
          ": windows_service_state service=" ++ texts.std.str name ++ " state=Stopped start_mode=Auto; " ++
          "windows_event_log type=" ++ texts.std.str (event.fact "type") ++ " source=" ++
          texts.std.str (event.fact "source") ++ " event_code=" ++ texts.std.str (event.fact "event_code") ++
          "."
        observationIds := [service.id, event.id]
        qualityClass := .q1
        tenantId := service.tenantId }
  | _, _ => return none

/-- `_membership_changed`, for a membership. -/
def membershipChanged (observation : Observation) : Bool :=
  observation.factType == "ad_privileged_group_membership" &&
    (observation.fact "changed" == .bool true || observation.fact "membership_changed" == .bool true ||
      observation.fact "event" == .str "change")

/-- `auth_anomaly_evidence`, for the group of a tenant. -/
def authAnomaly (minutes : ℚ) (tenant : Uuid) (group : List Observation) :
    Except PyError (Option Organization) := do
  match group.filter (·.factType == "ad_account_lockout"), group.filter membershipChanged with
  | lockout :: _, change :: _ =>
      if !(← withinWindow minutes [lockout, change]) then return none
      let account := ((lockout.fact "account").or (lockout.fact "account_name")).or (.str "unknown")
      let groupName := ((change.fact "group").or (change.fact "group_name")).or (.str "unknown")
      return some {
        organizationType := "auth_anomaly_evidence"
        description := "Within " ++ texts.std.floatRepr minutes ++ " min in tenant " ++ uuidText tenant ++
          ": ad_account_lockout account=" ++ texts.std.str account ++
          "; ad_privileged_group_membership changed group=" ++ texts.std.str groupName ++ "."
        observationIds := [lockout.id, change.id]
        qualityClass := .q2
        tenantId := tenant }
  | _, _ => return none

/-- A failed backup job. -/
def backupFailed (observation : Observation) : Bool :=
  observation.factType == "backup_job_status" && texts.lowered (observation.fact "status") == "failed"

/-- `backup_failure_evidence`, for the group of a source. -/
def backupFailure (minutes threshold : ℚ) (source : Uuid) (group : List Observation) :
    Except PyError (Option Organization) := do
  match group.filter (backupFailed texts), ← repoFreeCandidates group with
  | job :: _, low :: _ =>
      if (PyFloat.finite threshold).le low.value then return none
      let matched := job :: low.observations
      if !(← withinWindow minutes matched) then return none
      return some {
        organizationType := "backup_failure_evidence"
        description := "Within " ++ texts.std.floatRepr minutes ++ " min on source " ++ uuidText source ++
          ": backup_job_status=Failed job=" ++ texts.std.str ((job.fact "job").or (.str "")) ++
          "; repo_free_percent=" ++ texts.fixed 1 low.value ++ "."
        observationIds := matched.map Observation.id
        qualityClass := .q1
        tenantId := job.tenantId }
  | _, _ => return none

/-- The snapshots of a group that are older than the limit. -/
def oldSnapshots (days : ℚ) : List Observation → Except PyError (List Observation) :=
  collectReadings fun observation => do
    if observation.factType = "vm_snapshot_age_days" then
      if ← snapshotOlderThan days observation then return some observation else return none
    else return none

/-- `vmware_capacity_evidence`, for the group of a tenant. -/
def vmwareCapacity (minutes threshold days : ℚ) (tenant : Uuid) (group : List Observation) :
    Except PyError (Option Organization) := do
  match ← datastoreFreeCandidates group, ← oldSnapshots days group with
  | low :: _, snapshot :: _ =>
      if (PyFloat.finite threshold).le low.value then return none
      let matched := low.observations ++ [snapshot]
      if !(← withinWindow minutes matched) then return none
      return some {
        organizationType := "vmware_capacity_evidence"
        description := "Within " ++ texts.std.floatRepr minutes ++ " min in tenant " ++ uuidText tenant ++
          ": datastore_free_percent=" ++ texts.fixed 1 low.value ++ "; vm_snapshot_age_days=" ++
          texts.std.str (snapshot.fact "age_days") ++ " vm=" ++ texts.std.str (snapshot.fact "vm") ++ "."
        observationIds := matched.map Observation.id
        qualityClass := .q1
        tenantId := tenant }
  | _, _ => return none

/-- The interfaces of a group with more errors than the threshold, with their errors. -/
def highErrors (threshold : ℚ) : List Observation → Except PyError (List (PyFloat × Observation)) :=
  collectReadings fun observation => do
    if observation.factType = "interface_errors" then
      let errors ← interfaceErrors observation
      if (PyFloat.finite threshold).lt errors then return some (errors, observation) else return none
    else return none

/-- `network_anomaly_evidence`, for the group of a source. -/
def networkAnomaly (minutes threshold : ℚ) (source : Uuid) (group : List Observation) :
    Except PyError (Option Organization) := do
  match ← highErrors threshold group, group.filter (·.factType == "port_state_change") with
  | first :: others, change :: _ =>
      let (errors, observation) := pyMax Prod.fst first others
      if !(← withinWindow minutes [observation, change]) then return none
      let interface := ((observation.payload "interface").or (observation.fact "interface")).or (.str "")
      return some {
        organizationType := "network_anomaly_evidence"
        description := "Within " ++ texts.std.floatRepr minutes ++ " min on source " ++ uuidText source ++
          ": interface_errors=" ++ texts.fixed 0 errors ++ " interface=" ++ texts.std.str interface ++
          "; port_state_change detected."
        observationIds := [observation.id, change.id]
        qualityClass := .q2
        tenantId := observation.tenantId }
  | _, _ => return none

end Rules

/-! ### The rules over a buffer -/

/-- Run a rule over the groups, one after the other. -/
def organizeGroups (rule : Uuid → List Observation → Except PyError (Option Organization)) :
    List (Uuid × List Observation) → Except PyError (List Organization)
  | [] => .ok []
  | (key, group) :: rest => do
      let found ← rule key group
      let others ← organizeGroups rule rest
      return found.toList ++ others

end CosMonitor
