/-
**The cognitive services, statement by statement.**

The collector, the context activator, the detectors and the generators as programs over the shared tables.
Each read and each save is a statement of its own, and may fail; what a service computes between two
statements it computes from what it has read, which may be out of date by then.

* `select`, `store`: the statements of the stores;
* `saveRows`: the loop over the rows that a service has built, which ends at the first save that raises;
* `collectCycle` … `restructureTenant`: one program for each service and tenant, with the counters that it
  adds to those of its service;
* `PipelineTask`, `PipelineEnv.program`: what is started, and the program of it.
-/

import CosMonitor.Collector.Grounded
import CosMonitor.Foundation.Growing
import CosMonitor.Perception.ContextService
import CosMonitor.Pipeline.Traceable

namespace CosMonitor

open Interleaving Result Sorting

/-! ### Statements -/

/-- The bus, the buffer of the collector and the tables. -/
structure PipelineState where
  bus : BusState
  window : List Observation
  knowledge : Knowledge

/-- A function of a service, statement by statement. -/
abbrev ServiceProgram (Value : Type) : Type :=
  Program PipelineState ServiceError Value

/-- A statement that reads tables. -/
def select {Value : Type} (view : Knowledge → Value) : ServiceProgram Value :=
  .query (fun state => view state.knowledge) (.raise .connection)

/-- A statement on the tables alone. -/
def onKnowledge (save : Effect Knowledge ServiceError Bool) : Effect PipelineState ServiceError Bool :=
  fun state => ((save state.knowledge).1, { state with knowledge := (save state.knowledge).2 })

/-- A statement that writes tables: whether a row was stored. -/
def store (save : Effect Knowledge ServiceError Bool) : ServiceProgram Bool :=
  .perform (onKnowledge save) (.raise .connection)

/-- What a service computes from what it has read. -/
def compute {Value : Type} (result : Except ServiceError Value) : ServiceProgram Value :=
  .done result

/-- What the saves of a service came to. -/
structure SaveCounts where
  stored : Nat
  duplicates : Nat
  errors : Nat
  deriving DecidableEq, Repr

/-- One more row is saved. -/
def SaveCounts.saved (counts : SaveCounts) (stored : Bool) : SaveCounts :=
  if stored then { counts with stored := counts.stored + 1 }
  else { counts with duplicates := counts.duplicates + 1 }

/-- Save rows one after the other; the first save that raises ends the loop. -/
def saveRows {Row : Type} (save : Row → Effect Knowledge ServiceError Bool) :
    SaveCounts → List Row → ServiceProgram SaveCounts
  | counts, [] => pure counts
  | counts, row :: rest => do
      match ← (store (save row)).attempted with
      | .ok stored => saveRows save (counts.saved stored) rest
      | .error _ => return { counts with errors := counts.errors + 1 }

def noSaves : SaveCounts where
  stored := 0
  duplicates := 0
  errors := 0

/-! ### The collector -/

/-- What a cycle adds to the counters of a consumer. -/
structure CollectorCounts where
  processed : Nat
  duplicates : Nat
  errors : Nat
  evidenceCreated : Nat
  evidenceDuplicates : Nat
  evidenceErrors : Nat
  deriving DecidableEq, Repr

/-- One more entry is handled. -/
def CollectorCounts.handled (counts : CollectorCounts) (duplicate : Bool) : CollectorCounts :=
  { counts with
    processed := counts.processed + 1
    duplicates := if duplicate then counts.duplicates + 1 else counts.duplicates }

section Collector

variable (env : ConsumerEnv)

/-- `_persist`: whether the observation was there. -/
def persistSteps (observation : Observation) : ServiceProgram Bool := do
  if ← select fun knowledge => observationExists observation knowledge.observations then return true
  else
    let _ ← store (Knowledge.saveObservation env.tenants observation)
    return false

/-- `bus.ack`, and what follows it before the next statement. -/
def ackSteps (position : Nat) (observation : Observation) : ServiceProgram Unit :=
  .execute (fun state => { state with
    bus := state.bus.ack position
    window := state.window ++ [observation] }) (.raise .connection)

/-- The body of the loop of `process_batch`. -/
def handleSteps (position : Nat) (observation : Observation) : ServiceProgram Bool := do
  let duplicate ← persistSteps env observation
  ackSteps position observation
  return duplicate

/-- The loop of `process_batch`. -/
def entrySteps : CollectorCounts → List (EntryFields × Nat) → ServiceProgram CollectorCounts
  | counts, [] => pure counts
  | counts, (fields, position) :: rest =>
      match env.codec.decode fields with
      | .error failure => .raise (.python failure)
      | .ok observation => do
          match ← (handleSteps env position observation).attempted with
          | .ok duplicate => entrySteps (counts.handled duplicate) rest
          | .error _ => entrySteps { counts with errors := counts.errors + 1 } rest

/-- `_prune_pending`: what is left of the buffer. -/
def pruneWindow (retention : Timestamp) : Effect PipelineState ServiceError (List Observation) := fun state =>
  match prunePending retention state.window with
  | .error failure => (.error (.python failure), state)
  | .ok window => (.ok window, { state with window })

/-- `XREADGROUP`: the entries that are handed out. -/
def readBatch (count : Nat) : Effect PipelineState ServiceError (List (EntryFields × Nat)) := fun state =>
  (.ok (state.bus.batch count), { state with bus := state.bus.read count })

/-- `_organize`. `clock` dates the evidence. -/
def organizeSteps (clock : Nat → Timestamp) (counts : CollectorCounts) : ServiceProgram CollectorCounts :=
  if env.evidenceStore then do
    let window ← .perform (pruneWindow env.organizer.retention) (.raise .connection)
    match env.organizer.organize window with
    | .error _ => return { counts with evidenceErrors := counts.evidenceErrors + 1 }
    | .ok creations =>
        let saved ← saveRows (Knowledge.saveEvidence env.tenants) noSaves
          (creations.mapIdx fun index create => buildEvidence env.std (clock index) create)
        return { counts with
          evidenceCreated := saved.stored
          evidenceDuplicates := saved.duplicates
          evidenceErrors := counts.evidenceErrors + saved.errors }
  else pure counts

/-- `process_batch`. -/
def collectCycle (count : Nat) (clock : Nat → Timestamp) : ServiceProgram CollectorCounts := do
  let entries ← .perform (readBatch count) (.raise .connection)
  let counts ← entrySteps env ⟨0, 0, 0, 0, 0, 0⟩ entries
  organizeSteps env clock counts

end Collector

/-! ### The context activator -/

/-- What a cycle adds to the counters of a context service. -/
structure ContextCounts where
  contextsActivated : Nat
  contextsDuplicates : Nat
  errors : Nat
  deriving DecidableEq, Repr

/-- One more context is saved. -/
def ContextCounts.saved (counts : ContextCounts) (stored : Bool) : ContextCounts :=
  if stored then { counts with contextsActivated := counts.contextsActivated + 1 }
  else { counts with contextsDuplicates := counts.contextsDuplicates + 1 }

section Activator

variable (env : ContextEnv) (tenantId : Uuid) (evidence : List Evidence) (clock : String → Timestamp)

/-- The loop over the purposes: a purpose that raises is counted, and the next one follows. -/
def activatePurposes : ContextCounts → List String → ServiceProgram ContextCounts
  | counts, [] => pure counts
  | counts, purpose :: rest =>
      match activate env.models evidence purpose with
      | none => activatePurposes counts rest
      | some create =>
          if create.tenantId ≠ tenantId then activatePurposes counts rest
          else do
            let context := buildContext env.std env.dumps (clock purpose) create
            match ← (store (Knowledge.saveContext env.tenants context)).attempted with
            | .ok stored => activatePurposes (counts.saved stored) rest
            | .error _ => activatePurposes { counts with errors := counts.errors + 1 } rest

end Activator

/-- `_activate_tenant`. -/
def activateTenantSteps (env : ContextEnv) (purposes : List String) (tenantId : Uuid)
    (clock : String → Timestamp) : ServiceProgram ContextCounts := do
  let evidence ← select fun knowledge => knowledge.listEvidence tenantId
  activatePurposes env tenantId evidence clock ⟨0, 0, 0⟩ (sortBy id purposes)

/-! ### The detectors -/

/-- What a pattern service is started with. -/
structure PatternEnv where
  std : Stdlib
  tenants : List Uuid
  formats : DetectorFormats
  library : List PatternDefinition
  windowDays : ℚ

/-- What a cycle adds to the counters of a pattern service. -/
structure PatternCounts where
  totalPatterns : Nat
  totalDuplicates : Nat
  totalBelowThreshold : Nat
  errors : Nat
  deriving DecidableEq, Repr

/-- The body of `PatternService._detect_tenant`. -/
def detectPatternSteps (env : PatternEnv) (tenantId : Uuid) (clock : Nat → Timestamp) :
    ServiceProgram PatternCounts := do
  let contexts ← select fun knowledge => knowledge.listContexts tenantId
  let result ← compute ((PatternDetector.detect env.formats contexts env.library env.windowDays (clock 0)
    (some tenantId)).mapError .python)
  let saved ← saveRows (Knowledge.savePattern env.tenants) noSaves
    (result.candidates.mapIdx fun index candidate =>
      buildPattern env.std (candidate.toCreate tenantId (clock (index + 1))))
  return {
    totalPatterns := saved.stored
    totalDuplicates := saved.duplicates
    totalBelowThreshold := result.belowThreshold
    errors := saved.errors }

/-- `PatternService._detect_tenant`. -/
def detectPatternTenant (env : PatternEnv) (tenantId : Uuid) (clock : Nat → Timestamp) :
    ServiceProgram PatternCounts := do
  match ← (detectPatternSteps env tenantId clock).attempted with
  | .ok counts => return counts
  | .error _ => return ⟨0, 0, 0, 1⟩

/-- What an anomaly service is started with. -/
structure AnomalyEnv where
  std : Stdlib
  tenants : List Uuid
  formats : DetectorFormats
  tolerances : List ToleranceDefinition

/-- What a cycle adds to the counters of an anomaly service. -/
structure AnomalyCounts where
  totalAnomalies : Nat
  totalDuplicates : Nat
  totalContextsWithoutPattern : Nat
  totalContextsWithoutTolerance : Nat
  errors : Nat
  deriving DecidableEq, Repr

/-- The body of `AnomalyService._detect_tenant`. -/
def detectAnomalySteps (env : AnomalyEnv) (tenantId : Uuid) (clock : Nat → Timestamp) :
    ServiceProgram AnomalyCounts := do
  let stream ← select fun knowledge => knowledge.listContexts tenantId
  let active ← select fun knowledge => knowledge.listActiveContexts tenantId
  let patterns ← select fun knowledge => knowledge.listPatterns tenantId
  let result := AnomalyDetector.detect env.formats env.std stream patterns env.tolerances (some active)
    (some tenantId)
  let saved ← saveRows (Knowledge.saveAnomaly env.tenants) noSaves
    (result.candidates.mapIdx fun index candidate =>
      buildAnomaly env.std (candidate.toCreate tenantId (clock index)))
  return {
    totalAnomalies := saved.stored
    totalDuplicates := saved.duplicates
    totalContextsWithoutPattern := result.contextsWithoutPattern
    totalContextsWithoutTolerance := result.contextsWithoutTolerance
    errors := saved.errors }

/-- `AnomalyService._detect_tenant`. -/
def detectAnomalyTenant (env : AnomalyEnv) (tenantId : Uuid) (clock : Nat → Timestamp) :
    ServiceProgram AnomalyCounts := do
  match ← (detectAnomalySteps env tenantId clock).attempted with
  | .ok counts => return counts
  | .error _ => return ⟨0, 0, 0, 0, 1⟩

/-! ### The generators -/

/-- What a hypothesis service is started with. -/
structure HypothesisEnv where
  std : Stdlib
  tenants : List Uuid
  template : String → List (String × Json) → Except PyError String
  templates : List HypothesisTemplate

/-- What a cycle adds to the counters of a hypothesis service. -/
structure HypothesisCounts where
  totalHypotheses : Nat
  totalDuplicates : Nat
  totalAnomaliesNoTemplates : Nat
  errors : Nat
  deriving DecidableEq, Repr

/-- The saves for one anomaly are added. -/
def HypothesisCounts.saved (counts : HypothesisCounts) (saved : SaveCounts) : HypothesisCounts :=
  { counts with
    totalHypotheses := counts.totalHypotheses + saved.stored
    totalDuplicates := counts.totalDuplicates + saved.duplicates
    errors := counts.errors + saved.errors }

section Generator

variable (env : HypothesisEnv) (contexts : List Context) (patterns : List PatternRecord)
  (clock : Uuid → Timestamp)

/-- The loop over the anomalies. An anomaly that raises ends it, and so does a save. -/
def explainAnomalies : HypothesisCounts → List Anomaly → ServiceProgram HypothesisCounts
  | counts, [] => pure counts
  | counts, anomaly :: rest =>
      match HypothesisGenerator.generate ⟨env.template, clock anomaly.id⟩ anomaly contexts patterns
          env.templates with
      | .error _ => pure { counts with errors := counts.errors + 1 }
      | .ok [] => explainAnomalies
          { counts with totalAnomaliesNoTemplates := counts.totalAnomaliesNoTemplates + 1 } rest
      | .ok creations => do
          let saved ← saveRows (Knowledge.saveHypothesis env.tenants) noSaves
            (creations.map (buildHypothesis env.std))
          if saved.errors = 0 then explainAnomalies (counts.saved saved) rest
          else return counts.saved saved

end Generator

/-- The body of `HypothesisService._generate_tenant`. -/
def generateHypothesisSteps (env : HypothesisEnv) (tenantId : Uuid) (clock : Uuid → Timestamp) :
    ServiceProgram HypothesisCounts := do
  let anomalies ← select fun knowledge => knowledge.listAnomalies tenantId
  let contexts ← select fun knowledge => knowledge.listContexts tenantId
  let patterns ← select fun knowledge => knowledge.listPatterns tenantId
  explainAnomalies env contexts patterns clock ⟨0, 0, 0, 0⟩ anomalies

/-- `HypothesisService._generate_tenant`. -/
def generateHypothesisTenant (env : HypothesisEnv) (tenantId : Uuid) (clock : Uuid → Timestamp) :
    ServiceProgram HypothesisCounts := do
  match ← (generateHypothesisSteps env tenantId clock).attempted with
  | .ok counts => return counts
  | .error _ => return ⟨0, 0, 0, 1⟩

/-- What an insight service is started with. -/
structure InsightServiceEnv where
  std : Stdlib
  tenants : List Uuid
  order : SetOrder
  template : String → List (String × Json) → Except PyError String
  rules : List InsightRule

/-- What a cycle adds to the counters of an insight service. -/
structure InsightCounts where
  totalInsights : Nat
  totalDuplicates : Nat
  totalFramesNonCompetitive : Nat
  errors : Nat
  deriving DecidableEq, Repr

/-- What an insight service knows of a tenant. -/
def tenantKnowledge
    (hypotheses : { rows : List Hypothesis // (rows.map Hypothesis.id).Nodup })
    (anomalies : { rows : List Anomaly // (rows.map Anomaly.id).Nodup })
    (contexts : { rows : List Context // (rows.map Context.id).Nodup }) : TenantKnowledge where
  hypotheses := hypotheses.val
  anomalies := anomalies.val
  contexts := contexts.val
  hypothesesKeyed := hypotheses.property
  anomaliesKeyed := anomalies.property
  contextsKeyed := contexts.property

/-- `_restructure_tenant`: an exception reaches `gather`, and is counted there. -/
def restructureTenant (env : InsightServiceEnv) (tenantId : Uuid) (now : Timestamp) :
    ServiceProgram InsightCounts := do
  let hypotheses ← select fun knowledge => knowledge.keyedHypotheses tenantId
  let anomalies ← select fun knowledge => knowledge.keyedAnomalies tenantId
  let contexts ← select fun knowledge => knowledge.keyedContexts tenantId
  let creations ← compute (((tenantKnowledge hypotheses anomalies contexts).generateInsights env.order
    ⟨env.template, now⟩ tenantId env.rules).mapError .python)
  if creations.isEmpty then return ⟨0, 0, 1, 0⟩
  else
    let saved ← saveRows (Knowledge.saveInsight env.tenants) noSaves
      (creations.map (materializeInsight env.std))
    return ⟨saved.stored, saved.duplicates, 0, saved.errors⟩

/-! ### Tasks -/

/-- What is started: an arrival on the bus, a cycle of a service for a tenant, the verdict on a hypothesis,
or the collector once more. -/
inductive PipelineTask where
  | publish (fields : EntryFields)
  | collect (count : Nat) (clock : Nat → Timestamp)
  | restartCollector
  | activate (tenantId : Uuid) (clock : String → Timestamp)
  | detectPatterns (tenantId : Uuid) (clock : Nat → Timestamp)
  | detectAnomalies (tenantId : Uuid) (clock : Nat → Timestamp)
  | generateHypotheses (tenantId : Uuid) (clock : Uuid → Timestamp)
  | evaluate (tenantId hypothesisId : Uuid) (status : String)
  | restructure (tenantId : Uuid) (now : Timestamp)

/-- What the services are started with. -/
structure PipelineEnv where
  collector : ConsumerEnv
  activator : ContextEnv
  purposes : List String
  patterns : PatternEnv
  anomalies : AnomalyEnv
  hypotheses : HypothesisEnv
  insights : InsightServiceEnv

/-- What a task returns. -/
inductive TaskReport where
  | done
  | collected (counts : CollectorCounts)
  | activated (counts : ContextCounts)
  | patterns (counts : PatternCounts)
  | anomalies (counts : AnomalyCounts)
  | hypotheses (counts : HypothesisCounts)
  | insights (counts : InsightCounts)
  deriving DecidableEq, Repr

/-- The program of a task. -/
def PipelineEnv.program (env : PipelineEnv) : PipelineTask → ServiceProgram TaskReport
  | .publish fields => do
      .execute (fun state => { state with bus := state.bus.publish fields }) (.raise .connection)
      return .done
  | .collect count clock => return .collected (← collectCycle env.collector count clock)
  | .restartCollector => do
      .execute (fun state => { state with window := [] }) (.raise .connection)
      return .done
  | .activate tenantId clock =>
      return .activated (← activateTenantSteps env.activator env.purposes tenantId clock)
  | .detectPatterns tenantId clock => return .patterns (← detectPatternTenant env.patterns tenantId clock)
  | .detectAnomalies tenantId clock => return .anomalies (← detectAnomalyTenant env.anomalies tenantId clock)
  | .generateHypotheses tenantId clock =>
      return .hypotheses (← generateHypothesisTenant env.hypotheses tenantId clock)
  | .evaluate tenantId hypothesisId status => do
      let _ ← store fun knowledge =>
        ((Knowledge.updateHypothesisStatus tenantId hypothesisId status knowledge).1.map fun _ => true,
          (Knowledge.updateHypothesisStatus tenantId hypothesisId status knowledge).2)
      return .done
  | .restructure tenantId now => return .insights (← restructureTenant env.insights tenantId now)

end CosMonitor
