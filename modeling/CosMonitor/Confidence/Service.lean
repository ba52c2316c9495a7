/-
**The confidence service — one calibration cycle over every tenant.**

A cycle runs `_calibrate_tenant` for every tenant at once. A tenant's task calibrates its hypotheses
page by page and ends at the first error, which `gather(return_exceptions=True)` swallows. Each
hypothesis is given all of the tenant's evidence, and the calibrator rejects what lies outside its
scope.

* `calibratePages_eq`: the paging loop calibrates the hypotheses of the tenant in order;
* `calibrateHypotheses_confidences`: it persists the longest prefix of hypotheses whose scope is the
  tenant's whole evidence;
* `scoped_hypotheses_calibrated`: after a cycle every hypothesis with a non-empty scope has the
  confidence of that scope exactly when it had it before or lies in such a prefix;
* `two_scopes_uncalibrated`: two hypotheses with different scopes, and neither gets its confidence.
-/

import CosMonitor.Confidence.Calibrator
import CosMonitor.Learning.Outcomes
import Mathlib.Data.List.TakeWhile

namespace CosMonitor

/-- What the stores return for one tenant during a cycle: hypotheses in the order of their pages;
`decisions` is `none` for a service without a decision store. -/
structure TenantRows where
  tenantId : Uuid
  hypotheses : List Hypothesis
  anomalies : List Anomaly
  contexts : List Context
  evidence : List Evidence
  decisions : Option (List Decision)
  evidenceUnique : (evidence.map Evidence.id).Nodup

/-- The rows of every tenant with a hypothesis. -/
structure KnowledgeBase where
  tenants : List TenantRows
  tenantsDistinct : (tenants.map TenantRows.tenantId).Nodup

/-- The configuration of the service. The prior log-odds are zero: `load_params` sets no other. -/
structure ConfidenceService where
  params : CalibrationParams
  batchSize : Nat
  noPrior : params.L0 = 0
  batchPositive : 0 < batchSize

/-- `load_params` with the default batch size. -/
def loadParams (alpha : ℚ) (bins : Int) : ConfidenceService where
  params := { alpha, M := bins, L0 := 0 }
  batchSize := 500
  noPrior := rfl
  batchPositive := by decide

namespace TenantRows

/-- The scope of a hypothesis among the tenant's rows. -/
def scope (tenant : TenantRows) (hypothesis : Hypothesis) : List Evidence :=
  resolveScopeEvidence hypothesis tenant.anomalies tenant.contexts
    (tenant.evidence.map fun item => (item.id, item))

/-- One page of `list_hypotheses`. -/
def listHypotheses (tenant : TenantRows) (limit offset : Nat) : List Hypothesis :=
  (tenant.hypotheses.drop offset).take limit

/-- The historical pairs of the tenant; an error while loading them means no history. -/
def historical (std : Stdlib) (tenant : TenantRows) (confidences : List Confidence) :
    Option (List OutcomePair) :=
  match tenant.decisions.map fun decisions =>
      decisions.filter fun decision => decision.actualOutcomes.getD [] != [] with
  | none | some [] => none
  | some decisions =>
      match buildLearningHistory std tenant.tenantId decisions
          (listConfidence tenant.tenantId 500 0 confidences) with
      | .error _ => none
      | .ok history => history.historicalCalibration.map fun _ => history.outcomePairs

end TenantRows

/-- A pair with its score as the float that the decimal of the table is read as. -/
def OutcomePair.asFloat (pair : OutcomePair) : OutcomePair :=
  match pair.1 with
  | .finite score => (.finite (PyFloat.double score), pair.2)
  | .infinite _ | .nan => pair

/-- The history that the calibrator is given. -/
def TenantRows.historicalFloats (std : Stdlib) (tenant : TenantRows) (confidences : List Confidence) :
    Option (List OutcomePair) :=
  (tenant.historical std confidences).map (List.map OutcomePair.asFloat)

/-! ### One tenant -/

/-- The hypothesis explains every type of its scope; no negative constraint is derived. -/
def coherenceInputs (scope : List Evidence) : CoherenceInputs where
  explains := (scope.map Evidence.organizationType).dedup.insertionSort (· ≤ ·)
  contradicts := []
  coherentWith := []
  incoherentWith := []

section Tenant

variable (std : Stdlib) (math : MathLib) (service : ConfidenceService) (confidences : List Confidence)
  (tenant : TenantRows)

/-- Calibrate a hypothesis from an evidence sequence, within its scope. -/
def calibrateFrom (evidence : List Evidence) (hypothesis : Hypothesis) :
    Except CalibrateError ConfidenceCreate :=
  let scope := tenant.scope hypothesis
  calibrate math hypothesis evidence scope (coherenceInputs scope) service.params
    (tenant.historicalFloats std confidences)

/-- The body of the loop: calibrate each hypothesis from all of the tenant's evidence and persist it,
until one of them raises. -/
def calibrateHypotheses (now : Timestamp) :
    List Hypothesis → List Confidence × Option CalibrateError
  | [] => ([], none)
  | hypothesis :: rest =>
      match calibrateFrom std math service confidences tenant tenant.evidence hypothesis with
      | .error failure => ([], some failure)
      | .ok create =>
          match buildConfidence std now create with
          | .error failure => ([], some (.python failure))
          | .ok confidence =>
              let (persisted, raised) := calibrateHypotheses now rest
              (confidence :: persisted, raised)

/-- The paging loop from an offset; `fuel` bounds the number of pages. -/
def calibratePages (now : Timestamp) : (fuel offset : Nat) → List Confidence × Option CalibrateError
  | 0, _ => ([], none)
  | fuel + 1, offset =>
      match tenant.listHypotheses service.batchSize offset with
      | [] => ([], none)
      | page =>
          match calibrateHypotheses std math service confidences tenant now page with
          | (persisted, some failure) => (persisted, some failure)
          | (persisted, none) =>
              let (more, raised) := calibratePages now fuel (offset + service.batchSize)
              (persisted ++ more, raised)

/-- What the task of a tenant sends to the confidence store. -/
def calibrateTenant (now : Timestamp) : List Confidence :=
  (calibratePages std math service confidences tenant now (tenant.hypotheses.length + 1) 0).1

end Tenant

/-- **A cycle ends**: the saves of all tenants have arrived, in some order. The tenants' histories are
read from their own rows, which no other tenant's task writes. -/
def CycleEnds (std : Stdlib) (math : MathLib) (service : ConfidenceService) (now : Timestamp)
    (base : KnowledgeBase) (before after : List Confidence) : Prop :=
  ∃ saves : List (Timestamp × Confidence),
    (saves.map Prod.snd).Perm
      (base.tenants.flatMap fun tenant => calibrateTenant std math service before tenant now) ∧
      after = saveAll saves before

/-! ### The loops -/

section Loops

variable {std : Stdlib} {math : MathLib} {service : ConfidenceService} {confidences : List Confidence}
  {tenant : TenantRows} {now : Timestamp}

theorem calibrateHypotheses_append (first second : List Hypothesis) :
    calibrateHypotheses std math service confidences tenant now (first ++ second) =
      match calibrateHypotheses std math service confidences tenant now first with
      | (persisted, some failure) => (persisted, some failure)
      | (persisted, none) =>
          let (more, raised) := calibrateHypotheses std math service confidences tenant now second
          (persisted ++ more, raised) := by
  induction first with
  | nil => rfl
  | cons hypothesis rest ih =>
      rw [List.cons_append, calibrateHypotheses, calibrateHypotheses]
      cases calibrateFrom std math service confidences tenant tenant.evidence hypothesis with
      | error failure => rfl
      | ok create =>
          dsimp only
          cases buildConfidence std now create with
          | error failure => rfl
          | ok confidence =>
              dsimp only
              rw [ih]
              rcases calibrateHypotheses std math service confidences tenant now rest with
                ⟨persisted, _ | failure⟩
              · rfl
              · rfl

/-- **The paging loop calibrates the remaining hypotheses in order**, with a page of fuel for each. -/
theorem calibratePages_eq (fuel offset : Nat)
    (enough : tenant.hypotheses.length < offset + fuel) :
    calibratePages std math service confidences tenant now fuel offset =
      calibrateHypotheses std math service confidences tenant now
        (tenant.hypotheses.drop offset) := by
  induction fuel generalizing offset with
  | zero =>
      rw [List.drop_eq_nil_of_le (by omega)]
      rfl
  | succ fuel ih =>
      have positive := service.batchPositive
      rw [calibratePages]
      cases page : tenant.listHypotheses service.batchSize offset with
      | nil =>
          have exhausted : tenant.hypotheses.drop offset = [] := by
            unfold TenantRows.listHypotheses at page
            rcases List.take_eq_nil_iff.mp page with zero | rest
            · omega
            · exact rest
          rw [exhausted]
          rfl
      | cons head tail =>
          have later := ih (offset + service.batchSize) (by omega)
          have cut : tenant.hypotheses.drop offset =
              (head :: tail) ++ tenant.hypotheses.drop (offset + service.batchSize) := by
            rw [← page, TenantRows.listHypotheses, ← List.drop_drop, List.take_append_drop]
          rw [cut, calibrateHypotheses_append, later]

theorem calibrateTenant_eq :
    calibrateTenant std math service confidences tenant now =
      (calibrateHypotheses std math service confidences tenant now tenant.hypotheses).1 := by
  unfold calibrateTenant
  rw [calibratePages_eq _ _ (by omega), List.drop_zero]

end Loops

/-! ### Which hypotheses are reached -/

namespace TenantRows

variable {tenant : TenantRows} {hypothesis : Hypothesis}

theorem scope_eq_filter (tenant : TenantRows) (hypothesis : Hypothesis) :
    tenant.scope hypothesis = tenant.evidence.filter fun item =>
      decide (item.id ∈ scopeIds hypothesis tenant.anomalies tenant.contexts) := by
  unfold scope resolveScopeEvidence
  rw [List.filter_map, List.map_map]
  exact List.map_id _

/-- The scope of the hypothesis is not empty and covers all of the tenant's evidence. -/
def CoversEvidence (tenant : TenantRows) (hypothesis : Hypothesis) : Prop :=
  tenant.scope hypothesis ≠ [] ∧
    ∀ item ∈ tenant.evidence, item.id ∈ (tenant.scope hypothesis).map Evidence.id

instance (tenant : TenantRows) (hypothesis : Hypothesis) :
    Decidable (tenant.CoversEvidence hypothesis) :=
  inferInstanceAs (Decidable (_ ∧ _))

theorem CoversEvidence.scope_eq (covers : tenant.CoversEvidence hypothesis) :
    tenant.scope hypothesis = tenant.evidence := by
  rw [scope_eq_filter, List.filter_eq_self]
  intro item member
  obtain ⟨other, otherIn, same⟩ := List.mem_map.mp (covers.2 item member)
  rw [scope_eq_filter] at otherIn
  rw [← same]
  exact (List.mem_filter.mp otherIn).2

/-- What every calibration of the tenant needs: that bytes have an id, and that the parameters and the
calibration error of its history are in their ranges. -/
def Calibrates (std : Stdlib) (math : MathLib) (service : ConfidenceService)
    (confidences : List Confidence) (tenant : TenantRows) : Prop :=
  std.uuid5Bytes.isSome = true ∧ service.params.InRange ∧
    ErrorInRange math (tenant.historicalFloats std confidences) service.params.M

instance (std : Stdlib) (math : MathLib) (service : ConfidenceService) (confidences : List Confidence)
    (tenant : TenantRows) : Decidable (tenant.Calibrates std math service confidences) :=
  inferInstanceAs (Decidable (_ ∧ _ ∧ _))

/-- The hypotheses that a cycle reaches: the longest prefix whose scopes all cover the tenant's
evidence. -/
def reached (std : Stdlib) (math : MathLib) (service : ConfidenceService)
    (confidences : List Confidence) (tenant : TenantRows) : List Hypothesis :=
  if tenant.Calibrates std math service confidences then
    tenant.hypotheses.takeWhile fun hypothesis => decide (tenant.CoversEvidence hypothesis)
  else []

end TenantRows

section Own

variable (std : Stdlib) (math : MathLib) (service : ConfidenceService) (confidences : List Confidence)
  (tenant : TenantRows) (hypothesis : Hypothesis)

/-- The confidence of a hypothesis built from exactly its scope. -/
def ownConfidence : Except CalibrateError ConfidenceCreate :=
  calibrateFrom std math service confidences tenant (tenant.scope hypothesis) hypothesis

/-- The id of the confidence built from exactly the scope. -/
def ownId : Option Uuid :=
  (ownConfidence std math service confidences tenant hypothesis).toOption.bind fun create =>
    (create.confidenceId std).toOption

/-- A row stands under the id of the confidence built from exactly the scope. -/
def HasOwnConfidence (rows : List Confidence) : Prop :=
  ∃ id, ownId std math service confidences tenant hypothesis = some id ∧ ∃ row ∈ rows, row.id = id

variable {std math service confidences tenant hypothesis} {now : Timestamp}

theorem ownConfidence_returns (present : tenant.scope hypothesis ≠ [])
    (calibrates : tenant.Calibrates std math service confidences) (now : Timestamp) :
    ∃ create confidence, ownConfidence std math service confidences tenant hypothesis = .ok create ∧
      buildConfidence std now create = .ok confidence := by
  have uncontradicted : (coherenceInputs (tenant.scope hypothesis)).contradicts = [] := rfl
  obtain ⟨create, returned, -⟩ := calibrate_own math hypothesis (tenant.historicalFloats std confidences)
    present calibrates.2.1 calibrates.2.2 service.noPrior uncontradicted
  obtain ⟨hash, supported⟩ := Option.isSome_iff_exists.mp calibrates.1
  obtain ⟨confidence, built⟩ := buildConfidence_returns now create supported
  exact ⟨create, confidence, returned, built⟩

/-- **The loop's call returns and its confidence is built exactly when the scope covers the tenant's
evidence**, and then it is the hypothesis' own confidence. -/
theorem calibrateFrom_evidence {create : ConfidenceCreate} {confidence : Confidence} :
    calibrateFrom std math service confidences tenant tenant.evidence hypothesis = .ok create ∧
        buildConfidence std now create = .ok confidence ↔
      tenant.Calibrates std math service confidences ∧ tenant.CoversEvidence hypothesis ∧
        ownConfidence std math service confidences tenant hypothesis = .ok create ∧
        buildConfidence std now create = .ok confidence := by
  constructor
  · rintro ⟨returned, built⟩
    obtain ⟨present, inRange, error, inside⟩ := calibrate_checked returned
    obtain ⟨hash, supported, -⟩ := buildConfidence_eq_ok.mp built
    have covers : tenant.CoversEvidence hypothesis := ⟨present, inside⟩
    refine ⟨⟨by rw [supported]; rfl, inRange, error⟩, covers, ?_, built⟩
    rw [ownConfidence, covers.scope_eq]
    exact returned
  · rintro ⟨-, covers, own, built⟩
    rw [ownConfidence, covers.scope_eq] at own
    exact ⟨own, built⟩

/-- **The loop persists the longest prefix of hypotheses that cover the tenant's evidence.** -/
theorem calibrateHypotheses_confidences (now : Timestamp) (hypotheses : List Hypothesis)
    (confidence : Confidence) :
    confidence ∈ (calibrateHypotheses std math service confidences tenant now hypotheses).1 ↔
      tenant.Calibrates std math service confidences ∧
        ∃ hypothesis ∈ hypotheses.takeWhile fun other => decide (tenant.CoversEvidence other),
          ∃ create, ownConfidence std math service confidences tenant hypothesis = .ok create ∧
            buildConfidence std now create = .ok confidence := by
  induction hypotheses with
  | nil => simp [calibrateHypotheses]
  | cons hypothesis rest ih =>
      -- A hypothesis that covers the evidence does not raise: after one that does, the prefix is empty.
      have stops : (¬∃ create persisted,
            calibrateFrom std math service confidences tenant tenant.evidence hypothesis = .ok create ∧
              buildConfidence std now create = .ok persisted) →
          tenant.Calibrates std math service confidences →
          (hypothesis :: rest).takeWhile (fun other => decide (tenant.CoversEvidence other)) = [] := by
        intro raises calibrates
        refine List.takeWhile_cons_of_neg fun covered => raises ?_
        have covers := of_decide_eq_true covered
        obtain ⟨create, persisted, own, built⟩ := ownConfidence_returns covers.1 calibrates now
        exact ⟨create, persisted, calibrateFrom_evidence.mpr ⟨calibrates, covers, own, built⟩⟩
      have silent : (¬∃ create persisted,
            calibrateFrom std math service confidences tenant tenant.evidence hypothesis = .ok create ∧
              buildConfidence std now create = .ok persisted) →
          ¬(tenant.Calibrates std math service confidences ∧
            ∃ other ∈ (hypothesis :: rest).takeWhile fun other => decide (tenant.CoversEvidence other),
              ∃ create, ownConfidence std math service confidences tenant other = .ok create ∧
                buildConfidence std now create = .ok confidence) := by
        rintro raises ⟨calibrates, other, member, -⟩
        rw [stops raises calibrates] at member
        cases member
      rw [calibrateHypotheses]
      cases called : calibrateFrom std math service confidences tenant tenant.evidence hypothesis with
      | error failure =>
          refine iff_of_false List.not_mem_nil (silent ?_)
          rintro ⟨create, persisted, returned, -⟩
          rw [called] at returned
          cases returned
      | ok create =>
          dsimp only
          cases built : buildConfidence std now create with
          | error failure =>
              refine iff_of_false List.not_mem_nil (silent ?_)
              rintro ⟨created, persisted, returned, wasBuilt⟩
              rw [called] at returned
              obtain rfl := Except.ok.inj returned
              rw [built] at wasBuilt
              cases wasBuilt
          | ok persisted =>
              obtain ⟨calibrates, covers, own, -⟩ := calibrateFrom_evidence.mp ⟨called, built⟩
              rw [List.takeWhile_cons_of_pos (by simpa using covers)]
              simp only [List.mem_cons, ih, exists_eq_or_imp, own, Except.ok.injEq, exists_eq_left', built,
                eq_comm (a := persisted)]
              constructor
              · rintro (rfl | ⟨-, later⟩)
                · exact ⟨calibrates, .inl rfl⟩
                · exact ⟨calibrates, .inr later⟩
              · rintro ⟨-, rfl | later⟩
                · exact .inl rfl
                · exact .inr ⟨calibrates, later⟩

theorem TenantRows.reached_calibrates
    (member : hypothesis ∈ tenant.reached std math service confidences) :
    tenant.Calibrates std math service confidences := by
  by_contra fails
  unfold TenantRows.reached at member
  rw [if_neg fails] at member
  cases member

theorem mem_calibrateTenant (now : Timestamp) (confidence : Confidence) :
    confidence ∈ calibrateTenant std math service confidences tenant now ↔
      ∃ hypothesis ∈ tenant.reached std math service confidences, ∃ create,
        ownConfidence std math service confidences tenant hypothesis = .ok create ∧
          buildConfidence std now create = .ok confidence := by
  rw [calibrateTenant_eq, calibrateHypotheses_confidences]
  unfold TenantRows.reached
  by_cases calibrates : tenant.Calibrates std math service confidences
  · simp only [calibrates, true_and, if_true]
  · simp only [calibrates, false_and, if_false, List.not_mem_nil, exists_false]

end Own

/-! ### A cycle -/

section Cycle

variable {std : Stdlib} {math : MathLib} {service : ConfidenceService} {now : Timestamp}
  {base : KnowledgeBase} {before after : List Confidence}

theorem mem_arrived {saves : List (Timestamp × Confidence)}
    (arrived : (saves.map Prod.snd).Perm
      (base.tenants.flatMap fun tenant => calibrateTenant std math service before tenant now))
    (confidence : Confidence) :
    (∃ save ∈ saves, save.2 = confidence) ↔
      ∃ tenant ∈ base.tenants, ∃ hypothesis ∈ tenant.reached std math service before, ∃ create,
        ownConfidence std math service before tenant hypothesis = .ok create ∧
          buildConfidence std now create = .ok confidence := by
  rw [← List.mem_map, arrived.mem_iff, List.mem_flatMap]
  simp only [mem_calibrateTenant]

theorem ownId_reached {tenant : TenantRows} {hypothesis : Hypothesis}
    (reached : hypothesis ∈ tenant.reached std math service before) :
    ∃ id, ownId std math service before tenant hypothesis = some id := by
  have calibrates := TenantRows.reached_calibrates reached
  unfold TenantRows.reached at reached
  rw [if_pos calibrates] at reached
  have taken := List.mem_takeWhile_imp reached
  have covers := of_decide_eq_true taken
  obtain ⟨create, confidence, own, built⟩ := ownConfidence_returns covers.1 calibrates 0
  refine ⟨confidence.id, ?_⟩
  rw [ownId, own]
  exact congrArg Except.toOption (buildConfidence_id built)

/-- **The ids that a cycle stores** are those of the hypotheses it reaches. -/
theorem cycle_ids (ended : CycleEnds std math service now base before after) (id : Uuid) :
    (∃ row ∈ after, row.id = id) ↔
      (∃ row ∈ before, row.id = id) ∨ ∃ tenant ∈ base.tenants,
        ∃ hypothesis ∈ tenant.reached std math service before,
          ownId std math service before tenant hypothesis = some id := by
  obtain ⟨saves, arrived, rfl⟩ := ended
  rw [saveAll_ids]
  refine or_congr Iff.rfl ?_
  constructor
  · rintro ⟨save, member, rfl⟩
    obtain ⟨tenant, tenantIn, hypothesis, reached, create, own, built⟩ :=
      (mem_arrived arrived save.2).mp ⟨save, member, rfl⟩
    refine ⟨tenant, tenantIn, hypothesis, reached, ?_⟩
    rw [ownId, own]
    exact congrArg Except.toOption (buildConfidence_id built)
  · rintro ⟨tenant, tenantIn, hypothesis, reached, stored⟩
    obtain ⟨create, found, hashed⟩ := Option.bind_eq_some_iff.mp stored
    have own := Result.toOption_eq_some found
    obtain ⟨hash, supported, isHash⟩ :=
      ConfidenceCreate.confidenceId_eq_ok.mp (Result.toOption_eq_some hashed)
    obtain ⟨save, member, isSave⟩ := (mem_arrived arrived _).mpr
      ⟨tenant, tenantIn, hypothesis, reached, create, own, buildConfidence_eq_ok.mpr ⟨hash, supported, rfl⟩⟩
    refine ⟨save, member, ?_⟩
    rw [isSave]
    exact isHash

/-- Every hypothesis with a non-empty scope has the confidence built from exactly that scope. -/
def EveryScopeCalibrated (std : Stdlib) (math : MathLib) (service : ConfidenceService)
    (base : KnowledgeBase) (history rows : List Confidence) : Prop :=
  ∀ tenant ∈ base.tenants, ∀ hypothesis ∈ tenant.hypotheses, tenant.scope hypothesis ≠ [] →
    HasOwnConfidence std math service history tenant hypothesis rows

/-- **A hypothesis gets the confidence of its scope exactly when it is reached.** After a cycle every
hypothesis with a non-empty scope has the confidence built from exactly that scope if and only if each
of them had it before, or has the id of a hypothesis that is reached: one in the longest prefix of its
tenant whose scopes all cover the tenant's evidence. Every row a cycle adds is the confidence that
such a hypothesis has from exactly its scope. -/
theorem scoped_hypotheses_calibrated (std : Stdlib) (math : MathLib) (service : ConfidenceService)
    (now : Timestamp) (base : KnowledgeBase) (before after : List Confidence)
    (ended : CycleEnds std math service now base before after) :
    (EveryScopeCalibrated std math service base before after ↔
      ∀ tenant ∈ base.tenants, ∀ hypothesis ∈ tenant.hypotheses, tenant.scope hypothesis ≠ [] →
        HasOwnConfidence std math service before tenant hypothesis before ∨
          ∃ other ∈ base.tenants, ∃ same ∈ other.reached std math service before,
            ownId std math service before other same =
              ownId std math service before tenant hypothesis) ∧
      ∀ row ∈ after, row ∈ before ∨ ∃ tenant ∈ base.tenants,
        ∃ hypothesis ∈ tenant.reached std math service before, ∃ create confidence instant,
          ownConfidence std math service before tenant hypothesis = .ok create ∧
            buildConfidence std now create = .ok confidence ∧ row = confidence.toRow instant := by
  constructor
  · refine forall₂_congr fun tenant _ => forall₂_congr fun hypothesis _ => ?_
    refine imp_congr_right fun _ => ?_
    constructor
    · rintro ⟨id, own, stored⟩
      rcases (cycle_ids ended id).mp stored with old | ⟨other, otherIn, same, reached, sameId⟩
      · exact .inl ⟨id, own, old⟩
      · exact .inr ⟨other, otherIn, same, reached, by rw [sameId, own]⟩
    · rintro (⟨id, own, stored⟩ | ⟨other, otherIn, same, reached, sameId⟩)
      · exact ⟨id, own, (cycle_ids ended id).mpr (.inl stored)⟩
      · obtain ⟨id, isId⟩ := ownId_reached reached
        exact ⟨id, sameId.symm.trans isId,
          (cycle_ids ended id).mpr (.inr ⟨other, otherIn, same, reached, isId⟩)⟩
  · obtain ⟨saves, arrived, rfl⟩ := ended
    intro row member
    rcases saveAll_new saves before member with old | ⟨save, saveIn, rfl⟩
    · exact .inl old
    · obtain ⟨tenant, tenantIn, hypothesis, reached, create, own, built⟩ :=
        (mem_arrived arrived save.2).mp ⟨save, saveIn, rfl⟩
      exact .inr ⟨tenant, tenantIn, hypothesis, reached, create, save.2, save.1, own, built, rfl⟩

theorem cycle_in_order (std : Stdlib) (math : MathLib) (service : ConfidenceService) (now : Timestamp)
    (base : KnowledgeBase) (before : List Confidence) :
    CycleEnds std math service now base before
      (saveAll ((base.tenants.flatMap fun tenant =>
        calibrateTenant std math service before tenant now).map fun sent => (now, sent)) before) := by
  refine ⟨_, ?_, rfl⟩
  rw [List.map_map]
  show List.Perm (List.map id _) _
  rw [List.map_id]

end Cycle

/-! ### Two scopes -/

/-- An evidence of tenant 1 with quality class Q1. -/
def measuredEvidence (id : Uuid) : Evidence where
  id := id
  tenantId := 1
  observationIds := [100]
  organizationType := "resource_exhaustion_evidence"
  description := "cpu above threshold"
  qualityClass := .q1
  weight := ⟨7 / 8, sevenEighths_isUnit⟩
  organizedAt := 0

/-- The context over one evidence. -/
def contextOver (id evidenceId : Uuid) : Context where
  id := id
  tenantId := 1
  evidenceIds := [evidenceId]
  mentalModelId := "capacity"
  purpose := "capacity"
  coherenceScore := ⟨1, one_isUnit⟩
  competingModels := []
  activatedAt := 0
  isActive := true

/-- The anomaly of a context. -/
def anomalyOf (id contextId : Uuid) : Anomaly where
  id := id
  tenantId := 1
  contextId := contextId
  patternId := 50
  deviationScore := 2
  toleranceThreshold := 1
  anomalyClass := "point"
  detectedAt := 0

/-- A candidate explanation of an anomaly. -/
def explanationOf (id anomalyId : Uuid) : Hypothesis where
  id := id
  tenantId := 1
  anomalyIds := [anomalyId]
  patternIds := [50]
  description := "the host is undersized"
  predictedConsequences := ["cpu stays high"]
  falsificationCriterion := "cpu returns to normal"
  coherenceScore := ⟨1 / 2, half_isUnit⟩
  status := "candidate"
  generatedAt := 0

/-- One hypothesis and its evidence. -/
def oneScope : KnowledgeBase where
  tenants := [{
    tenantId := 1
    hypotheses := [explanationOf 5 4]
    anomalies := [anomalyOf 4 3]
    contexts := [contextOver 3 2]
    evidence := [measuredEvidence 2]
    decisions := none
    evidenceUnique := by decide }]
  tenantsDistinct := by decide

/-- Two hypotheses, each with its own evidence. -/
def twoScopes : KnowledgeBase where
  tenants := [{
    tenantId := 1
    hypotheses := [explanationOf 5 4, explanationOf 9 8]
    anomalies := [anomalyOf 4 3, anomalyOf 8 7]
    contexts := [contextOver 3 2, contextOver 7 6]
    evidence := [measuredEvidence 2, measuredEvidence 6]
    decisions := none
    evidenceUnique := by decide }]
  tenantsDistinct := by decide

/-- `math.exp` as the two tenants above call it: at `-0.875`. -/
def tabulatedMath : MathLib where
  exp := fun argument =>
    if argument = -7 / 8 then .ok (7509518545956171 / 2 ^ 54) else .ok 1
  sum := List.sum
  exp_nonpos := by
    intro argument _
    by_cases tabulated : argument = -7 / 8
    · exact ⟨_, if_pos tabulated, by norm_num⟩
    · exact ⟨_, if_neg tabulated, by norm_num⟩

/-- The library with the id that the confidence of the first hypothesis has from its own scope. -/
def tabulatedStd : Stdlib :=
  { Stdlib.constant with uuid5Bytes := some fun _ _ => 0xbe7426e388ec5e9c9575467494249a23 }

/-- A single hypothesis is calibrated from its scope. -/
theorem scoped_hypotheses_calibrated_single :
    ∃ after, CycleEnds tabulatedStd tabulatedMath (loadParams (1 / 2) 10) 0 oneScope [] after ∧
      EveryScopeCalibrated tabulatedStd tabulatedMath (loadParams (1 / 2) 10) oneScope [] after ∧
      (oneScope.tenants.all fun tenant =>
        tenant.hypotheses.all fun hypothesis => tenant.scope hypothesis == tenant.evidence) = true := by
  have ended := cycle_in_order tabulatedStd tabulatedMath (loadParams (1 / 2) 10) 0 oneScope []
  refine ⟨_, ended, ?_, by decide +kernel⟩
  refine (scoped_hypotheses_calibrated _ _ _ _ _ _ _ ended).1.mpr ?_
  intro tenant tenantIn hypothesis hypothesisIn _
  refine .inr ⟨tenant, tenantIn, hypothesis, ?_, rfl⟩
  have all : ∀ tenant ∈ oneScope.tenants, ∀ hypothesis ∈ tenant.hypotheses,
      hypothesis ∈ tenant.reached tabulatedStd tabulatedMath (loadParams (1 / 2) 10) [] := by
    decide +kernel
  exact all tenant tenantIn hypothesis hypothesisIn

/-- Two hypotheses with different scopes: the cycle stores nothing, and both lack the confidence of
their scope. -/
theorem two_scopes_uncalibrated :
    CycleEnds tabulatedStd tabulatedMath (loadParams (1 / 2) 10) 0 twoScopes [] [] ∧
      ¬EveryScopeCalibrated tabulatedStd tabulatedMath (loadParams (1 / 2) 10) twoScopes [] [] := by
  constructor
  · have silent : (twoScopes.tenants.flatMap fun tenant =>
        calibrateTenant tabulatedStd tabulatedMath (loadParams (1 / 2) 10) [] tenant 0) = [] := by
      decide +kernel
    exact ⟨[], by rw [silent]; exact List.Perm.nil, rfl⟩
  · intro every
    have inScope : ∃ tenant ∈ twoScopes.tenants, ∃ hypothesis ∈ tenant.hypotheses,
        tenant.scope hypothesis ≠ [] := by decide +kernel
    obtain ⟨tenant, tenantIn, hypothesis, hypothesisIn, present⟩ := inScope
    obtain ⟨id, -, row, stored, -⟩ := every tenant tenantIn hypothesis hypothesisIn present
    cases stored

end CosMonitor
