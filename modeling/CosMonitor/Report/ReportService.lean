/-
**The report service — read, render, write the artifact, insert the row.**

* `readSource`: what a call reads of a tenant, in the order and the pages of the listings;
* `reportId`, `artifactPath`: the id and the file of a report are those of its tenant, type and period;
* `generate`: the artifact is written before the row is inserted, and an error keeps what was written;
* `artifactPath_injective`: reports of different tenants, types or periods have different files;
* `generate_cases`: what a call has done.
-/

import CosMonitor.Action.DecisionService
import CosMonitor.Action.RecommendationService
import CosMonitor.Foundation.Result
import CosMonitor.Report.Renderers

namespace CosMonitor

open Result

/-! ### What a call reads -/

section Read

/-- The tables that a report is made of. -/
structure ReportTables where
  tenants : List TenantHeader
  decisions : List Decision
  recommendations : List Recommendation
  contexts : List Context
  confidences : List Confidence
  hypotheses : List Hypothesis
  anomalies : List Anomaly
  patterns : List PatternRecord
  evidence : List Evidence
  observations : List Observation

/-- `list_decisions`: the rows of a tenant in the order of `committed_at, id`. -/
def listDecisions (tenantId : Uuid) (rows : List Decision) : List Decision :=
  Sorting.sortBy (fun row => toLex (row.committedAt, row.id))
    (rows.filter fun row => decide (row.tenantId = tenantId))

/-- `list_patterns`: the rows of a tenant in the order of `detected_at`. -/
def listPatterns (tenantId : Uuid) (rows : List PatternRecord) : List PatternRecord :=
  Sorting.sortBy (fun row => row.detectedAt)
    (rows.filter fun row => decide (row.tenantId = tenantId))

/-- `list_evidence`: the rows of a tenant, those organized last first. -/
def listEvidence (tenantId : Uuid) (rows : List Evidence) : List Evidence :=
  Sorting.sortByDesc Evidence.organizedAt (rows.filter fun row => decide (row.tenantId = tenantId))

/-- `list_observations`: a page of the rows of a tenant in the order of `captured_at, id`. -/
def listObservations (tenantId : Uuid) (limit offset : Nat) (rows : List Observation) :
    List Observation :=
  ((Sorting.sortBy (fun row => toLex (row.capturedAt.instant, row.id))
    (rows.filter fun row => decide (row.tenantId = tenantId))).drop offset).take limit

/-- The header that a report of a tenant shows, also of one that has no row. -/
def tenantHeader (tenantId : Uuid) (rows : List TenantHeader) : TenantHeader :=
  (rows.find? fun row => decide (row.id = tenantId)).getD
    { id := tenantId
      name := uuidText tenantId
      slug := "" }

/-- `_report_period`: the first and the last day of the decisions, or today. -/
def reportPeriod (today : PyDate) : List Decision → PyDate × PyDate
  | [] => (today, today)
  | first :: rest =>
      let days := rest.map fun decision => dateOf decision.committedAt
      (days.foldl (fun best day => if day.order < best.order then day else best)
          (dateOf first.committedAt),
        days.foldl (fun best day => if best.order < day.order then day else best)
          (dateOf first.committedAt))

/-- The bundle of a tenant, with the default page of each listing that has one. -/
def readSource (tenantId : Uuid) (now : Timestamp) (tables : ReportTables) : ReportSource where
  tenant := tenantHeader tenantId tables.tenants
  decisions := listDecisions tenantId tables.decisions
  recommendations := listRecommendations tenantId tables.recommendations
  contexts := listContexts tenantId tables.contexts
  confidences := listConfidence tenantId 500 0 tables.confidences
  hypotheses := listHypotheses tenantId 500 0 tables.hypotheses
  anomalies := listAnomalies tenantId tables.anomalies
  patterns := listPatterns tenantId tables.patterns
  evidence := listEvidence tenantId tables.evidence
  observations := listObservations tenantId 500 0 tables.observations
  periodStart := (reportPeriod (dateOf now) (listDecisions tenantId tables.decisions)).1
  periodEnd := (reportPeriod (dateOf now) (listDecisions tenantId tables.decisions)).2
  generatedAt := now

end Read

/-! ### Reports -/

section Reports

/-- A report; its content is a document before it is stored and a JSON value in its row. -/
structure Report (Content : Type) where
  id : Uuid
  tenantId : Uuid
  reportType : String
  title : String
  summary : String
  content : Content
  aiGenerated : Bool
  modelUsed : Option String
  periodStart : PyDate
  periodEnd : PyDate
  generatedAt : Timestamp
  filePath : String

/-- `REPORT_NAMESPACE`. -/
def reportNamespace : Uuid := 0x83

/-- `report_id`. -/
def reportId (std : Stdlib) (tenantId : Uuid) (reportType : String) (periodStart periodEnd : PyDate) :
    Uuid :=
  std.uuid5 reportNamespace
    (uuidText tenantId ++ ":" ++ reportType ++ ":" ++ periodStart.isoformat ++ ":" ++
      periodEnd.isoformat)

/-- What the service is configured with, and what turns a document into bytes. -/
structure ReportEnv extends ViewFormats where
  outputDir : String
  reportTypes : List String
  /-- `to_pdf(to_html(content))` -/
  toPdf : Json → Except PyError Bytes
  /-- the same for a document with a number that is not finite -/
  toPdfNonFinite : Document → Except PyError Bytes

/-- A report is rendered as a PDF. -/
def isPdf (reportType : String) : Bool :=
  reportType == "executive" || reportType == "technical"

/-- The extension of an artifact. -/
def extensionOf (reportType : String) : String :=
  if isPdf reportType then "pdf" else "json"

/-- `_render`, the document. -/
def renderDocument (env : ReportEnv) (reportType : String) (source : ReportSource) :
    Except PyError Document :=
  if reportType = "executive" then .ok (renderExecutive env.toViewFormats source)
  else if reportType = "technical" then renderTechnical env.toViewFormats source
  else .ok (renderJson env.toViewFormats source)

/-- The artifact of a content. -/
def ReportEnv.serialize (env : ReportEnv) (reportType : String) (content : Json) :
    Except PyError Bytes :=
  if isPdf reportType then env.toPdf content else .ok (toJson env.std content)

/-- `_render`, the payload. A JSON document has finite numbers only. -/
def ReportEnv.payload (env : ReportEnv) (reportType : String) (document : Document) :
    Except PyError Bytes :=
  match document.content with
  | some content => env.serialize reportType content
  | none => env.toPdfNonFinite document

/-- `_write_artifact`, the path. -/
def artifactPath (env : ReportEnv) (tenantId : Uuid) (reportType : String)
    (periodStart periodEnd : PyDate) : String :=
  env.outputDir ++ "/" ++ uuidText tenantId ++ "/" ++ reportType ++ "_" ++ periodStart.isoformat ++
    "_" ++ periodEnd.isoformat ++ "_" ++
    String.ofList ((uuidChars (reportId env.std tenantId reportType periodStart periodEnd)).take 8) ++
    "." ++ extensionOf reportType

section Paths

variable {env : ReportEnv} {tenantId otherId : Uuid} {reportType otherType : String}
  {periodStart periodEnd otherStart otherEnd : PyDate}

/-- The end of a file name, after the type of the report. -/
def artifactSuffix (env : ReportEnv) (tenantId : Uuid) (reportType : String)
    (periodStart periodEnd : PyDate) : List Char :=
  '_' :: (periodStart.isoChars ++ '_' :: (periodEnd.isoChars ++
    '_' :: ((uuidChars (reportId env.std tenantId reportType periodStart periodEnd)).take 8 ++
      '.' :: (extensionOf reportType).toList)))

theorem artifactPath_toList :
    (artifactPath env tenantId reportType periodStart periodEnd).toList =
      env.outputDir.toList ++ '/' :: (uuidChars tenantId ++ '/' :: (reportType.toList ++
        artifactSuffix env tenantId reportType periodStart periodEnd)) := by
  simp [artifactPath, artifactSuffix, uuidText, PyDate.isoformat]

theorem length_artifactSuffix :
    (artifactSuffix env tenantId reportType periodStart periodEnd).length =
      32 + (extensionOf reportType).toList.length := by
  simp [artifactSuffix, length_uuidChars]
  omega

theorem getLast_artifactPath :
    (artifactPath env tenantId reportType periodStart periodEnd).toList.getLast? =
      some (if isPdf reportType then 'f' else 'n') := by
  have extension : (extensionOf reportType).toList.getLast? =
      some (if isPdf reportType then 'f' else 'n') := by
    unfold extensionOf
    split <;> rfl
  rw [artifactPath_toList, artifactSuffix]
  simp only [List.getLast?_append, List.getLast?_cons, extension]
  simp

/-- **Reports of different tenants, types or periods have different files.** -/
theorem artifactPath_injective
    (same : artifactPath env tenantId reportType periodStart periodEnd =
      artifactPath env otherId otherType otherStart otherEnd) :
    tenantId = otherId ∧ reportType = otherType ∧ periodStart = otherStart ∧ periodEnd = otherEnd := by
  have extension : extensionOf reportType = extensionOf otherType := by
    have last := congrArg (fun path => path.toList.getLast?) same
    simp only [getLast_artifactPath, Option.some.injEq] at last
    cases first : isPdf reportType <;> cases second : isPdf otherType <;> simp_all [extensionOf]
  have chars := congrArg String.toList same
  rw [artifactPath_toList, artifactPath_toList, List.append_cancel_left_eq, List.cons_inj_right]
    at chars
  obtain ⟨tenants, rest⟩ := List.append_inj chars (by rw [length_uuidChars, length_uuidChars])
  obtain ⟨types, suffixes⟩ := List.append_inj' (List.cons.inj rest).2
    (by rw [length_artifactSuffix, length_artifactSuffix, extension])
  obtain ⟨starts, rest⟩ := List.append_inj (List.cons.inj suffixes).2 (by simp)
  obtain ⟨ends, -⟩ := List.append_inj (List.cons.inj rest).2 (by simp)
  exact ⟨uuidText_injective (congrArg String.ofList tenants), String.toList_injective types,
    PyDate.isoformat_injective (congrArg String.ofList starts),
    PyDate.isoformat_injective (congrArg String.ofList ends)⟩

end Paths

/-- The length of an array field. -/
def Document.count (document : Document) (field : String) : Nat :=
  match document.fields.lookup field with
  | some (.arr items) => items.length
  | _ => 0

/-- `_summarize`. -/
def summarize (reportType : String) (source : ReportSource) (document : Document) : String :=
  if reportType = "executive" then
    "Resumen ejecutivo: " ++ toString source.decisions.length ++ " decision(es); " ++
      toString (document.count "top_decisions") ++ " top; " ++
      toString (document.count "future_risks") ++ " riesgo(s) futuro(s); " ++
      toString (document.count "pending_authority") ++ " pendiente(s) de autoridad."
  else if reportType = "technical" then
    "Informe tecnico: traza cognitiva completa de " ++ toString source.decisions.length ++
      " decision(es)."
  else "Informe JSON: datos de " ++ toString source.decisions.length ++ " decision(es)."

/-- The title of a document. -/
def Document.title (document : Document) : String :=
  match document.fields.lookup "title" with
  | some (.str title) => title
  | _ => ""

/-- `build_report` of what `generate` has rendered. -/
def buildReport (env : ReportEnv) (tenantId : Uuid) (reportType : String) (now : Timestamp)
    (source : ReportSource) (document : Document) : Report Document where
  id := reportId env.std tenantId reportType source.periodStart source.periodEnd
  tenantId := tenantId
  reportType := reportType
  title := document.title
  summary := summarize reportType source document
  content := document
  aiGenerated := false
  modelUsed := none
  periodStart := source.periodStart
  periodEnd := source.periodEnd
  generatedAt := now
  filePath := artifactPath env tenantId reportType source.periodStart source.periodEnd

/-- The columns of a row: texts fit, and the content is JSON without NUL. -/
def Report.toRow (report : Report Document) : Except DbError (Report Json) := do
  let reportType ← varchar 50 report.reportType
  let filePath ← varchar 500 report.filePath
  match report.content.content with
  | none => throw .invalidJson
  | some value =>
      let content ← jsonb value
      return { report with reportType, filePath, content }

/-- `INSERT INTO reports … ON CONFLICT (id) DO NOTHING`: the inserted row, if one was. -/
def saveReport (tenants : List TenantHeader) (report : Report Document) (rows : List (Report Json)) :
    Except DbError (Option (Report Json) × List (Report Json)) := do
  let row ← report.toRow
  if rows.any fun other => other.id == row.id then return (none, rows)
  else if tenants.any fun tenant => tenant.id == row.tenantId then return (some row, rows ++ [row])
  else throw (.foreignKeyViolation "tenant_id")

end Reports

/-! ### `generate` -/

section Generate

/-- The tables, the reports and the files of the output directory. -/
structure ReportState where
  tables : ReportTables
  reports : List (Report Json)
  files : String → Option Bytes

/-- What leaves `generate` as an exception. -/
inductive ReportError where
  | python (failure : PyError)
  | db (failure : DbError)
  deriving DecidableEq

/-- The answer of `generate`. -/
inductive ReportStatus where
  | created
  | duplicate
  deriving DecidableEq

/-- A computation of the service. -/
abbrev Reporting := Effect ReportState ReportError

/-- Insert the row of a report. -/
def insertReport (report : Report Document) : Reporting ReportStatus :=
  fun state =>
    match saveReport state.tables.tenants report state.reports with
    | .error failure => (.error (.db failure), state)
    | .ok (none, _) => (.ok .duplicate, state)
    | .ok (some _, rows) => (.ok .created, { state with reports := rows })

/-- `generate`. -/
def generate (env : ReportEnv) (tenantId : Uuid) (reportType : String) (now : Timestamp) :
    Reporting (Report Document × ReportStatus) :=
  if reportType ∉ env.reportTypes then
    Effect.raise (.python (.valueError ("unsupported report type: " ++ reportType)))
  else do
    let source ← Effect.read fun state => readSource tenantId now state.tables
    let document ← Effect.lift ((renderDocument env reportType source).mapError .python)
    let payload ← Effect.lift ((env.payload reportType document).mapError .python)
    let report := buildReport env tenantId reportType now source document
    Effect.write fun state =>
      { state with files := Function.update state.files report.filePath (some payload) }
    let status ← insertReport report
    return (report, status)

/-- What a call renders, and the artifact that it writes. -/
def rendering (env : ReportEnv) (tenantId : Uuid) (reportType : String) (now : Timestamp)
    (tables : ReportTables) : Except PyError (Report Document × Bytes) :=
  if reportType ∉ env.reportTypes then
    .error (.valueError ("unsupported report type: " ++ reportType))
  else do
    let document ← renderDocument env reportType (readSource tenantId now tables)
    let payload ← env.payload reportType document
    return (buildReport env tenantId reportType now (readSource tenantId now tables) document, payload)

/-- The state with an artifact written. -/
def ReportState.writeArtifact (state : ReportState) (path : String) (payload : Bytes) : ReportState :=
  { state with files := Function.update state.files path (some payload) }

/-- The tenants with a decision. -/
def decisionTenants (rows : List Decision) : List Uuid :=
  (rows.map Decision.tenantId).dedup

/-- The calls of `run_report_cycle`: every type for every tenant with decisions. -/
def cycleCalls (env : ReportEnv) (tables : ReportTables) : List (Uuid × String) :=
  (decisionTenants tables.decisions).flatMap fun tenantId =>
    env.reportTypes.map fun reportType => (tenantId, reportType)

end Generate

/-! ### A tenant with a decision -/

section Sample

/-- `isoformat()` of an instant in UTC without a fraction of a second. -/
def isoSeconds (value : PyDatetime) : String :=
  let seconds := (value.instant / second % 86400).toNat
  (dateOf value.instant).isoformat ++ String.ofList
    ('T' :: (decimalDigits 2 (seconds / 3600) ++ ':' :: (decimalDigits 2 (seconds / 60 % 60) ++
      ':' :: (decimalDigits 2 (seconds % 60) ++ ['+', '0', '0', ':', '0', '0']))))

/-- A configuration; every page of its PDF files is the JSON text of the document. -/
def reportSample : ReportEnv where
  std := { countingStd with isoformat := isoSeconds }
  justification := fun justification => justification.judgment
  outputDir := "reports-output"
  reportTypes := ["executive", "technical", "json"]
  toPdf := fun content => .ok (toJson countingStd content)
  toPdfNonFinite := fun _ => .ok []

/-- Decision `id`, committed `hour` hours after the start of 2026. -/
def reportedDecision (id : Uuid) (hour : Int) : Decision where
  id := id
  tenantId := 1
  recommendationId := 20
  confidenceId := 21
  authorityId := 22
  commitment := "Restart the service"
  expectedOutcomes := []
  riskTolerance := "high"
  status := "committed"
  committedAt := (1767225600 + 3600 * hour) * second
  executedAt := none
  actualOutcomes := none
  outcomeStatus := "pending"

/-- The tables of a tenant with some decisions and nothing else. -/
def reportedTables (decisions : List Decision) : ReportTables where
  tenants := [{ id := 1, name := "Acme", slug := "acme" }]
  decisions := decisions
  recommendations := []
  contexts := []
  confidences := []
  hypotheses := []
  anomalies := []
  patterns := []
  evidence := []
  observations := []

end Sample

/-! ### What a call has done -/

section Cases

variable {env : ReportEnv} {tenantId : Uuid} {reportType : String} {now : Timestamp}

theorem generate_eq (state : ReportState) :
    generate env tenantId reportType now state =
      match rendering env tenantId reportType now state.tables with
      | .error failure => (.error (.python failure), state)
      | .ok (report, payload) =>
          (insertReport report >>= fun status => pure (report, status) : Reporting _)
            (state.writeArtifact report.filePath payload) := by
  unfold generate rendering
  by_cases supported : reportType ∈ env.reportTypes
  · rw [if_neg (not_not.mpr supported), if_neg (not_not.mpr supported), Effect.read_bind]
    rcases renderDocument env reportType (readSource tenantId now state.tables) with failure | document
    · rfl
    · rw [Except.mapError, Effect.lift_ok_bind, ok_bind]
      rcases env.payload reportType document with failure | payload
      · rfl
      · rw [Except.mapError, Effect.lift_ok_bind, ok_bind, Effect.write_bind]
        rfl
  · rw [if_pos supported, if_pos supported]
    rfl

/-- What a call of `generate` has done: its answer and the state after it. -/
inductive GenerateEnds (env : ReportEnv) (tenantId : Uuid) (reportType : String) (now : Timestamp)
    (state : ReportState) : Except ReportError (Report Document × ReportStatus) → ReportState → Prop
  | unrendered (failure : PyError)
      (failed : rendering env tenantId reportType now state.tables = .error failure) :
      GenerateEnds env tenantId reportType now state (.error (.python failure)) state
  | unsaved (report : Report Document) (payload : Bytes) (failure : DbError)
      (rendered : rendering env tenantId reportType now state.tables = .ok (report, payload)) :
      GenerateEnds env tenantId reportType now state (.error (.db failure))
        (state.writeArtifact report.filePath payload)
  | duplicate (report : Report Document) (payload : Bytes) (row other : Report Json)
      (rendered : rendering env tenantId reportType now state.tables = .ok (report, payload))
      (converted : report.toRow = .ok row) (known : other ∈ state.reports) (same : other.id = row.id) :
      GenerateEnds env tenantId reportType now state (.ok (report, .duplicate))
        (state.writeArtifact report.filePath payload)
  | created (report : Report Document) (payload : Bytes) (row : Report Json)
      (rendered : rendering env tenantId reportType now state.tables = .ok (report, payload))
      (converted : report.toRow = .ok row) (fresh : ∀ other ∈ state.reports, other.id ≠ row.id) :
      GenerateEnds env tenantId reportType now state (.ok (report, .created))
        { state.writeArtifact report.filePath payload with reports := state.reports ++ [row] }

/-- **What a call has done.** -/
theorem generate_cases (env : ReportEnv) (tenantId : Uuid) (reportType : String) (now : Timestamp)
    (state : ReportState) :
    GenerateEnds env tenantId reportType now state (generate env tenantId reportType now state).1
      (generate env tenantId reportType now state).2 := by
  rw [generate_eq]
  rcases rendered : rendering env tenantId reportType now state.tables with failure | ⟨report, payload⟩
  · exact .unrendered failure rendered
  · show GenerateEnds env tenantId reportType now state
      ((insertReport report >>= fun status => pure (report, status) : Reporting _)
        (state.writeArtifact report.filePath payload)).1
      ((insertReport report >>= fun status => pure (report, status) : Reporting _)
        (state.writeArtifact report.filePath payload)).2
    rcases converted : report.toRow with failure | row
    · have inserted : insertReport report (state.writeArtifact report.filePath payload) =
          (.error (.db failure), state.writeArtifact report.filePath payload) := by
        rw [insertReport, saveReport, converted, error_bind]
      rw [Effect.bind_raised inserted]
      exact .unsaved report payload failure rendered
    · by_cases known : (state.reports.any fun other => other.id == row.id) = true
      · have inserted : insertReport report (state.writeArtifact report.filePath payload) =
            (.ok .duplicate, state.writeArtifact report.filePath payload) := by
          rw [insertReport, saveReport, converted, ok_bind, ReportState.writeArtifact, if_pos known]
          rfl
        obtain ⟨other, member, same⟩ := List.any_eq_true.mp known
        rw [Effect.bind_ran inserted]
        exact .duplicate report payload row other rendered converted member (eq_of_beq same)
      · have fresh : ∀ other ∈ state.reports, other.id ≠ row.id := fun other member same =>
          known (List.any_eq_true.mpr ⟨other, member, beq_iff_eq.mpr same⟩)
        by_cases registered : (state.tables.tenants.any fun tenant => tenant.id == row.tenantId) = true
        · have inserted : insertReport report (state.writeArtifact report.filePath payload) =
              (.ok .created, { state.writeArtifact report.filePath payload with
                reports := state.reports ++ [row] }) := by
            rw [insertReport, saveReport, converted, ok_bind, ReportState.writeArtifact, if_neg known,
              if_pos registered]
            rfl
          rw [Effect.bind_ran inserted]
          exact .created report payload row rendered converted fresh
        · have inserted : insertReport report (state.writeArtifact report.filePath payload) =
              (.error (.db (.foreignKeyViolation "tenant_id")),
                state.writeArtifact report.filePath payload) := by
            rw [insertReport, saveReport, converted, ok_bind, ReportState.writeArtifact, if_neg known,
              if_neg registered]
            rfl
          rw [Effect.bind_raised inserted]
          exact .unsaved report payload _ rendered

end Cases

end CosMonitor
