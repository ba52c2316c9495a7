/-
**Runs of the report service — files beside rows, and what a cycle covers.**

* `ReportHistory`: the state, with the bundle that each row was rendered from;
* `reportSystem`: calls of `generate` among changes of the tables that they read;
* `artifacts_agree`: as long as no call renders something else for a stored file, the file of every row is
  the serialization of its content, and the first call that does ends this;
* `cycle_covers_iff`: a cycle leaves a report of all decisions exactly of the tenants and types for which
  it stored a row or had one already.
-/

import CosMonitor.Foundation.Transition
import CosMonitor.Report.ReportService

namespace CosMonitor

open Result Transition

/-! ### Rows -/

section Rows

variable {env : ReportEnv} {limit : Nat} {text stored : String}

theorem varchar_cases (assigned : varchar limit text = .ok stored) :
    stored = text ∨ limit < text.length ∧ stored.length = limit ∧
      ∀ character ∈ text.toList.drop limit, character = ' ' := by
  unfold varchar at assigned
  split at assigned
  · exact .inl (Except.ok.inj assigned).symm
  · rename_i long
    split at assigned
    · rename_i spaces
      refine .inr ⟨not_le.mp long, ?_, fun character member => ?_⟩
      · rw [← Except.ok.inj assigned, String.length_ofList, List.length_take, String.length_toList]
        exact min_eq_left (not_le.mp long).le
      · exact eq_of_beq (List.all_eq_true.mp spaces character member)
    · cases assigned

theorem length_of_isPdf (isPdfType : isPdf text = true) : text.length = 9 := by
  rw [isPdf, Bool.or_eq_true, beq_iff_eq, beq_iff_eq] at isPdfType
  rcases isPdfType with rfl | rfl
  · rfl
  · rfl

theorem isPdf_varchar (assigned : varchar 50 text = .ok stored) : isPdf stored = isPdf text := by
  rcases varchar_cases assigned with rfl | ⟨long, full, -⟩
  · rfl
  · have notStored : isPdf stored = false := by
      rw [Bool.eq_false_iff]
      intro isPdfType
      have short := length_of_isPdf isPdfType
      omega
    have notText : isPdf text = false := by
      rw [Bool.eq_false_iff]
      intro isPdfType
      have short := length_of_isPdf isPdfType
      omega
    rw [notStored, notText]

theorem artifactPath_varchar {tenantId : Uuid} {reportType : String} {periodStart periodEnd : PyDate}
    (assigned : varchar limit (artifactPath env tenantId reportType periodStart periodEnd) = .ok stored) :
    stored = artifactPath env tenantId reportType periodStart periodEnd := by
  rcases varchar_cases assigned with same | ⟨long, -, spaces⟩
  · exact same
  · have last : ((artifactPath env tenantId reportType periodStart periodEnd).toList.drop
        limit).getLast? = some (if isPdf reportType then 'f' else 'n') := by
      rw [List.getLast?_drop, String.length_toList, if_neg (not_le.mpr long), getLast_artifactPath]
    have space := spaces _ (List.mem_of_getLast? last)
    split at space <;> cases space

/-- What `toRow` keeps of a report. -/
structure Report.Stores (report : Report Document) (row : Report Json) : Prop where
  reportType : varchar 50 report.reportType = .ok row.reportType
  filePath : varchar 500 report.filePath = .ok row.filePath
  content : report.content.content = some row.content
  id : row.id = report.id
  tenantId : row.tenantId = report.tenantId
  periodStart : row.periodStart = report.periodStart
  periodEnd : row.periodEnd = report.periodEnd

theorem Report.toRow_stores {report : Report Document} {row : Report Json}
    (converted : report.toRow = .ok row) : report.Stores row := by
  unfold Report.toRow at converted
  obtain ⟨reportType, isType, converted⟩ := bind_eq_ok.mp converted
  obtain ⟨filePath, isPath, converted⟩ := bind_eq_ok.mp converted
  rcases isContent : report.content.content with - | value
  · rw [isContent] at converted
    cases converted
  · rw [isContent] at converted
    obtain ⟨content, bound, same⟩ := bind_eq_ok.mp converted
    unfold jsonb at bound
    split at bound
    · cases bound
    · obtain rfl := Except.ok.inj bound
      obtain rfl := pure_eq_ok.mp same
      exact ⟨isType, isPath, isContent, rfl, rfl, rfl, rfl⟩

theorem rendering_spec {tenantId : Uuid} {reportType : String} {now : Timestamp}
    {tables : ReportTables} {report : Report Document} {payload : Bytes}
    (rendered : rendering env tenantId reportType now tables = .ok (report, payload)) :
    ∃ document, renderDocument env reportType (readSource tenantId now tables) = .ok document ∧
      env.payload reportType document = .ok payload ∧
      report = buildReport env tenantId reportType now (readSource tenantId now tables) document := by
  unfold rendering at rendered
  split at rendered
  · cases rendered
  · obtain ⟨document, isDocument, rest⟩ := bind_eq_ok.mp rendered
    obtain ⟨bytes, isPayload, same⟩ := bind_eq_ok.mp rest
    obtain ⟨rfl, rfl⟩ := Prod.mk.inj (pure_eq_ok.mp same)
    exact ⟨document, isDocument, isPayload, rfl⟩

/-- The id and the file of a row are those of its tenant, its period and the type that it was stored
for. -/
def Report.Filed (env : ReportEnv) (row : Report Json) : Prop :=
  ∃ reportType, row.id = reportId env.std row.tenantId reportType row.periodStart row.periodEnd ∧
    row.filePath = artifactPath env row.tenantId reportType row.periodStart row.periodEnd

theorem Report.Filed.id_of_path {row : Report Json} (filed : row.Filed env) {tenantId : Uuid}
    {reportType : String} {periodStart periodEnd : PyDate}
    (path : row.filePath = artifactPath env tenantId reportType periodStart periodEnd) :
    row.id = reportId env.std tenantId reportType periodStart periodEnd := by
  obtain ⟨storedType, isId, isPath⟩ := filed
  obtain ⟨tenants, types, starts, ends⟩ := artifactPath_injective (isPath.symm.trans path)
  rw [isId, tenants, types, starts, ends]

theorem rendered_row {tenantId : Uuid} {reportType : String} {now : Timestamp}
    {tables : ReportTables} {report : Report Document} {payload : Bytes} {row : Report Json}
    (rendered : rendering env tenantId reportType now tables = .ok (report, payload))
    (converted : report.toRow = .ok row) :
    row.Filed env ∧ row.filePath = report.filePath ∧
      env.serialize row.reportType row.content = .ok payload := by
  obtain ⟨document, -, isPayload, rfl⟩ := rendering_spec rendered
  have stores := Report.toRow_stores converted
  have path := artifactPath_varchar stores.filePath
  refine ⟨⟨reportType, ?_, ?_⟩, path, ?_⟩
  · rw [stores.id, stores.tenantId, stores.periodStart, stores.periodEnd]
    rfl
  · rw [path, stores.tenantId, stores.periodStart, stores.periodEnd]
    rfl
  · have content : document.content = some row.content := stores.content
    rw [ReportEnv.payload, content] at isPayload
    rw [← isPayload]
    unfold ReportEnv.serialize
    rw [isPdf_varchar stores.reportType]
    rfl

end Rows

/-! ### Files beside rows -/

section Files

/-- The file of every row is the serialization of its content. -/
def ArtifactsAgree (env : ReportEnv) (state : ReportState) : Prop :=
  ∀ row ∈ state.reports, ∃ payload, state.files row.filePath = some payload ∧
    env.serialize row.reportType row.content = .ok payload

/-- What a call renders for the file of a row is the serialization of the content of that row. -/
def RendersStored (env : ReportEnv) (state : ReportState) (tenantId : Uuid) (reportType : String)
    (now : Timestamp) : Prop :=
  ∀ report payload, rendering env tenantId reportType now state.tables = .ok (report, payload) →
    ∀ row ∈ state.reports, row.filePath = report.filePath →
      env.serialize row.reportType row.content = .ok payload

variable {env : ReportEnv} {state : ReportState} {tenantId : Uuid} {reportType : String}
  {now : Timestamp}

theorem agree_writeArtifact (agree : ArtifactsAgree env state) (path : String) (payload : Bytes) :
    ArtifactsAgree env (state.writeArtifact path payload) ↔
      ∀ row ∈ state.reports, row.filePath = path →
        env.serialize row.reportType row.content = .ok payload := by
  constructor
  · intro agrees row member samePath
    obtain ⟨written, isWritten, serialized⟩ := agrees row member
    have found : Function.update state.files path (some payload) row.filePath = some written :=
      isWritten
    rw [samePath, Function.update_self] at found
    rw [serialized, Option.some.inj found]
  · intro stored row member
    by_cases samePath : row.filePath = path
    · refine ⟨payload, ?_, stored row member samePath⟩
      show Function.update state.files path (some payload) row.filePath = some payload
      rw [samePath, Function.update_self]
    · obtain ⟨written, isWritten, serialized⟩ := agree row member
      refine ⟨written, ?_, serialized⟩
      show Function.update state.files path (some payload) row.filePath = some written
      rw [Function.update_of_ne samePath, isWritten]

/-- **One call.** The files agree after it exactly when it renders what the rows of its file hold. -/
theorem agree_generate (filed : ∀ row ∈ state.reports, row.Filed env)
    (agree : ArtifactsAgree env state) :
    ArtifactsAgree env (generate env tenantId reportType now state).2 ↔
      RendersStored env state tenantId reportType now := by
  have ended := generate_cases env tenantId reportType now state
  generalize generate env tenantId reportType now state = ran at ended ⊢
  obtain ⟨answer, after⟩ := ran
  have rewrites : ∀ {report payload},
      rendering env tenantId reportType now state.tables = .ok (report, payload) →
      (ArtifactsAgree env (state.writeArtifact report.filePath payload) ↔
        RendersStored env state tenantId reportType now) := by
    intro report payload rendered
    rw [agree_writeArtifact agree]
    constructor
    · intro stored other bytes renderedToo
      obtain ⟨rfl, rfl⟩ := Prod.mk.inj (Except.ok.inj (rendered.symm.trans renderedToo))
      exact stored
    · exact fun stored => stored report payload rendered
  cases ended with
  | unrendered failure failed =>
      refine iff_of_true agree fun report payload rendered => ?_
      cases failed.symm.trans rendered
  | unsaved report payload failure rendered => exact rewrites rendered
  | duplicate report payload row other rendered converted known same => exact rewrites rendered
  | created report payload row rendered converted fresh =>
      obtain ⟨isFiled, samePath, serialized⟩ := rendered_row rendered converted
      have apart : ∀ other ∈ state.reports, other.filePath ≠ report.filePath := by
        intro other member path
        obtain ⟨storedType, isId, isPath⟩ := isFiled
        refine fresh other member ?_
        rw [isId]
        exact (filed other member).id_of_path (path.trans (samePath.symm.trans isPath))
      have noRow : ∀ other ∈ state.reports, other.filePath = report.filePath →
          env.serialize other.reportType other.content = .ok payload :=
        fun other member path => absurd path (apart other member)
      refine iff_of_true ?_ ((rewrites rendered).mp ((agree_writeArtifact agree _ _).mpr noRow))
      intro other member
      rcases List.mem_append.mp member with old | new
      · exact (agree_writeArtifact agree _ _).mpr noRow other old
      · obtain rfl := List.mem_singleton.mp new
        refine ⟨payload, ?_, serialized⟩
        show Function.update state.files report.filePath (some payload) other.filePath = some payload
        rw [samePath, Function.update_self]

theorem filed_generate (filed : ∀ row ∈ state.reports, row.Filed env) :
    ∀ row ∈ (generate env tenantId reportType now state).2.reports, row.Filed env := by
  have ended := generate_cases env tenantId reportType now state
  generalize generate env tenantId reportType now state = ran at ended ⊢
  obtain ⟨answer, after⟩ := ran
  cases ended with
  | unrendered failure failed => exact filed
  | unsaved report payload failure rendered => exact filed
  | duplicate report payload row other rendered converted known same => exact filed
  | created report payload row rendered converted fresh =>
      intro other member
      rcases List.mem_append.mp member with old | new
      · exact filed other old
      · rw [List.mem_singleton.mp new]
        exact (rendered_row rendered converted).1

end Files

/-! ### Histories -/

section Histories

/-- A row that was stored, and what it was rendered from. -/
structure Rendering where
  tenantId : Uuid
  reportType : String
  row : Report Json
  source : ReportSource

/-- The state of the service, with a journal of its rows that no code reads. -/
structure ReportHistory extends ReportState where
  renderings : List Rendering

/-- Before the first call. -/
def ReportHistory.start (tables : ReportTables) (files : String → Option Bytes) : ReportHistory where
  tables := tables
  reports := []
  files := files
  renderings := []

/-- A call of `generate`; the rows that it adds are journaled. -/
def ReportHistory.generate (env : ReportEnv) (tenantId : Uuid) (reportType : String) (now : Timestamp)
    (history : ReportHistory) : Except ReportError (Report Document × ReportStatus) × ReportHistory :=
  let ran := CosMonitor.generate env tenantId reportType now history.toReportState
  (ran.1,
    { toReportState := ran.2
      renderings := history.renderings ++ (ran.2.reports.drop history.reports.length).map fun row =>
        { tenantId, reportType, row, source := readSource tenantId now history.tables } })

/-- A step: somebody changes the tables that the service reads, or `generate` is called. -/
inductive ReportAction where
  | artifacts (tables : ReportTables)
  | generate (tenantId : Uuid) (reportType : String) (now : Timestamp)

/-- Calls of `generate` among changes of the artifacts. -/
def reportSystem (env : ReportEnv) : System ReportHistory ReportAction where
  step history
    | .artifacts tables => some { history with tables }
    | .generate tenantId reportType now => some (history.generate env tenantId reportType now).2

variable {env : ReportEnv} {tables : ReportTables} {files : String → Option Bytes}
  {history : ReportHistory}

theorem reachable_filed {guard : ReportHistory → ReportAction → Prop}
    (reached : (reportSystem env).Reachable guard (.start tables files) history) :
    ∀ row ∈ history.reports, row.Filed env := by
  induction reached with
  | refl => exact fun row member => nomatch member
  | tail _ moved filed =>
      obtain ⟨action, -, stepped⟩ := moved
      cases action with
      | artifacts tables =>
          rw [← Option.some.inj stepped]
          exact filed
      | generate tenantId reportType now =>
          rw [← Option.some.inj stepped]
          exact filed_generate filed

end Histories

/-! ### A persisted report is not rewritten, as long as calls render it again -/

section Agreement

/-- The condition on a step: what a call renders for the file of a row is what that row holds. -/
def KeepsFiles (env : ReportEnv) (history : ReportHistory) : ReportAction → Prop
  | .artifacts _ => True
  | .generate tenantId reportType now =>
      RendersStored env history.toReportState tenantId reportType now

/-- **Files and rows agree** in every run whose calls meet the condition, and the first call that does
not meet it parts them. -/
theorem artifacts_agree (env : ReportEnv) (tables : ReportTables) (files : String → Option Bytes)
    (history : ReportHistory)
    (reached : (reportSystem env).Reachable (KeepsFiles env) (.start tables files) history) :
    ArtifactsAgree env history.toReportState ∧
      ∀ action after, (reportSystem env).step history action = some after →
        (ArtifactsAgree env after.toReportState ↔ KeepsFiles env history action) := by
  have step : ∀ (before : ReportHistory) (action : ReportAction) (after : ReportHistory),
      (∀ row ∈ before.reports, row.Filed env) → ArtifactsAgree env before.toReportState →
      (reportSystem env).step before action = some after →
      (ArtifactsAgree env after.toReportState ↔ KeepsFiles env before action) := by
    intro before action after filed agree stepped
    cases action with
    | artifacts tables =>
        rw [← Option.some.inj stepped]
        exact iff_of_true agree trivial
    | generate tenantId reportType now =>
        rw [← Option.some.inj stepped]
        exact agree_generate filed agree
  have agree : ArtifactsAgree env history.toReportState := by
    induction reached with
    | refl => exact fun row member => nomatch member
    | tail walked moved ih =>
        obtain ⟨action, meets, stepped⟩ := moved
        exact (step _ action _ (reachable_filed walked) ih stepped).mpr meets
  exact ⟨agree, fun action after stepped =>
    step history action after (reachable_filed reached) agree stepped⟩

instance (env : ReportEnv) (state : ReportState) (tenantId : Uuid) (reportType : String)
    (now : Timestamp) : Decidable (RendersStored env state tenantId reportType now) :=
  decidable_of_iff (∀ rendered ∈ (rendering env tenantId reportType now state.tables).toOption,
      ∀ row ∈ state.reports, row.filePath = rendered.1.filePath →
        env.serialize row.reportType row.content = .ok rendered.2)
    ⟨fun agree report payload ran => agree (report, payload) (by rw [ran]; rfl),
      fun agree rendered member => agree rendered.1 rendered.2 (Result.toOption_eq_some member)⟩

instance (env : ReportEnv) (history : ReportHistory) : DecidablePred (KeepsFiles env history)
  | .artifacts _ => .isTrue trivial
  | .generate .. => inferInstanceAs (Decidable (RendersStored ..))

/-- A report is generated twice at one instant: the second call renders what its row holds. -/
theorem repeatedReport_agrees : ∃ history : ReportHistory,
    history.reports.map Report.reportType = ["json"] ∧
      ArtifactsAgree reportSample history.toReportState := by
  have executed : ((reportSystem reportSample).guardedRun (KeepsFiles reportSample)
      (.start (reportedTables [reportedDecision 30 10]) fun _ => none)
      [.generate 1 "json" ((1767225600 + 43200) * second),
        .generate 1 "json" ((1767225600 + 43200) * second)]).any
        (fun history => decide (history.reports.map Report.reportType = ["json"])) = true := by
    decide +kernel
  obtain ⟨history, reached, types⟩ := System.guardedRun_reaches executed
  exact ⟨history, types, (artifacts_agree reportSample _ _ history reached).1⟩

/-- A decision is committed on a reported day and the report generated again. -/
def repeatedReport : List ReportAction :=
  [.generate 1 "json" ((1767225600 + 43200) * second),
    .artifacts (reportedTables [reportedDecision 30 10, reportedDecision 31 13]),
    .generate 1 "json" ((1767225600 + 50400) * second)]

/-- The second call writes its file over that of the row, which stays as it is. -/
theorem repeatedReport_overwrites :
    ¬ ∀ (env : ReportEnv) (tables : ReportTables) (files : String → Option Bytes)
      (history : ReportHistory),
      (reportSystem env).Reachable (fun _ _ => True) (.start tables files) history →
      ArtifactsAgree env history.toReportState := by
  intro agrees
  have executed : ((reportSystem reportSample).run
      (.start (reportedTables [reportedDecision 30 10]) fun _ => none) repeatedReport).any
        (fun history => decide (∃ row ∈ history.reports, history.files row.filePath ≠
          (reportSample.serialize row.reportType row.content).toOption)) = true := by
    decide +kernel
  obtain ⟨history, -, reached, row, member, differ⟩ := System.run_reaches executed
  obtain ⟨payload, written, serialized⟩ := agrees reportSample _ _ history reached row member
  rw [written, serialized] at differ
  exact differ rfl

end Agreement

/-! ### What a cycle covers -/

section Cycle

/-- One turn of a cycle: the instant of its call, and what others have done to the tables since the
call before it. Decisions stay in their table. -/
structure Turn where
  now : Timestamp
  others : ReportTables → ReportTables
  keeps : ∀ tables, ∀ decision ∈ tables.decisions, ∃ kept ∈ (others tables).decisions,
    kept.id = decision.id ∧ kept.tenantId = decision.tenantId

/-- The history when the call of a turn begins. -/
def ReportHistory.await (turn : Turn) (history : ReportHistory) : ReportHistory :=
  { history with tables := turn.others history.tables }

/-- The calls of a cycle, turn after turn. What a call raises is counted. -/
def runCalls (env : ReportEnv) : List (Turn × Uuid × String) → ReportHistory → Nat × ReportHistory
  | [], history => (0, history)
  | (turn, tenantId, reportType) :: rest, history =>
      let called := (history.await turn).generate env tenantId reportType turn.now
      let ran := runCalls env rest called.2
      (match called.1 with
        | .ok _ => ran.1
        | .error _ => ran.1 + 1, ran.2)

/-- The calls of a cycle with their turns. -/
def cycleTurns (env : ReportEnv) (turn : Nat → Turn) (tables : ReportTables) :
    List (Turn × Uuid × String) :=
  (cycleCalls env tables).mapIdx fun index call => (turn index, call)

/-- `run_report_cycle`: a call for every tenant with decisions and every type, in turn. -/
def runReportCycle (env : ReportEnv) (turn : Nat → Turn) (history : ReportHistory) :
    Nat × ReportHistory :=
  runCalls env (cycleTurns env turn history.tables) history

/-- The ids of the decisions of a tenant. -/
def decisionIds (tenantId : Uuid) (tables : ReportTables) : List Uuid :=
  (listDecisions tenantId tables.decisions).map Decision.id

/-- A stored report of a tenant and a type was rendered from some decisions, among others. -/
def ReportHistory.Covers (env : ReportEnv) (tenantId : Uuid) (reportType : String) (wanted : List Uuid)
    (history : ReportHistory) : Prop :=
  ∃ rendering ∈ history.renderings, rendering.tenantId = tenantId ∧
    rendering.reportType = reportType ∧ rendering.row ∈ history.reports ∧
    (∃ document, renderDocument env reportType rendering.source = .ok document ∧
      document.content = some rendering.row.content) ∧
    ∀ id ∈ wanted, ∃ decision ∈ rendering.source.decisions, decision.id = id

/-- No row is stored under the id that a call computes. -/
def ReportHistory.Fresh (env : ReportEnv) (tenantId : Uuid) (reportType : String) (now : Timestamp)
    (history : ReportHistory) : Prop :=
  ∀ row ∈ history.reports, row.id ≠ reportId env.std tenantId reportType
    (readSource tenantId now history.tables).periodStart
    (readSource tenantId now history.tables).periodEnd

/-- A journaled row is stored. -/
def ReportHistory.Journaled (history : ReportHistory) : Prop :=
  ∀ rendering ∈ history.renderings, rendering.row ∈ history.reports

variable {env : ReportEnv} {tenantId : Uuid} {reportType : String} {now : Timestamp}
  {history : ReportHistory}

theorem call_cases (env : ReportEnv) (tenantId : Uuid) (reportType : String) (now : Timestamp)
    (history : ReportHistory) :
    (history.generate env tenantId reportType now).2.tables = history.tables ∧
      (((history.generate env tenantId reportType now).2.reports = history.reports ∧
          (history.generate env tenantId reportType now).2.renderings = history.renderings ∧
          (history.Fresh env tenantId reportType now →
            ∃ failure, (history.generate env tenantId reportType now).1 = .error failure)) ∨
        ∃ row document, history.Fresh env tenantId reportType now ∧
          (history.generate env tenantId reportType now).2.reports = history.reports ++ [row] ∧
          (history.generate env tenantId reportType now).2.renderings = history.renderings ++
            [{ tenantId, reportType, row, source := readSource tenantId now history.tables }] ∧
          renderDocument env reportType (readSource tenantId now history.tables) = .ok document ∧
          document.content = some row.content) := by
  have ended := generate_cases env tenantId reportType now history.toReportState
  unfold ReportHistory.generate
  generalize generate env tenantId reportType now history.toReportState = ran at ended ⊢
  obtain ⟨answer, after⟩ := ran
  have unchanged : history.renderings ++ (history.reports.drop history.reports.length).map (fun row =>
      ({ tenantId, reportType, row, source := readSource tenantId now history.tables } : Rendering)) =
      history.renderings := by
    rw [List.drop_length, List.map_nil, List.append_nil]
  cases ended with
  | unrendered failure failed => exact ⟨rfl, .inl ⟨rfl, unchanged, fun _ => ⟨_, rfl⟩⟩⟩
  | unsaved report payload failure rendered => exact ⟨rfl, .inl ⟨rfl, unchanged, fun _ => ⟨_, rfl⟩⟩⟩
  | duplicate report payload row other rendered converted known same =>
      refine ⟨rfl, .inl ⟨rfl, unchanged, fun fresh => absurd ?_ (fresh other known)⟩⟩
      obtain ⟨document, -, -, rfl⟩ := rendering_spec rendered
      exact same.trans (Report.toRow_stores converted).id
  | created report payload row rendered converted fresh =>
      obtain ⟨document, isDocument, -, rfl⟩ := rendering_spec rendered
      have stores := Report.toRow_stores converted
      refine ⟨rfl, .inr ⟨row, document, fun other member same => ?_, rfl, ?_, isDocument,
        stores.content⟩⟩
      · exact fresh other member (same.trans stores.id.symm)
      · show _ ++ List.map _ (List.drop _ (history.reports ++ [row])) = _
        rw [List.drop_left]
        rfl

theorem mem_decisionIds {tables : ReportTables} {id : Uuid} :
    id ∈ decisionIds tenantId tables ↔
      ∃ decision ∈ tables.decisions, decision.id = id ∧ decision.tenantId = tenantId := by
  simp only [decisionIds, listDecisions, List.mem_map, Sorting.mem_sortBy, List.mem_filter,
    decide_eq_true_eq, and_assoc]
  exact exists_congr fun decision => and_congr_right fun _ => and_comm

theorem mem_decisionIds_await {turn : Turn} {id : Uuid}
    (member : id ∈ decisionIds tenantId history.tables) :
    id ∈ decisionIds tenantId (history.await turn).tables := by
  obtain ⟨decision, stored, isId, isTenant⟩ := mem_decisionIds.mp member
  obtain ⟨kept, keptIn, sameId, sameTenant⟩ := turn.keeps history.tables decision stored
  exact mem_decisionIds.mpr ⟨kept, keptIn, sameId.trans isId, sameTenant.trans isTenant⟩

variable {wanted : List Uuid} {turn : Turn} {calls : List (Turn × Uuid × String)}

theorem ReportHistory.Covers.await (covers : history.Covers env tenantId reportType wanted)
    (turn : Turn) : (history.await turn).Covers env tenantId reportType wanted :=
  covers

theorem ReportHistory.Journaled.await (journaled : history.Journaled) (turn : Turn) :
    (history.await turn).Journaled :=
  journaled

theorem ReportHistory.Covers.generate (covers : history.Covers env tenantId reportType wanted)
    (otherId : Uuid) (otherType : String) (now : Timestamp) :
    (history.generate env otherId otherType now).2.Covers env tenantId reportType wanted := by
  obtain ⟨rendering, journaled, isTenant, isType, stored, rendered, contains⟩ := covers
  obtain ⟨-, ⟨reports, renderings, -⟩ | ⟨row, document, -, reports, renderings, -⟩⟩ :=
    call_cases env otherId otherType now history
  · refine ⟨rendering, ?_, isTenant, isType, ?_, rendered, contains⟩
    · rwa [renderings]
    · rwa [reports]
  · refine ⟨rendering, ?_, isTenant, isType, ?_, rendered, contains⟩
    · rw [renderings]
      exact List.mem_append_left _ journaled
    · rw [reports]
      exact List.mem_append_left _ stored

theorem covers_of_fresh (fresh : history.Fresh env tenantId reportType now)
    (returned : ∃ answer, (history.generate env tenantId reportType now).1 = .ok answer)
    (present : ∀ id ∈ wanted, id ∈ decisionIds tenantId history.tables) :
    (history.generate env tenantId reportType now).2.Covers env tenantId reportType wanted := by
  obtain ⟨-, ⟨-, -, raises⟩ | ⟨row, document, -, reports, renderings, rendered, content⟩⟩ :=
    call_cases env tenantId reportType now history
  · obtain ⟨answer, isAnswer⟩ := returned
    obtain ⟨failure, raised⟩ := raises fresh
    cases isAnswer.symm.trans raised
  · refine ⟨{ tenantId, reportType, row, source := readSource tenantId now history.tables }, ?_, rfl,
      rfl, ?_, ⟨document, rendered, content⟩, fun id member => ?_⟩
    · rw [renderings]
      exact List.mem_append_right _ List.mem_cons_self
    · rw [reports]
      exact List.mem_append_right _ List.mem_cons_self
    · exact List.mem_map.mp (present id member)

theorem covers_generate {otherId : Uuid} {otherType : String} (journaled : history.Journaled)
    (covers : (history.generate env otherId otherType now).2.Covers env tenantId reportType wanted) :
    history.Covers env tenantId reportType wanted ∨
      otherId = tenantId ∧ otherType = reportType ∧ history.Fresh env tenantId reportType now := by
  obtain ⟨rendering, member, isTenant, isType, -, rendered, contains⟩ := covers
  obtain ⟨-, ⟨-, renderings, -⟩ | ⟨row, document, fresh, -, renderings, -⟩⟩ :=
    call_cases env otherId otherType now history
  · rw [renderings] at member
    exact .inl ⟨rendering, member, isTenant, isType, journaled rendering member, rendered, contains⟩
  · rw [renderings] at member
    rcases List.mem_append.mp member with old | new
    · exact .inl ⟨rendering, old, isTenant, isType, journaled rendering old, rendered, contains⟩
    · obtain rfl := List.mem_singleton.mp new
      obtain rfl : otherId = tenantId := isTenant
      obtain rfl : otherType = reportType := isType
      exact .inr ⟨rfl, rfl, fresh⟩

theorem ReportHistory.Journaled.generate (journaled : history.Journaled) (tenantId : Uuid)
    (reportType : String) (now : Timestamp) :
    (history.generate env tenantId reportType now).2.Journaled := by
  intro rendering member
  obtain ⟨-, ⟨reports, renderings, -⟩ | ⟨row, document, -, reports, renderings, -⟩⟩ :=
    call_cases env tenantId reportType now history
  · rw [renderings] at member
    rw [reports]
    exact journaled rendering member
  · rw [renderings] at member
    rw [reports]
    rcases List.mem_append.mp member with old | new
    · exact List.mem_append_left _ (journaled rendering old)
    · rw [List.mem_singleton.mp new]
      exact List.mem_append_right _ List.mem_cons_self

/-! #### The calls of a cycle -/

/-- After the turns of a list of calls, the next call begins. -/
def ReportHistory.At (env : ReportEnv) (calls : List (Turn × Uuid × String)) (turn : Turn)
    (history : ReportHistory) : ReportHistory :=
  (runCalls env calls history).2.await turn

theorem runCalls_append (env : ReportEnv) (calls rest : List (Turn × Uuid × String))
    (history : ReportHistory) :
    runCalls env (calls ++ rest) history =
      ((runCalls env calls history).1 + (runCalls env rest (runCalls env calls history).2).1,
        (runCalls env rest (runCalls env calls history).2).2) := by
  induction calls generalizing history with
  | nil => simp [runCalls]
  | cons call calls ih =>
      obtain ⟨turn, tenantId, reportType⟩ := call
      simp only [List.cons_append, runCalls, ih]
      split
      · rfl
      · rw [Nat.add_right_comm]

theorem runCalls_returned
    (unfailed : (runCalls env ((turn, tenantId, reportType) :: calls) history).1 = 0) :
    ∃ answer, ((history.await turn).generate env tenantId reportType turn.now).1 = .ok answer := by
  rw [runCalls] at unfailed
  rcases called : ((history.await turn).generate env tenantId reportType turn.now).1 with
    failure | answer
  · simp [called] at unfailed
  · exact ⟨answer, rfl⟩

theorem mem_decisionIds_runCalls {id : Uuid} (member : id ∈ decisionIds tenantId history.tables) :
    id ∈ decisionIds tenantId (runCalls env calls history).2.tables := by
  induction calls generalizing history with
  | nil => exact member
  | cons call calls ih =>
      refine ih ?_
      rw [(call_cases env call.2.1 call.2.2 call.1.now (history.await call.1)).1]
      exact mem_decisionIds_await member

theorem ReportHistory.Covers.runCalls (covers : history.Covers env tenantId reportType wanted) :
    (runCalls env calls history).2.Covers env tenantId reportType wanted := by
  induction calls generalizing history with
  | nil => exact covers
  | cons call calls ih => exact ih ((covers.await call.1).generate _ _ _)

theorem covers_runCalls (journaled : history.Journaled)
    (covers : (runCalls env calls history).2.Covers env tenantId reportType wanted) :
    history.Covers env tenantId reportType wanted ∨
      ∃ earlier turn later, calls = earlier ++ (turn, tenantId, reportType) :: later ∧
        (history.At env earlier turn).Fresh env tenantId reportType turn.now := by
  induction calls generalizing history with
  | nil => exact .inl covers
  | cons call calls ih =>
      obtain ⟨turn, otherId, otherType⟩ := call
      rcases ih ((journaled.await turn).generate _ _ _) covers with
        before | ⟨earlier, later, rest, rfl, fresh⟩
      · rcases covers_generate (journaled.await turn) before with old | ⟨rfl, rfl, fresh⟩
        · exact .inl old
        · exact .inr ⟨[], turn, calls, rfl, fresh⟩
      · exact .inr ⟨(turn, otherId, otherType) :: earlier, later, rest, rfl, fresh⟩

theorem reachable_journaled {tables : ReportTables} {files : String → Option Bytes}
    {guard : ReportHistory → ReportAction → Prop}
    (reached : (reportSystem env).Reachable guard (.start tables files) history) :
    history.Journaled := by
  induction reached with
  | refl => exact fun rendering member => nomatch member
  | tail _ moved journaled =>
      obtain ⟨action, -, stepped⟩ := moved
      cases action with
      | artifacts tables =>
          rw [← Option.some.inj stepped]
          exact journaled
      | generate tenantId reportType now =>
          rw [← Option.some.inj stepped]
          exact journaled.generate tenantId reportType now

/-- A call of the cycle for a tenant and a type finds no row under its id, or a report of that tenant
and type which was rendered from all decisions that the tenant had when the cycle began. -/
def Served (env : ReportEnv) (turn : Nat → Turn) (history : ReportHistory) (tenantId : Uuid)
    (reportType : String) : Prop :=
  ∃ earlier present later,
    cycleTurns env turn history.tables = earlier ++ (present, tenantId, reportType) :: later ∧
      ((history.At env earlier present).Fresh env tenantId reportType present.now ∨
        (history.At env earlier present).Covers env tenantId reportType
          (decisionIds tenantId history.tables))

theorem exists_turn {turns : Nat → Turn} {tables : ReportTables}
    (isTenant : tenantId ∈ decisionTenants tables.decisions) (isType : reportType ∈ env.reportTypes) :
    ∃ earlier turn later, cycleTurns env turns tables = earlier ++ (turn, tenantId, reportType) :: later := by
  have call : (tenantId, reportType) ∈ cycleCalls env tables :=
    List.mem_flatMap.mpr ⟨tenantId, isTenant, List.mem_map_of_mem isType⟩
  obtain ⟨index, inside, isCall⟩ := List.mem_iff_getElem.mp call
  have member : (turns index, tenantId, reportType) ∈ cycleTurns env turns tables :=
    List.mem_mapIdx.mpr ⟨index, inside, by rw [isCall]⟩
  obtain ⟨earlier, later, split⟩ := List.append_of_mem member
  exact ⟨earlier, turns index, later, split⟩

/-- **After a cycle without a failed call** every tenant with decisions has, of every type, a report of
all decisions that it had when the cycle began, exactly when each of them was served. -/
theorem cycle_covers_iff (env : ReportEnv) (tables : ReportTables) (files : String → Option Bytes)
    (history : ReportHistory)
    (reached : (reportSystem env).Reachable (fun _ _ => True) (.start tables files) history)
    (turn : Nat → Turn) (unfailed : (runReportCycle env turn history).1 = 0) :
    (∀ tenantId ∈ decisionTenants history.tables.decisions, ∀ reportType ∈ env.reportTypes,
      (runReportCycle env turn history).2.Covers env tenantId reportType
        (decisionIds tenantId history.tables)) ↔
    ∀ tenantId ∈ decisionTenants history.tables.decisions, ∀ reportType ∈ env.reportTypes,
      Served env turn history tenantId reportType := by
  refine forall₂_congr fun tenantId isTenant => forall₂_congr fun reportType isType => ?_
  constructor
  · intro covers
    rcases covers_runCalls (reachable_journaled reached) covers with
      old | ⟨earlier, present, later, split, fresh⟩
    · obtain ⟨earlier, present, later, split⟩ := exists_turn isTenant isType
      exact ⟨earlier, present, later, split, .inr (old.runCalls.await present)⟩
    · exact ⟨earlier, present, later, split, .inl fresh⟩
  · rintro ⟨earlier, present, later, split, served⟩
    rw [runReportCycle, split, runCalls_append] at unfailed ⊢
    suffices called : ((history.At env earlier present).generate env tenantId reportType
        present.now).2.Covers env tenantId reportType (decisionIds tenantId history.tables) from
      called.runCalls
    rcases served with fresh | covers
    · refine covers_of_fresh fresh (runCalls_returned (Nat.eq_zero_of_add_eq_zero_left unfailed)) ?_
      exact fun id member => mem_decisionIds_await (mem_decisionIds_runCalls member)
    · exact covers.generate _ _ _

/-- A turn before which nobody has done anything. -/
def quietTurn (now : Timestamp) : Turn where
  now := now
  others := id
  keeps := fun _ decision stored => ⟨decision, stored, rfl, rfl⟩

/-- A configuration for JSON reports alone. -/
def jsonSample : ReportEnv :=
  { reportSample with reportTypes := ["json"] }

/-- The first cycle over a tenant with a decision. -/
theorem firstCycle_covers :
    (runReportCycle jsonSample (fun _ => quietTurn ((1767225600 + 43200) * second))
      (.start (reportedTables [reportedDecision 30 10]) fun _ => none)).2.Covers jsonSample 1 "json"
        (decisionIds 1 (reportedTables [reportedDecision 30 10])) := by
  refine (cycle_covers_iff jsonSample (reportedTables [reportedDecision 30 10]) (fun _ => none)
    (.start (reportedTables [reportedDecision 30 10]) fun _ => none) .refl
    (fun _ => quietTurn ((1767225600 + 43200) * second)) (by decide +kernel)).mpr ?_ 1 (by decide)
      "json" (by decide)
  intro tenantId isTenant reportType isType
  obtain rfl : tenantId = 1 := List.mem_singleton.mp isTenant
  obtain rfl : reportType = "json" := List.mem_singleton.mp isType
  exact ⟨[], _, [], rfl, .inl fun row member => nomatch member⟩

/-- The report of a tenant with a decision, then another decision on the reported day. -/
def committedWithin : List ReportAction :=
  [.generate 1 "json" ((1767225600 + 43200) * second),
    .artifacts (reportedTables [reportedDecision 30 10, reportedDecision 31 13])]

/-- The cycle after it. -/
def lateCycle (history : ReportHistory) : Nat × ReportHistory :=
  runReportCycle jsonSample (fun _ => quietTurn ((1767225600 + 50400) * second)) history

/-- It computes the id of the stored report and stores none of the new decision. -/
theorem committedWithin_uncovered :
    ¬ ∀ (env : ReportEnv) (tables : ReportTables) (files : String → Option Bytes)
      (history : ReportHistory),
      (reportSystem env).Reachable (fun _ _ => True) (.start tables files) history →
      ∀ turn : Nat → Turn, (runReportCycle env turn history).1 = 0 →
        ∀ tenantId ∈ decisionTenants history.tables.decisions, ∀ reportType ∈ env.reportTypes,
          (runReportCycle env turn history).2.Covers env tenantId reportType
            (decisionIds tenantId history.tables) := by
  intro covers
  have executed : ((reportSystem jsonSample).run
      (.start (reportedTables [reportedDecision 30 10]) fun _ => none) committedWithin).any
        (fun history => decide ((lateCycle history).1 = 0 ∧
          1 ∈ decisionTenants history.tables.decisions ∧ 31 ∈ decisionIds 1 history.tables ∧
          ∀ rendering ∈ (lateCycle history).2.renderings,
            ∀ decision ∈ rendering.source.decisions, decision.id = 30)) = true := by
    decide +kernel
  obtain ⟨history, -, reached, unfailed, isTenant, committed, rendered⟩ := System.run_reaches executed
  obtain ⟨rendering, journaled, -, -, -, -, contains⟩ := covers jsonSample _ _ history reached _
    unfailed 1 isTenant "json" (by decide)
  obtain ⟨decision, member, isId⟩ := contains 31 committed
  have other := rendered rendering journaled decision member
  rw [isId] at other
  exact absurd other (by decide)

end Cycle

end CosMonitor
