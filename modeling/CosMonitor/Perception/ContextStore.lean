/-
**The context store — one active context for each tenant and purpose.**

`ContextStore.save_context` runs one transaction: an active context deactivates the other active rows
of its tenant and purpose, then `INSERT … ON CONFLICT (id) DO NOTHING`. A `ContextTable` carries its
primary key, its partial unique index and its column width as fields.

* `saveContext_active`: after a successful activation the group has exactly one active row;
* `saveContext_dedup_iff`: a save of a stored id changes nothing exactly when it supersedes nobody;
* `activations_supersede`: over runs whose calls all meet `SupersedesNobody`, every activated group
  has exactly one active row and a duplicate changes no flag;
* `resaved_context_deactivates`: saving a superseded context again leaves its group without one.
-/

import CosMonitor.Base.Database
import CosMonitor.Base.Json
import CosMonitor.Foundation.Result
import CosMonitor.Foundation.Table
import CosMonitor.Foundation.Transition

namespace CosMonitor

open Table

/-- An activated context. The score is the decimal that the driver sends for the float. -/
structure Context where
  id : Uuid
  tenantId : Uuid
  evidenceIds : List Uuid
  mentalModelId : String
  purpose : String
  coherenceScore : UnitScore
  competingModels : List Json
  activatedAt : Timestamp
  isActive : Bool
  deriving DecidableEq

namespace Context

/-- The tenant and purpose within which one context is active. -/
def group (context : Context) : Uuid × String :=
  (context.tenantId, context.purpose)

/-- The row with its lifecycle flag cleared. -/
def deactivated (context : Context) : Context :=
  { context with isActive := false }

@[simp] theorem deactivated_isActive (context : Context) :
    context.deactivated.isActive = false := rfl

/-- The row that `INSERT INTO contexts` stores: texts assigned to `VARCHAR`, the score to
`NUMERIC(3,2)`. -/
def toRow (context : Context) : Except DbError Context := do
  let mentalModelId ← varchar 100 context.mentalModelId
  let purpose ← varchar 200 context.purpose
  return { context with
    mentalModelId
    purpose
    coherenceScore := context.coherenceScore.numeric 2 }

theorem toRow_eq_ok {context row : Context} (stored : context.toRow = .ok row) :
    ∃ mentalModelId purpose, varchar 200 context.purpose = .ok purpose ∧
      row = { context with mentalModelId, purpose, coherenceScore := context.coherenceScore.numeric 2 } := by
  obtain ⟨mentalModelId, -, stored⟩ := Result.bind_eq_ok.mp stored
  obtain ⟨purpose, width, same⟩ := Result.bind_eq_ok.mp stored
  exact ⟨mentalModelId, purpose, width, (Result.pure_eq_ok.mp same).symm⟩

theorem toRow_spec {context row : Context} (stored : context.toRow = .ok row) :
    row.id = context.id ∧ row.tenantId = context.tenantId ∧ row.isActive = context.isActive ∧
      varchar 200 context.purpose = .ok row.purpose := by
  obtain ⟨_, _, width, rfl⟩ := toRow_eq_ok stored
  exact ⟨rfl, rfl, rfl, width⟩

theorem toRow_competing {context row : Context} (stored : context.toRow = .ok row) :
    row.competingModels = context.competingModels := by
  obtain ⟨_, _, -, rfl⟩ := toRow_eq_ok stored
  rfl

end Context

/-! ### The table -/

/-- The rows of `contexts`, with the primary key, `idx_contexts_unique_active` and the width of the
purpose column. -/
structure ContextTable where
  rows : List Context
  idUnique : UniqueOn Context.id (fun _ => true) rows
  activeUnique : UniqueOn Context.group Context.isActive rows
  purposeFits : ∀ row ∈ rows, row.purpose.length ≤ 200

namespace ContextTable

/-- The number of active rows of a tenant and purpose. -/
def activeCount (table : ContextTable) (group : Uuid × String) : Nat :=
  table.rows.countP fun row => row.isActive && decide (row.group = group)

theorem ext_rows {first second : ContextTable} (same : first.rows = second.rows) :
    first = second := by
  cases first
  cases second
  cases same
  rfl

/-- The `WHERE` of `DEACTIVATE_CONTEXT`. -/
def deactivates (tenantId : Uuid) (purpose : String) (excludeId : Uuid) (row : Context) : Bool :=
  row.tenantId == tenantId && row.purpose == purpose && row.isActive && row.id != excludeId

/-- `DEACTIVATE_CONTEXT`: clear the flag of the active rows of a tenant and purpose, one id apart. -/
def deactivateContext (tenantId : Uuid) (purpose : String) (excludeId : Uuid)
    (table : ContextTable) : ContextTable where
  rows := updateWhere (deactivates tenantId purpose excludeId) Context.deactivated table.rows
  idUnique := table.idUnique.updateWhere fun _ _ _ _ => ⟨rfl, rfl⟩
  activeUnique := table.activeUnique.updateWhere fun _ _ _ inside => by simp at inside
  purposeFits := by
    intro row member
    rcases mem_updateWhere.mp member with ⟨old, oldIn, _, rfl⟩ | ⟨oldIn, _⟩
    · exact table.purposeFits old oldIn
    · exact table.purposeFits row oldIn

/-- `INSERT_CONTEXT … ON CONFLICT (id) DO NOTHING`: the row, if one was inserted. The index on the
active rows and the reference to `tenants` are checked for a row that is inserted. -/
def insertContext (tenants : List Uuid) (context : Context) (table : ContextTable) :
    Except DbError (Option Context × ContextTable) :=
  match stored : context.toRow with
  | .error failure => .error failure
  | .ok row =>
      if present : ∃ other ∈ table.rows, other.id = row.id then .ok (none, table)
      else if unique : UniqueOn Context.group Context.isActive (table.rows ++ [row]) then
        if row.tenantId ∈ tenants then
          .ok (some row,
            { rows := table.rows ++ [row]
              idUnique := uniqueOn_append.mpr ⟨table.idUnique, fun _ other member _ same =>
                present ⟨other, member, same⟩⟩
              activeUnique := unique
              purposeFits := fun other member => by
                rcases List.mem_append.mp member with old | new
                · exact table.purposeFits other old
                · rw [List.mem_singleton.mp new]
                  exact varchar_length (Context.toRow_spec stored).2.2.2 })
        else .error (.foreignKeyViolation "tenant_id")
      else .error (.uniqueViolation "idx_contexts_unique_active")

end ContextTable

/-- `ContextStore.save_context`. An error rolls the transaction back: the caller keeps its table. -/
def saveContext (tenants : List Uuid) (context : Context) (table : ContextTable) :
    Except DbError (Option Context × ContextTable) :=
  let superseded :=
    if context.isActive then table.deactivateContext context.tenantId context.purpose context.id
    else table
  superseded.insertContext tenants context

/-! ### The deactivation -/

section Deactivate

variable {tenants : List Uuid} {context row : Context} {table : ContextTable}

/-- Another row of the context's tenant and purpose is active. -/
def SupersedesSomebody (table : ContextTable) (context : Context) : Prop :=
  ∃ row ∈ table.rows, row.group = context.group ∧ row.isActive = true ∧ row.id ≠ context.id

instance : Decidable (SupersedesSomebody table context) :=
  inferInstanceAs (Decidable (∃ row ∈ table.rows, _))

theorem deactivates_iff :
    ContextTable.deactivates context.tenantId context.purpose context.id row = true ↔
      row.group = context.group ∧ row.isActive = true ∧ row.id ≠ context.id := by
  simp [ContextTable.deactivates, Context.group, and_assoc]

theorem deactivateContext_eq_self_iff :
    table.deactivateContext context.tenantId context.purpose context.id = table ↔
      ¬SupersedesSomebody table context := by
  constructor
  · rintro same ⟨row, member, group, active, other⟩
    have cleared : row.deactivated ∈
        (table.deactivateContext context.tenantId context.purpose context.id).rows :=
      mem_updateWhere.mpr (.inl ⟨row, member, deactivates_iff.mpr ⟨group, active, other⟩, rfl⟩)
    rw [same] at cleared
    have equal := table.idUnique.eq_of_key cleared member rfl rfl rfl
    have flags := congrArg Context.isActive equal
    rw [Context.deactivated_isActive, active] at flags
    cases flags
  · intro nobody
    refine ContextTable.ext_rows (updateWhere_eq_self fun row member selected => ?_)
    exact absurd ⟨row, member, deactivates_iff.mp selected⟩ nobody

theorem deactivateContext_remaining
    (member : row ∈ (table.deactivateContext context.tenantId context.purpose context.id).rows)
    (active : row.isActive = true) (group : row.group = context.group) : row.id = context.id := by
  rcases mem_updateWhere.mp member with ⟨old, _, _, rfl⟩ | ⟨_, skipped⟩
  · simp at active
  · by_contra other
    rw [Bool.eq_false_iff] at skipped
    exact skipped (deactivates_iff.mpr ⟨group, active, other⟩)

theorem deactivateContext_activeCount {group : Uuid × String} (apart : group ≠ context.group) :
    (table.deactivateContext context.tenantId context.purpose context.id).activeCount group =
      table.activeCount group := by
  unfold ContextTable.activeCount ContextTable.deactivateContext updateWhere
  rw [List.countP_map]
  refine List.countP_congr fun row _ => ?_
  by_cases selected :
      ContextTable.deactivates context.tenantId context.purpose context.id row = true
  · have same := (deactivates_iff.mp selected).1
    simp [selected, same, apart.symm]
  · simp [selected]

theorem deactivateContext_ids :
    (table.deactivateContext context.tenantId context.purpose context.id).rows.map Context.id =
      table.rows.map Context.id :=
  updateWhere_map Context.id fun _ _ _ => rfl

/-- No stored row has the id. -/
def Unsaved (table : ContextTable) (id : Uuid) : Prop :=
  ∀ row ∈ table.rows, row.id ≠ id

instance {id : Uuid} : Decidable (Unsaved table id) :=
  inferInstanceAs (Decidable (∀ row ∈ table.rows, _))

theorem deactivateContext_unsaved {id : Uuid} :
    Unsaved (table.deactivateContext context.tenantId context.purpose context.id) id ↔
      Unsaved table id := by
  have byIds : ∀ rows : ContextTable, Unsaved rows id ↔ id ∉ rows.rows.map Context.id := by
    intro rows
    simp [Unsaved]
  rw [byIds, byIds, deactivateContext_ids]

end Deactivate

/-! ### The insert -/

section Insert

variable {tenants : List Uuid} {context row : Context} {table after : ContextTable}

theorem insertContext_cases {result : Option Context}
    (returned : table.insertContext tenants context = .ok (result, after)) :
    (result = none ∧ after = table ∧ ¬Unsaved table context.id) ∨
      ∃ row, result = some row ∧ context.toRow = .ok row ∧ after.rows = table.rows ++ [row] ∧
        Unsaved table context.id ∧ row.tenantId ∈ tenants := by
  unfold ContextTable.insertContext at returned
  split at returned
  · cases returned
  · rename_i row stored
    have sameId := (Context.toRow_spec stored).1
    split at returned
    · rename_i present
      obtain ⟨rfl, rfl⟩ := Prod.mk.inj (Except.ok.inj returned)
      refine .inl ⟨rfl, rfl, fun unsaved => ?_⟩
      obtain ⟨other, member, same⟩ := present
      exact unsaved other member (same.trans sameId)
    · rename_i absent
      split at returned
      · split at returned
        · rename_i known
          obtain ⟨rfl, rfl⟩ := Prod.mk.inj (Except.ok.inj returned)
          refine .inr ⟨row, rfl, stored, rfl, fun other member same => ?_, known⟩
          exact absent ⟨other, member, same.trans sameId.symm⟩
        · cases returned
      · cases returned

end Insert

/-! ### What one save does -/

section Save

variable {tenants : List Uuid} {context row : Context} {table after : ContextTable}

/-- **A successful activation leaves its group with exactly one active row.** The group is the stored
row's: a purpose that only spaces make too long is stored without them. -/
theorem saveContext_active (active : context.isActive = true)
    (saved : saveContext tenants context table = .ok (some row, after)) :
    after.activeCount row.group = 1 := by
  rcases insertContext_cases saved with ⟨missing, -, -⟩ | ⟨stored, found, toRow, rows, -, -⟩
  · cases missing
  · cases found
    have flag := (Context.toRow_spec toRow).2.2.1
    refine Nat.le_antisymm (after.activeUnique.count_le_one row.group) ?_
    refine List.countP_pos_iff.mpr ⟨row, ?_, ?_⟩
    · rw [rows]
      exact List.mem_append_right _ List.mem_cons_self
    · simp [flag, active]

/-- The save inserts a new row, or supersedes nobody. -/
def SupersedesNobody (table : ContextTable) (context : Context) : Prop :=
  Unsaved table context.id ∨ ¬SupersedesSomebody table context

instance : Decidable (SupersedesNobody table context) :=
  inferInstanceAs (Decidable (_ ∨ _))

/-- **A duplicate changes nothing exactly when it supersedes nobody.** -/
theorem saveContext_dedup_iff (active : context.isActive = true)
    (saved : saveContext tenants context table = .ok (none, after)) :
    after = table ↔ SupersedesNobody table context := by
  have skipped := saved
  unfold saveContext at skipped
  simp only [active, if_true] at skipped
  rcases insertContext_cases skipped with ⟨-, same, present⟩ | ⟨row, missing, -⟩
  · rw [same, deactivateContext_eq_self_iff]
    have stored : ¬Unsaved table context.id := fun unsaved =>
      present (deactivateContext_unsaved.mpr unsaved)
    simp [SupersedesNobody, stored]
  · cases missing

theorem saveContext_frame (active : context.isActive = true) {group : Uuid × String}
    (saved : saveContext tenants context table = .ok (some row, after))
    (notRow : group ≠ row.group) (notContext : group ≠ context.group) :
    after.activeCount group = table.activeCount group := by
  unfold saveContext at saved
  simp only [active, if_true] at saved
  rcases insertContext_cases saved with ⟨missing, -, -⟩ | ⟨stored, found, -, rows, -, -⟩
  · cases missing
  · cases found
    have cleared : (table.deactivateContext context.tenantId context.purpose
        context.id).activeCount group = table.activeCount group :=
      deactivateContext_activeCount notContext
    rw [← cleared]
    unfold ContextTable.activeCount
    rw [rows, List.countP_append]
    simp [notRow.symm]

end Save

/-! ### Runs of activations -/

section Runs

/-- A table with the groups for which some call has saved a context. -/
structure ActivationState where
  table : ContextTable
  activated : List (Uuid × String)

/-- A context whose flag is set. -/
abbrev ActiveContext := { context : Context // context.isActive = true }

/-- `save_context` calls with active contexts, in any order. A call that raises changes nothing. -/
def activations (tenants : List Uuid) : Transition.System ActivationState ActiveContext where
  step state context :=
    match saveContext tenants context.val state.table with
    | .error _ => some state
    | .ok (none, after) => some { state with table := after }
    | .ok (some row, after) => some ⟨after, row.group :: state.activated⟩

variable {tenants : List Uuid}

/-- Every activated group has exactly one active row, and a purpose that fits its column. -/
def OneActive (state : ActivationState) : Prop :=
  ∀ group ∈ state.activated, state.table.activeCount group = 1 ∧ group.2.length ≤ 200

theorem activations_step (before after : ActivationState) (context : ActiveContext)
    (one : OneActive before) (nobody : SupersedesNobody before.table context.val)
    (moved : (activations tenants).step before context = some after) : OneActive after := by
  obtain ⟨context, active⟩ := context
  unfold activations at moved
  simp only at moved
  split at moved
  · rw [← Option.some.inj moved]
    exact one
  · rename_i table saved
    rw [← Option.some.inj moved]
    have same := (saveContext_dedup_iff active saved).mpr nobody
    rw [same]
    exact one
  · rename_i row table saved
    rw [← Option.some.inj moved]
    have rowOne := saveContext_active active saved
    have rowIn : row ∈ table.rows := by
      rcases insertContext_cases saved with ⟨missing, -, -⟩ | ⟨stored, found, -, rows, -, -⟩
      · cases missing
      · cases found
        rw [rows]
        exact List.mem_append_right _ List.mem_cons_self
    have rowFits := table.purposeFits row rowIn
    intro group member
    by_cases isRow : group = row.group
    · rw [isRow]
      exact ⟨rowOne, rowFits⟩
    · have old : group ∈ before.activated := by simpa [isRow] using member
      obtain ⟨count, fits⟩ := one group old
      refine ⟨?_, fits⟩
      rw [saveContext_frame active saved isRow ?_, count]
      rintro rfl
      -- A group that fits its column is stored under its own purpose.
      apply isRow
      rcases insertContext_cases saved with ⟨missing, -, -⟩ | ⟨stored, found, toRow, -, -, -⟩
      · cases missing
      · cases found
        obtain ⟨-, sameTenant, -, width⟩ := Context.toRow_spec toRow
        have samePurpose := Except.ok.inj ((varchar_fits fits).symm.trans width)
        exact Prod.ext sameTenant.symm samePurpose

/-- **Runs whose calls all supersede nobody or insert** keep exactly one active row in every
activated group, and a further such call that returns `None` changes no row. -/
theorem activations_supersede (start : ContextTable) (state : ActivationState)
    (reached : (activations tenants).Reachable
      (fun before context => SupersedesNobody before.table context.val) ⟨start, []⟩ state) :
    (∀ group ∈ state.activated, state.table.activeCount group = 1) ∧
      ∀ (context : ActiveContext) (after : ContextTable),
        SupersedesNobody state.table context.val →
          saveContext tenants context.val state.table = .ok (none, after) →
            after = state.table := by
  constructor
  · have one : OneActive state :=
      reached.invariant (fun _ member => by cases member)
        (fun before context after => activations_step before after context)
    exact fun group member => (one group member).1
  · intro context after nobody saved
    exact (saveContext_dedup_iff context.property saved).mpr nobody

/-- The table before the first activation. -/
def ContextTable.empty : ContextTable where
  rows := []
  idUnique := uniqueOn_nil
  activeUnique := uniqueOn_nil
  purposeFits := fun _ member => by cases member

/-- An activation of `resource_pressure` for the infrastructure health of tenant 1. -/
def healthActivation (id : Uuid) : ActiveContext where
  val :=
    { id
      tenantId := 1
      evidenceIds := []
      mentalModelId := "resource_pressure"
      purpose := "infrastructure_health"
      coherenceScore := ⟨1, one_isUnit⟩
      competingModels := []
      activatedAt := 0
      isActive := true }
  property := rfl

/-- Two activations leave one active row. Saving the first context again returns `None`, clears the
flag of the second and leaves the group without an active row. -/
theorem resaved_context_deactivates :
    ∃ two three : ActivationState,
      (activations [1]).run ⟨ContextTable.empty, []⟩ [healthActivation 10, healthActivation 11] =
        some two ∧
      two.table.activeCount (1, "infrastructure_health") = 1 ∧
      saveContext [1] (healthActivation 10).val two.table = .ok (none, three.table) ∧
      (activations [1]).step two (healthActivation 10) = some three ∧
      (1, "infrastructure_health") ∈ three.activated ∧
      three.table.activeCount (1, "infrastructure_health") = 0 ∧
      three.table.rows.map Context.isActive ≠ two.table.rows.map Context.isActive :=
  ⟨_, _, rfl, by decide +kernel, rfl, rfl, by decide +kernel, by decide +kernel,
    by decide +kernel⟩

/-- Two activations and a duplicate of the second meet the condition throughout. -/
theorem activations_supersede_duplicate :
    ∃ state : ActivationState,
      (activations [1]).guardedRun (fun before context => SupersedesNobody before.table context.val)
        ⟨ContextTable.empty, []⟩ [healthActivation 10, healthActivation 11, healthActivation 11] =
          some state ∧
      ∀ group ∈ state.activated, state.table.activeCount group = 1 := by
  obtain ⟨state, ran⟩ := Option.isSome_iff_exists.mp
    (show ((activations [1]).guardedRun
      (fun before context => SupersedesNobody before.table context.val) ⟨ContextTable.empty, []⟩
      [healthActivation 10, healthActivation 11, healthActivation 11]).isSome = true by
        decide +kernel)
  have reached := Transition.System.guardedRun_reachable ran
  exact ⟨state, ran, (activations_supersede ContextTable.empty state reached).1⟩

end Runs

end CosMonitor
