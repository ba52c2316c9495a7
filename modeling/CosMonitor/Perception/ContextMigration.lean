/-
**The migration that installs the index of the active contexts.**

`phase5-context-activation-atomicity.sql` deletes every active context but the most recent of its tenant
and purpose, and then creates the unique index. The table has had its trigger since an earlier migration,
and this trigger raises on every delete.

* `protectContextContent`: the trigger function;
* `deleteWhere_eq`: a `DELETE` succeeds exactly when it selects no row;
* `migrate`: the two statements, for every order in which the database sorts contexts of one instant;
* `migration_iff`: the migration does its work exactly when there is none, with at most one active context
  for each tenant and purpose to begin with.
-/

import CosMonitor.Foundation.Result
import CosMonitor.Perception.ContextStore

namespace CosMonitor

open Table

/-! ### The trigger -/

section Trigger

/-- What leaves the migration as an exception. -/
inductive MigrationError where
  | raised (message : String)
  | db (failure : DbError)
  deriving DecidableEq

/-- A change of a row that fires the trigger. -/
inductive RowChange where
  | update (old new : Context)
  | delete (old : Context)

/-- `protect_context_content`. -/
def protectContextContent : RowChange → Except MigrationError Unit
  | .delete _ => .error (.raised "Context rows are never deleted (audit trail).")
  | .update old new =>
      if new.id ≠ old.id ∨ new.tenantId ≠ old.tenantId ∨ new.evidenceIds ≠ old.evidenceIds ∨
          new.mentalModelId ≠ old.mentalModelId ∨ new.purpose ≠ old.purpose ∨
          new.coherenceScore ≠ old.coherenceScore ∨ new.competingModels ≠ old.competingModels ∨
          new.activatedAt ≠ old.activatedAt then
        .error (.raised "Context content is immutable (P1). Only is_active may change.")
      else .ok ()

/-- `DELETE FROM contexts WHERE …`: the trigger fires for each selected row. -/
def deleteWhere (selected : Context → Bool) : List Context → Except MigrationError (List Context)
  | [] => .ok []
  | row :: rest =>
      if selected row then do
        protectContextContent (.delete row)
        deleteWhere selected rest
      else do
        let kept ← deleteWhere selected rest
        return row :: kept

/-- **A delete succeeds** exactly when it selects no row, and then it changes nothing. -/
theorem deleteWhere_eq {selected : Context → Bool} {rows after : List Context} :
    deleteWhere selected rows = .ok after ↔ (∀ row ∈ rows, selected row = false) ∧ after = rows := by
  induction rows generalizing after with
  | nil =>
      rw [deleteWhere, Except.ok.injEq]
      exact ⟨fun same => ⟨(fun _ member => nomatch member), same.symm⟩, fun both => both.2.symm⟩
  | cons row rest ih =>
      rw [deleteWhere, List.forall_mem_cons]
      split
      · rename_i chosen
        refine iff_of_false (fun deleted => nomatch deleted) fun both => ?_
        rw [chosen] at both
        exact absurd both.1.1 (by decide)
      · rename_i spared
        rw [Result.bind_eq_ok]
        have isSpared : selected row = false := by simpa using spared
        constructor
        · rintro ⟨kept, deleted, same⟩
          obtain ⟨others, rfl⟩ := ih.mp deleted
          exact ⟨⟨isSpared, others⟩, (Result.pure_eq_ok.mp same).symm⟩
        · rintro ⟨⟨-, others⟩, rfl⟩
          exact ⟨rest, ih.mpr ⟨others, rfl⟩, rfl⟩

end Trigger

/-! ### The migration -/

section Migration

/-- The table of the earlier schema. Its index may be there, from a run of the migration. -/
structure EarlierContexts where
  rows : List Context
  indexed : Bool
  idUnique : UniqueOn Context.id (fun _ => true) rows
  activeUnique : indexed = true → UniqueOn Context.group Context.isActive rows

/-- The active rows as the migration may sort them: those of one tenant and purpose from the most recent
to the oldest. The order within one instant is the database's. -/
structure ActiveOrdering (rows ordered : List Context) : Prop where
  same : ordered.Perm (rows.filter Context.isActive)
  recentFirst : ordered.Pairwise fun first second =>
    first.group = second.group → second.activatedAt ≤ first.activatedAt

/-- `CREATE UNIQUE INDEX IF NOT EXISTS idx_contexts_unique_active`. -/
def createActiveIndex (indexed : Bool) (rows : List Context) : Except MigrationError Unit :=
  if indexed then .ok ()
  else if UniqueOn Context.group Context.isActive rows then .ok ()
  else .error (.db (.uniqueViolation "idx_contexts_unique_active"))

/-- `phase5-context-activation-atomicity.sql`, up to its first exception: the rows that it leaves. -/
def migrate (ordered : List Context) (table : EarlierContexts) :
    Except MigrationError (List Context) := do
  let kept := (distinctOn Context.group ordered).map Context.id
  let rows ← deleteWhere (fun row => decide (row.id ∉ kept) && row.isActive) table.rows
  createActiveIndex table.indexed rows
  return rows

/-- The number of active rows of a tenant and purpose. -/
def activeRows (rows : List Context) (group : Uuid × String) : Nat :=
  rows.countP fun row => row.isActive && decide (row.group = group)

/-- The one active row of each tenant and purpose that had one is the most recent that it had. -/
structure KeepsMostRecent (before after : List Context) : Prop where
  oneActive : ∀ group, activeRows after group ≤ 1
  kept : ∀ row ∈ before, row.isActive → ∃ recent ∈ after, recent.isActive ∧ recent.group = row.group
  recent : ∀ recent ∈ after, recent.isActive → recent ∈ before ∧
    ∀ row ∈ before, row.isActive → row.group = recent.group → row.activatedAt ≤ recent.activatedAt

variable {ordered : List Context} {table : EarlierContexts}

theorem migrate_unique (ordering : ActiveOrdering table.rows ordered)
    (unique : UniqueOn Context.group Context.isActive table.rows) :
    migrate ordered table = .ok table.rows := by
  have all : distinctOn Context.group ordered = ordered :=
    distinctOn_eq_self ((ordering.same.map Context.group).nodup_iff.mpr unique)
  have spared : deleteWhere (fun row => decide (row.id ∉
      (distinctOn Context.group ordered).map Context.id) && row.isActive) table.rows =
        .ok table.rows := by
    refine deleteWhere_eq.mpr ⟨fun row member => ?_, rfl⟩
    rw [all, Bool.and_eq_false_iff]
    by_cases active : row.isActive = true
    · refine .inl (decide_eq_false (not_not.mpr ?_))
      have inside := ordering.same.mem_iff.mpr (List.mem_filter.mpr ⟨member, active⟩)
      exact List.mem_map.mpr ⟨row, inside, rfl⟩
    · exact .inr (by simpa using active)
  have created : createActiveIndex table.indexed table.rows = .ok () := by
    rw [createActiveIndex, if_pos unique, ite_self]
  unfold migrate
  dsimp only
  rw [spared, Result.ok_bind, created]
  rfl

theorem migrate_ok {after : List Context} (migrated : migrate ordered table = .ok after) :
    after = table.rows ∧ UniqueOn Context.group Context.isActive table.rows := by
  obtain ⟨rows, deleted, indexing⟩ := Result.bind_eq_ok.mp migrated
  obtain ⟨-, rfl⟩ := deleteWhere_eq.mp deleted
  obtain ⟨created, isCreated, returned⟩ := Result.bind_eq_ok.mp indexing
  refine ⟨(Result.pure_eq_ok.mp returned).symm, ?_⟩
  unfold createActiveIndex at isCreated
  split at isCreated
  · rename_i indexed
    exact table.activeUnique indexed
  · split at isCreated
    · assumption
    · cases isCreated

/-- **When the migration succeeds.** Whatever the contexts of the earlier schema are, the migration
completes and keeps of the active contexts of each tenant and purpose the most recent one, exactly when no
tenant and purpose has two of them. -/
theorem migration_iff (table : EarlierContexts) (ordered : List Context)
    (ordering : ActiveOrdering table.rows ordered) :
    (∃ after, migrate ordered table = .ok after ∧ KeepsMostRecent table.rows after) ↔
      ∀ group, activeRows table.rows group ≤ 1 := by
  have counted : (∀ group, activeRows table.rows group ≤ 1) ↔
      UniqueOn Context.group Context.isActive table.rows :=
    uniqueOn_iff_count_le_one.symm
  rw [counted]
  constructor
  · rintro ⟨after, migrated, -⟩
    exact (migrate_ok migrated).2
  · intro unique
    refine ⟨table.rows, migrate_unique ordering unique, counted.mpr unique, ?_, ?_⟩
    · intro row member active
      exact ⟨row, member, active, rfl⟩
    · intro recent member active
      refine ⟨member, fun row rowIn rowActive same => ?_⟩
      rw [unique.eq_of_key rowIn member rowActive active same]

end Migration

/-! ### Two activations of one purpose -/

/-- Two active contexts of a tenant for one purpose. -/
def twiceActivated : EarlierContexts where
  rows := [(healthActivation 10).val, { (healthActivation 11).val with activatedAt := 5 }]
  indexed := false
  idUnique := by decide
  activeUnique := fun indexed => nomatch indexed

theorem twiceActivated_ordering :
    ActiveOrdering twiceActivated.rows
      [{ (healthActivation 11).val with activatedAt := 5 }, (healthActivation 10).val] where
  same := List.Perm.swap _ _ []
  recentFirst := by decide

/-- **The migration raises** on its first row to delete. -/
theorem twiceActivated_raises :
    ActiveOrdering twiceActivated.rows
        [{ (healthActivation 11).val with activatedAt := 5 }, (healthActivation 10).val] ∧
      migrate [{ (healthActivation 11).val with activatedAt := 5 }, (healthActivation 10).val]
          twiceActivated =
        .error (.raised "Context rows are never deleted (audit trail).") :=
  ⟨twiceActivated_ordering, by decide +kernel⟩

/-- Two tenants with an active context each for one purpose; the first one had another before. -/
def onceActivated : EarlierContexts where
  rows := [{ (healthActivation 10).val with isActive := false },
    { (healthActivation 11).val with activatedAt := 5 }, { (healthActivation 12).val with tenantId := 2 }]
  indexed := false
  idUnique := by decide
  activeUnique := fun indexed => nomatch indexed

/-- There it succeeds. -/
theorem onceActivated_migrates : ∃ after,
    migrate (onceActivated.rows.filter Context.isActive) onceActivated = .ok after ∧
      KeepsMostRecent onceActivated.rows after :=
  (migration_iff onceActivated _ ⟨List.Perm.refl _, by decide⟩).mpr
    (uniqueOn_iff_count_le_one.mp (by decide))

end CosMonitor
