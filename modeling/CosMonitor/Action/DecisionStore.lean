/-
**`DecisionStore` — the writes of the decisions table.**

* `saveDecision`: `INSERT … ON CONFLICT (id) DO NOTHING`;
* `DecisionStore.updateOutcomes`: an update of the lifecycle columns that were passed; writing the outcomes
  marks the decision as observed;
* `saveDecision_cases`, `updateOutcomes_cases`: what a call has done.
-/

import CosMonitor.Action.Decision
import CosMonitor.Foundation.Result
import CosMonitor.Foundation.Table

namespace CosMonitor

open Table

/-- What a write of the decisions table raises. -/
inductive DecisionWriteError where
  | database (error : DbError)
  /-- `CHECK (outcome_status IN ('pending', 'observed'))` -/
  | checkViolation (column : String)
  deriving DecidableEq

/-- The values of `outcome_status`. -/
def outcomeStatuses : List String := ["pending", "observed"]

/-- `UPDATE decisions SET patch WHERE id AND tenant_id`. -/
def updateDecision (id tenantId : Uuid) (patch : Decision → Decision) (decisions : List Decision) :
    List Decision :=
  updateWhere (fun decision => decide (decision.id = id ∧ decision.tenantId = tenantId)) patch decisions

/-! ### Inserting -/

/-- Assign a text to a `TEXT` column. -/
def textColumn (text : String) : Except DecisionWriteError String :=
  if text.toList.contains '\x00' then .error (.database .nulCharacter) else .ok text

/-- Assign a text to the column `outcome_status`. -/
def outcomeStatusColumn (text : String) : Except DecisionWriteError String :=
  match varchar 20 text with
  | .error failure => .error (.database failure)
  | .ok stored =>
      if stored ∈ outcomeStatuses then .ok stored else .error (.checkViolation "outcome_status")

/-- The columns of a decision, as they are assigned. -/
def assignDecision (decision : Decision) : Except DecisionWriteError Decision := do
  let _ ← (jsonb (.arr decision.expectedOutcomes)).mapError .database
  let _ ← (jsonb (.arr (decision.actualOutcomes.getD []))).mapError .database
  let commitment ← textColumn decision.commitment
  let riskTolerance ← (varchar 20 decision.riskTolerance).mapError .database
  let status ← (varchar 20 decision.status).mapError .database
  let outcomeStatus ← outcomeStatusColumn decision.outcomeStatus
  return { decision with commitment, riskTolerance, status, outcomeStatus }

/-- `save_decision`: the inserted row, or `none` when its id was there. `refers` is what the foreign keys
of an inserted row raise. -/
def saveDecision (refers : Decision → Option DbError) (decision : Decision)
    (decisions : List Decision) : Except DecisionWriteError (Option Decision) × List Decision :=
  match assignDecision decision with
  | .error failure => (.error failure, decisions)
  | .ok row =>
      match insertAbsent Decision.id row decisions, refers row with
      | (none, stored), _ => (.ok none, stored)
      | (some _, _), some failure => (.error (.database failure), decisions)
      | (some inserted, stored), none => (.ok (some inserted), stored)

/-! ### Updating -/

/-- The lifecycle columns that a call sets. -/
structure OutcomesUpdate where
  actualOutcomes : Option (List Json)
  executedAt : Option Timestamp
  status : Option String

/-- The row after the columns that were passed are set. -/
def OutcomesUpdate.apply (update : OutcomesUpdate) (decision : Decision) : Decision :=
  { decision with
    actualOutcomes := update.actualOutcomes <|> decision.actualOutcomes
    outcomeStatus := if update.actualOutcomes.isSome then "observed" else decision.outcomeStatus
    executedAt := update.executedAt <|> decision.executedAt
    status := update.status.getD decision.status }

/-- `update_outcomes`: the updated row, or `none` when there is none or nothing to set. -/
def DecisionStore.updateOutcomes (id tenantId : Uuid) (update : OutcomesUpdate)
    (decisions : List Decision) : Except DecisionWriteError (Option Decision) × List Decision :=
  if update.actualOutcomes = none ∧ update.executedAt = none ∧ update.status = none then
    (.ok none, decisions)
  else
    match jsonb (.arr (update.actualOutcomes.getD [])), update.status.mapM (varchar 20) with
    | .error failure, _ | .ok _, .error failure => (.error (.database failure), decisions)
    | .ok _, .ok status =>
        let assigned := { update with status }
        let updated := updateDecision id tenantId assigned.apply decisions
        (.ok (updated.find? fun decision => decide (decision.id = id ∧ decision.tenantId = tenantId)),
          updated)

/-! ### What a call has done -/

section Calls

variable {id tenantId : Uuid} {decisions after : List Decision} {decision row : Decision}

theorem outcomeStatusColumn_ok {text stored : String}
    (assigned : outcomeStatusColumn text = .ok stored) : stored = text ∧ stored ∈ outcomeStatuses := by
  unfold outcomeStatusColumn varchar at assigned
  by_cases fits : text.length ≤ 20
  · rw [if_pos fits] at assigned
    dsimp only at assigned
    split at assigned
    · rename_i listed
      obtain rfl := Except.ok.inj assigned
      exact ⟨rfl, listed⟩
    · cases assigned
  · rw [if_neg fits] at assigned
    split at assigned
    · cases assigned
    · rename_i cut isCut
      split at isCut
      · have length : cut.length = 20 := by
          rw [← Except.ok.inj isCut, String.length_ofList, List.length_take, String.length_toList]
          omega
        split at assigned
        · rename_i listed
          rcases List.mem_pair.mp listed with rfl | rfl
          · exact absurd length (by decide)
          · exact absurd length (by decide)
        · cases assigned
      · cases isCut

theorem assignDecision_ok (assigned : assignDecision decision = .ok row) :
    row.id = decision.id ∧ row.actualOutcomes = decision.actualOutcomes ∧
      row.outcomeStatus = decision.outcomeStatus ∧ row.outcomeStatus ∈ outcomeStatuses := by
  unfold assignDecision at assigned
  obtain ⟨_, -, assigned⟩ := Result.bind_eq_ok.mp assigned
  obtain ⟨_, -, assigned⟩ := Result.bind_eq_ok.mp assigned
  obtain ⟨commitment, -, assigned⟩ := Result.bind_eq_ok.mp assigned
  obtain ⟨risk, -, assigned⟩ := Result.bind_eq_ok.mp assigned
  obtain ⟨status, -, assigned⟩ := Result.bind_eq_ok.mp assigned
  obtain ⟨outcomeStatus, column, assigned⟩ := Result.bind_eq_ok.mp assigned
  obtain rfl := Result.pure_eq_ok.mp assigned
  obtain ⟨same, listed⟩ := outcomeStatusColumn_ok column
  exact ⟨rfl, rfl, same, listed⟩

/-- **What a save has done**: nothing, or it has inserted a row with a new id. -/
theorem saveDecision_cases (refers : Decision → Option DbError) (decision : Decision)
    (decisions : List Decision) :
    (saveDecision refers decision decisions).2 = decisions ∨
      ∃ row, assignDecision decision = .ok row ∧ refers row = none ∧
        (∀ other ∈ decisions, other.id ≠ decision.id) ∧
        (saveDecision refers decision decisions).2 = decisions ++ [row] := by
  unfold saveDecision
  cases assigned : assignDecision decision with
  | error failure => exact .inl rfl
  | ok row =>
      dsimp only
      rcases insertAbsent_cases Decision.id row decisions with ⟨-, ran⟩ | ⟨fresh, ran⟩
      · rw [ran]
        exact .inl rfl
      · rw [ran]
        cases references : refers row with
        | some failure => exact .inl rfl
        | none =>
            refine .inr ⟨row, rfl, references, fun other member => ?_, rfl⟩
            rw [← (assignDecision_ok assigned).1]
            exact fresh other member

theorem updateDecision_ids {patch : Decision → Decision} (kept : ∀ row, (patch row).id = row.id) :
    (updateDecision id tenantId patch decisions).map Decision.id = decisions.map Decision.id :=
  updateWhere_map Decision.id fun row _ _ => kept row

theorem mem_updateDecision {patch : Decision → Decision}
    (member : row ∈ updateDecision id tenantId patch decisions) :
    row ∈ decisions ∨ ∃ old ∈ decisions, patch old = row := by
  rcases mem_updateWhere.mp member with ⟨old, oldIn, -, patched⟩ | ⟨stays, -⟩
  · exact .inr ⟨old, oldIn, patched⟩
  · exact .inl stays

theorem find_updateDecision {patch : Decision → Decision}
    (kept : ∀ row, (patch row).id = row.id ∧ (patch row).tenantId = row.tenantId) :
    ((updateDecision id tenantId patch decisions).find? fun decision =>
        decide (decision.id = id ∧ decision.tenantId = tenantId)) =
      (decisions.find? fun decision =>
        decide (decision.id = id ∧ decision.tenantId = tenantId)).map patch :=
  find_updateWhere fun row => by rw [(kept row).1, (kept row).2]

/-- **What an update has done**: nothing, or it has set the columns that were passed. -/
theorem updateOutcomes_cases (id tenantId : Uuid) (update : OutcomesUpdate)
    (decisions : List Decision) :
    (DecisionStore.updateOutcomes id tenantId update decisions).2 = decisions ∨
      ∃ assigned : OutcomesUpdate, assigned.actualOutcomes = update.actualOutcomes ∧
        assigned.executedAt = update.executedAt ∧
        (DecisionStore.updateOutcomes id tenantId update decisions).2 =
          updateDecision id tenantId assigned.apply decisions := by
  unfold DecisionStore.updateOutcomes
  split
  · exact .inl rfl
  · cases jsonb (.arr (update.actualOutcomes.getD [])) with
    | error failure => exact .inl rfl
    | ok _ =>
        cases update.status.mapM (varchar 20) with
        | error failure => exact .inl rfl
        | ok status => exact .inr ⟨{ update with status }, rfl, rfl, rfl⟩

end Calls

end CosMonitor
