/-
**The action space library — the actions of every domain.**

* `actionSpaceLibrary`: the catalogue;
* `actionDomain`: the domain of an action key;
* `selectActionSpace`, `resolveActiveContext`: what an offer is drawn from, and for which context.
-/

import CosMonitor.Action.Formulator

namespace CosMonitor

/-! ### The catalogue -/

/-- What an entry is made from. -/
structure ActionSpaceRow where
  actionId : String
  domain : String
  actions : List String
  purposes : List String

/-- What an entry checks. -/
def ActionSpaceRow.Valid (row : ActionSpaceRow) : Prop :=
  row.domain ∈ actionDomains ∧ stripChars row.actionId.toList ≠ [] ∧ row.actions ≠ []

instance (row : ActionSpaceRow) : Decidable row.Valid :=
  inferInstanceAs (Decidable (_ ∧ _ ∧ _))

/-- `_entry`. -/
def ActionSpaceRow.entry (row : ActionSpaceRow) (valid : row.Valid) : ActionSpaceEntry where
  actionId := row.actionId
  domain := row.domain
  allowedActions := row.actions
  purposes := row.purposes
  known := valid.1
  named := valid.2.1
  permits := valid.2.2

/-- The rows of `ACTION_SPACE_LIBRARY`. -/
def actionSpaceRows : List ActionSpaceRow :=
  [{ actionId := "storage_actions_v1"
     domain := "storage"
     actions := ["expand_volume", "add_disk", "move_data", "compress", "purge_old",
      "change_retention", "enable_dedup"]
     purposes := ["infrastructure_health", "capacity_management"] },
   { actionId := "compute_actions_v1"
     domain := "compute"
     actions := ["scale_up", "scale_out", "restart_service", "migrate_vm", "adjust_limits",
      "tune_kernel"]
     purposes := ["infrastructure_health"] },
   { actionId := "security_actions_v1"
     domain := "security"
     actions := ["reset_credentials", "revoke_sessions", "enable_mfa", "block_ip",
      "isolate_host", "rotate_keys"]
     purposes := ["security_posture"] },
   { actionId := "backup_actions_v1"
     domain := "backup"
     actions := ["retry_job", "change_schedule", "change_target", "verify_integrity",
      "test_restore"]
     purposes := ["infrastructure_health", "capacity_management"] },
   { actionId := "network_actions_v1"
     domain := "network"
     actions := ["block_port", "modify_acl", "reroute_traffic", "enable_ddos_protection"]
     purposes := ["infrastructure_health"] },
   { actionId := "observability_actions_v1"
     domain := "observability"
     actions := ["increase_log_level", "add_metric", "create_alert_rule",
      "adjust_threshold"]
     purposes := ["infrastructure_health", "security_posture"] }]

theorem actionSpaceRows_valid : ∀ row ∈ actionSpaceRows, row.Valid := by decide +kernel

/-- `ACTION_SPACE_LIBRARY`. -/
def actionSpaceLibrary : List ActionSpaceEntry :=
  actionSpaceRows.attach.map fun row => row.val.entry (actionSpaceRows_valid row.val row.property)

/-- `ACTION_DOMAIN`: the action keys of the catalogue with their domains. -/
def actionDomainTable : List (String × String) :=
  actionSpaceLibrary.flatMap fun entry => entry.allowedActions.map fun action =>
    (action, entry.domain)

/-- `ACTION_DOMAIN.get(action)`. No action key is declared twice. -/
def actionDomain (action : String) : Option String :=
  actionDomainTable.lookup action

/-! ### What an offer is drawn from -/

/-- The first entry of a domain that applies to a purpose. -/
def selectActionSpace (actionSpaces : List ActionSpaceEntry) (domain : Option String)
    (purpose : String) : Option ActionSpaceEntry :=
  domain.bind fun domain => actionSpaces.find? fun entry =>
    decide (entry.domain = domain ∧ (entry.purposes = [] ∨ purpose ∈ entry.purposes))

/-- The first active context behind the anomalies of a hypothesis. -/
def resolveActiveContext (hypothesis : Hypothesis) (anomalies : List Anomaly)
    (contexts : List Context) : Option Context :=
  let contextIds := (anomalies.filter fun anomaly => decide (anomaly.id ∈ hypothesis.anomalyIds)).map
    Anomaly.contextId
  contexts.find? fun context => decide (context.id ∈ contextIds) && context.isActive

end CosMonitor
