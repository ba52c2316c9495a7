/-
**Decision Authority roles, their permissions and the tenant scope of an action.**

* `can`, `crossTenantAllowed`: the role → permission matrix;
* `tenantScope`: the tenant an action reaches;
* `tenantScope_own`: a role other than superadmin only ever reaches its own tenant.
-/

import CosMonitor.Base.Database
import CosMonitor.Foundation.Result

namespace CosMonitor

open Result

/-- The declared Decision Authority roles. -/
inductive Role where
  | viewer
  | operator
  | admin
  | superadmin
  deriving DecidableEq, Repr

/-- The actions on the canonical flow. -/
inductive Permission where
  | read
  | propose
  | ack
  | commit
  | execute
  | definePolicy
  | crossTenant
  deriving DecidableEq, Repr

/-- The errors of the access layer, and the ones that reach its callers from below. -/
inductive AccessError where
  /-- "role … may not … users (admin/superadmin only)" -/
  | mayNot (role action : String)
  /-- "cannot … users in another tenant" -/
  | otherTenant (action : String)
  /-- "cross-tenant access requires superadmin authority (cross_tenant permission)" -/
  | tenantIsolation
  /-- "a user with email … already exists" -/
  | userConflict (email : String)
  /-- "unknown Decision Authority role: …" -/
  | invalidRole (role : String)
  | userNotFound
  | badUuid (text : String)
  | badPassword
  | store (failure : DbError)
  deriving DecidableEq, Repr

namespace Role

/-- The text of a role in tokens and in the `role` column. -/
def name : Role → String
  | viewer => "viewer"
  | operator => "operator"
  | admin => "admin"
  | superadmin => "superadmin"

/-- `role in ROLES`. -/
def ofName (text : String) : Option Role :=
  [viewer, operator, admin, superadmin].find? fun role => role.name == text

theorem ofName_name {text : String} {role : Role} (found : ofName text = some role) :
    role.name = text := by
  simpa using List.find?_some found

/-- `_ROLE_PERMISSIONS`. -/
def permissions : Role → List Permission
  | viewer => [.read]
  | operator => [.read, .ack]
  | admin => [.read, .propose, .ack, .commit, .definePolicy]
  | superadmin => [.read, .propose, .ack, .commit, .execute, .definePolicy, .crossTenant]

end Role

/-- `_require_valid_role`, which is also `validate_role` of the user service. -/
def requireValidRole (role : String) : Except AccessError Role :=
  match Role.ofName role with
  | some declared => .ok declared
  | none => .error (.invalidRole role)

/-- Whether the role holds a given permission. -/
def can (role : String) (permission : Permission) : Except AccessError Bool := do
  let declared ← requireValidRole role
  return decide (permission ∈ declared.permissions)

/-- Only superadmin holds cross-tenant authority. -/
def crossTenantAllowed (role : String) : Except AccessError Bool :=
  can role .crossTenant

/-- The tenant that a request names, the actor's own if it names none. -/
def requestedTarget (actorTenantId : String) : Option String → String
  | some requested => if requested = "" then actorTenantId else requested
  | none => actorTenantId

/-- Resolve the effective tenant scope of an action. -/
def tenantScope (role actorTenantId : String) (requestedTenantId : Option String) :
    Except AccessError String := do
  let _ ← requireValidRole role
  let target := requestedTarget actorTenantId requestedTenantId
  if target ≠ actorTenantId then
    let allowed ← crossTenantAllowed role
    if allowed then return target else throw .tenantIsolation
  else return target

theorem crossTenantAllowed_false {role : String} {allowed : Bool}
    (notSuper : role ≠ Role.superadmin.name) (asked : crossTenantAllowed role = .ok allowed) :
    allowed = false := by
  obtain ⟨known, valid, held⟩ := bind_eq_ok.mp asked
  rw [← pure_eq_ok.mp held]
  unfold requireValidRole at valid
  split at valid
  · rename_i declared found
    have named := Role.ofName_name found
    cases Except.ok.inj valid
    cases known
    case superadmin => exact absurd named.symm notSuper
    all_goals rfl
  · cases valid

/-- **Every role but superadmin stays in its own tenant.** -/
theorem tenantScope_own {role actorTenantId target : String} {requested : Option String}
    (notSuper : role ≠ Role.superadmin.name)
    (granted : tenantScope role actorTenantId requested = .ok target) : target = actorTenantId := by
  obtain ⟨known, -, resolved⟩ := bind_eq_ok.mp granted
  by_cases same : requestedTarget actorTenantId requested = actorTenantId
  · simp only [same, ne_eq, not_true_eq_false, if_false] at resolved
    exact (pure_eq_ok.mp resolved).symm
  · simp only [ne_eq, same, not_false_eq_true, if_true] at resolved
    obtain ⟨allowed, asked, answer⟩ := bind_eq_ok.mp resolved
    rw [crossTenantAllowed_false notSuper asked] at answer
    exact (throw_eq_ok.mp answer).elim

end CosMonitor
