/-
**The three resolvers of a tenant scope.**

`rbac.tenant_scope`, `AuthorizationContext.resolve` and `authorize_action` each decide which tenant a request
reaches.

* `granted`: what all three compute for a declared role, from the tenant that they take the request to name;
* `scopeGrant_declared`, `contextGrant_declared`, `actionGrant_covered`: the tenant each takes it to name, which
  for an empty request is not the same;
* `resolversAgree_iff`: when they agree;
* `empty_request_resolved_apart`: a request for the empty tenant.
-/

import CosMonitor.Gateway.StoreCalls

namespace CosMonitor

open Result

/-! ### What the resolvers grant -/

section Grants

variable (token : TokenPayload) (action : String) (risk requestedTenantId : Option String)

/-- The tenant that `rbac.tenant_scope` grants, if it does not raise. -/
def scopeGrant : Option String :=
  (tenantScope token.role token.tenantId requestedTenantId).toOption

/-- The tenant that `AuthorizationContext.resolve` grants, if it does not raise. -/
def contextGrant : Option String :=
  (resolveScope token requestedTenantId).toOption

/-- The tenant that `authorize_action` grants: its callers go on with `requested_tenant_id or tenant_id`. -/
def actionGrant : Option String :=
  match authorizeAction token action risk requestedTenantId with
  | .ok true => some (requestedTarget token.tenantId requestedTenantId)
  | .ok false | .error _ => none

/-- The three grant one tenant, or none of them grants any. -/
def ResolversAgree : Prop :=
  contextGrant token requestedTenantId = scopeGrant token requestedTenantId ∧
    actionGrant token action risk requestedTenantId = scopeGrant token requestedTenantId

instance : Decidable (ResolversAgree token action risk requestedTenantId) :=
  inferInstanceAs (Decidable (_ ∧ _))

/-- The authority of a role over an action, whatever the tenant. -/
def actionAllowed (role : String) : Except GatewayError Bool :=
  match actionPermission action with
  | none => .error (.raised (.python (.valueError s!"unknown action: {action}")))
  | some permission =>
      if permission = .commit then commitAllowed role risk else (can role permission).mapError .access

/-- The role holds the authority over the action. -/
def Covers (role : String) : Prop :=
  (actionAllowed action risk role).toOption = some true

instance (role : String) : Decidable (Covers action risk role) :=
  inferInstanceAs (Decidable (_ = _))

/-- The role is a declared one. -/
def DeclaredRole (role : String) : Prop :=
  (Role.ofName role).isSome = true

instance (role : String) : Decidable (DeclaredRole role) :=
  inferInstanceAs (Decidable (_ = _))

end Grants

/-! ### What each of them decides by -/

section Decisions

variable {token : TokenPayload} {action : String} {risk requestedTenantId : Option String} {declared : Role}

/-- What a declared role is granted of a named tenant: its own, and any other with cross-tenant authority. -/
def granted (declared : Role) (tenantId target : String) : Option String :=
  if target = tenantId then some tenantId
  else if .crossTenant ∈ declared.permissions then some target
  else none

theorem granted_own (declared : Role) (tenantId : String) : granted declared tenantId tenantId = some tenantId :=
  if_pos rfl

theorem requireValidRole_declared {role : String} (found : Role.ofName role = some declared) :
    requireValidRole role = .ok declared := by
  unfold requireValidRole
  rw [found]

theorem requireValidRole_undeclared {role : String} (unknown : Role.ofName role = none) :
    requireValidRole role = .error (.invalidRole role) := by
  unfold requireValidRole
  rw [unknown]

theorem crossTenantAllowed_declared {role : String} (found : Role.ofName role = some declared) :
    crossTenantAllowed role = .ok (decide (.crossTenant ∈ declared.permissions)) := by
  unfold crossTenantAllowed can
  rw [requireValidRole_declared found]
  rfl

theorem crossTenantAllowed_undeclared {role : String} (unknown : Role.ofName role = none) :
    crossTenantAllowed role = .error (.invalidRole role) := by
  unfold crossTenantAllowed can
  rw [requireValidRole_undeclared unknown]
  rfl

theorem scopeGrant_declared (found : Role.ofName token.role = some declared) :
    scopeGrant token requestedTenantId =
      granted declared token.tenantId (requestedTarget token.tenantId requestedTenantId) := by
  unfold scopeGrant tenantScope granted
  rw [requireValidRole_declared found, crossTenantAllowed_declared found]
  by_cases own : requestedTarget token.tenantId requestedTenantId = token.tenantId
  · simp [own, bind, Except.bind, pure, Except.pure, Except.toOption]
  · by_cases crosses : Permission.crossTenant ∈ declared.permissions
    · simp [own, crosses, bind, Except.bind, pure, Except.pure, Except.toOption]
    · simp [own, crosses, bind, Except.bind, Except.toOption, throw, throwThe, MonadExceptOf.throw]

theorem scopeGrant_undeclared (unknown : Role.ofName token.role = none) :
    scopeGrant token requestedTenantId = none := by
  unfold scopeGrant tenantScope
  rw [requireValidRole_undeclared unknown]
  rfl

theorem contextGrant_declared (found : Role.ofName token.role = some declared) :
    contextGrant token requestedTenantId =
      granted declared token.tenantId (requestedTenantId.getD token.tenantId) := by
  unfold contextGrant
  cases requestedTenantId with
  | none => exact (granted_own declared token.tenantId).symm
  | some requested =>
      unfold resolveScope resolveTenant granted
      rw [crossTenantAllowed_declared found, Option.getD_some]
      dsimp only
      by_cases own : requested = token.tenantId
      · rw [if_pos own, if_pos own, own]
        rfl
      · rw [if_neg own, if_neg own]
        by_cases crosses : Permission.crossTenant ∈ declared.permissions
        · rw [if_pos crosses, decide_eq_true crosses]
          rfl
        · rw [if_neg crosses, decide_eq_false crosses]
          rfl

theorem contextGrant_undeclared (unknown : Role.ofName token.role = none) :
    contextGrant token requestedTenantId =
      if requestedTenantId.getD token.tenantId = token.tenantId then some token.tenantId else none := by
  unfold contextGrant
  cases requestedTenantId with
  | none => exact (if_pos rfl).symm
  | some requested =>
      unfold resolveScope resolveTenant
      rw [crossTenantAllowed_undeclared unknown, Option.getD_some]
      dsimp only
      by_cases own : requested = token.tenantId
      · rw [if_pos own, if_pos own, own]
        rfl
      · rw [if_neg own, if_neg own]
        rfl

theorem authorizeAction_eq (token : TokenPayload) (action : String) (risk requestedTenantId : Option String) :
    authorizeAction token action risk requestedTenantId =
      (actionAllowed action risk token.role).bind fun allowed =>
        if !allowed then .ok false
        else if requestedTarget token.tenantId requestedTenantId ≠ token.tenantId then
          (crossTenantAllowed token.role).mapError .access
        else .ok true := by
  unfold authorizeAction actionAllowed
  cases actionPermission action with
  | none => rfl
  | some permission =>
      dsimp only
      by_cases commit : permission = .commit
      · rw [if_pos commit, if_pos commit]
        rfl
      · rw [if_neg commit, if_neg commit]
        rfl

theorem declaredRole_of_covers (covers : Covers action risk token.role) : DeclaredRole token.role := by
  unfold DeclaredRole
  by_contra unknown
  rw [Option.not_isSome_iff_eq_none] at unknown
  unfold Covers actionAllowed commitAllowed can at covers
  rw [requireValidRole_undeclared unknown] at covers
  split at covers
  · cases covers
  · split at covers <;> cases covers

/-- **Within its authority over the action a role is granted what `tenant_scope` grants.** -/
theorem actionGrant_covered (found : Role.ofName token.role = some declared)
    (covers : Covers action risk token.role) :
    actionGrant token action risk requestedTenantId =
      granted declared token.tenantId (requestedTarget token.tenantId requestedTenantId) := by
  unfold actionGrant granted
  rw [authorizeAction_eq, toOption_eq_some covers, crossTenantAllowed_declared found]
  by_cases own : requestedTarget token.tenantId requestedTenantId = token.tenantId
  · simp [own, Except.bind]
  · by_cases crosses : Permission.crossTenant ∈ declared.permissions
    · simp [own, crosses, Except.bind, Except.mapError]
    · simp [own, crosses, Except.bind, Except.mapError]

theorem actionGrant_uncovered (uncovered : ¬Covers action risk token.role) :
    actionGrant token action risk requestedTenantId = none := by
  unfold actionGrant
  rw [authorizeAction_eq]
  rcases answer : actionAllowed action risk token.role with failure | allowed
  · rfl
  · cases allowed with
    | true => exact absurd (congrArg Except.toOption answer) uncovered
    | false => rfl

end Decisions

/-! ### When they agree -/

section Agreement

variable {token : TokenPayload} {action : String} {risk requestedTenantId : Option String} {declared : Role}

theorem crossTenant_iff {role : String} (found : Role.ofName role = some declared) :
    Permission.crossTenant ∈ declared.permissions ↔ role = Role.superadmin.name := by
  rw [← Role.ofName_name found]
  cases declared <;> decide

theorem granted_eq_none {tenantId target : String} :
    granted declared tenantId target = none ↔
      target ≠ tenantId ∧ Permission.crossTenant ∉ declared.permissions := by
  unfold granted
  by_cases own : target = tenantId
  · simp [own]
  · by_cases crosses : Permission.crossTenant ∈ declared.permissions
    · simp [own, crosses]
    · simp [own, crosses]

theorem granted_own_iff {tenantId target : String} :
    granted declared tenantId target = some tenantId ↔ target = tenantId := by
  unfold granted
  by_cases own : target = tenantId
  · simp [own]
  · by_cases crosses : Permission.crossTenant ∈ declared.permissions
    · simp [own, crosses]
    · simp [own, crosses]

/-- **`resolve` and `tenant_scope` differ on the empty request only.** -/
theorem contextGrant_eq_scopeGrant_iff (found : Role.ofName token.role = some declared) :
    contextGrant token requestedTenantId = scopeGrant token requestedTenantId ↔
      (requestedTenantId = some "" → token.tenantId = "") := by
  rw [contextGrant_declared found, scopeGrant_declared found]
  cases requestedTenantId with
  | none => exact iff_of_true rfl fun absent => nomatch absent
  | some requested =>
      rw [Option.getD_some, requestedTarget, Option.some.injEq]
      by_cases empty : requested = ""
      · rw [if_pos empty, granted_own, granted_own_iff, empty]
        exact ⟨fun own _ => own.symm, fun own => (own rfl).symm⟩
      · rw [if_neg empty]
        exact iff_of_true rfl fun isEmpty => absurd isEmpty empty

/-- **`authorize_action` and `tenant_scope` differ on actions beyond the role only.** -/
theorem actionGrant_eq_scopeGrant_iff (found : Role.ofName token.role = some declared) :
    actionGrant token action risk requestedTenantId = scopeGrant token requestedTenantId ↔
      Covers action risk token.role ∨
        requestedTarget token.tenantId requestedTenantId ≠ token.tenantId ∧
          token.role ≠ Role.superadmin.name := by
  rw [scopeGrant_declared found]
  by_cases covers : Covers action risk token.role
  · rw [actionGrant_covered found covers]
    exact iff_of_true rfl (.inl covers)
  · rw [actionGrant_uncovered covers, eq_comm, granted_eq_none, crossTenant_iff found]
    simp [covers]

/-- **When the three resolvers agree.** For a declared role: the request is not the empty text, unless the
token's own tenant is, and the role has authority over the action or is to be rejected as a visitor. For an
undeclared role: the request names a tenant that is not the token's own. -/
theorem resolversAgree_iff (token : TokenPayload) (action : String) (risk requestedTenantId : Option String) :
    ResolversAgree token action risk requestedTenantId ↔
      if DeclaredRole token.role then
        (requestedTenantId = some "" → token.tenantId = "") ∧
          (Covers action risk token.role ∨
            requestedTarget token.tenantId requestedTenantId ≠ token.tenantId ∧
              token.role ≠ Role.superadmin.name)
      else requestedTenantId.getD token.tenantId ≠ token.tenantId := by
  unfold ResolversAgree
  by_cases isDeclared : DeclaredRole token.role
  · obtain ⟨declared, found⟩ := Option.isSome_iff_exists.mp isDeclared
    rw [if_pos isDeclared, contextGrant_eq_scopeGrant_iff found, actionGrant_eq_scopeGrant_iff found]
  · have unknown := Option.not_isSome_iff_eq_none.mp isDeclared
    have uncovered : ¬Covers action risk token.role := fun covers =>
      isDeclared (declaredRole_of_covers covers)
    rw [if_neg isDeclared, scopeGrant_undeclared unknown, contextGrant_undeclared unknown,
      actionGrant_uncovered uncovered]
    simp

/-- A token of tenant `t1`. -/
def tokenOf (role : Role) : TokenPayload where
  userId := "u1"
  tenantId := "t1"
  email := "u1@example.org"
  role := role.name
  tokenType := "access"
  exp := 0
  jti := ""
  installationId := ""

/-- **A request for the empty tenant**: `tenant_scope` and `authorize_action` take it for the own tenant, which
`resolve` refuses to a viewer, while it grants the superadmin the empty tenant. -/
theorem empty_request_resolved_apart :
    (scopeGrant (tokenOf .viewer) (some "") = some "t1" ∧
      actionGrant (tokenOf .viewer) "read" none (some "") = some "t1" ∧
      contextGrant (tokenOf .viewer) (some "") = none) ∧
    scopeGrant (tokenOf .superadmin) (some "") = some "t1" ∧
      actionGrant (tokenOf .superadmin) "read" none (some "") = some "t1" ∧
      contextGrant (tokenOf .superadmin) (some "") = some "" := by
  decide

end Agreement

end CosMonitor
