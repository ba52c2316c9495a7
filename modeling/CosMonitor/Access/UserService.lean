/-
**The user service — creating, updating and deactivating users.**

`AuthService` checks the actor's role, then the tenant, then calls the user store. A `UserTable`
carries the primary key and the unique e-mail as fields.

* `createUser_cases`, `updateUser_cases`, `deactivateUser_cases`: what each call that returns has
  done, and to which tenant;
* `userCall_frame`: a call by an actor other than superadmin changes no user outside the actor's
  tenant, and none at all unless the actor is an admin;
* `superadmins_unchanged`: over every sequence of such calls the superadmins of the tenants of no
  admin actor stay the same;
* `admin_creates_superadmin`: an admin creates superadmins in its own tenant.
-/

import CosMonitor.Access.Rbac
import CosMonitor.Access.Security
import CosMonitor.Foundation.Table

namespace CosMonitor

open Result Table

/-- A row of `users`. -/
structure User where
  id : Uuid
  tenantId : Uuid
  email : String
  passwordHash : String
  name : Option String
  role : Role
  isActive : Bool
  createdAt : Timestamp
  updatedAt : Timestamp
  deriving DecidableEq, Repr

/-! ### The user store -/

/-- The rows of `users`, with the primary key and the unique e-mail. -/
structure UserTable where
  rows : List User
  idUnique : UniqueOn User.id (fun _ => true) rows
  emailUnique : UniqueOn User.email (fun _ => true) rows

namespace UserTable

variable (table : UserTable)

/-- `SELECT_USER_BY_ID`. -/
def getById (id : Uuid) : Option User :=
  table.rows.find? fun user => user.id == id

/-- `INSERT_USER … ON CONFLICT (email) DO NOTHING`; `user.id` is the fresh `uuid4`. -/
def createUser (tenants : List Uuid) (user : User) :
    Except DbError (Option User × UserTable) := do
  let email ← varchar 255 user.email
  let name ← user.name.mapM (varchar 100)
  let row := { user with email, name }
  if emails : ∃ other ∈ table.rows, other.email = row.email then return (none, table)
  else if ids : ∃ other ∈ table.rows, other.id = row.id then throw (.uniqueViolation "users_pkey")
  else if row.tenantId ∈ tenants then
    return (some row,
      { rows := table.rows ++ [row]
        idUnique := uniqueOn_append.mpr ⟨table.idUnique, fun _ other member _ same =>
          ids ⟨other, member, same⟩⟩
        emailUnique := uniqueOn_append.mpr ⟨table.emailUnique, fun _ other member _ same =>
          emails ⟨other, member, same⟩⟩ })
  else throw (.foreignKeyViolation "tenant_id")

/-- `UPDATE users SET … WHERE id`, for a change that keeps the id and the e-mail. -/
def updateById (id : Uuid) (change : User → User) (sameId : ∀ user, (change user).id = user.id)
    (sameEmail : ∀ user, (change user).email = user.email) : UserTable where
  rows := updateWhere (fun user => user.id == id) change table.rows
  idUnique := table.idUnique.updateWhere fun user _ _ _ => ⟨rfl, sameId user⟩
  emailUnique := table.emailUnique.updateWhere fun user _ _ _ => ⟨rfl, sameEmail user⟩

/-- `UPDATE_USER`: each bound value that is not null replaces its column. -/
def updateUser (id : Uuid) (name : Option String) (role : Option Role) (now : Timestamp) :
    Except DbError (Option User × UserTable) := do
  let name ← name.mapM (varchar 100)
  let change : User → User := fun user =>
    { user with name := name.or user.name, role := role.getD user.role, updatedAt := now }
  return ((table.getById id).map change,
    table.updateById id change (fun _ => rfl) fun _ => rfl)

/-- `DEACTIVATE_USER`. -/
def deactivateUser (id : Uuid) (now : Timestamp) : Option User × UserTable :=
  let change : User → User := fun user => { user with isActive := false, updatedAt := now }
  ((table.getById id).map change, table.updateById id change (fun _ => rfl) fun _ => rfl)

variable {table}

theorem getById_mem {id : Uuid} {user : User} (found : table.getById id = some user) :
    user ∈ table.rows ∧ user.id = id := by
  refine ⟨List.mem_of_find?_eq_some found, ?_⟩
  simpa using List.find?_some found

theorem getById_of_mem {user : User} (inside : user ∈ table.rows) :
    table.getById user.id = some user := by
  cases looked : table.getById user.id with
  | none =>
      have absent := List.find?_eq_none.mp looked user inside
      simp at absent
  | some found =>
      obtain ⟨member, same⟩ := getById_mem looked
      rw [table.idUnique.eq_of_key member inside rfl rfl same]

theorem createUser_inserted {tenants : List Uuid} {user row : User} {after : UserTable}
    (inserted : table.createUser tenants user = .ok (some row, after)) :
    after.rows = table.rows ++ [row] ∧ row.tenantId = user.tenantId ∧ row.role = user.role ∧
      row.id = user.id := by
  obtain ⟨cutEmail, -, rest⟩ := bind_eq_ok.mp inserted
  obtain ⟨cutName, -, rest⟩ := bind_eq_ok.mp rest
  dsimp only at rest
  split at rest
  · cases pure_eq_ok.mp rest
  · split at rest
    · exact (throw_eq_ok.mp rest).elim
    · split at rest
      · obtain ⟨found, rfl⟩ := Prod.mk.inj (pure_eq_ok.mp rest)
        cases Option.some.inj found
        exact ⟨rfl, rfl, rfl, rfl⟩
      · exact (throw_eq_ok.mp rest).elim

theorem filter_updateById {id : Uuid} {user : User} {change : User → User}
    {sameId : ∀ user, (change user).id = user.id}
    {sameEmail : ∀ user, (change user).email = user.email} {kept : User → Bool}
    (found : table.getById id = some user) (out : kept user = false)
    (outAfter : kept (change user) = false) :
    (table.updateById id change sameId sameEmail).rows.filter kept = table.rows.filter kept := by
  obtain ⟨member, rfl⟩ := getById_mem found
  have only : ∀ other ∈ table.rows, other.id = user.id → other = user := fun other inside same =>
    table.idUnique.eq_of_key inside member rfl rfl same
  show (updateWhere (fun other => other.id == user.id) change table.rows).filter kept = _
  generalize table.rows = rows at only
  induction rows with
  | nil => rfl
  | cons head tail ih =>
      have rest := ih fun other inside => only other (List.mem_cons_of_mem _ inside)
      show ((if head.id == user.id then change head else head) ::
        updateWhere (fun other => other.id == user.id) change tail).filter kept = _
      by_cases selected : head.id = user.id
      · have isUser := only head List.mem_cons_self selected
        subst isUser
        simp [out, outAfter, rest]
      · simp [selected, List.filter_cons, rest]

/-- No active user has the id. -/
def Inactive (table : UserTable) (id : Uuid) : Prop :=
  ∀ user ∈ table.rows, user.id = id → user.isActive = false

theorem Inactive.updateById {id other : Uuid} (inactive : table.Inactive id) {change : User → User}
    {sameId : ∀ user, (change user).id = user.id}
    {sameEmail : ∀ user, (change user).email = user.email}
    (activates : ∀ user, user.isActive = false → (change user).isActive = false) :
    (table.updateById other change sameId sameEmail).Inactive id := by
  intro user member same
  rcases mem_updateWhere.mp member with ⟨old, oldIn, -, rfl⟩ | ⟨inside, -⟩
  · exact activates old (inactive old oldIn ((sameId old).symm.trans same))
  · exact inactive user inside same

end UserTable

/-! ### The service -/

/-- What the user service takes from outside: `bcrypt` hashing, which may reject a password. -/
structure UserEnv where
  tenants : List Uuid
  hashPassword : String → Option String

/-- Admin and superadmin may create users; viewer and operator cannot. -/
def canCreate (role : String) : Bool :=
  role = Role.admin.name || role = Role.superadmin.name

/-- `uuid.UUID(text)`. -/
def uuidOf (text : String) : Except AccessError Uuid :=
  match parseUuid text with
  | some id => .ok id
  | none => .error (.badUuid text)

/-- A statement of the user store. -/
def storeCall {Value : Type} (called : Except DbError Value) : Except AccessError Value :=
  called.mapError .store

/-- The arguments of the three calls. `newId` is the `uuid4` of an insert, `now` the clock. -/
inductive UserCall where
  | createUser (actor : TokenPayload) (email password : String) (name : Option String) (role : String)
      (tenantId : Option String) (newId : Uuid) (now : Timestamp)
  | updateUser (actor : TokenPayload) (userId : String) (name role : Option String) (now : Timestamp)
  | deactivateUser (actor : TokenPayload) (userId : String) (now : Timestamp)
  deriving DecidableEq, Repr

/-- The actor of a call. -/
def UserCall.actor : UserCall → TokenPayload
  | createUser actor .. | updateUser actor .. | deactivateUser actor .. => actor

/-- The id of the user that a call may create. -/
def UserCall.newId : UserCall → Option Uuid
  | createUser _ _ _ _ _ _ newId _ => some newId
  | updateUser .. | deactivateUser .. => none

section Service

variable (env : UserEnv) (table : UserTable)

/-- `AuthService.create_user`. -/
def createUser (actor : TokenPayload) (email password : String) (name : Option String) (role : String)
    (tenantId : Option String) (newId : Uuid) (now : Timestamp) :
    Except AccessError (User × UserTable) := do
  let declared ← requireValidRole role
  if canCreate actor.role then
    let target ← tenantScope actor.role actor.tenantId tenantId
    let targetId ← uuidOf target
    match env.hashPassword password with
    | none => throw .badPassword
    | some passwordHash =>
        let (user, after) ← storeCall (table.createUser env.tenants
          { id := newId, tenantId := targetId, email, passwordHash, name, role := declared,
            isActive := true, createdAt := now, updatedAt := now })
        match user with
        | none => throw (.userConflict email)
        | some user => return (user, after)
  else throw (.mayNot actor.role "create")

/-- The user that an update or a deactivation may touch: in the actor's tenant, unless the actor is
superadmin. -/
def targetUser (actor : TokenPayload) (action userId : String) : Except AccessError User :=
  if canCreate actor.role then do
    let id ← uuidOf userId
    match table.getById id with
    | none => throw .userNotFound
    | some target =>
        if uuidText target.tenantId ≠ actor.tenantId ∧ actor.role ≠ Role.superadmin.name then
          throw (.otherTenant action)
        else return target
  else throw (.mayNot actor.role action)

/-- `AuthService.update_user`. -/
def updateUser (actor : TokenPayload) (userId : String) (name role : Option String) (now : Timestamp) :
    Except AccessError (User × UserTable) := do
  let target ← targetUser table actor "update" userId
  let declared ← role.mapM requireValidRole
  let (updated, after) ← storeCall (table.updateUser target.id name declared now)
  match updated with
  | none => throw .userNotFound
  | some user => return (user, after)

/-- `AuthService.deactivate_user`. -/
def deactivateUser (actor : TokenPayload) (userId : String) (now : Timestamp) :
    Except AccessError (User × UserTable) := do
  let target ← targetUser table actor "deactivate" userId
  let (deactivated, after) := table.deactivateUser target.id now
  match deactivated with
  | none => throw .userNotFound
  | some user => return (user, after)

/-- One call on the user store. -/
def UserCall.run : UserCall → Except AccessError (User × UserTable)
  | .createUser actor email password name role tenantId newId now =>
      CosMonitor.createUser env table actor email password name role tenantId newId now
  | .updateUser actor userId name role now => CosMonitor.updateUser table actor userId name role now
  | .deactivateUser actor userId now => CosMonitor.deactivateUser table actor userId now

/-- The table after one call; a call that raises changes nothing. -/
def afterCall (call : UserCall) : UserTable :=
  match call.run env table with
  | .ok (_, after) => after
  | .error _ => table

/-- The table after a sequence of calls. -/
def afterCalls (calls : List UserCall) : UserTable :=
  calls.foldl (afterCall env) table

end Service

/-! ### What one call does -/

section Calls

variable {env : UserEnv} {table after : UserTable} {actor : TokenPayload} {user : User}

/-- The tenant that an actor administers, if it is an admin. -/
def TokenPayload.adminTenant (actor : TokenPayload) : Option Uuid :=
  if actor.role = Role.admin.name then parseUuid actor.tenantId else none

theorem canCreate_admin (notSuper : actor.role ≠ Role.superadmin.name)
    (may : canCreate actor.role = true) : actor.role = Role.admin.name := by
  simpa [canCreate, notSuper] using may

theorem targetUser_spec {action userId : String} (notSuper : actor.role ≠ Role.superadmin.name)
    (found : targetUser table actor action userId = .ok user) :
    table.getById user.id = some user ∧ actor.adminTenant = some user.tenantId := by
  unfold targetUser at found
  split at found
  · rename_i may
    obtain ⟨id, parsed, rest⟩ := bind_eq_ok.mp found
    cases looked : table.getById id with
    | none =>
        rw [looked] at rest
        exact (throw_eq_ok.mp rest).elim
    | some target =>
        rw [looked] at rest
        simp only [notSuper, not_false_eq_true, and_true, ne_eq] at rest
        split at rest
        · exact (throw_eq_ok.mp rest).elim
        · rename_i same
          rw [not_not] at same
          have isTarget := pure_eq_ok.mp rest
          subst isTarget
          obtain ⟨-, sameId⟩ := UserTable.getById_mem looked
          refine ⟨by rw [sameId, looked], ?_⟩
          rw [TokenPayload.adminTenant, if_pos (canCreate_admin notSuper may), ← same,
            parseUuid_uuidText]
  · exact (throw_eq_ok.mp found).elim

theorem storeCall_eq_ok {Value : Type} {called : Except DbError Value} {value : Value} :
    storeCall called = .ok value ↔ called = .ok value := by
  cases called <;> simp [storeCall, Except.mapError]

theorem uuidOf_eq_ok {text : String} {id : Uuid} : uuidOf text = .ok id ↔ parseUuid text = some id := by
  unfold uuidOf
  cases parseUuid text with
  | none => simp
  | some found => simp

/-- **A created user** is one more row. -/
theorem createUser_eq_ok {email password role : String} {name tenantId : Option String} {newId : Uuid}
    {now : Timestamp}
    (created : createUser env table actor email password name role tenantId newId now =
      .ok (user, after)) :
    after.rows = table.rows ++ [user] ∧ user.id = newId ∧ requireValidRole role = .ok user.role ∧
      canCreate actor.role = true ∧ ∃ target, tenantScope actor.role actor.tenantId tenantId = .ok target ∧
        parseUuid target = some user.tenantId := by
  obtain ⟨declared, valid, checked⟩ := bind_eq_ok.mp created
  split at checked
  · rename_i may
    obtain ⟨target, granted, resolved⟩ := bind_eq_ok.mp checked
    obtain ⟨targetId, parsed, hashed⟩ := bind_eq_ok.mp resolved
    split at hashed
    · exact (throw_eq_ok.mp hashed).elim
    · obtain ⟨⟨inserted, stored⟩, called, answered⟩ := bind_eq_ok.mp hashed
      cases inserted with
      | none => exact (throw_eq_ok.mp answered).elim
      | some row =>
          obtain ⟨rfl, rfl⟩ := Prod.mk.inj (pure_eq_ok.mp answered)
          obtain ⟨rows, sameTenant, sameRole, sameId⟩ :=
            UserTable.createUser_inserted (storeCall_eq_ok.mp called)
          refine ⟨rows, sameId, by rw [sameRole]; exact valid, may, target, granted, ?_⟩
          rw [sameTenant]
          exact uuidOf_eq_ok.mp parsed
  · exact (throw_eq_ok.mp checked).elim

/-- Its tenant is the actor's, unless the actor is superadmin. -/
theorem createUser_cases {email password role : String} {name tenantId : Option String}
    {newId : Uuid} {now : Timestamp} (notSuper : actor.role ≠ Role.superadmin.name)
    (created : createUser env table actor email password name role tenantId newId now =
      .ok (user, after)) :
    after.rows = table.rows ++ [user] ∧ actor.adminTenant = some user.tenantId ∧
      requireValidRole role = .ok user.role := by
  obtain ⟨rows, -, valid, may, target, granted, parsed⟩ := createUser_eq_ok created
  refine ⟨rows, ?_, valid⟩
  rw [TokenPayload.adminTenant, if_pos (canCreate_admin notSuper may), ← parsed,
    tenantScope_own notSuper granted]

/-- **An updated user** is one row of the actor's tenant, unless the actor is superadmin. -/
theorem updateUser_cases {userId : String} {name role : Option String} {now : Timestamp}
    (notSuper : actor.role ≠ Role.superadmin.name)
    (updated : updateUser table actor userId name role now = .ok (user, after)) :
    ∃ target change sameId sameEmail, table.getById target.id = some target ∧
      actor.adminTenant = some target.tenantId ∧ (∀ user, (change user).tenantId = user.tenantId) ∧
        after = table.updateById target.id change sameId sameEmail := by
  obtain ⟨target, found, rest⟩ := bind_eq_ok.mp updated
  obtain ⟨declared, -, rest⟩ := bind_eq_ok.mp rest
  obtain ⟨⟨changed, stored⟩, called, answered⟩ := bind_eq_ok.mp rest
  obtain ⟨looked, own⟩ := targetUser_spec notSuper found
  obtain ⟨cutName, -, written⟩ := bind_eq_ok.mp (storeCall_eq_ok.mp called)
  obtain ⟨rfl, rfl⟩ := Prod.mk.inj (pure_eq_ok.mp written)
  rw [looked] at answered
  obtain ⟨-, rfl⟩ := Prod.mk.inj (pure_eq_ok.mp answered)
  refine ⟨target, _, _, _, looked, own, ?_, rfl⟩
  exact fun _ => rfl

/-- **A deactivated user** is one row of the actor's tenant, unless the actor is superadmin. -/
theorem deactivateUser_cases {userId : String} {now : Timestamp}
    (notSuper : actor.role ≠ Role.superadmin.name)
    (deactivated : deactivateUser table actor userId now = .ok (user, after)) :
    ∃ target change sameId sameEmail, table.getById target.id = some target ∧
      actor.adminTenant = some target.tenantId ∧ (∀ user, (change user).tenantId = user.tenantId) ∧
        after = table.updateById target.id change sameId sameEmail := by
  obtain ⟨target, found, rest⟩ := bind_eq_ok.mp deactivated
  obtain ⟨looked, own⟩ := targetUser_spec notSuper found
  simp only [UserTable.deactivateUser, looked, Option.map_some] at rest
  obtain ⟨-, rfl⟩ := Prod.mk.inj (pure_eq_ok.mp rest)
  refine ⟨target, _, _, _, looked, own, ?_, rfl⟩
  exact fun _ => rfl

/-- **The frame of a call.** An actor other than superadmin changes no row outside the tenant that it
administers. -/
theorem userCall_frame {call : UserCall} (notSuper : call.actor.role ≠ Role.superadmin.name)
    {kept : User → Bool}
    (outside : ∀ user, call.actor.adminTenant = some user.tenantId → kept user = false) :
    (afterCall env table call).rows.filter kept = table.rows.filter kept := by
  unfold afterCall
  cases ran : call.run env table with
  | error failure => rfl
  | ok result =>
      obtain ⟨user, after⟩ := result
      show after.rows.filter kept = table.rows.filter kept
      have byUpdate : (∃ target change sameId sameEmail, table.getById target.id = some target ∧
          call.actor.adminTenant = some target.tenantId ∧
            (∀ user, (change user).tenantId = user.tenantId) ∧
              after = table.updateById target.id change sameId sameEmail) →
          after.rows.filter kept = table.rows.filter kept := by
        rintro ⟨target, change, sameId, sameEmail, looked, own, sameTenant, rfl⟩
        refine UserTable.filter_updateById looked (outside target own) (outside _ ?_)
        rw [own, sameTenant]
      cases call with
      | createUser actor email password name role tenantId newId now =>
          obtain ⟨rows, own, -⟩ := createUser_cases notSuper ran
          rw [rows, List.filter_append]
          simp [outside user own]
      | updateUser actor userId name role now => exact byUpdate (updateUser_cases notSuper ran)
      | deactivateUser actor userId now => exact byUpdate (deactivateUser_cases notSuper ran)

/-- **No call revives a user.** An id without an active user stays so, unless a user is created under
it. -/
theorem afterCall_inactive {call : UserCall} {id : Uuid} (inactive : table.Inactive id)
    (fresh : call.newId ≠ some id) : (afterCall env table call).Inactive id := by
  unfold afterCall
  cases ran : call.run env table with
  | error failure => exact inactive
  | ok result =>
      obtain ⟨user, after⟩ := result
      show after.Inactive id
      cases call with
      | createUser actor email password name role tenantId newId now =>
          obtain ⟨rows, sameId, -⟩ := createUser_eq_ok ran
          intro other member same
          rw [rows, List.mem_append, List.mem_singleton] at member
          rcases member with stored | rfl
          · exact inactive other stored same
          · exact absurd (congrArg some (sameId.symm.trans same)) fresh
      | updateUser actor userId name role now =>
          obtain ⟨target, -, rest⟩ := bind_eq_ok.mp ran
          obtain ⟨declared, -, rest⟩ := bind_eq_ok.mp rest
          obtain ⟨⟨changed, stored⟩, called, answered⟩ := bind_eq_ok.mp rest
          obtain ⟨cutName, -, written⟩ := bind_eq_ok.mp (storeCall_eq_ok.mp called)
          obtain ⟨-, rfl⟩ := Prod.mk.inj (pure_eq_ok.mp written)
          cases changed with
          | none => exact (throw_eq_ok.mp answered).elim
          | some row =>
              obtain ⟨-, rfl⟩ := Prod.mk.inj (pure_eq_ok.mp answered)
              exact inactive.updateById fun _ was => was
      | deactivateUser actor userId now =>
          obtain ⟨target, -, rest⟩ := bind_eq_ok.mp ran
          simp only [UserTable.deactivateUser] at rest
          split at rest
          · exact (throw_eq_ok.mp rest).elim
          · obtain ⟨-, rfl⟩ := Prod.mk.inj (pure_eq_ok.mp rest)
            exact inactive.updateById fun _ _ => rfl

end Calls

/-! ### Sequences of calls -/

section Sequences

variable {env : UserEnv} {table : UserTable}

/-- A superadmin of a tenant that no admin among the actors administers. -/
def outsideSuperadmin (calls : List UserCall) (user : User) : Bool :=
  user.role = .superadmin && calls.all fun call => call.actor.adminTenant ≠ some user.tenantId

theorem afterCalls_frame {calls : List UserCall} {kept : User → Bool}
    (notSuper : ∀ call ∈ calls, call.actor.role ≠ Role.superadmin.name)
    (outside : ∀ call ∈ calls, ∀ user,
      call.actor.adminTenant = some user.tenantId → kept user = false) :
    (afterCalls env table calls).rows.filter kept = table.rows.filter kept := by
  induction calls generalizing table with
  | nil => rfl
  | cons call rest ih =>
      show (afterCalls env (afterCall env table call) rest).rows.filter kept = _
      rw [ih (fun other member => notSuper other (List.mem_cons_of_mem _ member))
        fun other member => outside other (List.mem_cons_of_mem _ member)]
      exact userCall_frame (notSuper call List.mem_cons_self) (outside call List.mem_cons_self)

/-- **No escalation beyond an admin's own tenant.** After every sequence of calls by actors other
than superadmin, the superadmins of the tenants that no admin among the actors administers are the
same. -/
theorem superadmins_unchanged (env : UserEnv) (table : UserTable) (calls : List UserCall)
    (notSuper : ∀ call ∈ calls, call.actor.role ≠ Role.superadmin.name) :
    (afterCalls env table calls).rows.filter (outsideSuperadmin calls) =
      table.rows.filter (outsideSuperadmin calls) := by
  refine afterCalls_frame notSuper fun call member user own => ?_
  by_contra kept
  have apart := (Bool.and_eq_true _ _ ▸ (Bool.not_eq_false _ ▸ kept)).2
  exact of_decide_eq_true (List.all_eq_true.mp apart call member) own

/-- The users before the first call. -/
def UserTable.empty : UserTable where
  rows := []
  idUnique := uniqueOn_nil
  emailUnique := uniqueOn_nil

/-- Tenants 1 and 2, with a hash that accepts every password. -/
def twoTenants : UserEnv where
  tenants := [1, 2]
  hashPassword := some

/-- The token of an admin of a tenant. -/
def adminOf (tenantId : Uuid) : TokenPayload where
  userId := uuidText 5
  tenantId := uuidText tenantId
  email := "admin@example.org"
  role := Role.admin.name
  tokenType := "access"
  exp := 900
  jti := uuidText 6
  installationId := ""

/-- An admin of tenant 1 creates a superadmin and a user, promotes the user, then renames the superadmin
and deactivates it. -/
def promotingCalls : List UserCall :=
  [.createUser (adminOf 1) "root@example.org" "secret" none "superadmin" none 7 0,
    .createUser (adminOf 1) "user@example.org" "secret" none "viewer" none 8 1,
    .updateUser (adminOf 1) (uuidText 8) none "superadmin" 2,
    .updateUser (adminOf 1) (uuidText 7) "Root" none 3, .deactivateUser (adminOf 1) (uuidText 7) 4]

/-- **An admin rules the superadmins of its tenant**, who are two after its calls and none before. -/
theorem admin_creates_superadmin :
    (∀ call ∈ promotingCalls, call.actor.role ≠ Role.superadmin.name) ∧
      UserTable.empty.rows.filter (fun user => user.role = .superadmin) = [] ∧
      (afterCalls twoTenants UserTable.empty promotingCalls).rows.map
        (fun user => (user.id, user.role, user.name, user.isActive)) =
          [(7, .superadmin, some "Root", false), (8, .superadmin, none, true)] :=
  ⟨by decide, rfl, by decide +kernel⟩

/-- Tenant 2 with one superadmin. -/
def otherTenantUsers : UserTable :=
  afterCalls twoTenants UserTable.empty
    [.createUser (adminOf 2) "other@example.org" "secret" none "superadmin" none 9 0]

/-- An admin of tenant 1 creates a superadmin there and asks to deactivate the one of tenant 2. -/
def adminCalls : List UserCall :=
  [.createUser (adminOf 1) "root@example.org" "secret" none "superadmin" none 7 1,
    .deactivateUser (adminOf 1) (uuidText 9) 2]

/-- The calls of an admin of tenant 1 leave the superadmin of tenant 2 alone. -/
theorem superadmins_unchanged_other_tenant :
    (otherTenantUsers.rows.filter (outsideSuperadmin adminCalls)).map User.id = [9] ∧
      (afterCalls twoTenants otherTenantUsers adminCalls).rows.filter
        (outsideSuperadmin adminCalls) =
          otherTenantUsers.rows.filter (outsideSuperadmin adminCalls) :=
  ⟨by decide +kernel, superadmins_unchanged twoTenants otherTenantUsers adminCalls (by decide)⟩

end Sequences

end CosMonitor
