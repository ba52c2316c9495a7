/-
**Verified claims and the machine token service.**

`Jose` is the signing library: it encodes claims under a private key and, when it accepts a token,
returns the claims that were encoded. `MachineJwtService` signs with its active key and verifies with
the key that the token names.

* `decodePayload`: the verified payload of a token of an expected kind;
* `decode_createMachineToken`: a machine token that verifies carries the claims it was made with.
-/

import CosMonitor.Base.Stdlib
import CosMonitor.Foundation.Result

namespace CosMonitor

open Result

/-- The claims that a verified token hands to the services. -/
structure TokenPayload where
  userId : String
  tenantId : String
  email : String
  role : String
  tokenType : String
  exp : Int
  jti : String
  installationId : String
  deriving DecidableEq, Repr

/-- `payload.name` for a text attribute. The dataclass has no other names. -/
def TokenPayload.getattr (payload : TokenPayload) (name : String) : Except PyError String :=
  match name with
  | "user_id" => .ok payload.userId
  | "tenant_id" => .ok payload.tenantId
  | "email" => .ok payload.email
  | "role" => .ok payload.role
  | "token_type" => .ok payload.tokenType
  | "jti" => .ok payload.jti
  | "installation_id" => .ok payload.installationId
  | _ => .error (.attributeError name)

/-- The errors of the machine authentication. -/
inductive MachineError where
  | invalidToken (message : String)
  | securityControlUnavailable
  | python (failure : PyError)
  deriving DecidableEq, Repr

/-- The library that signs and verifies tokens. `none` is its `JWTError`. -/
structure Jose where
  Token : Type
  decToken : DecidableEq Token
  encode : (claims : Json) → (privateKey kid : String) → Token
  headerKid : Token → Option Json
  decode : Token → (publicKey : String) → (audience : Option String) → (now : Timestamp) →
    Option Json
  /-- A token that verifies carries the claims it was encoded with. -/
  decode_encode : ∀ {claims privateKey kid publicKey audience now found},
    decode (encode claims privateKey kid) publicKey audience now = some found → found = claims

instance (jose : Jose) : DecidableEq jose.Token := jose.decToken

/-- The machine token service: keys by kid, of which one signs. -/
structure MachineJwtService where
  keySet : List (String × String × String)
  activeKid : String
  privateKey : String
  publicKey : String
  accessExpireSeconds : Nat
  refreshExpireHours : Nat
  audience : Option String
  active : keySet.lookup activeKid = some (privateKey, publicKey)

/-- The kinds of machine tokens. -/
inductive MachineTokenType where
  | access
  | refresh
  | registration
  deriving DecidableEq, Repr

/-- The text of a kind in the `token_type` claim. -/
def MachineTokenType.name : MachineTokenType → String
  | access => "machine_access"
  | refresh => "machine_refresh"
  | registration => "registration_token"

namespace MachineJwtService

variable (jose : Jose) (service : MachineJwtService)

/-- The claims of `create_machine_token`. -/
def machineClaims (now : Timestamp) (jti : Uuid) (credentialId tenantId : String)
    (tokenType : MachineTokenType) (lifetime : Timestamp) (extraClaims : List (String × Json)) :
    Json :=
  .obj (Json.updateFields
    [("sub", .str credentialId), ("tenant_id", .str tenantId), ("token_type", .str tokenType.name),
      ("iat", .int (now / second)), ("exp", .int ((now + lifetime) / second)),
      ("jti", .str (uuidText jti))]
    extraClaims)

/-- Issue a machine token signed with the active key. -/
def createMachineToken (now : Timestamp) (jti : Uuid) (credentialId tenantId : String)
    (tokenType : MachineTokenType) (lifetime : Timestamp) (extraClaims : List (String × Json)) :
    jose.Token :=
  jose.encode (machineClaims now jti credentialId tenantId tokenType lifetime extraClaims)
    service.privateKey service.activeKid

def createAccessToken (now : Timestamp) (jti : Uuid) (credentialId tenantId : String)
    (extraClaims : List (String × Json)) : jose.Token :=
  service.createMachineToken jose now jti credentialId tenantId .access
    (service.accessExpireSeconds * second) extraClaims

def createRefreshToken (now : Timestamp) (jti : Uuid) (credentialId tenantId : String)
    (extraClaims : List (String × Json)) : jose.Token :=
  service.createMachineToken jose now jti credentialId tenantId .refresh
    (service.refreshExpireHours * 3600 * second) extraClaims

/-- A single-use token of ten minutes. -/
def createRegistrationToken (now : Timestamp) (jti : Uuid)
    (credentialId tenantId installationId : String) : jose.Token :=
  service.createMachineToken jose now jti credentialId tenantId .registration (600 * second)
    [("installation_id", .str installationId)]

/-- Verify a machine token with the public key that its kid names. -/
def decode (now : Timestamp) (token : jose.Token) : Except MachineError Json :=
  match jose.headerKid token with
  | none => .error (.invalidToken "invalid token header")
  | some (.str kid) =>
      if kid = "" then .error (.invalidToken "machine token missing required kid header")
      else match service.keySet.lookup kid with
        | none => .error (.invalidToken "unknown kid; rejecting (fail-closed)")
        | some (_, publicKey) =>
            match jose.decode token publicKey service.audience now with
            | some claims => .ok claims
            | none => .error (.invalidToken "JWTError")
  | some header =>
      if header.truthy then .error (.invalidToken "unknown kid; rejecting (fail-closed)")
      else .error (.invalidToken "machine token missing required kid header")

/-- `int(claims["exp"])`. -/
def expClaim (claims : Json) : Option Int :=
  match claims.lookup "exp" with
  | some (.int value) => some value
  | some (.bool value) => some (if value then 1 else 0)
  | some (.float value) => some (if 0 ≤ value then ⌊value⌋ else ⌈value⌉)
  | some (.str text) => parseInteger (numeralText text.toList)
  | _ => none

/-- The verified payload of a token of the expected kind. -/
def decodePayload (std : Stdlib) (now : Timestamp) (expected : MachineTokenType)
    (token : jose.Token) : Except MachineError TokenPayload := do
  let claims ← service.decode jose now token
  if claims.get "token_type" ≠ .str expected.name then
    throw (.invalidToken "token is not of the expected type")
  match claims.lookup "sub", claims.lookup "tenant_id", expClaim claims with
  | some sub, some tenantId, some exp =>
      return {
        userId := std.str sub
        tenantId := std.str tenantId
        email := std.str ((claims.lookup "email").getD (.str ""))
        role := std.str ((claims.lookup "role").getD (.str ""))
        tokenType := expected.name
        exp
        jti := std.str ((claims.lookup "jti").getD (.str ""))
        installationId := std.str ((claims.lookup "installation_id").getD (.str "")) }
  | _, _, _ => throw (.invalidToken "machine token payload is missing required claims")

variable {jose service}

/-- **A machine token that verifies carries the claims it was made with.** -/
theorem decode_createMachineToken {now later : Timestamp} {jti : Uuid}
    {credentialId tenantId : String} {tokenType : MachineTokenType} {lifetime : Timestamp}
    {extraClaims : List (String × Json)} {found : Json}
    (verified : service.decode jose later
      (service.createMachineToken jose now jti credentialId tenantId tokenType lifetime
        extraClaims) = .ok found) :
    found = machineClaims now jti credentialId tenantId tokenType lifetime extraClaims := by
  unfold decode at verified
  split at verified
  · cases verified
  · split at verified
    · cases verified
    · split at verified
      · cases verified
      · split at verified
        · rename_i claims accepted
          rw [← Except.ok.inj verified]
          exact jose.decode_encode accepted
        · cases verified
  · split at verified <;> cases verified

end MachineJwtService

end CosMonitor
