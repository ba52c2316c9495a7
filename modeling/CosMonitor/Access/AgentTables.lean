/-
**The tables of the agents: installations, credentials and running instances.**
-/

import CosMonitor.Base.Database

namespace CosMonitor

inductive InstallationStatus where
  | provisioned
  | active
  | disabled
  | revoked
  deriving DecidableEq, Repr

inductive CredentialStatus where
  | active
  | revoked
  | expired
  deriving DecidableEq, Repr

inductive InstanceStatus where
  | running
  | stopped
  deriving DecidableEq, Repr

/-- A row of `agent_installations`: the persistent identity of an agent on a host. -/
structure Installation where
  id : Uuid
  tenantId : Uuid
  serverId : Uuid
  hostFingerprint : String
  agentType : String
  capabilities : Json
  status : InstallationStatus
  lastSeenAt : Option Timestamp
  deriving DecidableEq, Repr

/-- A row of `agent_credentials`. -/
structure Credential where
  id : Uuid
  tenantId : Uuid
  installationId : Uuid
  status : CredentialStatus
  deriving DecidableEq, Repr

/-- A row of `agent_instances`: a running process of an installation. -/
structure AgentInstance where
  id : Uuid
  tenantId : Uuid
  installationId : Uuid
  credentialId : Uuid
  hostFingerprint : String
  status : InstanceStatus
  lastHeartbeatAt : Timestamp
  stoppedAt : Option Timestamp
  deriving DecidableEq, Repr

end CosMonitor
