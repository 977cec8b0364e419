import CertGate.Backends
import CertGate.Duration
import CertGate.Error
import CertGate.Text.Blank

/-!
# Configuration

What can be set, what holds where nothing is set, and which configurations a gateway refuses.
-/

namespace CertGate

/-- Where the gateway listens, and how long it waits for requests when it is stopped. -/
structure ServerConfig where
  host : String := "0.0.0.0"
  port : UInt16 := 8080
  shutdownTimeout : Duration := .ofSeconds 30
  deriving DecidableEq, Repr

/-- The group and the tenant that certificates have to carry; empty ones ask for nothing. -/
structure ValidationConfig where
  group : String := ""
  tenant : String := ""
  deriving DecidableEq, Repr

/-- How long identities are remembered, and how often `evictExpired` sweeps out old ones. -/
structure CacheConfig where
  expiration : Duration := .ofSeconds 60
  cleanupInterval : Duration := .ofSeconds 120
  deriving DecidableEq, Repr

/-- How the API server of a cluster is reached. -/
structure KubernetesConfig where
  apiServer : String := "https://kubernetes.default.svc"
  tokenFile : Option String := some "/var/run/secrets/kubernetes.io/serviceaccount/token"
  caFile : Option String := some "/var/run/secrets/kubernetes.io/serviceaccount/ca.crt"
  requestTimeout : Duration := .zero
  deriving DecidableEq, Repr

/-- Where application records come from. -/
inductive DirectoryConfig where
  /-- The API server of a cluster. -/
  | kubernetes (config : KubernetesConfig)
  /-- Fixed records: client IDs by application, or none at all. -/
  | fixed (applications : List (String × Option (List String)))
  deriving DecidableEq, Repr

/-- The configuration of a gateway. -/
structure Config where
  envFiles : List String := []
  server : ServerConfig := {}
  validation : ValidationConfig := {}
  routes : PathLeads := {}
  backends : Backends := {}
  cache : CacheConfig := {}
  directory : DirectoryConfig := .kubernetes {}
  deriving DecidableEq, Repr

namespace Config

/-- The settings that `validate` looks at first, in this order: none of them may be blank. -/
def required (c : Config) : List (String × String) :=
  [("routes.event_service_v1_prefix", c.routes.eventServiceV1),
   ("routes.event_service_v2_prefix", c.routes.eventServiceV2),
   ("routes.event_mesh_prefix", c.routes.eventMesh),
   ("routes.app_registry_prefix", c.routes.appRegistry),
   ("backends.event_service_host", c.backends.eventServiceHost),
   ("backends.event_mesh_host", c.backends.eventMeshHost),
   ("backends.app_registry_host", c.backends.appRegistryHost)]

/-- Refuses a configuration in which a setting of `required` is blank or the event mesh has a path
without a slash in front, and says what is wrong first. -/
def validate (c : Config) : Except GateError Unit :=
  match c.required.find? fun (_, value) => value.toList.all Text.isBlank with
  | some (name, _) => .error (.config s!"{name} must not be empty")
  | none =>
    if c.backends.eventMeshDestinationPath.toList.head? = some '/' then .ok ()
    else
      .error (.config ("backends.event_mesh_destination_path must start with '/': "
        ++ c.backends.eventMeshDestinationPath))

end Config

end CertGate
