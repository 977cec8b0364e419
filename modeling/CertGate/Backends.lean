import CertGate.Route

/-!
# Backends

Where requests are forwarded to.
-/

namespace CertGate

/-- Where the backends are, and how requests to the event mesh differ. -/
structure Backends where
  eventServiceHost : String := "events-api:8080"
  eventMeshHost : String := "eventing-publisher-proxy.kyma-system"
  eventMeshDestinationPath : String := "/"
  appRegistryHost : String := "application-registry-external-api:8081"
  meshEnabled : Option Bool := none
  deriving DecidableEq, Repr

namespace Backends

/-- The `eventMeshDestinationPath` that goes with an enabled mesh. -/
def publishPath : String := "/publish"

/-- Whether the mesh is enabled: as `meshEnabled` says, or else by its path. -/
def isMeshEnabled (b : Backends) : Bool :=
  b.meshEnabled.getD (b.eventMeshDestinationPath == publishPath)

/-- The configured host of a `Destination`, without or with a scheme. -/
def host (b : Backends) : Destination → String
  | .eventServiceV1 | .eventServiceV2 => b.eventServiceHost
  | .eventMesh => b.eventMeshHost
  | .appRegistry => b.appRegistryHost

end Backends

end CertGate
