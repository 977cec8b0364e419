import CertGate.Config.Basic
import CertGate.Value

/-!
# Configurations as values

Every section is a record; what is not given has its default. The directory is told by its kind.
Durations are texts. Writing gives all settings, absent ones as null.
-/

namespace CertGate

namespace Duration

def ofValue (fit : Value.Fit) (v : Value) : Option Duration := do
  (parse (← v.asText fit)).toOption

def toValue (d : Duration) : Value :=
  .text d.render

end Duration

/-- A text as a value, or null in its place. -/
def Value.ofOptionalText : Option String → Value
  | some s => .text s
  | none => .null

namespace ServerConfig

def ofValue (fit : Value.Fit) : Value → Option ServerConfig :=
  Value.readRecord fit
    [⟨"host", fun s v => do return { s with host := ← v.asText fit }⟩,
     ⟨"port", fun s v => do return { s with port := ← v.asUInt16 }⟩,
     ⟨"shutdown_timeout", fun s v => do
        return { s with shutdownTimeout := ← Duration.ofValue fit v }⟩] {}

def toValue (s : ServerConfig) : Value :=
  .dict [("host", .text s.host), ("port", .int s.port.toNat),
    ("shutdown_timeout", s.shutdownTimeout.toValue)]

end ServerConfig

namespace ValidationConfig

def ofValue (fit : Value.Fit) : Value → Option ValidationConfig :=
  Value.readRecord fit
    [⟨"group", fun s v => do return { s with group := ← v.asText fit }⟩,
     ⟨"tenant", fun s v => do return { s with tenant := ← v.asText fit }⟩] {}

def toValue (s : ValidationConfig) : Value :=
  .dict [("group", .text s.group), ("tenant", .text s.tenant)]

end ValidationConfig

namespace PathLeads

def ofValue (fit : Value.Fit) : Value → Option PathLeads :=
  Value.readRecord fit
    [⟨"event_service_v1_prefix", fun s v => do return { s with eventServiceV1 := ← v.asText fit }⟩,
     ⟨"event_service_v2_prefix", fun s v => do return { s with eventServiceV2 := ← v.asText fit }⟩,
     ⟨"event_mesh_prefix", fun s v => do return { s with eventMesh := ← v.asText fit }⟩,
     ⟨"app_registry_prefix", fun s v => do return { s with appRegistry := ← v.asText fit }⟩] {}

def toValue (s : PathLeads) : Value :=
  .dict [("event_service_v1_prefix", .text s.eventServiceV1),
    ("event_service_v2_prefix", .text s.eventServiceV2),
    ("event_mesh_prefix", .text s.eventMesh), ("app_registry_prefix", .text s.appRegistry)]

end PathLeads

namespace Backends

def ofValue (fit : Value.Fit) : Value → Option Backends :=
  Value.readRecord fit
    [⟨"event_service_host", fun s v => do return { s with eventServiceHost := ← v.asText fit }⟩,
     ⟨"event_mesh_host", fun s v => do return { s with eventMeshHost := ← v.asText fit }⟩,
     ⟨"event_mesh_destination_path", fun s v => do
        return { s with eventMeshDestinationPath := ← v.asText fit }⟩,
     ⟨"app_registry_host", fun s v => do return { s with appRegistryHost := ← v.asText fit }⟩,
     ⟨"mesh_enabled", fun s v => do
        return { s with meshEnabled := ← v.asOption Value.asFlag }⟩] {}

def toValue (s : Backends) : Value :=
  .dict [("event_service_host", .text s.eventServiceHost),
    ("event_mesh_host", .text s.eventMeshHost),
    ("event_mesh_destination_path", .text s.eventMeshDestinationPath),
    ("app_registry_host", .text s.appRegistryHost),
    ("mesh_enabled", (s.meshEnabled.map Value.flag).getD .null)]

end Backends

namespace CacheConfig

def ofValue (fit : Value.Fit) : Value → Option CacheConfig :=
  Value.readRecord fit
    [⟨"expiration", fun s v => do return { s with expiration := ← Duration.ofValue fit v }⟩,
     ⟨"cleanup_interval", fun s v => do
        return { s with cleanupInterval := ← Duration.ofValue fit v }⟩] {}

def toValue (s : CacheConfig) : Value :=
  .dict [("expiration", s.expiration.toValue), ("cleanup_interval", s.cleanupInterval.toValue)]

end CacheConfig

namespace KubernetesConfig

def ofValue (fit : Value.Fit) : Value → Option KubernetesConfig :=
  Value.readRecord fit
    [⟨"api_server", fun s v => do return { s with apiServer := ← v.asText fit }⟩,
     ⟨"token_file", fun s v => do
        return { s with tokenFile := ← v.asOption (·.asText fit) }⟩,
     ⟨"ca_file", fun s v => do return { s with caFile := ← v.asOption (·.asText fit) }⟩,
     ⟨"request_timeout", fun s v => do
        return { s with requestTimeout := ← Duration.ofValue fit v }⟩] {}

end KubernetesConfig

/-- The client IDs of applications by their names; null stands for an application without any. -/
abbrev ApplicationTable := List (String × Option (List String))

namespace ApplicationTable

/-- Reads an `ApplicationTable` from a dictionary. -/
def ofValue (fit : Value.Fit) : Value → Option ApplicationTable :=
  Value.asDict (Value.asOption (Value.asList (·.asText fit)))

/-- Reads the table from the one member `applications` of a record. -/
def ofRecord (fit : Value.Fit) : Value → Option ApplicationTable :=
  Value.readRecord fit [⟨"applications", fun _ v => ofValue fit v⟩] []

def toValue (t : ApplicationTable) : Value :=
  .dict (t.map fun (name, ids) =>
    (name, (ids.map fun ids => Value.list (ids.map .text)).getD .null))

end ApplicationTable

namespace DirectoryConfig

/-- The kinds of directories, one for each way to set up a `DirectoryConfig`. -/
inductive Kind where
  | kubernetes
  | fixed
  deriving DecidableEq, Repr

/-- Reads a `Kind`, by its name or its number. -/
def Kind.ofValue : Value → Option Kind
  | .text "kubernetes" => some .kubernetes
  | .text "static" => some .fixed
  | .int 0 => some .kubernetes
  | .int 1 => some .fixed
  | _ => none

/-- Reads the settings of a directory of the `kind`. -/
def ofSettings (kind : Kind) (settings : Value) : Option DirectoryConfig :=
  match kind with
  | .kubernetes => (KubernetesConfig.ofValue .exact settings).map .kubernetes
  | .fixed => (ApplicationTable.ofRecord .exact settings).map .fixed

/-- Reads a directory. Its `kind` is a member among its settings, or the item in front of them. -/
def ofValue : Value → Option DirectoryConfig
  | .dict members => do
    let kind ← Kind.ofValue (← members.lookup "kind")
    ofSettings kind (.dict (members.filter (·.1 != "kind")))
  | .list (kind :: settings) => do ofSettings (← Kind.ofValue kind) (.list settings)
  | _ => none

def toValue : DirectoryConfig → Value
  | .kubernetes k =>
    .dict [("kind", .text "kubernetes"), ("api_server", .text k.apiServer),
      ("token_file", .ofOptionalText k.tokenFile), ("ca_file", .ofOptionalText k.caFile),
      ("request_timeout", k.requestTimeout.toValue)]
  | .fixed applications =>
    .dict [("kind", .text "static"), ("applications", ApplicationTable.toValue applications)]

end DirectoryConfig

namespace Config

def ofValue (fit : Value.Fit) : Value → Option Config :=
  Value.readRecord fit
    [⟨"env_files", fun c v => do return { c with envFiles := ← v.asList (·.asText fit) }⟩,
     ⟨"server", fun c v => do return { c with server := ← ServerConfig.ofValue fit v }⟩,
     ⟨"validation", fun c v => do
        return { c with validation := ← ValidationConfig.ofValue fit v }⟩,
     ⟨"routes", fun c v => do return { c with routes := ← PathLeads.ofValue fit v }⟩,
     ⟨"backends", fun c v => do return { c with backends := ← Backends.ofValue fit v }⟩,
     ⟨"cache", fun c v => do return { c with cache := ← CacheConfig.ofValue fit v }⟩,
     ⟨"directory", fun c v => do return { c with directory := ← DirectoryConfig.ofValue v }⟩] {}

def toValue (c : Config) : Value :=
  .dict [("env_files", .list (c.envFiles.map .text)), ("server", c.server.toValue),
    ("validation", c.validation.toValue), ("routes", c.routes.toValue),
    ("backends", c.backends.toValue), ("cache", c.cache.toValue),
    ("directory", c.directory.toValue)]

end Config

end CertGate
