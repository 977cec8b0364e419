import CertGate.CommandLine.Options
import CertGate.Config.Layers
import CertGate.Proofs.Outcomes
import CertGate.Proofs.RecordReading

/-!
# The leaves of a configuration

A leaf is a setting that holds no others: a field of a section, or the client IDs of one application. A
leaf of a configuration that was read is what stands in its slot in the tree of settings, or its own
fallback where nothing stands there. Options of the command line are laid over five of the leaves.

## Key results

- `readOr_item` of each section: its fields, from its members or items
- `Leaf.readOr_get?`: the leaves of a configuration that was read
- `Leaf.get?_apply`: the leaves of a configuration with options laid over it
- `Leaf.isSome_get?`: which leaves a configuration has
- `Leaf.after?_path`: leaves do not stand in each other's way
-/

namespace CertGate

open Value (readOr readOr_bind)

/-! ## Loading -/

/-- `load` reads all settings together, if every variable of the files can be set. -/
theorem Config.load_eq_ok_iff (s : Surroundings) (path : Option String) (c : Config) :
    load s path = .ok c ↔
      ∃ file, fileLayer s.files path = .ok file ∧
        unsettable? s (envFilesNamed s file) = none ∧ ofValue .loose (layers s file) = some c := by
  rw [load, Except.bind_eq_ok_iff]
  refine exists_congr fun file => and_congr_right fun _ => ?_
  cases unsettable? s (envFilesNamed s file) with
  -- a variable that cannot be set ends the program, whatever the settings are
  | some name => exact iff_of_false (fun h => nomatch h) fun h => nomatch h.1
  | none =>
    cases ofValue .loose (layers s file) with
    | none => exact iff_of_false (fun h => nomatch h) fun h => nomatch h.2
    | some c' => exact ⟨fun h => by cases h; exact ⟨rfl, rfl⟩, fun h => by cases h.2; rfl⟩

-- a NUL in a file of variables, which only ends the program where the variable is not set yet
example :
    let file : Value := .dict [("env_files", .list [.text "a.env"])]
    let files : Files := { entries := [("a.env", "A=1\nB=x\x00y\n".toUTF8.toList)] }
    let unsettable (env : Environment) :=
      let s : Surroundings := { files, env }
      Config.unsettable? s (Config.envFilesNamed s file)
    unsettable [] = some "B" ∧ unsettable [("B", "2")] = none := by decide +kernel

section

/-! ## Sections -/

variable {fit : Value.Fit} {v : Value}

open Value (readRecord_item)
open Value.Field (keeps_update sets_update)

/-- A `ServerConfig` that was read: each field is what stands in its place, or its default. -/
theorem ServerConfig.readOr_item {s : ServerConfig} (h : ofValue fit v = some s) :
    readOr ({} : ServerConfig).host (·.asText fit) (v.item? "host" 0) = some s.host ∧
    readOr ({} : ServerConfig).port Value.asUInt16 (v.item? "port" 1) = some s.port ∧
    readOr ({} : ServerConfig).shutdownTimeout (Duration.ofValue fit)
      (v.item? "shutdown_timeout" 2) = some s.shutdownTimeout := by
  refine ⟨readRecord_item h 0 _ rfl (sets_update fun _ _ => rfl) ?_,
    readRecord_item h 1 _ rfl (sets_update fun _ _ => rfl) ?_,
    readRecord_item h 2 _ rfl (sets_update fun _ _ => rfl) ?_⟩
  all_goals
    repeat' apply And.intro
    all_goals exact keeps_update fun _ _ => rfl

/-- A `ValidationConfig` that was read, field by field. -/
theorem ValidationConfig.readOr_item {s : ValidationConfig} (h : ofValue fit v = some s) :
    readOr ({} : ValidationConfig).group (·.asText fit) (v.item? "group" 0) = some s.group ∧
    readOr ({} : ValidationConfig).tenant (·.asText fit) (v.item? "tenant" 1) = some s.tenant := by
  refine ⟨readRecord_item h 0 _ rfl (sets_update fun _ _ => rfl) ?_,
    readRecord_item h 1 _ rfl (sets_update fun _ _ => rfl) ?_⟩
  all_goals exact keeps_update fun _ _ => rfl

/-- The `PathLeads` that were read, field by field. -/
theorem PathLeads.readOr_item {s : PathLeads} (h : ofValue fit v = some s) :
    readOr ({} : PathLeads).eventServiceV1 (·.asText fit)
      (v.item? "event_service_v1_prefix" 0) = some s.eventServiceV1 ∧
    readOr ({} : PathLeads).eventServiceV2 (·.asText fit)
      (v.item? "event_service_v2_prefix" 1) = some s.eventServiceV2 ∧
    readOr ({} : PathLeads).eventMesh (·.asText fit)
      (v.item? "event_mesh_prefix" 2) = some s.eventMesh ∧
    readOr ({} : PathLeads).appRegistry (·.asText fit)
      (v.item? "app_registry_prefix" 3) = some s.appRegistry := by
  refine ⟨readRecord_item h 0 _ rfl (sets_update fun _ _ => rfl) ?_,
    readRecord_item h 1 _ rfl (sets_update fun _ _ => rfl) ?_,
    readRecord_item h 2 _ rfl (sets_update fun _ _ => rfl) ?_,
    readRecord_item h 3 _ rfl (sets_update fun _ _ => rfl) ?_⟩
  all_goals
    repeat' apply And.intro
    all_goals exact keeps_update fun _ _ => rfl

/-- The `Backends` that were read, field by field. -/
theorem Backends.readOr_item {s : Backends} (h : ofValue fit v = some s) :
    readOr ({} : Backends).eventServiceHost (·.asText fit)
      (v.item? "event_service_host" 0) = some s.eventServiceHost ∧
    readOr ({} : Backends).eventMeshHost (·.asText fit)
      (v.item? "event_mesh_host" 1) = some s.eventMeshHost ∧
    readOr ({} : Backends).eventMeshDestinationPath (·.asText fit)
      (v.item? "event_mesh_destination_path" 2) = some s.eventMeshDestinationPath ∧
    readOr ({} : Backends).appRegistryHost (·.asText fit)
      (v.item? "app_registry_host" 3) = some s.appRegistryHost ∧
    readOr ({} : Backends).meshEnabled (Value.asOption Value.asFlag)
      (v.item? "mesh_enabled" 4) = some s.meshEnabled := by
  refine ⟨readRecord_item h 0 _ rfl (sets_update fun _ _ => rfl) ?_,
    readRecord_item h 1 _ rfl (sets_update fun _ _ => rfl) ?_,
    readRecord_item h 2 _ rfl (sets_update fun _ _ => rfl) ?_,
    readRecord_item h 3 _ rfl (sets_update fun _ _ => rfl) ?_,
    readRecord_item h 4 _ rfl (sets_update fun _ _ => rfl) ?_⟩
  all_goals
    repeat' apply And.intro
    all_goals exact keeps_update fun _ _ => rfl

/-- A `CacheConfig` that was read, field by field. -/
theorem CacheConfig.readOr_item {s : CacheConfig} (h : ofValue fit v = some s) :
    readOr ({} : CacheConfig).expiration (Duration.ofValue fit)
      (v.item? "expiration" 0) = some s.expiration ∧
    readOr ({} : CacheConfig).cleanupInterval (Duration.ofValue fit)
      (v.item? "cleanup_interval" 1) = some s.cleanupInterval := by
  refine ⟨readRecord_item h 0 _ rfl (sets_update fun _ _ => rfl) ?_,
    readRecord_item h 1 _ rfl (sets_update fun _ _ => rfl) ?_⟩
  all_goals exact keeps_update fun _ _ => rfl

/-- A `KubernetesConfig` that was read, field by field. -/
theorem KubernetesConfig.readOr_item {s : KubernetesConfig} (h : ofValue fit v = some s) :
    readOr ({} : KubernetesConfig).apiServer (·.asText fit)
      (v.item? "api_server" 0) = some s.apiServer ∧
    readOr ({} : KubernetesConfig).tokenFile (Value.asOption (·.asText fit))
      (v.item? "token_file" 1) = some s.tokenFile ∧
    readOr ({} : KubernetesConfig).caFile (Value.asOption (·.asText fit))
      (v.item? "ca_file" 2) = some s.caFile ∧
    readOr ({} : KubernetesConfig).requestTimeout (Duration.ofValue fit)
      (v.item? "request_timeout" 3) = some s.requestTimeout := by
  refine ⟨readRecord_item h 0 _ rfl (sets_update fun _ _ => rfl) ?_,
    readRecord_item h 1 _ rfl (sets_update fun _ _ => rfl) ?_,
    readRecord_item h 2 _ rfl (sets_update fun _ _ => rfl) ?_,
    readRecord_item h 3 _ rfl (sets_update fun _ _ => rfl) ?_⟩
  all_goals
    repeat' apply And.intro
    all_goals exact keeps_update fun _ _ => rfl

/-- A `Config` that was read, section by section. -/
theorem Config.readOr_item {c : Config} (h : ofValue fit v = some c) :
    readOr ({} : Config).server (ServerConfig.ofValue fit) (v.item? "server" 1) = some c.server ∧
    readOr ({} : Config).validation (ValidationConfig.ofValue fit) (v.item? "validation" 2) =
      some c.validation ∧
    readOr ({} : Config).routes (PathLeads.ofValue fit) (v.item? "routes" 3) = some c.routes ∧
    readOr ({} : Config).backends (Backends.ofValue fit) (v.item? "backends" 4) = some c.backends ∧
    readOr ({} : Config).cache (CacheConfig.ofValue fit) (v.item? "cache" 5) = some c.cache ∧
    readOr ({} : Config).directory DirectoryConfig.ofValue (v.item? "directory" 6) =
      some c.directory := by
  refine ⟨readRecord_item h 1 _ rfl (sets_update fun _ _ => rfl) ?_,
    readRecord_item h 2 _ rfl (sets_update fun _ _ => rfl) ?_,
    readRecord_item h 3 _ rfl (sets_update fun _ _ => rfl) ?_,
    readRecord_item h 4 _ rfl (sets_update fun _ _ => rfl) ?_,
    readRecord_item h 5 _ rfl (sets_update fun _ _ => rfl) ?_,
    readRecord_item h 6 _ rfl (sets_update fun _ _ => rfl) ?_⟩
  all_goals
    repeat' apply And.intro
    all_goals exact keeps_update fun _ _ => rfl

/-- An `ApplicationTable` that was read: its one member is `applications`. -/
theorem ApplicationTable.readOr_item {t : ApplicationTable} (h : ofRecord fit v = some t) :
    readOr [] (ofValue fit) (v.item? "applications" 0) = some t :=
  readRecord_item h 0 _ rfl (fun _ _ _ hread => hread) trivial

/-! ## Directories -/

def DirectoryConfig.kind : DirectoryConfig → Kind
  | .kubernetes _ => .kubernetes
  | .fixed _ => .fixed

/-- How the API server is reached, if the directory is `DirectoryConfig.kubernetes`. -/
def DirectoryConfig.kubernetes? : DirectoryConfig → Option KubernetesConfig
  | .kubernetes k => some k
  | .fixed _ => none

/-- The fixed records, if the directory is `DirectoryConfig.fixed`. -/
def DirectoryConfig.applications? : DirectoryConfig → Option ApplicationTable
  | .kubernetes _ => none
  | .fixed applications => some applications

/-- `ofSettings` gives a directory of the kind it was told. -/
theorem DirectoryConfig.kind_of_ofSettings {kind : Kind} {settings : Value} {d : DirectoryConfig}
    (h : ofSettings kind settings = some d) : d.kind = kind := by
  cases kind with
  | kubernetes =>
    obtain ⟨k, -, rfl⟩ := Option.map_eq_some_iff.1 h
    rfl
  | fixed =>
    obtain ⟨applications, -, rfl⟩ := Option.map_eq_some_iff.1 h
    rfl

/-- The settings of a directory come without its `kind` if they are a dictionary, or behind it if they
are a list. -/
theorem DirectoryConfig.exists_settings {v : Value} {d : DirectoryConfig} (h : ofValue v = some d) :
    (v.item? "kind" 0).bind Kind.ofValue = some d.kind ∧
    ∃ settings, ofSettings d.kind settings = some d ∧
      ∀ name place, name ≠ "kind" → settings.item? name place = v.item? name (place + 1) := by
  cases v with
  | dict members =>
    obtain ⟨w, hw, h⟩ := Option.bind_eq_some_iff.1 h
    obtain ⟨kind, hkind, h⟩ := Option.bind_eq_some_iff.1 h
    -- all members but the kind
    rw [kind_of_ofSettings h]
    refine ⟨Option.bind_eq_some_iff.2 ⟨w, hw, hkind⟩, _, h, fun name place hname => ?_⟩
    exact List.lookup_filter_ne_of_ne members "kind" name hname
  | list items =>
    cases items with
    | nil => cases h
    | cons w settings =>
      -- the items behind the first one
      obtain ⟨kind, hkind, h⟩ := Option.bind_eq_some_iff.1 h
      rw [kind_of_ofSettings h]
      exact ⟨hkind, _, h, fun name place _ => rfl⟩
  | _ => cases h

/-- The `kind` of a directory is read from among its settings, or is the default. -/
theorem DirectoryConfig.readOr_kind {given : Option Value} {d : DirectoryConfig}
    (h : readOr ({} : Config).directory ofValue given = some d) :
    readOr ({} : Config).directory.kind Kind.ofValue (given.bind (·.item? "kind" 0)) =
      some d.kind := by
  cases given with
  | none => rw [← Option.some.inj h, Option.bind_none, readOr]
  | some v =>
    obtain ⟨w, hw, hkind⟩ := Option.bind_eq_some_iff.1 (exists_settings h).1
    rw [Option.bind_some, hw, readOr, hkind]

/-- A setting of `DirectoryConfig.kubernetes`, from among all settings of the directory. -/
theorem DirectoryConfig.readOr_kubernetes {β : Type} {given : Option Value} {d : DirectoryConfig}
    {k : KubernetesConfig} {part : KubernetesConfig → β} {read : Value → Option β} {name : String}
    {place : Nat} (h : readOr ({} : Config).directory ofValue given = some d)
    (hk : d.kubernetes? = some k) (hname : name ≠ "kind")
    (hpart : ∀ settings, KubernetesConfig.ofValue .exact settings = some k →
      readOr (part {}) read (settings.item? name place) = some (part k)) :
    readOr (part {}) read (given.bind (·.item? name (place + 1))) = some (part k) := by
  cases given with
  | none =>
    cases h
    cases hk
    rfl
  | some v =>
    cases d with
    | fixed => cases hk
    | kubernetes =>
      cases hk
      obtain ⟨-, settings, hread, hitem⟩ := exists_settings h
      obtain ⟨k, hread, heq⟩ := Option.map_eq_some_iff.1 hread
      cases heq
      rw [Option.bind_some, ← hitem name place hname, hpart settings hread]

/-- The table of `DirectoryConfig.fixed`, from among all settings of the directory. -/
theorem DirectoryConfig.readOr_applications {given : Option Value} {d : DirectoryConfig}
    {t : ApplicationTable} (h : readOr ({} : Config).directory ofValue given = some d)
    (ht : d.applications? = some t) :
    readOr [] (ApplicationTable.ofValue .exact) (given.bind (·.item? "applications" 1)) =
      some t := by
  cases given with
  | none =>
    cases h
    cases ht
  | some v =>
    cases d with
    | kubernetes => cases ht
    | fixed =>
      cases ht
      obtain ⟨-, settings, hread, hitem⟩ := exists_settings h
      obtain ⟨t, hread, heq⟩ := Option.map_eq_some_iff.1 hread
      cases heq
      rw [Option.bind_some, ← hitem "applications" 0 (by decide),
        ApplicationTable.readOr_item hread]

end

/-! ## Leaves -/

namespace Config

/-- The settings of a `Config` that hold no others. -/
inductive Leaf where
  | host
  | port
  | shutdownTimeout
  | group
  | tenant
  | eventServiceV1
  | eventServiceV2
  | eventMesh
  | appRegistry
  | eventServiceHost
  | eventMeshHost
  | eventMeshDestinationPath
  | appRegistryHost
  | meshEnabled
  | expiration
  | cleanupInterval
  | kind
  | apiServer
  | tokenFile
  | caFile
  | requestTimeout
  /-- The client IDs of one application. -/
  | application (name : String)
  deriving DecidableEq, Repr

/-- Where a `Leaf` stands in a tree of settings: in which section, under which name or at which place,
and under which key if a table stands there. -/
structure Slot where
  area : String
  name : String
  place : Nat
  entry : Option String := none
  deriving DecidableEq, Repr

namespace Slot

/-- The path to a slot where all keys are written out: `area`, `name` and, in a table, `entry`. -/
def path (slot : Slot) : List String :=
  slot.area :: slot.name :: slot.entry.toList

/-- What stands in a slot of `tree`. The section may be a dictionary or a list. -/
def get? (slot : Slot) (tree : Value) : Option Value :=
  let item := (tree.get? slot.area).bind (·.item? slot.name slot.place)
  match slot.entry with
  | none => item
  | some key => item.bind (·.get? key)

/-- Where the section is a dictionary, `get?` of a slot is `find?` of its path. -/
theorem get?_eq_find? (slot : Slot) (tree : Value) (members : List (String × Value))
    (h : tree.get? slot.area = some (.dict members)) : slot.get? tree = tree.find? slot.path := by
  rw [path, Value.find?, get?, h]
  cases slot.entry with
  | none => exact (Option.bind_fun_some _).symm
  | some key =>
    exact congrArg (members.lookup slot.name).bind (funext fun w => (w.find?_singleton key).symm)

end Slot

namespace Leaf

/-- The type of what `Leaf.get?` gives. -/
def Out : Leaf → Type
  | port => UInt16
  | shutdownTimeout | expiration | cleanupInterval | requestTimeout => Duration
  | meshEnabled => Option Bool
  | kind => DirectoryConfig.Kind
  | tokenFile | caFile => Option String
  | application _ => Option (Option (List String))
  | _ => String

instance : (leaf : Leaf) → DecidableEq leaf.Out
  | port => inferInstanceAs (DecidableEq UInt16)
  | shutdownTimeout | expiration | cleanupInterval | requestTimeout =>
    inferInstanceAs (DecidableEq Duration)
  | meshEnabled => inferInstanceAs (DecidableEq (Option Bool))
  | kind => inferInstanceAs (DecidableEq DirectoryConfig.Kind)
  | tokenFile | caFile => inferInstanceAs (DecidableEq (Option String))
  | application _ => inferInstanceAs (DecidableEq (Option (Option (List String))))
  | host | group | tenant | eventServiceV1 | eventServiceV2 | eventMesh | appRegistry
  | eventServiceHost | eventMeshHost | eventMeshDestinationPath | appRegistryHost | apiServer =>
    inferInstanceAs (DecidableEq String)

def slot : Leaf → Slot
  | host => ⟨"server", "host", 0, none⟩
  | port => ⟨"server", "port", 1, none⟩
  | shutdownTimeout => ⟨"server", "shutdown_timeout", 2, none⟩
  | group => ⟨"validation", "group", 0, none⟩
  | tenant => ⟨"validation", "tenant", 1, none⟩
  | eventServiceV1 => ⟨"routes", "event_service_v1_prefix", 0, none⟩
  | eventServiceV2 => ⟨"routes", "event_service_v2_prefix", 1, none⟩
  | eventMesh => ⟨"routes", "event_mesh_prefix", 2, none⟩
  | appRegistry => ⟨"routes", "app_registry_prefix", 3, none⟩
  | eventServiceHost => ⟨"backends", "event_service_host", 0, none⟩
  | eventMeshHost => ⟨"backends", "event_mesh_host", 1, none⟩
  | eventMeshDestinationPath => ⟨"backends", "event_mesh_destination_path", 2, none⟩
  | appRegistryHost => ⟨"backends", "app_registry_host", 3, none⟩
  | meshEnabled => ⟨"backends", "mesh_enabled", 4, none⟩
  | expiration => ⟨"cache", "expiration", 0, none⟩
  | cleanupInterval => ⟨"cache", "cleanup_interval", 1, none⟩
  | kind => ⟨"directory", "kind", 0, none⟩
  | apiServer => ⟨"directory", "api_server", 1, none⟩
  | tokenFile => ⟨"directory", "token_file", 2, none⟩
  | caFile => ⟨"directory", "ca_file", 3, none⟩
  | requestTimeout => ⟨"directory", "request_timeout", 4, none⟩
  | application name => ⟨"directory", "applications", 1, some name⟩

/-- What a leaf holds if nothing stands in its `Slot`: the default of the section. -/
def fallback : (leaf : Leaf) → leaf.Out
  | host => ({} : ServerConfig).host
  | port => ({} : ServerConfig).port
  | shutdownTimeout => ({} : ServerConfig).shutdownTimeout
  | group => ({} : ValidationConfig).group
  | tenant => ({} : ValidationConfig).tenant
  | eventServiceV1 => ({} : PathLeads).eventServiceV1
  | eventServiceV2 => ({} : PathLeads).eventServiceV2
  | eventMesh => ({} : PathLeads).eventMesh
  | appRegistry => ({} : PathLeads).appRegistry
  | eventServiceHost => ({} : Backends).eventServiceHost
  | eventMeshHost => ({} : Backends).eventMeshHost
  | eventMeshDestinationPath => ({} : Backends).eventMeshDestinationPath
  | appRegistryHost => ({} : Backends).appRegistryHost
  | meshEnabled => ({} : Backends).meshEnabled
  | expiration => ({} : CacheConfig).expiration
  | cleanupInterval => ({} : CacheConfig).cleanupInterval
  | kind => ({} : Config).directory.kind
  | apiServer => ({} : KubernetesConfig).apiServer
  | tokenFile => ({} : KubernetesConfig).tokenFile
  | caFile => ({} : KubernetesConfig).caFile
  | requestTimeout => ({} : KubernetesConfig).requestTimeout
  | application _ => none

/-- How what stands in the `Slot` of a leaf is read. -/
def read : (leaf : Leaf) → Value → Option leaf.Out
  | host | group | tenant | eventServiceV1 | eventServiceV2 | eventMesh | appRegistry
  | eventServiceHost | eventMeshHost | eventMeshDestinationPath | appRegistryHost =>
    Value.asText .loose
  | port => Value.asUInt16
  | shutdownTimeout | expiration | cleanupInterval => Duration.ofValue .loose
  | meshEnabled => Value.asOption Value.asFlag
  | kind => DirectoryConfig.Kind.ofValue
  | apiServer => Value.asText .exact
  | tokenFile | caFile => Value.asOption (Value.asText .exact)
  | requestTimeout => Duration.ofValue .exact
  | application _ => fun v => (Value.asOption (Value.asList (Value.asText .exact)) v).map some

/-- What a leaf of `c` holds; none if the directory is of the other kind. -/
def get? : (leaf : Leaf) → Config → Option leaf.Out
  | host, c => some c.server.host
  | port, c => some c.server.port
  | shutdownTimeout, c => some c.server.shutdownTimeout
  | group, c => some c.validation.group
  | tenant, c => some c.validation.tenant
  | eventServiceV1, c => some c.routes.eventServiceV1
  | eventServiceV2, c => some c.routes.eventServiceV2
  | eventMesh, c => some c.routes.eventMesh
  | appRegistry, c => some c.routes.appRegistry
  | eventServiceHost, c => some c.backends.eventServiceHost
  | eventMeshHost, c => some c.backends.eventMeshHost
  | eventMeshDestinationPath, c => some c.backends.eventMeshDestinationPath
  | appRegistryHost, c => some c.backends.appRegistryHost
  | meshEnabled, c => some c.backends.meshEnabled
  | expiration, c => some c.cache.expiration
  | cleanupInterval, c => some c.cache.cleanupInterval
  | kind, c => some c.directory.kind
  | apiServer, c => c.directory.kubernetes?.map (·.apiServer)
  | tokenFile, c => c.directory.kubernetes?.map (·.tokenFile)
  | caFile, c => c.directory.kubernetes?.map (·.caFile)
  | requestTimeout, c => c.directory.kubernetes?.map (·.requestTimeout)
  | application name, c => c.directory.applications?.map (·.lookup name)

/-- The kind of directory that a leaf is a setting of, if `DirectoryConfig` has it. -/
def kind? : Leaf → Option DirectoryConfig.Kind
  | apiServer | tokenFile | caFile | requestTimeout => some .kubernetes
  | application _ => some .fixed
  | _ => none

/-- `get?` finds the leaves of the directory's kind, and those of no kind. -/
theorem isSome_get? (leaf : Leaf) (c : Config) :
    (leaf.get? c).isSome = leaf.kind?.all (· == c.directory.kind) := by
  obtain ⟨envFiles, server, validation, routes, backends, cache, directory⟩ := c
  cases leaf <;> cases directory <;> rfl

/-- The `CommandLine.Setting` for a leaf, if there is one. -/
def setting? : Leaf → Option CommandLine.Setting
  | host => some .host
  | port => some .port
  | group => some .group
  | tenant => some .tenant
  | meshEnabled => some .meshEnabled
  | _ => none

/-- What the options `given` on the command line say of a leaf. -/
def given : (leaf : Leaf) → CommandLine.Options → Option leaf.Out
  | host, o => o.host
  | port, o => o.port
  | group, o => o.group
  | tenant, o => o.tenant
  | meshEnabled, o => o.meshEnabled.map some
  | _, _ => none

/-- Under `Options.apply` the options count for the leaves they say something of. -/
theorem get?_apply (leaf : Leaf) (o : CommandLine.Options) (c : Config) :
    leaf.get? (o.apply c) = (leaf.get? c).map (leaf.given o).getD := by
  obtain ⟨envFiles, server, validation, routes, backends, cache, directory⟩ := c
  cases leaf with
  | meshEnabled =>
    show some (o.meshEnabled.or backends.meshEnabled) =
      some ((o.meshEnabled.map some).getD backends.meshEnabled)
    cases o.meshEnabled <;> rfl
  | apiServer | tokenFile | caFile | requestTimeout | application => cases directory <;> rfl
  | _ => rfl

/-- A leaf of a configuration that was read is what stands in its slot, or its `fallback`. -/
theorem readOr_get? (leaf : Leaf) {members : List (String × Value)} {c : Config} {x : leaf.Out}
    (h : ofValue .loose (.dict members) = some c) (hx : leaf.get? c = some x) :
    readOr leaf.fallback leaf.read (leaf.slot.get? (.dict members)) = some x := by
  obtain ⟨hserver, hvalidation, hroutes, hbackends, hcache, hdirectory⟩ := Config.readOr_item h
  cases leaf with
  -- a leaf of a section: the section falls back as a whole, and the leaf is one of its items
  | host => exact (readOr_bind _ (fun _ _ h => (ServerConfig.readOr_item h).1) hserver).trans hx
  | port => exact (readOr_bind _ (fun _ _ h => (ServerConfig.readOr_item h).2.1) hserver).trans hx
  | shutdownTimeout =>
    exact (readOr_bind _ (fun _ _ h => (ServerConfig.readOr_item h).2.2) hserver).trans hx
  | group =>
    exact (readOr_bind _ (fun _ _ h => (ValidationConfig.readOr_item h).1) hvalidation).trans hx
  | tenant =>
    exact (readOr_bind _ (fun _ _ h => (ValidationConfig.readOr_item h).2) hvalidation).trans hx
  | eventServiceV1 =>
    exact (readOr_bind _ (fun _ _ h => (PathLeads.readOr_item h).1) hroutes).trans hx
  | eventServiceV2 =>
    exact (readOr_bind _ (fun _ _ h => (PathLeads.readOr_item h).2.1) hroutes).trans hx
  | eventMesh =>
    exact (readOr_bind _ (fun _ _ h => (PathLeads.readOr_item h).2.2.1) hroutes).trans hx
  | appRegistry =>
    exact (readOr_bind _ (fun _ _ h => (PathLeads.readOr_item h).2.2.2) hroutes).trans hx
  | eventServiceHost =>
    exact (readOr_bind _ (fun _ _ h => (Backends.readOr_item h).1) hbackends).trans hx
  | eventMeshHost =>
    exact (readOr_bind _ (fun _ _ h => (Backends.readOr_item h).2.1) hbackends).trans hx
  | eventMeshDestinationPath =>
    exact (readOr_bind _ (fun _ _ h => (Backends.readOr_item h).2.2.1) hbackends).trans hx
  | appRegistryHost =>
    exact (readOr_bind _ (fun _ _ h => (Backends.readOr_item h).2.2.2.1) hbackends).trans hx
  | meshEnabled =>
    exact (readOr_bind _ (fun _ _ h => (Backends.readOr_item h).2.2.2.2) hbackends).trans hx
  | expiration => exact (readOr_bind _ (fun _ _ h => (CacheConfig.readOr_item h).1) hcache).trans hx
  | cleanupInterval =>
    exact (readOr_bind _ (fun _ _ h => (CacheConfig.readOr_item h).2) hcache).trans hx
  | kind => exact (DirectoryConfig.readOr_kind hdirectory).trans hx
  -- only a directory of the cluster's kind has these leaves
  | apiServer =>
    obtain ⟨k, hk, hx⟩ := Option.map_eq_some_iff.1 hx
    exact (DirectoryConfig.readOr_kubernetes hdirectory hk (by decide)
      fun _ h => (KubernetesConfig.readOr_item h).1).trans (congrArg some hx)
  | tokenFile =>
    obtain ⟨k, hk, hx⟩ := Option.map_eq_some_iff.1 hx
    exact (DirectoryConfig.readOr_kubernetes hdirectory hk (by decide)
      fun _ h => (KubernetesConfig.readOr_item h).2.1).trans (congrArg some hx)
  | caFile =>
    obtain ⟨k, hk, hx⟩ := Option.map_eq_some_iff.1 hx
    exact (DirectoryConfig.readOr_kubernetes hdirectory hk (by decide)
      fun _ h => (KubernetesConfig.readOr_item h).2.2.1).trans (congrArg some hx)
  | requestTimeout =>
    obtain ⟨k, hk, hx⟩ := Option.map_eq_some_iff.1 hx
    exact (DirectoryConfig.readOr_kubernetes hdirectory hk (by decide)
      fun _ h => (KubernetesConfig.readOr_item h).2.2.2).trans (congrArg some hx)
  | application name =>
    obtain ⟨t, ht, hx⟩ := Option.map_eq_some_iff.1 hx
    exact (readOr_bind _ (fun _ _ h => Value.lookup_asDict name h)
      (DirectoryConfig.readOr_applications hdirectory ht)).trans (congrArg some hx)

/-- No leaf reads a dictionary: `Leaf.read` of one fails. -/
theorem read_dict (leaf : Leaf) (members : List (String × Value)) :
    leaf.read (.dict members) = none := by
  cases leaf <;> rfl

/-- The path of `leaf` leads neither to `other` nor through it. -/
theorem after?_path (leaf other : Leaf) (h : leaf ≠ other) :
    Text.after? leaf.slot.path other.slot.path = none := by
  cases leaf with
  | application name =>
    cases other with
    | application other =>
      -- among the client IDs of applications only the names of these differ
      have hname : name ≠ other := fun heq => h (congrArg application heq)
      show (if name = other then some [] else none) = none
      rw [if_neg hname]
    | _ => rfl
  | _ =>
    cases other with
    | application name => rfl
    | _ => first | rfl | exact absurd rfl h

end Leaf

end Config

end CertGate
