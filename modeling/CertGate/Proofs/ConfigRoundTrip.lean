import CertGate.Proofs.ArrangedValues
import CertGate.Proofs.ConfigLeaves
import CertGate.Proofs.Outcomes
import CertGate.Proofs.WrittenDurations

/-!
# A configuration that is printed and loaded again

A configuration is written with all its settings, so no default comes in when it is read again: what is
absent is written as null, and null is no default. Only a duration can be changed by writing it, and not
one that was read. Files keep the members of dictionaries in the order of their keys; this changes
nothing for sections, and the applications of a loaded configuration are in this order already.

## Key results

- `Config.readAs`: a configuration with expressible durations is read from what it is written as, with the
  members of its dictionaries in any order
- `Config.loadable_of_load`: what loading gives is such a configuration
- `Config.load_of_printed`: loading a printed configuration
-/

namespace CertGate

namespace Value

/-! ## Dictionaries in order -/

mutual

/-- A value with the members of all dictionaries in the order of their keys, as `ofMembers` puts them
and a file gives them. -/
def arrange : Value → Value
  | .dict members => .ofMembers (arrangeMembers members)
  | .list items => .list (arrangeItems items)
  | v => v

def arrangeMembers : List (String × Value) → List (String × Value)
  | [] => []
  | (key, v) :: rest => (key, v.arrange) :: arrangeMembers rest

def arrangeItems : List Value → List Value
  | [] => []
  | v :: rest => v.arrange :: arrangeItems rest

end

/-- `arrangeMembers`, as a map. -/
theorem arrangeMembers_eq_map (members : List (String × Value)) :
    arrangeMembers members = members.map fun m => (m.1, m.2.arrange) := by
  induction members with
  | nil => rw [arrangeMembers, List.map_nil]
  | cons member rest ih => rw [arrangeMembers, ih, List.map_cons]

/-- `arrangeItems`, as a map. -/
theorem arrangeItems_eq_map (items : List Value) : arrangeItems items = items.map arrange := by
  induction items with
  | nil => rw [arrangeItems, List.map_nil]
  | cons v rest ih => rw [arrangeItems, ih, List.map_cons]

/-- `arrange` leaves a list of texts as it is. -/
theorem arrange_texts (texts : List String) : (list (texts.map text)).arrange = list (texts.map text) := by
  rw [arrange, arrangeItems_eq_map, List.map_map]
  rfl

/-- `arrange` of a dictionary in whose members nothing has to be arranged puts these in order. -/
theorem arrange_of_fixed (members : List (String × Value)) (h : ∀ m ∈ members, m.2.arrange = m.2) :
    (dict members).arrange = ofMembers members := by
  have hmembers : arrangeMembers members = members := by
    rw [arrangeMembers_eq_map]
    refine (List.map_congr_left fun m hm => ?_).trans (List.map_id members)
    rw [h m hm]
    rfl
  rw [arrange, hmembers]

/-! ## Reading members in another order -/

/-- `ofMembers` keeps what is found under each key, if no key comes twice. -/
theorem exists_ofMembers (members : List (String × Value)) (hnodup : (members.map (·.1)).Nodup) :
    ∃ ms, ofMembers members = dict ms ∧ ∀ k, ms.lookup k = members.lookup k := by
  have hfold (done : List (String × Value)) (k : String) :
      (members.foldl addMember done).lookup k = (members.lookup k).or (done.lookup k) := by
    induction members generalizing done with
    | nil => rfl
    | cons member members ih =>
      obtain ⟨j, v⟩ := member
      rw [List.map_cons, List.nodup_cons] at hnodup
      have hrest := ih hnodup.2 (insertMember j v done)
      rw [List.foldl_cons, addMember, hrest, lookup_insertMember, List.lookup_cons_ite]
      by_cases hk : k = j
      · -- the key does not come again
        subst hk
        rw [if_pos rfl, if_pos rfl, List.lookup_eq_none_of_not_mem _ _ hnodup.1]
        rfl
      · rw [if_neg hk, if_neg hk]
  exact ⟨_, rfl, fun k => (hfold [] k).trans (Option.or_none ..)⟩

/-- `read` looks at a dictionary only through what is found under its keys. -/
def ByKeys {α : Type} (read : Value → Option α) : Prop :=
  ∀ ms ms' : List (String × Value), (∀ k, ms.lookup k = ms'.lookup k) → read (dict ms) = read (dict ms')

/-- `readRecord` is `ByKeys`. -/
theorem byKeys_readRecord {α : Type} (fit : Fit) (fields : List (Field α)) (start : α) :
    ByKeys (readRecord fit fields start) := by
  intro ms ms' h
  simp only [readRecord, readMembers, h]

/-- `read` gives `x` for `v`, in whatever order the members of its dictionaries stand. -/
structure ReadAs {α : Type} (read : Value → Option α) (v : Value) (x : α) : Prop where
  written : read v = some x
  arranged : read v.arrange = some x

/-- `ReadAs` of a dictionary in whose members nothing has to be arranged: it is enough to read it as it
is written. -/
theorem readAs_of_fixed {α : Type} {read : Value → Option α} {x : α} {members : List (String × Value)}
    (hkeys : ByKeys read) (hnodup : (members.map (·.1)).Nodup) (hfixed : ∀ m ∈ members, m.2.arrange = m.2)
    (h : read (dict members) = some x) : ReadAs read (dict members) x := by
  refine ⟨h, ?_⟩
  obtain ⟨ms, hms, hlookup⟩ := exists_ofMembers members hnodup
  rw [arrange_of_fixed members hfixed, hms, hkeys ms members hlookup, h]

/-! ## Texts, numbers and lists -/

/-- `asText` undoes `text`, however the value has to fit. -/
@[simp] theorem asText_text (fit : Fit) (s : String) : asText fit (.text s) = some s :=
  rfl

/-- `asUInt16` reads a number of 16 bits back. -/
theorem asUInt16_toNat (n : UInt16) : asUInt16 (.int n.toNat) = some n := by
  have hlt : (n.toNat : Int) < 65536 := Int.ofNat_lt.2 n.toNat_lt
  rw [asUInt16, if_pos ⟨Int.natCast_nonneg _, hlt⟩, Int.toNat_natCast, Nat.toUInt16_eq,
    UInt16.ofNat_toNat]

/-- `asList` reads a list of texts back. -/
theorem asList_texts (fit : Fit) (texts : List String) :
    asList (·.asText fit) (list (texts.map text)) = some texts :=
  List.mapM_map_of_read (asText fit) text (fun _ => rfl) texts

end Value

open Value (ReadAs readAs_of_fixed readRecord readMembers asText)

/-! ## Sections -/

variable (fit : Value.Fit)

/-- `Duration.ofValue` undoes `toValue` if the duration is `Expressible`. -/
theorem Duration.ofValue_toValue (d : Duration) (h : d.Expressible) :
    ofValue fit d.toValue = some d := by
  have hparse := (parse_render_iff d).2 h
  simp only [ofValue, toValue, Value.asText_text, Option.bind_eq_bind, Option.bind_some, hparse]
  rfl

/-- Every duration that was read is `Expressible`. -/
theorem Duration.expressible_of_ofValue (v : Value) (d : Duration) (h : ofValue fit v = some d) :
    d.Expressible := by
  obtain ⟨s, -, hparse⟩ := Option.bind_eq_some_iff.1 h
  exact expressible_of_parse s d (Except.eq_ok_of_toOption hparse)

/-- A `ServerConfig` is read from what it is written as. -/
theorem ServerConfig.readAs (s : ServerConfig) (h : s.shutdownTimeout.Expressible) :
    ReadAs (ofValue fit) s.toValue s := by
  have hnodup : ["host", "port", "shutdown_timeout"].Nodup := by decide
  have hport := Value.asUInt16_toNat s.port
  have htimeout := Duration.ofValue_toValue fit _ h
  refine readAs_of_fixed (Value.byKeys_readRecord _ _ _) hnodup (by simp [Duration.toValue, Value.arrange]) ?_
  simp [ofValue, readRecord, readMembers, List.lookup_cons_ite, hport, htimeout]

/-- A `ValidationConfig` is read from what it is written as. -/
theorem ValidationConfig.readAs (s : ValidationConfig) : ReadAs (ofValue fit) s.toValue s := by
  have hnodup : ["group", "tenant"].Nodup := by decide
  refine readAs_of_fixed (Value.byKeys_readRecord _ _ _) hnodup (by simp [Value.arrange]) ?_
  simp [ofValue, readRecord, readMembers, List.lookup_cons_ite]

/-- The `PathLeads` are read from what they are written as. -/
theorem PathLeads.readAs (s : PathLeads) : ReadAs (ofValue fit) s.toValue s := by
  have hnodup : ["event_service_v1_prefix", "event_service_v2_prefix", "event_mesh_prefix",
    "app_registry_prefix"].Nodup := by decide
  refine readAs_of_fixed (Value.byKeys_readRecord _ _ _) hnodup (by simp [Value.arrange]) ?_
  simp [ofValue, readRecord, readMembers, List.lookup_cons_ite]

/-- The `Backends` are read from what they are written as: a flag that is absent is written as null. -/
theorem Backends.readAs (s : Backends) : ReadAs (ofValue fit) s.toValue s := by
  have hnodup : ["event_service_host", "event_mesh_host", "event_mesh_destination_path",
    "app_registry_host", "mesh_enabled"].Nodup := by decide
  have hmesh : Value.asOption Value.asFlag ((s.meshEnabled.map Value.flag).getD .null) = some s.meshEnabled := by
    cases s.meshEnabled <;> rfl
  have hfixed : ((s.meshEnabled.map Value.flag).getD .null).arrange = (s.meshEnabled.map Value.flag).getD .null := by
    cases s.meshEnabled <;> rfl
  refine readAs_of_fixed (Value.byKeys_readRecord _ _ _) hnodup (by simp [Value.arrange, hfixed]) ?_
  simp [ofValue, readRecord, readMembers, List.lookup_cons_ite, hmesh]

/-- A `CacheConfig` is read from what it is written as. -/
theorem CacheConfig.readAs (s : CacheConfig) (hexpiration : s.expiration.Expressible)
    (hcleanup : s.cleanupInterval.Expressible) : ReadAs (ofValue fit) s.toValue s := by
  have hnodup : ["expiration", "cleanup_interval"].Nodup := by decide
  have hread := Duration.ofValue_toValue fit _ hexpiration
  have hread' := Duration.ofValue_toValue fit _ hcleanup
  refine readAs_of_fixed (Value.byKeys_readRecord _ _ _) hnodup (by simp [Duration.toValue, Value.arrange]) ?_
  simp [ofValue, readRecord, readMembers, List.lookup_cons_ite, hread, hread']

/-- An `ApplicationTable` is read from what it is written as. Client IDs that are absent are written as
null. -/
theorem ApplicationTable.ofValue_toValue (t : ApplicationTable) : ofValue fit (toValue t) = some t := by
  refine List.mapM_map_of_read _ _ (fun entry => ?_) t
  obtain ⟨name, ids⟩ := entry
  cases ids with
  | none => rfl
  | some ids =>
    have hids := Value.asList_texts fit ids
    simp [Value.asOption, hids]

/-- The applications of a table are in the order of their names, each one there once: `<` holds along
them. -/
def ApplicationTable.Ordered (t : ApplicationTable) : Prop :=
  (t.map (·.1)).Pairwise (· < ·)

/-- `arrange` leaves a table that is `Ordered` as it is written. -/
theorem ApplicationTable.arrange_toValue (t : ApplicationTable) (h : t.Ordered) :
    (toValue t).arrange = toValue t := by
  rw [toValue, Value.arrange_of_fixed]
  · refine Value.ofMembers_of_ordered _ ?_
    rwa [Value.Ordered, List.map_map]
  · intro m hm
    obtain ⟨⟨name, ids⟩, -, rfl⟩ := List.mem_map.1 hm
    cases ids with
    | none => rfl
    | some ids => exact Value.arrange_texts ids

/-- A directory is read `ByKeys`, although its kind is taken out first. -/
theorem DirectoryConfig.byKeys_ofValue : Value.ByKeys ofValue := by
  intro ms ms' h
  have hsettings (k : String) :
      (ms.filter (·.1 != "kind")).lookup k = (ms'.filter (·.1 != "kind")).lookup k := by
    -- the kind is taken out on both sides, the other keys are left
    by_cases hk : k = "kind"
    · rw [hk, List.lookup_filter_ne_self, List.lookup_filter_ne_self]
    · rw [List.lookup_filter_ne_of_ne _ _ _ hk, List.lookup_filter_ne_of_ne _ _ _ hk, h]
  have hofSettings (kind : Kind) : ofSettings kind (.dict (ms.filter (·.1 != "kind"))) =
      ofSettings kind (.dict (ms'.filter (·.1 != "kind"))) := by
    cases kind with
    | kubernetes => exact congrArg (Option.map DirectoryConfig.kubernetes) (Value.byKeys_readRecord _ _ _ _ _ hsettings)
    | fixed => exact congrArg (Option.map DirectoryConfig.fixed) (Value.byKeys_readRecord _ _ _ _ _ hsettings)
  simp only [ofValue, h, hofSettings]

/-- A directory that is `DirectoryConfig.kubernetes` is read from what it is written as. -/
theorem DirectoryConfig.readAs_kubernetes (k : KubernetesConfig) (h : k.requestTimeout.Expressible) :
    ReadAs ofValue (toValue (.kubernetes k)) (.kubernetes k) := by
  have hnodup : ["kind", "api_server", "token_file", "ca_file", "request_timeout"].Nodup := by decide
  have htimeout := Duration.ofValue_toValue .exact _ h
  have hoptional (s : Option String) :
      Value.asOption (asText .exact) (Value.ofOptionalText s) = some s := by
    cases s <;> rfl
  have hfixed (s : Option String) : (Value.ofOptionalText s).arrange = Value.ofOptionalText s := by
    cases s <;> rfl
  have hsettings : KubernetesConfig.ofValue .exact (.dict [("api_server", .text k.apiServer),
      ("token_file", .ofOptionalText k.tokenFile), ("ca_file", .ofOptionalText k.caFile),
      ("request_timeout", k.requestTimeout.toValue)]) = some k := by
    simp [KubernetesConfig.ofValue, readRecord, readMembers, List.lookup_cons_ite, hoptional, htimeout]
  refine readAs_of_fixed byKeys_ofValue hnodup
    (by simp [Duration.toValue, Value.arrange, hfixed]) ?_
  exact congrArg (Option.map DirectoryConfig.kubernetes) hsettings

/-- A directory that is `DirectoryConfig.fixed` is read from what it is written as, if its records are
`Ordered`. -/
theorem DirectoryConfig.readAs_fixed (t : ApplicationTable) (h : t.Ordered) :
    ReadAs ofValue (toValue (.fixed t)) (.fixed t) := by
  have hnodup : ["kind", "applications"].Nodup := by decide
  have htable := ApplicationTable.arrange_toValue t h
  have hsettings : ApplicationTable.ofRecord .exact
      (.dict [("applications", ApplicationTable.toValue t)]) = some t := by
    have hread := ApplicationTable.ofValue_toValue .exact t
    simp [ApplicationTable.ofRecord, readRecord, readMembers, List.lookup_cons_ite, hread]
  refine readAs_of_fixed byKeys_ofValue hnodup (by simp [Value.arrange, htable]) ?_
  exact congrArg (Option.map DirectoryConfig.fixed) hsettings

/-! ## Configurations -/

/-- What `load` gives: durations that are `Expressible`, and applications in order. -/
structure Config.Loadable (c : Config) : Prop where
  shutdownTimeout : c.server.shutdownTimeout.Expressible
  expiration : c.cache.expiration.Expressible
  cleanupInterval : c.cache.cleanupInterval.Expressible
  requestTimeout : ∀ k, c.directory = .kubernetes k → k.requestTimeout.Expressible
  applications : ∀ t, c.directory = .fixed t → ApplicationTable.Ordered t

namespace Config

/-- The directory of a `Loadable` configuration is read from what it is written as. -/
theorem directory_readAs (c : Config) (h : c.Loadable) :
    ReadAs DirectoryConfig.ofValue c.directory.toValue c.directory := by
  cases hdirectory : c.directory with
  | kubernetes k => exact DirectoryConfig.readAs_kubernetes k (h.requestTimeout k hdirectory)
  | fixed t => exact DirectoryConfig.readAs_fixed t (h.applications t hdirectory)

/-- `Config.ofValue` reads a configuration section by section. -/
theorem ofValue_sections (c : Config) {server validation routes backends cache directory : Value}
    (hserver : ServerConfig.ofValue fit server = some c.server)
    (hvalidation : ValidationConfig.ofValue fit validation = some c.validation)
    (hroutes : PathLeads.ofValue fit routes = some c.routes)
    (hbackends : Backends.ofValue fit backends = some c.backends)
    (hcache : CacheConfig.ofValue fit cache = some c.cache)
    (hdirectory : DirectoryConfig.ofValue directory = some c.directory) :
    ofValue fit (.dict [("env_files", .list (c.envFiles.map .text)), ("server", server),
      ("validation", validation), ("routes", routes), ("backends", backends), ("cache", cache),
      ("directory", directory)]) = some c := by
  have henvFiles := Value.asList_texts fit c.envFiles
  simp [ofValue, readRecord, readMembers, List.lookup_cons_ite, henvFiles, hserver, hvalidation, hroutes,
    hbackends, hcache, hdirectory]

/-- The sections of a printed configuration, with the members of each in order, by `arrange`. -/
def arrangedSections (c : Config) : List (String × Value) :=
  [("env_files", .list (c.envFiles.map .text)), ("server", c.server.toValue.arrange),
    ("validation", c.validation.toValue.arrange), ("routes", c.routes.toValue.arrange),
    ("backends", c.backends.toValue.arrange), ("cache", c.cache.toValue.arrange),
    ("directory", c.directory.toValue.arrange)]

/-- `arrange` of a printed configuration: the sections are put in order after what is in them. -/
theorem exists_arrange_toValue (c : Config) :
    ∃ ms, c.toValue.arrange = .dict ms ∧ ∀ k, ms.lookup k = c.arrangedSections.lookup k := by
  have hnodup : ["env_files", "server", "validation", "routes", "backends", "cache",
    "directory"].Nodup := by decide
  obtain ⟨ms, hms, hlookup⟩ := Value.exists_ofMembers c.arrangedSections hnodup
  refine ⟨ms, ?_, hlookup⟩
  rw [← hms, toValue, arrangedSections, Value.arrange, Value.arrangeMembers_eq_map]
  simp only [List.map_cons, List.map_nil, Value.arrange_texts]

/-- A `Loadable` configuration is read from what it is written as. -/
theorem readAs (c : Config) (h : c.Loadable) : ReadAs (ofValue fit) c.toValue c := by
  have hserver := c.server.readAs fit h.shutdownTimeout
  have hvalidation := c.validation.readAs fit
  have hroutes := c.routes.readAs fit
  have hbackends := c.backends.readAs fit
  have hcache := c.cache.readAs fit h.expiration h.cleanupInterval
  have hdirectory := c.directory_readAs h
  -- as it is written, section by section
  refine ⟨ofValue_sections fit c hserver.written hvalidation.written hroutes.written hbackends.written
    hcache.written hdirectory.written, ?_⟩
  -- with every section arranged, and then the sections themselves
  have hsections := ofValue_sections fit c hserver.arranged hvalidation.arranged hroutes.arranged
    hbackends.arranged hcache.arranged hdirectory.arranged
  obtain ⟨ms, hms, hlookup⟩ := c.exists_arrange_toValue
  rw [hms, ← hsections]
  exact Value.byKeys_readRecord _ _ _ _ _ hlookup

end Config

/-! ## What loading gives -/

/-- A duration that was read, or falls back to an `Expressible` one, is `Expressible`. -/
theorem Duration.expressible_of_readOr (fallback d : Duration) (given : Option Value)
    (hfallback : fallback.Expressible)
    (h : Value.readOr fallback (ofValue fit) given = some d) : d.Expressible := by
  cases given with
  | none => exact Option.some.inj h ▸ hfallback
  | some v => exact expressible_of_ofValue fit v d h

/-- The parts of an `Arranged` value are arranged. -/
theorem Value.Arranged.item? {v w : Value} {name : String} {place : Nat} (h : v.Arranged)
    (hw : v.item? name place = some w) : w.Arranged := by
  cases h with
  | dict members _ hmembers =>
    obtain ⟨before, behind, rfl, -⟩ := List.lookup_eq_some_iff.1 hw
    exact hmembers (name, w) (by simp)
  | list items hitems => exact hitems w (List.mem_of_getElem? hw)
  | _ => cases hw

/-- `asDict` gives a table with the keys of the dictionary, in their order. -/
theorem Value.keys_of_asDict {α : Type} {read : Value → Option α} (members : List (String × Value))
    (table : List (String × α)) (h : (Value.dict members).asDict read = some table) :
    table.map (·.1) = members.map (·.1) := by
  rw [asDict] at h
  induction members generalizing table with
  | nil =>
    cases h
    rfl
  | cons member members ih =>
    rw [List.mapM_cons] at h
    obtain ⟨entry, hentry, h⟩ := Option.bind_eq_some_iff.1 h
    obtain ⟨rest, hrest, h⟩ := Option.bind_eq_some_iff.1 h
    obtain ⟨x, -, rfl⟩ := Option.map_eq_some_iff.1 hentry
    cases h
    rw [List.map_cons, List.map_cons, ih rest hrest]

/-- A table that is read from an `Arranged` value is `Ordered`. -/
theorem ApplicationTable.ordered_of_ofValue (v : Value) (t : ApplicationTable) (hv : v.Arranged)
    (h : ofValue fit v = some t) : ApplicationTable.Ordered t := by
  cases hv with
  | dict members hordered _ =>
    rw [Ordered, Value.keys_of_asDict members t h]
    exact hordered
  | _ => cases h

namespace Config

/-- A configuration that is read from `Arranged` settings is `Loadable`. -/
theorem loadable_of_ofValue (v : Value) (c : Config) (hv : v.Arranged) (h : ofValue fit v = some c) :
    c.Loadable := by
  obtain ⟨hserver, -, -, -, hcache, hdirectory⟩ := readOr_item h
  have hshutdown := Value.readOr_bind _ (fun _ _ h => (ServerConfig.readOr_item h).2.2) hserver
  have hexpiration := Value.readOr_bind _ (fun _ _ h => (CacheConfig.readOr_item h).1) hcache
  have hcleanup := Value.readOr_bind _ (fun _ _ h => (CacheConfig.readOr_item h).2) hcache
  refine ⟨?_, ?_, ?_, fun k hk => ?_, fun t ht => ?_⟩
  · -- each duration was read, or is a default of whole seconds
    exact Duration.expressible_of_readOr fit _ _ _ (.seconds 30 (by decide)) hshutdown
  · exact Duration.expressible_of_readOr fit _ _ _ (.seconds 60 (by decide)) hexpiration
  · exact Duration.expressible_of_readOr fit _ _ _ (.seconds 120 (by decide)) hcleanup
  · have htimeout := DirectoryConfig.readOr_kubernetes hdirectory (congrArg DirectoryConfig.kubernetes? hk)
      (by decide) fun _ h => (KubernetesConfig.readOr_item h).2.2.2
    exact Duration.expressible_of_readOr .exact _ _ _ (.seconds 0 (by decide)) htimeout
  · -- the table was read from a part of the settings, which is arranged
    have htable := DirectoryConfig.readOr_applications hdirectory (congrArg DirectoryConfig.applications? ht)
    cases hgiven : (v.item? "directory" 6).bind (·.item? "applications" 1) with
    | none =>
      rw [hgiven] at htable
      cases htable
      exact List.Pairwise.nil
    | some w =>
      rw [hgiven] at htable
      obtain ⟨directory, hpart, hw⟩ := Option.bind_eq_some_iff.1 hgiven
      exact ApplicationTable.ordered_of_ofValue .exact w t ((hv.item? hpart).item? hw) htable

/-- `load` gives `Loadable` configurations: all settings are arranged. -/
theorem loadable_of_load (s : Surroundings) (path : Option String) (c : Config)
    (h : load s path = .ok c) : c.Loadable := by
  obtain ⟨file, hfile, -, hread⟩ := (load_eq_ok_iff s path c).1 h
  have hlayers := arranged_layers s file (arranged_fileLayer s.files path file hfile)
  exact loadable_of_ofValue .loose _ c hlayers hread

/-- Options change no duration and no directory, so they keep `Loadable`. -/
theorem Loadable.apply {c : Config} (h : c.Loadable) (o : CommandLine.Options) :
    (o.apply c).Loadable :=
  ⟨h.shutdownTimeout, h.expiration, h.cleanupInterval, h.requestTimeout, h.applications⟩

/-! ## Printing and loading again -/

/-- The program finds the settings of `c` and nothing else: no variables are set, and none of the files
of variables that `c` names can be read. -/
structure Alone (s : Surroundings) (c : Config) : Prop where
  env : s.env = []
  envFiles : ∀ path ∈ c.envFiles, ∀ content, s.files.read (expandHome s.home path) ≠ .ok content

/-- `loadEnvFiles` leaves the environment as it is if none of the files can be read. -/
theorem loadEnvFiles_of_unreadable (s : Surroundings) (paths : List String)
    (h : ∀ path ∈ paths, ∀ content, s.files.read (expandHome s.home path) ≠ .ok content) :
    loadEnvFiles s paths = s.env := by
  have hfold (env : Environment) : paths.foldl (loadEnvFile s) env = env := by
    induction paths generalizing env with
    | nil => rfl
    | cons path paths ih =>
      have hpath : loadEnvFile s env path = env := by
        unfold loadEnvFile
        split
        · next content hread => exact absurd hread (h path List.mem_cons_self content)
        · rfl
      rw [List.foldl_cons, hpath]
      exact ih (fun other hmem => h other (List.mem_cons_of_mem path hmem)) env
  exact hfold s.env

section
variable {s : Surroundings} {c : Config} (h : Alone s c)

include h

/-- `merge` lays no variables over a printed configuration. -/
theorem merge_settings_of_alone :
    c.toValue.arrange.merge (Environment.settings s.env) = c.toValue.arrange := by
  obtain ⟨ms, hms, -⟩ := c.exists_arrange_toValue
  have hempty : Environment.settings s.env = .dict [] := by
    rw [h.env]
    rfl
  rw [hms, hempty, Value.merge, Value.mergeMembers]

/-- The files of variables are those that the printed configuration names in `envFiles`. -/
theorem envFilesNamed_of_alone : envFilesNamed s c.toValue.arrange = c.envFiles := by
  rw [envFilesNamed, merge_settings_of_alone h]
  obtain ⟨ms, hms, hlookup⟩ := c.exists_arrange_toValue
  rw [hms, envFilesOf, Value.get?, hlookup, arrangedSections]
  exact congrArg (Option.getD · []) (Value.asList_texts .loose c.envFiles)

/-- `layers` over a printed configuration is what was printed. -/
theorem layers_of_alone : layers s c.toValue.arrange = c.toValue.arrange := by
  rw [layers, envFilesNamed_of_alone h, loadEnvFiles_of_unreadable s c.envFiles h.envFiles,
    merge_settings_of_alone h]

/-- No variable is set, so none is `unsettable?`. -/
theorem unsettable?_of_alone : unsettable? s (envFilesNamed s c.toValue.arrange) = none := by
  rw [unsettable?, envFilesNamed_of_alone h, loadEnvFiles_of_unreadable s c.envFiles h.envFiles,
    List.drop_length]
  rfl

end

/-- A configuration that `load` gave, and that options have changed, is read back from what it is
written as, and loaded from a file with the settings that are printed, where the program is `Alone`
with it. -/
theorem load_of_printed (s : Surroundings) (path : Option String) (c : Config)
    (h : load s path = .ok c) (o : CommandLine.Options) :
    (∀ fit, ofValue fit (o.apply c).toValue = some (o.apply c)) ∧
    ∀ s', Alone s' (o.apply c) →
      ofValue .loose (layers s' (o.apply c).toValue.arrange) = some (o.apply c) ∧
      ∀ path', fileLayer s'.files path' = .ok (o.apply c).toValue.arrange →
        load s' path' = .ok (o.apply c) := by
  have hloadable := (loadable_of_load s path c h).apply o
  refine ⟨fun fit => ((o.apply c).readAs fit hloadable).written, fun s' halone => ?_⟩
  have hlayers : ofValue .loose (layers s' (o.apply c).toValue.arrange) = some (o.apply c) := by
    rw [layers_of_alone halone]
    exact ((o.apply c).readAs .loose hloadable).arranged
  exact ⟨hlayers, fun path' hfile =>
    (load_eq_ok_iff s' path' _).2 ⟨_, hfile, unsettable?_of_alone halone, hlayers⟩⟩

/-- A file with a duration in minutes and with applications out of order. -/
def scatteredFile : Surroundings where
  files := { entries := [("gate.yaml",
    "cache: {expiration: 5m}\ndirectory: {kind: static, applications: {b: [], a: null}}\n".toUTF8.toList)] }

/-- What is loaded from `scatteredFile`, with another port. -/
def scattered : Config where
  server := { port := 9090 }
  cache := { expiration := .ofSeconds 300 }
  directory := .fixed [("a", none), ("b", some [])]

/-- `scattered` is printed and read back, with its applications in order. -/
theorem load_of_printed_scattered :
    (load scatteredFile (some "gate.yaml")).toOption = some { scattered with server := {} } ∧
      ofValue .exact scattered.toValue = some scattered ∧
      ofValue .loose (layers {} scattered.toValue.arrange) = some scattered := by
  have hload : (load scatteredFile (some "gate.yaml")).toOption = some { scattered with server := {} } := by
    decide +kernel
  have hprinted := load_of_printed scatteredFile (some "gate.yaml") _ (Except.eq_ok_of_toOption hload)
    { port := some 9090 }
  have halone : Alone {} scattered := ⟨rfl, fun path hpath => nomatch hpath⟩
  exact ⟨hload, hprinted.1 .exact, (hprinted.2 {} halone).1⟩

end Config

end CertGate
