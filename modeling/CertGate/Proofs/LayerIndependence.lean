import CertGate.Proofs.LayerPrecedence

/-!
# Leaves do not depend on each other

What is said of one leaf makes no difference to the others, in whatever layer it is said. There are two
exceptions. A section that the file writes as a list counts only as long as no variable sets anything in
it. And a line in a file of variables may refer to a variable, so that it says something else if that
one does.

## Key results

- `Leaf.beyond?_of_isSetBy`: where a variable that says something of a leaf leads
- `Startup.get?_effective_congr`: two starts that differ in what is said of one leaf
- `Startup.precedence`: where the leaves of one start come from, and what they do not depend on
-/

namespace CertGate

open Environment (Unobstructed AgreeOff means settings settingPath? beyond?)
open Environment.File (SameLines)

namespace Config

/-! ## Variables for leaves -/

/-- The keys at the top of a configuration file: the sections, and `env_files` beside them. -/
def areas : List String :=
  ["env_files", "server", "validation", "routes", "backends", "cache", "directory"]

/-- A variable that `envName?` gives to an option has a path of one key, and this key is none of
`areas`. -/
theorem settingPath?_envName? (s : CommandLine.Setting) (name : String) (h : s.envName? = some name) :
    ∃ key ∉ areas, settingPath? name = some [key] := by
  cases s with
  | config => cases h; exact ⟨"config", by decide, by decide +kernel⟩
  | port => cases h; exact ⟨"port", by decide, by decide +kernel⟩
  | host => cases h; exact ⟨"host", by decide, by decide +kernel⟩
  | logLevel => cases h; exact ⟨"log_level", by decide, by decide +kernel⟩
  | logFormat => cases h; exact ⟨"log_format", by decide, by decide +kernel⟩
  | group | tenant | meshEnabled => cases h

namespace Leaf

/-- The section of every leaf is one of `areas`. -/
theorem area_mem (leaf : Leaf) : leaf.slot.area ∈ areas := by
  cases leaf with
  | application name => exact (by decide : "directory" ∈ areas)
  | _ => decide

/-- No leaf stands in `env_files`. -/
theorem area_ne_envFiles (leaf : Leaf) : leaf.slot.area ≠ "env_files" := by
  cases leaf with
  | application name => exact (by decide : "directory" ≠ "env_files")
  | _ => decide

/-- `isSetBy leaf name`: the variable `name` says something of the leaf, as a setting of its path or as
the variable of its option. -/
def isSetBy (leaf : Leaf) (name : String) : Bool :=
  means leaf.slot.path name || leaf.setting?.any (·.envName? == some name)

/-- The path of a variable that sets `leaf` by `isSetBy` is the path of the leaf, or a key that is none
of `areas`. -/
theorem settingPath?_of_isSetBy (leaf : Leaf) (name : String) (h : leaf.isSetBy name = true) :
    settingPath? name = some leaf.slot.path ∨ ∃ key ∉ areas, settingPath? name = some [key] := by
  rw [isSetBy, Bool.or_eq_true, means, beq_iff_eq] at h
  refine h.imp_right fun hoption => ?_
  obtain ⟨s, -, hs⟩ := (Option.any_eq_true _ _).1 hoption
  exact settingPath?_envName? s name (beq_iff_eq.1 hs)

variable {leaf : Leaf} {name : String} (h : leaf.isSetBy name = true) {area : String}
  (rest : List String) (harea : area ∈ areas)

include h harea

/-- A variable that sets `leaf` does not lead to or beyond the end of a path, if the path of the leaf
does not. -/
theorem beyond?_of_isSetBy (hapart : Text.after? (area :: rest) leaf.slot.path = none) :
    beyond? (area :: rest) name = none := by
  rw [beyond?]
  obtain hown | ⟨key, hkey, hown⟩ := leaf.settingPath?_of_isSetBy name h
  · -- a setting of the leaf: its path is the one that is apart
    rw [hown, Option.bind_some, hapart]
  · -- the variable of an option: its key is no section
    have hne : area ≠ key := fun heq => hkey (heq ▸ harea)
    rw [hown, Option.bind_some, Text.after?, if_neg hne]

/-- A variable that sets `leaf` does not obstruct a path, if the leaf is not on the path. -/
theorem eq_nil_of_isSetBy (hapart : Text.after? leaf.slot.path (area :: rest) = none) :
    ∀ own ∈ settingPath? name, ∀ behind ∈ Text.after? own (area :: rest), behind = [] := by
  intro own hsetting behind hbehind
  obtain hown | ⟨key, hkey, hown⟩ := leaf.settingPath?_of_isSetBy name h
  · rw [hown] at hsetting
    cases hsetting
    rw [hapart] at hbehind
    cases hbehind
  · rw [hown] at hsetting
    cases hsetting
    have hne : key ≠ area := fun heq => hkey (heq ▸ harea)
    rw [Text.after?, if_neg hne] at hbehind
    cases hbehind

end Leaf

end Config

/-! ## Two starts -/

open Config (Leaf)

namespace Startup

/-- `overruled u area`: the file writes the section as a list, and it does not count, because variables
set something in it. -/
def overruled (u : Startup) (area : String) : Bool :=
  u.settled.touches area && (u.file.get? area).any (·.isList)

/-- `SameBut leaf u u'`: two starts that differ at most in what is said of `leaf`, in whatever layer. -/
structure SameBut (leaf : Leaf) (u u' : Startup) : Prop where
  options : ∀ other, other ≠ leaf → other.given u.line.options = other.given u'.line.options
  process : AgreeOff leaf.isSetBy u.surroundings.env u'.surroundings.env
  /-- Lines for other leaves do not refer to variables for this one. -/
  files : ∀ path ∈ u.envFiles, SameLines leaf.isSetBy (Config.envLines u.surroundings path)
    (Config.envLines u'.surroundings path)
  written : ∀ other : Leaf, other ≠ leaf → other.slot.get? u.file = other.slot.get? u'.file
  named : u.file.get? "env_files" = u'.file.get? "env_files"
  listed : ∀ area, area ≠ leaf.slot.area →
    (u.file.get? area).any (·.isList) = (u'.file.get? area).any (·.isList)
  /-- The section of the leaf does not cease to count, nor come to. -/
  overruled : u.overruled leaf.slot.area = u'.overruled leaf.slot.area

variable {leaf : Leaf} {u u' : Startup}

/-- Two starts that are the `SameBut` for one leaf load the same files of variables. -/
theorem SameBut.envFiles_eq (h : SameBut leaf u u') : u.envFiles = u'.envFiles := by
  -- no leaf stands in `env_files`, so its variables do not lead there
  have hapart : Text.after? ["env_files"] leaf.slot.path = none :=
    if_neg (Ne.symm leaf.area_ne_envFiles)
  have hsettings := h.process.find?_settings "env_files" []
    (fun name hname => Leaf.beyond?_of_isSetBy hname [] (by decide) hapart)
    (Environment.unobstructed_singleton _ _) (Environment.unobstructed_singleton _ _)
  have hfile := h.named
  rw [← Value.find?_singleton, ← Value.find?_singleton] at hfile
  rw [envFiles, envFiles, Config.envFilesNamed, Config.envFilesNamed, Config.envFilesOf,
    Config.envFilesOf, ← Value.find?_singleton, ← Value.find?_singleton,
    Value.find?_merge _ _ _ (Environment.clear_settings _ _ (Environment.unobstructed_singleton _ _)),
    Value.find?_merge _ _ _ (Environment.clear_settings _ _ (Environment.unobstructed_singleton _ _)),
    hsettings, hfile]

/-- With the variables of their files loaded, the environments of two starts that are `SameBut` for a
leaf agree off its variables. -/
theorem SameBut.agreeOff_settled (h : SameBut leaf u u') :
    AgreeOff leaf.isSetBy u.settled u'.settled := by
  have henvFiles := h.envFiles_eq
  rw [envFiles, envFiles] at henvFiles
  rw [settled, settled, Config.settled, Config.settled, Config.loadEnvFiles, Config.loadEnvFiles,
    ← henvFiles]
  exact Config.agreeOff_foldl_loadEnvFile _ _ _ h.files h.process

/-- In two such starts, `given?` says the same of every other leaf, and its path is as unobstructed. -/
theorem SameBut.given?_eq (h : SameBut leaf u u') {other : Leaf} (hne : other ≠ leaf)
    (hopen : Unobstructed u.settled other.slot.path) :
    Unobstructed u'.settled other.slot.path ∧ u.given? other = u'.given? other := by
  have hsettled := h.agreeOff_settled
  have hopen' : Unobstructed u'.settled other.slot.path :=
    hsettled.unobstructed _ (fun name hname => Leaf.eq_nil_of_isSetBy hname _ other.area_mem
      (leaf.after?_path other (Ne.symm hne))) hopen
  refine ⟨hopen', ?_⟩
  -- the variables say the same of the other leaf
  have hsettings : (settings u.settled).find? other.slot.path =
      (settings u'.settled).find? other.slot.path :=
    hsettled.find?_settings _ _ (fun name hname => Leaf.beyond?_of_isSetBy hname _ other.area_mem
      (other.after?_path leaf hne)) hopen hopen'
  -- and so does the file, as its section is overruled in both starts or in none
  have hoverruled : u.overruled other.slot.area = u'.overruled other.slot.area := by
    -- a section with the leaf in it is as overruled by hypothesis, and others are touched alike
    by_cases harea : other.slot.area = leaf.slot.area
    · rw [harea, h.overruled]
    · rw [Startup.overruled, Startup.overruled, h.listed _ harea,
        hsettled.touches other.slot.area fun name hname =>
          Leaf.beyond?_of_isSetBy hname [] other.area_mem (if_neg harea)]
  have hwritten : other.slot.written? u.file (u.settled.touches other.slot.area) =
      other.slot.written? u'.file (u'.settled.touches other.slot.area) := by
    rw [Startup.overruled, Startup.overruled] at hoverruled
    rw [Config.Slot.written?, Config.Slot.written?, hoverruled, h.written other hne]
  rw [given?, given?, hsettings, hwritten]

/-- Where `given?` says the same of a leaf that both configurations have, they have it alike. -/
theorem get?_config_congr {other : Leaf} (hopen : Unobstructed u.settled other.slot.path)
    (hopen' : Unobstructed u'.settled other.slot.path) (hgiven : u.given? other = u'.given? other)
    (hsome : (other.get? u.config).isSome = (other.get? u'.config).isSome) :
    other.get? u.config = other.get? u'.config := by
  cases hx : other.get? u.config with
  | none =>
    rw [hx, Option.isSome_none] at hsome
    exact (Option.not_isSome_iff_eq_none.1 (by rw [← hsome]; exact Bool.false_ne_true)).symm
  | some x =>
    rw [hx, Option.isSome_some] at hsome
    obtain ⟨x', hx'⟩ := Option.isSome_iff_exists.1 hsome.symm
    -- both are read from the same value
    have hread := (u.readOr_given? other hopen hx).1
    rw [hgiven, (u'.readOr_given? other hopen' hx').1] at hread
    rw [hx', hread]

/-- If no variable obstructs the path of a setting that only one kind of directory has, none obstructs
the path of the kind itself, that of `Leaf.kind`. -/
theorem unobstructed_kind {env : Environment} {other : Leaf} (hkind : other.kind?.isSome = true)
    (hopen : Unobstructed env other.slot.path) : Unobstructed env Leaf.kind.slot.path := by
  have harea : other.slot.area = "directory" := by
    cases other with
    | apiServer | tokenFile | caFile | requestTimeout | application => rfl
    | _ => cases hkind
  intro e he own hown behind hbehind
  have hpath : ["directory", "kind"] = own ++ behind := Text.after?_eq_some_iff.1 hbehind
  cases own with
  | nil => exact absurd hown (Environment.settingPath?_ne_nil e.1)
  | cons key own =>
    obtain ⟨rfl, htail⟩ := List.cons.inj hpath
    cases own with
    | nil =>
      -- such a variable would obstruct all settings of the directory
      have hbeyond : Text.after? ["directory"] other.slot.path =
          some (other.slot.name :: other.slot.entry.toList) := if_pos harea.symm
      exact absurd (hopen e he _ hown _ hbeyond) (List.cons_ne_nil _ _)
    | cons key own =>
      obtain ⟨-, hnil⟩ := List.cons.inj htail
      exact (List.append_eq_nil_iff.1 hnil.symm).2

/-- In two starts that are the `SameBut` for one leaf, every other leaf of the effective configuration
is the same. The exception is the kind of directory, which decides which other leaves there are. -/
theorem get?_effective_congr (h : SameBut leaf u u') (hleaf : leaf ≠ .kind) {other : Leaf}
    (hne : other ≠ leaf) (hopen : Unobstructed u.settled other.slot.path) :
    other.get? u.effective = other.get? u'.effective := by
  obtain ⟨hopen', hgiven⟩ := h.given?_eq hne hopen
  have hsome : (other.get? u.config).isSome = (other.get? u'.config).isSome := by
    rw [other.isSome_get?, other.isSome_get?]
    cases hkind : other.kind? with
    | none => rfl
    | some kind =>
      -- both directories are of the same kind
      have hopenKind := unobstructed_kind (by rw [hkind]; rfl) hopen
      obtain ⟨hopenKind', hgivenKind⟩ := h.given?_eq (Ne.symm hleaf) hopenKind
      have hsame := get?_config_congr hopenKind hopenKind' hgivenKind rfl
      have hdirectory : u.config.directory.kind = u'.config.directory.kind := Option.some.inj hsame
      rw [hdirectory]
  rw [u.get?_effective, u'.get?_effective, h.options other hne,
    get?_config_congr hopen hopen' hgiven hsome]

/-! ## One start -/

/-- Every leaf of the effective configuration comes from the first layer that says something of it,
which is `chosen?`. The mesh is enabled as the leaf `meshEnabled` says, or else by the path of another
leaf. No leaf depends on what is said of another one, in the sense of `SameBut`. -/
theorem precedence (u : Startup) :
    (∀ leaf : Leaf, u.Plain leaf → leaf.kind?.all (· == u.effective.directory.kind) = true →
      ∃ x, leaf.get? u.effective = some x ∧ u.chosen? leaf = some x) ∧
    (u.Plain .meshEnabled → u.Plain .eventMeshDestinationPath →
      ∃ (flag : Option Bool) (path : String), u.chosen? .meshEnabled = some flag ∧
        u.chosen? .eventMeshDestinationPath = some path ∧
        u.effective.backends.isMeshEnabled = flag.getD (path == Backends.publishPath)) ∧
    (∀ (u' : Startup) (leaf other : Leaf), SameBut leaf u u' → leaf ≠ .kind → other ≠ leaf →
      Unobstructed u.settled other.slot.path → other.get? u.effective = other.get? u'.effective) := by
  refine ⟨fun leaf hplain hkind => ?_, fun hflag hpath => ?_, fun u' leaf other h hleaf hne hopen => ?_⟩
  · -- the leaf is there, as its kind of directory is the one configured
    obtain ⟨x, hx⟩ := Option.isSome_iff_exists.1 ((leaf.isSome_get? u.effective).trans hkind)
    exact ⟨x, hx, u.chosen?_of_get? leaf hplain hx⟩
  · exact ⟨u.effective.backends.meshEnabled, u.effective.backends.eventMeshDestinationPath,
      u.chosen?_of_get? .meshEnabled hflag rfl, u.chosen?_of_get? .eventMeshDestinationPath hpath rfl,
      rfl⟩
  · exact get?_effective_congr h hleaf hne hopen

/-- A configuration file that sets a host and a port and names a file of variables, which sets the
group. -/
def layered : Files where
  entries := [
    ("gate.yaml", "env_files: [a.env]\nserver: \x7bport: 1111, host: 10.0.0.1\x7d\n".toUTF8.toList),
    ("a.env", "CONNECTIVITY_VALIDATOR_VALIDATION__GROUP=g1\n".toUTF8.toList)]

/-- A start over `layered` in which the process sets no variable. -/
def portUnset : Startup where
  surroundings := { files := layered }
  args := ["--config", "gate.yaml", "--tenant", "t1"]
  line := ⟨{ config := some "gate.yaml", logLevel := some "info", tenant := some "t1" }, none⟩
  config := { envFiles := ["a.env"], server := { host := "10.0.0.1", port := 1111 },
              validation := { group := "g1" } }
  parsed := by decide +kernel
  loaded := by decide +kernel
  distinct := by decide

/-- The same start, but the process sets the port by a variable. -/
def portSet : Startup where
  surroundings := { files := layered, env := [("CONNECTIVITY_VALIDATOR_SERVER__PORT", "2222")] }
  args := ["--config", "gate.yaml", "--tenant", "t1"]
  line := ⟨{ config := some "gate.yaml", logLevel := some "info", tenant := some "t1" }, none⟩
  config := { envFiles := ["a.env"], server := { host := "10.0.0.1", port := 2222 },
              validation := { group := "g1" } }
  parsed := by decide +kernel
  loaded := by decide +kernel
  distinct := by decide

theorem sameBut_portSet : SameBut .port portUnset portSet where
  options _ _ := rfl
  process := by
    show List.filter _ _ = List.filter _ _
    decide +kernel
  files path hpath := by
    have henvFiles : portUnset.envFiles = ["a.env"] := by decide +kernel
    have hlines : Config.envLines portUnset.surroundings "a.env" =
        [some "CONNECTIVITY_VALIDATOR_VALIDATION__GROUP=g1".toList] := by decide +kernel
    rw [henvFiles, List.mem_singleton] at hpath
    rw [hpath]
    show SameLines _ _ (Config.envLines portUnset.surroundings "a.env")
    rw [hlines]
    exact .both (Environment.File.ignores_of_not_mem _ _ (by decide +kernel)) .nil
  written _ _ := rfl
  named := rfl
  listed _ _ := rfl
  overruled := by decide +kernel

theorem precedence_portSet :
    portSet.Plain .port ∧ portSet.chosen? .port = some (2222 : UInt16) ∧
      SameBut .port portUnset portSet ∧
      Leaf.group.get? portUnset.effective = Leaf.group.get? portSet.effective ∧
      portUnset.effective.backends.isMeshEnabled = false := by
  have hset : portSet.settled = [("CONNECTIVITY_VALIDATOR_SERVER__PORT", "2222"),
    ("CONNECTIVITY_VALIDATOR_VALIDATION__GROUP", "g1")] := by decide +kernel
  have hunset : portUnset.settled = [("CONNECTIVITY_VALIDATOR_VALIDATION__GROUP", "g1")] := by
    decide +kernel
  -- the leaves that are compared are plain, and no variable obstructs their paths
  have hport : portSet.Plain .port := by
    rw [Plain, hset]
    exact ⟨by decide +kernel, by decide +kernel⟩
  have hmesh : ∀ leaf ∈ [Leaf.meshEnabled, .eventMeshDestinationPath], portUnset.Plain leaf := by
    rw [List.forall_mem_cons, List.forall_mem_singleton, Plain, Plain, hunset]
    exact ⟨⟨by decide +kernel, by decide +kernel⟩, by decide +kernel, by decide +kernel⟩
  have hgroup : Unobstructed portUnset.settled Leaf.group.slot.path := by
    rw [hunset]
    decide +kernel
  obtain ⟨hlayers, -, -⟩ := portSet.precedence
  obtain ⟨port, hget, hchosen⟩ := hlayers .port hport rfl
  obtain ⟨-, hflag, hothers⟩ := portUnset.precedence
  obtain ⟨flag, path, hmeshEnabled, hpath, henabled⟩ := hflag (hmesh _ (by decide)) (hmesh _ (by decide))
  -- nothing is said of the mesh, so its leaves have their defaults
  have hnone : portUnset.chosen? .meshEnabled = some Leaf.meshEnabled.fallback := by decide +kernel
  have hdefault : portUnset.chosen? .eventMeshDestinationPath =
    some Leaf.eventMeshDestinationPath.fallback := by decide +kernel
  refine ⟨hport, hchosen.trans hget.symm, sameBut_portSet,
    hothers portSet .port .group sameBut_portSet (by decide) (by decide) hgroup, ?_⟩
  rw [henabled, Option.some.inj (hmeshEnabled.symm.trans hnone),
    Option.some.inj (hpath.symm.trans hdefault)]
  rfl

/-- A configuration file in which the section `server` is written as a list, by position. -/
def listed : Files where
  entries := [("gate.yaml", "server: [0.0.0.0, 9090]\n".toUTF8.toList)]

/-- A file of variables in which the tenant is written as a reference to the group. -/
def referring : Files where
  entries := [("gate.yaml", "env_files: [a.env]\n".toUTF8.toList),
    ("a.env", ("CONNECTIVITY_VALIDATOR_VALIDATION__TENANT=" ++
      "$\x7bCONNECTIVITY_VALIDATOR_VALIDATION__GROUP\x7d\n").toUTF8.toList)]

/-- With the section in `listed` written as a list, to set the host changes the port; with the
reference in `referring`, to set the group changes the tenant. -/
theorem leaves_interfere :
    ((Config.load { files := listed } (some "gate.yaml")).toOption.map (·.server.port) =
        some 9090 ∧
      (Config.load { files := listed, env := [("CONNECTIVITY_VALIDATOR_SERVER__HOST", "127.0.0.1")] }
        (some "gate.yaml")).toOption.map (·.server.port) = some 8080) ∧
    (Config.load { files := referring } (some "gate.yaml")).toOption.map (·.validation.tenant) =
        some "" ∧
      (Config.load { files := referring, env := [("CONNECTIVITY_VALIDATOR_VALIDATION__GROUP", "g1")] }
        (some "gate.yaml")).toOption.map (·.validation.tenant) = some "g1" := by
  decide +kernel

end Startup

end CertGate
