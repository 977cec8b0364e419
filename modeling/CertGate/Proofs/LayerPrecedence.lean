import CertGate.CommandLine.Run
import CertGate.Proofs.ConfigLeaves
import CertGate.Proofs.Outcomes
import CertGate.Proofs.VariableSettings

/-!
# The order of layers

The configuration that a command works with has each of its leaves from the first of these that says
something: the command line, the environment of the process, the files of variables, the configuration
file, the defaults. A section of the file may be written as a list, by position; then it counts only as
long as no variable sets anything in it.

## Key results

- `Slot.get?_layers`: what stands in a slot when settings are laid over a file
- `Startup.run_eq`: a command works with the effective configuration
- `Startup.readOr_given?`: a leaf of the configuration, before options are laid over it
- `Startup.chosen?_of_get?`: a leaf of the effective configuration
-/

namespace CertGate

open Environment (Unobstructed SpelledOnce means said? settings valueOf)
open Value (readOr)

/-! ## Slots -/

namespace Value

/-- `isList v`: the value is written as a list. -/
def isList : Value → Bool
  | .list _ => true
  | _ => false

end Value

namespace Config

namespace Slot

/-- What a file writes into a slot. Where the section is a list, it counts only as long as no variable
has `touched` the section. -/
def written? (slot : Slot) (file : Value) (touched : Bool) : Option Value :=
  if touched && (file.get? slot.area).any (·.isList) then none else slot.get? file

/-- In a `touched` section, what the file writes into a slot is what it has behind the keys of its
path. -/
theorem find?_path (slot : Slot) (file : Value) : file.find? slot.path = slot.written? file true := by
  rw [written?, Bool.true_and]
  cases harea : file.get? slot.area with
  | none =>
    rw [path, Value.find?, get?, harea]
    cases slot.entry <;> rfl
  | some v =>
    cases v with
    | dict members => exact (slot.get?_eq_find? file members harea).symm
    | list items =>
      rw [path, Value.find?, harea]
      rfl
    | _ =>
      rw [path, Value.find?, get?, harea]
      cases slot.entry <;> rfl

/-- What stands in a slot when settings are laid over a file: what the settings say of its path, laid
over the file, or else what the file writes by `written?`. -/
theorem get?_layers (slot : Slot) (file : Value) (env : Environment)
    (hopen : Unobstructed env slot.path) :
    slot.get? (file.merge (settings env)) =
      match (settings env).find? slot.path with
      | none => slot.written? file (env.touches slot.area)
      | some v => some (v.laidOver (file.find? slot.path)) := by
  have hclear := Environment.clear_settings slot.path env hopen
  have hopenArea := Environment.unobstructed_singleton env slot.area
  have hmerged := Value.find?_merge [slot.area] file (settings env)
    (Environment.clear_settings _ env hopenArea)
  rw [Value.find?_singleton, Value.find?_singleton, Value.find?_singleton] at hmerged
  have htouches := Environment.get?_settings_isSome env slot.area
  cases hsection : (settings env).get? slot.area with
  | none =>
    -- no variable sets anything in the section
    rw [hsection] at hmerged htouches
    rw [path, Value.find?, hsection, Option.bind_none, ← htouches, Option.isSome_none, written?,
      Bool.false_and, if_neg Bool.false_ne_true, get?, hmerged, get?]
  | some v =>
    obtain ⟨members, hsettings, -, hmember⟩ := hclear
    rw [hsettings] at hsection
    obtain ⟨above, rfl, -⟩ := hmember v hsection
    rw [← hsettings] at hsection
    rw [hsection] at hmerged htouches
    -- with something set in it, the section is a dictionary from then on
    obtain ⟨laid, hlaid⟩ : ∃ laid, (file.merge (settings env)).get? slot.area = some (.dict laid) := by
      rw [hmerged]
      cases file.get? slot.area with
      | none => exact ⟨above, rfl⟩
      | some below => cases below <;> exact ⟨_, rfl⟩
    rw [slot.get?_eq_find? _ laid hlaid, ← htouches, Option.isSome_some, ← slot.find?_path file]
    exact Value.find?_merge slot.path file _ (Environment.clear_settings slot.path env hopen)

end Slot

end Config

/-! ## A start -/

open Config (Leaf Slot)

/-- A start of the program with `args`, which gets as far as to a configuration. -/
structure Startup where
  surroundings : Surroundings
  args : List String
  line : CommandLine
  config : Config
  parsed : (CommandLine.parse surroundings.env args).toOption = some line
  loaded : (Config.load surroundings line.options.config).toOption = some config
  /-- The process has no variable twice. -/
  distinct : (surroundings.env.map (·.1)).Nodup

namespace Startup

/-- The configuration that a command works with: `config`, which was loaded, under the options of
`line`. -/
def effective (u : Startup) : Config :=
  u.line.options.apply u.config

/-- The arguments of a start are parsed as its `line`. -/
theorem parse_eq (u : Startup) : CommandLine.parse u.surroundings.env u.args = .ok u.line :=
  Except.eq_ok_of_toOption u.parsed

/-- The configuration of a start is the one that `Config.load` gives for its options. -/
theorem load_eq (u : Startup) :
    Config.load u.surroundings u.line.options.config = .ok u.config :=
  Except.eq_ok_of_toOption u.loaded

/-- `CommandLine.run` checks the effective configuration of a start or serves with it. -/
theorem run_eq (u : Startup) (trust : KubernetesDirectory.Trust) :
    CommandLine.run trust u.surroundings u.args =
      match u.line.command with
      | some .checkConfig => CommandLine.check u.effective
      | _ => CommandLine.start trust u.surroundings.files u.effective := by
  rw [CommandLine.run, u.parse_eq]
  dsimp only
  rw [u.load_eq]
  rfl

/-- The settings of the configuration file that the options name: its `fileLayer`, or no settings. -/
def file (u : Startup) : Value :=
  ((Config.fileLayer u.surroundings.files u.line.options.config).toOption).getD (.dict [])

/-- The files of variables that are loaded, in their order, as `envFilesNamed` gives them. -/
def envFiles (u : Startup) : List String :=
  Config.envFilesNamed u.surroundings u.file

/-- The environment of the process with the variables of `envFiles` behind its own. -/
def settled (u : Startup) : Environment :=
  Config.settled u.surroundings u.file

/-- The `settled` environment has no variable twice. -/
theorem nodup_settled (u : Startup) : (u.settled.map (·.1)).Nodup :=
  Config.nodup_settled u.surroundings u.file u.distinct

/-- The configuration of a start is read from the settings of its variables, laid over its `file`. -/
theorem ofValue_layers (u : Startup) :
    Config.ofValue .loose (u.file.merge (settings u.settled)) = some u.config := by
  obtain ⟨v, hfile, -, hread⟩ := (Config.load_eq_ok_iff _ _ _).1 u.load_eq
  have hv : u.file = v := by
    rw [file, hfile]
    rfl
  rwa [settled, ← Config.layers_eq, hv]

/-! ## Leaves, before options are laid over them -/

/-- What the settings of all variables say of a leaf, or else what `file` writes of it. -/
def given? (u : Startup) (leaf : Leaf) : Option Value :=
  ((settings u.settled).find? leaf.slot.path).or
    (leaf.slot.written? u.file (u.settled.touches leaf.slot.area))

/-- A leaf of the configuration is read from `given?`. If a variable says something of it, this is no
dictionary, whatever it is laid over. -/
theorem readOr_given? (u : Startup) (leaf : Leaf) {x : leaf.Out}
    (hopen : Unobstructed u.settled leaf.slot.path) (hx : leaf.get? u.config = some x) :
    readOr leaf.fallback leaf.read (u.given? leaf) = some x ∧
      ∀ v, (settings u.settled).find? leaf.slot.path = some v → v.isDict = false := by
  obtain ⟨members, hdict⟩ : ∃ members, u.file.merge (settings u.settled) = .dict members := by
    obtain ⟨above, habove⟩ := Environment.exists_settings_eq_dict u.settled
    rw [habove]
    cases u.file <;> exact ⟨_, rfl⟩
  have hread := u.ofValue_layers
  rw [hdict] at hread
  -- what stands in the slot of the leaf is what the leaf is read from
  have hslot := leaf.readOr_get? hread hx
  rw [← hdict, leaf.slot.get?_layers u.file u.settled hopen] at hslot
  rw [given?]
  cases hfind : (settings u.settled).find? leaf.slot.path with
  | none =>
    rw [hfind] at hslot
    exact ⟨hslot, fun v hv => nomatch hv⟩
  | some v =>
    rw [hfind] at hslot
    replace hslot : leaf.read (v.laidOver (u.file.find? leaf.slot.path)) = some x := hslot
    -- no leaf is read from a dictionary
    have hv : v.isDict = false := by
      rw [← Value.isDict_laidOver v (u.file.find? leaf.slot.path)]
      cases hwhole : v.laidOver (u.file.find? leaf.slot.path) with
      | dict laid =>
        rw [hwhole, leaf.read_dict] at hslot
        cases hslot
      | _ => rfl
    rw [v.laidOver_of_not_dict _ hv] at hslot
    exact ⟨hslot, fun w hw => Option.some.inj hw ▸ hv⟩

/-! ## Leaves in the end -/

/-- `Plain u leaf`: no variable sets as a whole what the leaf is part of, and all variables for the
leaf are spelled alike. -/
def Plain (u : Startup) (leaf : Leaf) : Prop :=
  Unobstructed u.settled leaf.slot.path ∧ SpelledOnce u.settled leaf.slot.path

/-- A leaf that is `Plain` is read from what its variable says, or else from what the file writes. -/
theorem readOr_said? (u : Startup) (leaf : Leaf) {x : leaf.Out} (hplain : u.Plain leaf)
    (hx : leaf.get? u.config = some x) :
    readOr leaf.fallback leaf.read (((said? u.settled (means leaf.slot.path)).map valueOf).or
      (leaf.slot.written? u.file (u.settled.touches leaf.slot.area))) = some x := by
  obtain ⟨hread, hvalue⟩ := u.readOr_given? leaf hplain.1 hx
  have hsaid : (settings u.settled).find? leaf.slot.path =
      (said? u.settled (means leaf.slot.path)).map valueOf :=
    Environment.find?_settings_of_said _ _ u.settled hplain.1 hplain.2 u.nodup_settled hvalue
  rwa [given?, hsaid] at hread

/-- A leaf of `effective` is the one the options give, or else the one of the configuration. -/
theorem get?_effective (u : Startup) (leaf : Leaf) :
    leaf.get? u.effective = (leaf.get? u.config).map (leaf.given u.line.options).getD :=
  leaf.get?_apply u.line.options u.config

/-- What is said of a leaf by the command line, or else by a variable of the process, or else by the
first of `envFiles` that sets it, or else by the configuration file, or else by the defaults. -/
def chosen? (u : Startup) (leaf : Leaf) : Option leaf.Out :=
  let process := said? u.surroundings.env (means leaf.slot.path)
  let files := Config.assignments u.surroundings (means leaf.slot.path) u.surroundings.env u.envFiles
  let written := leaf.slot.written? u.file (u.settled.touches leaf.slot.area)
  (leaf.given u.line.options).or
    (readOr leaf.fallback leaf.read (((process.or files.head?).map valueOf).or written))

/-- What the effective configuration has for a plain leaf is `chosen?`, which goes through the layers
in their order. -/
theorem chosen?_of_get? (u : Startup) (leaf : Leaf) (hplain : u.Plain leaf) {x : leaf.Out}
    (hx : leaf.get? u.effective = some x) : u.chosen? leaf = some x := by
  rw [get?_effective] at hx
  obtain ⟨y, hy, rfl⟩ := Option.map_eq_some_iff.1 hx
  rw [chosen?]
  cases leaf.given u.line.options with
  | some z => rfl
  | none =>
    have hread := u.readOr_said? leaf hplain hy
    rwa [settled, Config.said?_settled] at hread

/-! ## The first file of variables -/

/-- A variable that the process does not set has the value that the first of `envFiles` gives it which
sets it. So the last file counts exactly if it gives the same value. Every plain leaf that the variable
stands for, and that no option gives, is read from this value. -/
theorem get?_settled_eq_first (u : Startup) (name : String)
    (hunset : u.surroundings.env.get? name = none) :
    let assigned := Config.assignments u.surroundings (· == name) u.surroundings.env u.envFiles
    u.settled.get? name = assigned.head? ∧
    (u.settled.get? name = assigned.getLast? ↔ assigned.head? = assigned.getLast?) ∧
    ∀ leaf : Leaf, means leaf.slot.path name = true → u.Plain leaf →
      leaf.given u.line.options = none → ∀ value, assigned.head? = some value →
        ∀ x, leaf.get? u.effective = some x → leaf.read (valueOf value) = some x := by
  intro assigned
  have hfirst : u.settled.get? name = assigned.head? := by
    rw [Environment.get?_eq_said?] at hunset ⊢
    rw [settled, Config.said?_settled, hunset, Option.none_or]
    rfl
  refine ⟨hfirst, by rw [hfirst], fun leaf hmeans hplain hoption value hvalue x hx => ?_⟩
  -- the value is that of a variable in the settled environment, which says it of the leaf
  have hmem : (name, value) ∈ u.settled := by
    obtain ⟨before, after, hsettled, -⟩ := List.lookup_eq_some_iff.1 (hfirst.trans hvalue)
    rw [hsettled]
    exact List.mem_append_right before List.mem_cons_self
  have hsaid : said? u.settled (means leaf.slot.path) = some value :=
    Environment.said?_of_mem u.settled _ _ hmem hmeans hplain.2 u.nodup_settled
  rw [get?_effective, hoption] at hx
  obtain ⟨y, hy, rfl⟩ := Option.map_eq_some_iff.1 hx
  have hread := u.readOr_said? leaf hplain hy
  rwa [hsaid] at hread

/-- A start in which two files of variables set the port to different values. -/
def twoFiles : Startup where
  surroundings := {
    files := { entries := [
      ("gate.yaml", "env_files: [a.env, b.env]\n".toUTF8.toList),
      ("a.env", "CONNECTIVITY_VALIDATOR_SERVER__PORT=1111\n".toUTF8.toList),
      ("b.env", "CONNECTIVITY_VALIDATOR_SERVER__PORT=2222\n".toUTF8.toList)] } }
  args := ["--config", "gate.yaml"]
  line := ⟨{ config := some "gate.yaml", logLevel := some "info" }, none⟩
  config := { envFiles := ["a.env", "b.env"], server := { port := 1111 } }
  parsed := by decide +kernel
  loaded := by decide +kernel
  distinct := by decide

theorem get?_settled_twoFiles :
    twoFiles.surroundings.env.get? "CONNECTIVITY_VALIDATOR_SERVER__PORT" = none ∧
      twoFiles.settled.get? "CONNECTIVITY_VALIDATOR_SERVER__PORT" = some "1111" ∧
      Leaf.port.read (valueOf "1111") = some (1111 : UInt16) := by
  obtain ⟨hfirst, -, hleaf⟩ :=
    twoFiles.get?_settled_eq_first "CONNECTIVITY_VALIDATOR_SERVER__PORT" rfl
  have hvalue : (Config.assignments twoFiles.surroundings
      (· == "CONNECTIVITY_VALIDATOR_SERVER__PORT") [] twoFiles.envFiles).head? = some "1111" := by
    decide +kernel
  have hplain : twoFiles.Plain .port := ⟨by decide +kernel, by decide +kernel⟩
  exact ⟨rfl, hfirst.trans hvalue,
    hleaf .port (by decide +kernel) hplain rfl "1111" hvalue (1111 : UInt16) rfl⟩

/-- In `twoFiles` the port is the one of the first file, although the last file sets it too. -/
theorem port_twoFiles :
    twoFiles.surroundings.env.get? "CONNECTIVITY_VALIDATOR_SERVER__PORT" = none ∧
      Config.assignments twoFiles.surroundings (· == "CONNECTIVITY_VALIDATOR_SERVER__PORT") []
        twoFiles.envFiles = ["1111", "2222"] ∧
      (Config.load twoFiles.surroundings (some "gate.yaml")).toOption.map (·.server.port) =
        some 1111 := by
  decide +kernel

end Startup

end CertGate
