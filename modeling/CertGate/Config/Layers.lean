import CertGate.Config.Value
import CertGate.Environment.File
import CertGate.Environment.Value
import CertGate.Files
import CertGate.Yaml.Value

/-!
# Where a configuration comes from

Settings come in layers: the defaults, a file, and the environment on top. Files of variables, which
the first two layers name, are loaded into the environment first.
-/

namespace CertGate

/-- What a program finds when it starts: files, its home directory, and its environment. -/
structure Surroundings where
  files : Files := {}
  home : String := "/"
  env : Environment := []

namespace Config

/-- Why `load` gives no configuration. -/
inductive LoadError where
  | notFound (path : String)
  | invalid
  /-- A file gives this variable a value that no variable can have. -/
  | unsettable (name : String)
  deriving DecidableEq, Repr

/-- The message of a `LoadError`, where it has one of its own. -/
def LoadError.message? : LoadError → Option String
  | .notFound path => some s!"Config file not found: {path}"
  | .invalid | .unsettable _ => none

/-- The settings in the file at this path, as `readDict?` reads them; none without a path, and none in
a directory. -/
def fileLayer (files : Files) : Option String → Except LoadError Value
  | none => .ok (.dict [])
  | some path =>
    match files.read path with
    | .ok content =>
      match Yaml.readDict? content with
      | some v => .ok v
      | none => .error .invalid
    | .error _ => if files.contains path then .ok (.dict []) else .error (.notFound path)

/-- The files of variables that `settings` name; none if they name no proper list. -/
def envFilesOf (settings : Value) : List String :=
  ((settings.get? "env_files").bind (Value.asList (·.asText .loose))).getD []

/-- A path in which a leading tilde stands for the `home` directory. -/
def expandHome (home path : String) : String :=
  match path.toList with
  | '~' :: rest => home ++ String.ofList rest
  | _ => path

/-- Loads the variables of a file into `env`; a file that cannot be read is passed over. -/
def loadEnvFile (s : Surroundings) (env : Environment) (path : String) : Environment :=
  match s.files.read (expandHome s.home path) with
  | .ok content => Environment.File.load env content
  | .error _ => env

/-- The environment of the process with the variables of the files at `paths`, of which the first to
set one wins. -/
def loadEnvFiles (s : Surroundings) (paths : List String) : Environment :=
  paths.foldl (loadEnvFile s) s.env

/-- The first variable that `loadEnvFiles` would set to a text with a NUL, which no variable can hold. -/
def unsettable? (s : Surroundings) (paths : List String) : Option String :=
  -- what files set stands behind what was set before
  let added := (loadEnvFiles s paths).drop s.env.length
  (added.find? fun (_, value) => value.toList.contains '\x00').map (·.1)

/-- The files of variables that `file` and the environment of the process name. -/
def envFilesNamed (s : Surroundings) (file : Value) : List String :=
  envFilesOf (file.merge (Environment.settings s.env))

/-- All settings: those of `file`, with those of the environment merged over them. -/
def layers (s : Surroundings) (file : Value) : Value :=
  file.merge (Environment.settings (loadEnvFiles s (envFilesNamed s file)))

/-- Loads a configuration from all layers, that of the file at `path` among them if there is one. -/
def load (s : Surroundings) (path : Option String) : Except LoadError Config := do
  let file ← fileLayer s.files path
  match unsettable? s (envFilesNamed s file) with
  | some name => .error (.unsettable name)
  | none =>
    -- all layers are one value before any setting is read
    match Config.ofValue .loose (layers s file) with
    | some c => .ok c
    | none => .error .invalid

end Config

end CertGate
