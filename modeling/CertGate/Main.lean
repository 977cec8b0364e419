import CertGate.CommandLine.Run

/-!
# The program

Finds the environment and the files that the command line and the configuration name, runs the
command, and prints what comes of it.
-/

namespace CertGate

/-- The variables of the process. -/
def readEnvironment : IO Environment := do
  let content ← IO.FS.readBinFile "/proc/self/environ"
  return (Text.pieces 0 content.toList).filterMap fun entry => do
    let (name, value) ← Text.cut? '=' (← Text.Utf8.decode? entry)
    return (String.ofList name, String.ofList value)

/-- The files of these `names` that can be read. -/
def readFiles (names : List String) : IO (List (String × List UInt8)) := do
  let mut found := []
  for name in names do
    try
      let content ← IO.FS.readBinFile name
      found := found ++ [(name, content.toList)]
    catch _ => pure ()
  return found

/-- Surroundings with the files of further `names`. -/
def Surroundings.addFiles (s : Surroundings) (names : List String) : IO Surroundings := do
  let found ← readFiles names
  return { s with files := { s.files with entries := found ++ s.files.entries } }

/-- The files that a configuration names itself: those of a directory behind an API server. -/
def Config.namedFiles (c : Config) : List String :=
  match c.directory with
  | .kubernetes k => k.tokenFile.toList ++ k.caFile.toList
  | .fixed _ => []

/-- Finds what a command line needs: variables, and the files that it and its configuration name. -/
def findSurroundings (args : List String) : IO Surroundings := do
  let env ← readEnvironment
  let home := (env.get? "HOME").getD "/"
  let location := (← IO.currentDir).toString
  let path := (CommandLine.parse env args).toOption.bind (·.options.config)
  let s : Surroundings := { files := { location, entries := [] }, home, env }
  let s ← s.addFiles path.toList
  let file := (Config.fileLayer s.files path).toOption.getD (.dict [])
  let s ← s.addFiles ((Config.envFilesNamed s file).map (Config.expandHome home))
  match Config.load s path with
  | .ok c => s.addFiles c.namedFiles
  | .error _ => return s

/-- A short account of the command line. -/
def usage : String :=
  "Usage: connectivity-validator [OPTIONS] [serve|check-config]\n"
    ++ "Options: "
    ++ ", ".intercalate (CommandLine.Setting.all.map fun s => "--" ++ s.long) ++ "\n"

/-- Prints what comes of a command: its own output, the `usage`, or why nothing comes of it. -/
def report (outcome : CommandLine.Outcome) : IO Unit := do
  match outcome with
  | .help => IO.print usage
  | .misused _ => IO.eprint usage
  | .failed reason => IO.eprintln reason
  | .panicked => IO.eprintln "failed to set environment variable"
  | .ready _ address port =>
    IO.eprintln s!"No listener for {address.render} port {port}"
  | _ =>
    IO.print outcome.output
    IO.eprint outcome.errors

end CertGate

def main (args : List String) : IO UInt32 := do
  -- certificates are not looked at, since no connection is made
  let outcome := CertGate.CommandLine.run (fun _ => .ok ()) (← CertGate.findSurroundings args) args
  CertGate.report outcome
  return outcome.exitCode.toUInt32
