import CertGate.CommandLine.Options

/-!
# The command line

Words are read from left to right: options with their values, and a command, behind which come the
options of that command. A value that stands apart from its option is looked at when the next option
starts, or at the end. Options of a command count more than the same ones in front of it.
-/

namespace CertGate.CommandLine

/-- The commands that may stand on a command line. -/
inductive Command where
  | serve
  | checkConfig
  deriving DecidableEq, Repr

namespace Command

def name : Command → String
  | .serve => "serve"
  | .checkConfig => "check-config"

def ofName? (s : String) : Option Command :=
  [serve, checkConfig].find? (·.name == s)

end Command

/-! ## Words -/

/-- The kinds of words on a command line, told apart by the dashes in front of them. -/
inductive Word where
  /-- Two dashes alone, behind which there are no options. -/
  | ending
  | long (name : String) (attached : Option String)
  | short (letter : Char) (behind : List Char)
  | bare (s : String)
  deriving DecidableEq, Repr

/-- Tells the kind of a `Word` by its dashes. -/
def Word.ofString (s : String) : Word :=
  match s.toList with
  | ['-', '-'] => .ending
  | '-' :: '-' :: cs =>
    let name := String.ofList (cs.takeWhile (· != '='))
    match cs.dropWhile (· != '=') with
    | [] => .long name none
    | _ :: value => .long name (some (String.ofList value))
  | '-' :: c :: cs => .short c cs
  | _ => .bare s

/-- Where a `Level` of the command line has got to: what is set, and the option whose value stands
apart or is still to come. -/
structure Progress where
  set : Options := {}
  pending : Option (Setting × Option String) := none

namespace Progress

/-- Whether the value of the `pending` option is still to come. -/
def awaits (p : Progress) : Bool :=
  match p.pending with
  | some (_, none) => true
  | _ => false

/-- Sets an option, or gives an `argumentConflict` if it is set already. -/
def add (p : Progress) (s : Setting) (value : String) : Except Fault Progress := do
  if p.set.has s then .error .argumentConflict
  return { p with set := ← p.set.set s value }

/-- Sets the `pending` option whose value stands apart, if there is one. -/
def settle (p : Progress) : Except Fault Progress :=
  match p.pending with
  | none => .ok p
  | some (_, none) => .error .invalidValue
  | some (s, some value) => { p with pending := none }.add s value

/-- Takes an option, with the value that is `attached` to it or still to come. -/
def take (p : Progress) (s : Setting) (attached : Option String) : Except Fault Progress := do
  -- only now is it known that the last value stays as it is
  let p ← p.settle
  match attached with
  | some value => p.add s value
  | none => return { p with pending := some (s, none) }

/-- Takes an option that makes a `request` in place of a command, such as one for help. -/
def askFor (p : Progress) (request : Fault) : Except Fault Progress := do
  let _ ← p.settle
  .error request

/-- Takes a bare word as the value of the `pending` option that is still to come. -/
def takeValue (p : Progress) (value : String) : Progress :=
  { p with pending := p.pending.map fun (s, _) => (s, some value) }

end Progress

/-- A level of the command line: in front of the command, or behind it. -/
inductive Level where
  | front
  | behind
  deriving DecidableEq, Repr

namespace Level

/-- The options that may stand on a `Level`. -/
def settings : Level → List Setting
  | .front => Setting.all
  | .behind => Setting.all.filter Setting.isGlobal

/-- The `Fault` of a word that stands where the level expects none. -/
def unexpected : Level → Fault
  | .front => .invalidSubcommand
  | .behind => .unknownArgument

/-- Takes an option behind two dashes, with the value `attached` to it. -/
def takeLong (l : Level) (p : Progress) (name : String) (attached : Option String) :
    Except Fault Progress :=
  match l.settings.find? (·.long == name) with
  | some s => p.take s attached
  | none =>
    let request? :=
      if name == "help" then some .helpRequested
      else if name == "version" && l == .front then some .versionRequested
      else none
    match request?, attached with
    | none, _ => .error .unknownArgument
    | some _, some _ => .error .tooManyValues
    | some request, none => p.askFor request

/-- Takes an option behind one dash. Its value may follow at once in `behind`, also after an equals
sign. -/
def takeShort (l : Level) (p : Progress) (letter : Char) (behind : List Char) :
    Except Fault Progress :=
  match l.settings.find? (·.short? == some letter) with
  | some s =>
    p.take s (match behind with
      | [] => none
      | '=' :: cs => some (String.ofList cs)
      | cs => some (String.ofList cs))
  | none =>
    if letter == 'h' then p.askFor .helpRequested
    else if letter == 'V' && l == .front then p.askFor .versionRequested
    else .error .unknownArgument

end Level

/-! ## Reading -/

/-- What is answered to the word `help`, which may have the name of a command behind it. -/
def helpOn : List String → Fault
  | [] => .helpRequested
  | [s] => if (Command.ofName? s).isSome || s == "help" then .helpRequested else .invalidSubcommand
  | _ => .invalidSubcommand

/-- The `Fault` of the word behind two dashes alone, where there are no options any more. -/
def afterEnding (l : Level) (s : String) : Fault :=
  if l == .front && ((Command.ofName? s).isSome || s == "help") then .unknownArgument
  else l.unexpected

/-- Reads the words of a level. On the level `front`, gives the command and the words behind it. -/
def readWords (l : Level) (p : Progress) :
    List String → Except Fault (Progress × Option (Command × List String))
  | [] => .ok (p, none)
  | w :: ws =>
    -- a command is recognized only where no option waits for its value
    if l == .front && !p.awaits && w == "help" then .error (helpOn ws)
    else
      match if l == .front && !p.awaits then Command.ofName? w else none with
      | some command => .ok (p, some (command, ws))
      | none =>
        match Word.ofString w with
        | .ending =>
          match ws with
          | [] => .ok (p, none)
          | s :: _ => .error (afterEnding l s)
        | .long name attached => do readWords l (← l.takeLong p name attached) ws
        | .short letter behind => do readWords l (← l.takeShort p letter behind) ws
        | .bare s => if p.awaits then readWords l (p.takeValue s) ws else .error l.unexpected

/-- Reads the words behind a `Command`. Variables are read there too, but count only in front of it. -/
def readBehind (env : Environment) : Option (Command × List String) → Except Fault Options
  | none => .ok {}
  | some (_, words) => do
    let (p, _) ← readWords .behind {} words
    let p ← p.settle
    let _ ← p.set.addVariables env Level.behind.settings
    return p.set

end CommandLine

/-- A command line that has been read: its `Options`, and its `Command` if there is one. -/
structure CommandLine where
  options : CommandLine.Options
  command : Option CommandLine.Command
  deriving DecidableEq, Repr

namespace CommandLine

/-- The log level where neither an option nor a variable sets `logLevel`. -/
def defaultLogLevel : String := "info"

/-- Reads a command line, `args`, and the variables that stand for its options. -/
def parse (env : Environment) (args : List String) : Except Fault CommandLine := do
  let (front, found) ← readWords .front {} args
  -- faults behind the command come before those of the last option in front of it
  let behind ← readBehind env found
  let front ← front.settle
  let front ← front.set.addVariables env Level.front.settings
  return {
    options := (behind.orElse front).orElse { logLevel := some defaultLogLevel }
    command := found.map (·.1) }

end CommandLine

end CertGate
