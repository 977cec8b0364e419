import CertGate.Config.Basic
import CertGate.Environment
import CertGate.Text.Digits

/-!
# Options

What can be set on a command line. Some options are also read from variables; what the command line
says counts more.
-/

namespace CertGate.CommandLine

/-- What is wrong with a command line, or asked for in place of a command. -/
inductive Fault where
  | unknownArgument
  | invalidSubcommand
  /-- A value that is missing or not among those that are possible. -/
  | invalidValue
  /-- A value that cannot be read as the number that it should be. -/
  | unreadableValue
  | tooManyValues
  | argumentConflict
  | helpRequested
  | versionRequested
  deriving DecidableEq, Repr

/-- The names of the options that set something. -/
inductive Setting where
  | config
  | port
  | host
  | logLevel
  | logFormat
  | group
  | tenant
  | meshEnabled
  deriving DecidableEq, Repr

namespace Setting

/-- All settings, in the order in which variables are read. -/
def all : List Setting :=
  [.config, .port, .host, .logLevel, .logFormat, .group, .tenant, .meshEnabled]

/-- The name of a `Setting` on the command line, behind two dashes. -/
def long : Setting → String
  | .config => "config"
  | .port => "port"
  | .host => "host"
  | .logLevel => "log-level"
  | .logFormat => "log-format"
  | .group => "group"
  | .tenant => "tenant"
  | .meshEnabled => "mesh-enabled"

/-- The letter of a `Setting` on the command line, behind one dash. -/
def short? : Setting → Option Char
  | .config => some 'c'
  | .port => some 'p'
  | _ => none

/-- The variable that is read where an option is not given. -/
def envName? : Setting → Option String
  | .config => some "CONNECTIVITY_VALIDATOR_CONFIG"
  | .port => some "CONNECTIVITY_VALIDATOR_PORT"
  | .host => some "CONNECTIVITY_VALIDATOR_HOST"
  | .logLevel => some "CONNECTIVITY_VALIDATOR_LOG_LEVEL"
  | .logFormat => some "CONNECTIVITY_VALIDATOR_LOG_FORMAT"
  | _ => none

/-- Whether an option may also stand behind a command. -/
def isGlobal (s : Setting) : Bool := s ≠ .port && s ≠ .host

end Setting

/-- What the options set, one field for each `Setting`. -/
structure Options where
  config : Option String := none
  port : Option UInt16 := none
  host : Option String := none
  logLevel : Option String := none
  logFormat : Option String := none
  group : Option String := none
  tenant : Option String := none
  meshEnabled : Option Bool := none
  deriving DecidableEq, Repr

namespace Options

/-- Whether the options set `s`. -/
def has (o : Options) : Setting → Bool
  | .config => o.config.isSome
  | .port => o.port.isSome
  | .host => o.host.isSome
  | .logLevel => o.logLevel.isSome
  | .logFormat => o.logFormat.isSome
  | .group => o.group.isSome
  | .tenant => o.tenant.isSome
  | .meshEnabled => o.meshEnabled.isSome

/-- Reads a port, a number of 16 bits; a zero may have a minus sign. -/
def readPort (s : String) : Except Fault UInt16 :=
  let number := match s.toList with
    | '-' :: cs => if cs.all (· == '0') && !cs.isEmpty then ['0'] else '-' :: cs
    | cs => cs
  match Text.readNat 65536 number with
  | .ok n => .ok n.toUInt16
  | .error _ => .error .unreadableValue

/-- Sets `s` to a value, or says with a `Fault` why it cannot have this value. -/
def set (o : Options) (s : Setting) (value : String) : Except Fault Options :=
  match s with
  | .config => if value = "" then .error .invalidValue else .ok { o with config := some value }
  | .port => do return { o with port := some (← readPort value) }
  | .host => .ok { o with host := some value }
  | .logLevel => .ok { o with logLevel := some value }
  | .logFormat => .ok { o with logFormat := some value }
  | .group => .ok { o with group := some value }
  | .tenant => .ok { o with tenant := some value }
  | .meshEnabled =>
    if value = "true" then .ok { o with meshEnabled := some true }
    else if value = "false" then .ok { o with meshEnabled := some false }
    else .error .invalidValue

/-- Sets from variables, each by `envName?`, what the options on the same level do not set. -/
def addVariables (env : Environment) (settings : List Setting) (o : Options) :
    Except Fault Options :=
  settings.foldlM (fun o s =>
    match s.envName?.bind env.get? with
    | some value => if o.has s then .ok o else o.set s value
    | none => .ok o) o

/-- The options of `o`, and those `below` where `o` says nothing. -/
def orElse (o below : Options) : Options where
  config := o.config.or below.config
  port := o.port.or below.port
  host := o.host.or below.host
  logLevel := o.logLevel.or below.logLevel
  logFormat := o.logFormat.or below.logFormat
  group := o.group.or below.group
  tenant := o.tenant.or below.tenant
  meshEnabled := o.meshEnabled.or below.meshEnabled

/-- The configuration `c` with the options laid over it. -/
def apply (o : Options) (c : Config) : Config :=
  { c with
    server := { c.server with
      port := o.port.getD c.server.port, host := o.host.getD c.server.host }
    validation := {
      group := o.group.getD c.validation.group, tenant := o.tenant.getD c.validation.tenant }
    backends := { c.backends with meshEnabled := o.meshEnabled.or c.backends.meshEnabled } }

end Options

end CertGate.CommandLine
