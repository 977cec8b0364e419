import CertGate.CommandLine
import CertGate.Config.Layers
import CertGate.Gateway
import CertGate.Yaml.Printer

/-!
# Running a command

From the command line and what is found around the program to what comes of it: something to print,
a failure, or a gateway that is ready to listen.
-/

namespace CertGate.CommandLine

def programName : String := "connectivity-validator"

def version : String := "0.1.0"

/-- What comes of running the program with some arguments: what `CommandLine.run` gives. -/
inductive Outcome where
  | help
  | version
  /-- The command line cannot be read, as the `Fault` says. -/
  | misused (fault : Fault)
  /-- There is no configuration, or no gateway can be set up for it. -/
  | failed (reason : String)
  /-- The configuration was checked by `validate` and is not valid. -/
  | rejected (error : GateError)
  | printed (text : String)
  /-- A variable cannot be set, and the program ends itself over it. -/
  | panicked
  | ready (gateway : Gateway) (address : IpAddr) (port : UInt16)

namespace Outcome

/-- The exit code. Where a gateway is `ready`, it is the one that follows if it cannot listen. -/
def exitCode : Outcome → Nat
  | .help | .version | .printed _ => 0
  | .misused _ => 2
  | .failed _ | .rejected _ | .ready .. => 1
  | .panicked => 101

/-- What is printed on standard output. -/
def output : Outcome → String
  | .version => s!"{programName} {CommandLine.version}\n"
  | .printed text => text
  | _ => ""

/-- What is printed on standard error, as far as it is the program's own text. -/
def errors : Outcome → String
  | .rejected error => s!"❌ {error.message}\n"
  | _ => ""

end Outcome

/-- What comes of a `Fault`: some are asked for and no misuse. -/
def Outcome.ofFault : Fault → Outcome
  | .helpRequested => .help
  | .versionRequested => .version
  | fault => .misused fault

/-- Checks a configuration by `validate` and prints it. -/
def check (c : Config) : Outcome :=
  match c.validate with
  | .ok _ => .printed c.toValue.toYaml
  | .error e => .rejected e

/-- Sets up a gateway by `Gateway.ofConfig` and looks for the address that it listens on. -/
def start (trust : KubernetesDirectory.Trust) (files : Files) (c : Config) : Outcome :=
  match Gateway.ofConfig trust files c with
  | .error e => .failed s!"Failed to create gateway: {e.message}"
  | .ok gateway =>
    match Gateway.address c with
    | .error e => .failed s!"Gateway error: {e.message}"
    | .ok address => .ready gateway address c.server.port

/-- Runs the command that `args` name, or starts the gateway if they name none. -/
def run (trust : KubernetesDirectory.Trust) (s : Surroundings) (args : List String) : Outcome :=
  match parse s.env args with
  | .error fault => .ofFault fault
  | .ok line =>
    match Config.load s line.options.config with
    | .error (.unsettable _) => .panicked
    | .error e =>
      .failed ("Failed to load configuration: " ++ e.message?.getD "settings cannot be read")
    | .ok c =>
      let c := line.options.apply c
      match line.command with
      | some .checkConfig => check c
      | _ => start trust s.files c

end CertGate.CommandLine
