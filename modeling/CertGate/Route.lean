import CertGate.Value

/-!
# Routes

Requests go to one of four destinations. A table of rules, tried in order, compares the start of
the request's path with a lead that may name the application; the first rule that fits decides.

| # | lead of | destination |
|---|---------|-------------|
| 1 | events v1 | events service |
| 2 | events v2 | the event mesh when the mesh is enabled, else the events service |
| 3 | event mesh | event mesh |
| 4 | application registry | application registry |
-/

namespace CertGate

/-- Where a request can be sent to. -/
inductive Destination where
  | eventServiceV1
  | eventServiceV2
  | eventMesh
  | appRegistry
  deriving DecidableEq, Repr

namespace Destination

/-- All destinations, in the order of the route table. -/
def all : List Destination := [eventServiceV1, eventServiceV2, eventMesh, appRegistry]

/-- The name of a `Destination` in configurations and messages. -/
def name : Destination → String
  | eventServiceV1 => "event_service_v1"
  | eventServiceV2 => "event_service_v2"
  | eventMesh => "event_mesh"
  | appRegistry => "app_registry"

/-- The position of a destination in `all`. -/
def index : Destination → Nat
  | eventServiceV1 => 0
  | eventServiceV2 => 1
  | eventMesh => 2
  | appRegistry => 3

/-- The destination of the name `s`. -/
def ofName? (s : String) : Option Destination :=
  all.find? fun d => d.name == s

/-- The destination that a value names: a text, or a dictionary with the name as its only key and null
behind it. -/
def ofValue? : Value → Option Destination
  | .text s => ofName? s
  | .dict [(s, .null)] => ofName? s
  | _ => none

theorem ofName?_name (d : Destination) : ofName? d.name = some d := by
  cases d <;> decide

end Destination

/-! ## Leads with a hole for the application -/

/-- One character of a path lead, or the place of the application's name. -/
inductive LeadPart where
  | literal (c : Char)
  | application
  deriving DecidableEq, Repr

/-- The start of a path, in which the application's name may stand open as `LeadPart.application`. -/
abbrev PathLead := List LeadPart

namespace PathLead

/-- The text that stands for the application's name in a written lead. -/
def placeholder : List Char := "\x7bapplication\x7d".toList

/-- Reads a written lead: each `placeholder`, from the left, is the application's name. The number
counts the characters of a placeholder that are still to be passed over. -/
def readFrom : Nat → List Char → PathLead
  | _, [] => []
  | skip + 1, _ :: cs => readFrom skip cs
  | 0, c :: cs =>
    if placeholder.isPrefixOf (c :: cs) then .application :: readFrom (placeholder.length - 1) cs
    else .literal c :: readFrom 0 cs

/-- Reads a lead as it is written in the configuration, with every `placeholder` taken for the name. -/
def read (written : String) : PathLead :=
  readFrom 0 written.toList

/-- The lead for one application, in place of every `LeadPart.application`. The name is taken as it is,
whatever it holds. -/
def fill (lead : PathLead) (application : String) : List Char :=
  lead.flatMap fun
    | .literal c => [c]
    | .application => application.toList

/-- Whether a path starts with the lead for this application, as `fill` completes it. -/
def matchesPath (lead : PathLead) (path application : String) : Bool :=
  (lead.fill application).isPrefixOf path.toList

end PathLead

/-! ## The table -/

/-- The leads of the four routes, as written in the configuration. -/
structure PathLeads where
  eventServiceV1 : String := "/\x7bapplication\x7d/v1/events"
  eventServiceV2 : String := "/\x7bapplication\x7d/v2/events"
  eventMesh : String := "/\x7bapplication\x7d/events"
  appRegistry : String := "/\x7bapplication\x7d/v1/metadata"
  deriving DecidableEq, Repr

/-- One row of the table. Where it leads when the mesh is enabled is `meshed`. -/
structure RouteRule where
  lead : PathLead
  plain : Destination
  meshed : Destination
  deriving DecidableEq, Repr

/-- Where a rule leads: to `meshed` or to `plain`. -/
def RouteRule.destination (rule : RouteRule) (meshEnabled : Bool) : Destination :=
  if meshEnabled then rule.meshed else rule.plain

/-- The rules, in the order in which `route` tries them. -/
abbrev RouteTable := List RouteRule

/-- Why `route` finds no destination. -/
inductive RouteError where
  | notFound (path : String)
  deriving DecidableEq, Repr

/-- The text of a `RouteError`. -/
def RouteError.message : RouteError → String
  | .notFound path =>
    s!"could not determine destination host for path {path}: requested resource not found"

namespace RouteTable

/-- The table for these `PathLeads`. Only the second row depends on the mesh. -/
def ofLeads (leads : PathLeads) : RouteTable :=
  [⟨.read leads.eventServiceV1, .eventServiceV1, .eventServiceV1⟩,
   ⟨.read leads.eventServiceV2, .eventServiceV2, .eventMesh⟩,
   ⟨.read leads.eventMesh, .eventMesh, .eventMesh⟩,
   ⟨.read leads.appRegistry, .appRegistry, .appRegistry⟩]

/-- The destination of the first rule whose lead starts the path, by `matchesPath`. -/
def route (table : RouteTable) (path application : String) (meshEnabled : Bool) :
    Except RouteError Destination :=
  match table.find? (·.lead.matchesPath path application) with
  | some rule => .ok (rule.destination meshEnabled)
  | none => .error (.notFound path)

end RouteTable

end CertGate
