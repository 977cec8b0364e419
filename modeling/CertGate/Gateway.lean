import CertGate.Config.Basic
import CertGate.Directory.Kubernetes
import CertGate.Gateway.Endpoint
import CertGate.Gateway.Pipeline

/-!
# The gateway

Puts pipeline and endpoints together, gives every request an identifier, and says from a
configuration whether a gateway can be built and where it would listen.
-/

namespace CertGate

/-- The header field with the identifier of a request. -/
def requestIdField : String := "x-request-id"

/-- Where the records of a gateway come from: an API server, or fixed ones. -/
inductive RecordSource where
  | kubernetes (directory : KubernetesDirectory)
  | fixed (directory : StaticDirectory)

/-- A gateway that has been set up by `ofConfig`. -/
structure Gateway where
  config : Config
  source : RecordSource
  pipeline : Pipeline

/-- The answer to a request, and as `lookups` the names that the directory was asked for. -/
structure Exchange where
  response : Http.Response
  lookups : List String
  deriving Repr

namespace Gateway

/-- Sets up the directory that the `DirectoryConfig` of a configuration asks for. -/
def sourceOf (trust : KubernetesDirectory.Trust) (files : Files) (c : Config) :
    Except GateError RecordSource :=
  match c.directory with
  | .kubernetes k =>
    match KubernetesDirectory.ofConfig trust files k with
    | .ok d => .ok (.kubernetes d)
    | .error e => .error (.config s!"Kubernetes directory: {e.message}")
  | .fixed applications => .ok (.fixed (.ofClientIds applications))

/-- Sets up a gateway: its configuration has to pass `validate`, then its directory and pipeline are
set up. -/
def ofConfig (trust : KubernetesDirectory.Trust) (files : Files) (c : Config) :
    Except GateError Gateway := do
  c.validate
  let source ← sourceOf trust files c
  return ⟨c, source, ← Pipeline.ofConfig c⟩

/-- The address that a gateway listens on, read from the configured `host`. -/
def address (c : Config) : Except GateError IpAddr :=
  match IpAddr.parse? c.server.host with
  | some ip => .ok ip
  | none => .error (.config "Invalid host: invalid IP address syntax")

/-- Gives a request without an identifier the `fresh` one. -/
def withRequestId (fresh : Http.FieldValue) (r : Http.Request) : Http.Request :=
  if r.headers.contains requestIdField then r
  else { r with headers := r.headers.insert requestIdField fresh }

/-- Puts the identifier of the request `r` on its answer, unless the answer has one. -/
def propagateRequestId (r : Http.Request) (answer : Http.Response) : Http.Response :=
  match r.headers.get? requestIdField with
  | some id =>
    if answer.headers.contains requestIdField then answer
    else { answer with headers := answer.headers.insert requestIdField id }
  | none => answer

/-- The answer to a health check: only `GET` and `HEAD` are allowed. -/
def healthAnswer (method : String) : Http.Response :=
  if method = "GET" ∨ method = "HEAD" then
    .json 200 (Json.object [("status", .text "ok")]).render
  else { status := 405, headers := ⟨[("allow", Text.Utf8.bytes "GET,HEAD")]⟩ }

/-- What is sent for an answer: with `requestIdField` set to the identifier of the request, and without
a body where only the head is asked for. -/
def finish (r : Http.Request) (answer : Http.Response) : Http.Response :=
  let answer := propagateRequestId r answer
  if r.method = "HEAD" then { answer with body := [] } else answer

section
variable [Monad m]

/-- Answers a request at its `Endpoint`. Only requests for applications, or for none, get to the
pipeline. -/
def answer (p : Pipeline) (lookup : Lookup) (transport : Transport m) (cache : TendedCache Identity)
    (client : Option IpAddr) (r : Http.Request) : m (Exchange × TendedCache Identity) :=
  let run (application : Option String) : m (Exchange × TendedCache Identity) := do
    let (decision, lookups, cache) := p.decide lookup cache application r
    return (⟨← p.carryOut transport r client decision, lookups⟩, cache)
  match Endpoint.ofPath r.target.path with
  | .health => return (⟨healthAnswer r.method, []⟩, cache)
  | .undecodable part =>
    return (⟨.plain 400 s!"Invalid URL: Invalid UTF-8 in \x60{part}\x60", []⟩, cache)
  | .application name => run (some name)
  | .none => run none

/-- Serves a request, which gets an identifier by `withRequestId` before anything else sees it. -/
def serve (p : Pipeline) (lookup : Lookup) (transport : Transport m) (fresh : Http.FieldValue)
    (cache : TendedCache Identity) (client : Option IpAddr) (r : Http.Request) :
    m (Exchange × TendedCache Identity) := do
  let r := withRequestId fresh r
  let (exchange, cache) ← answer p lookup transport cache client r
  return ({ exchange with response := finish r exchange.response }, cache)

/-! ## Runs -/

/-- What can happen to a `Gateway`: something to its directory or the clock, or a request, for which an
identifier is at hand. -/
inductive Event where
  | world (event : WorldEvent)
  | request (fresh : Http.FieldValue) (client : Option IpAddr) (r : Http.Request)
  deriving Repr

/-- Lets an `Event` happen. A request is answered. -/
def handle (p : Pipeline) (transport : Transport m) (state : Resolver) :
    Event → m (Option Exchange × Resolver)
  | .world event => return (none, state.after event)
  | .request fresh client r => do
    let (exchange, cache) ← serve p state.directory.get transport fresh state.cache client r
    return (some exchange, { state with cache })

/-- Lets one `Event` happen after the other, and gives the answers in their order. -/
def run (p : Pipeline) (transport : Transport m) :
    Resolver → List Event → m (List (Option Exchange) × Resolver)
  | state, [] => return ([], state)
  | state, event :: events => do
    let (answer, state) ← handle p transport state event
    let (answers, state) ← run p transport state events
    return (answer :: answers, state)

end

end Gateway

end CertGate
