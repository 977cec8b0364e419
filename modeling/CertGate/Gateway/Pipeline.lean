import CertGate.Config.Basic
import CertGate.Error.Response
import CertGate.Policy
import CertGate.Proxy
import CertGate.Resolver

/-!
# The way of a request

    certificate → application → identity → authorization → route → forwarding

The first stage that fails gives the answer; nothing is forwarded unless all stages succeed.

What is modelled is an optimized build whose panics unwind, as the tests of such a build run: numbers
wrap around, and `carryOut` answers in the place of a handler that panicked. The program as it is released
is built to end the process instead, so that there is no answer at all in the one case, `Decision.crash`.
-/

namespace CertGate

/-- What a gateway decides by, and what it sends requests with. -/
structure Pipeline where
  routes : RouteTable
  dispatcher : Dispatcher
  validation : ValidationConfig
  meshEnabled : Bool

/-- What is decided about a request, by `Pipeline.decide`. -/
inductive Decision where
  | forward (destination : Destination)
  | reject (error : GateError)
  /-- The identity was found but its deadline cannot be represented. -/
  | crash (error : CacheError)
  deriving DecidableEq, Repr

namespace Pipeline

/-- The pipeline of a configuration; there is none if `Dispatcher.ofBackends` cannot build a proxy. -/
def ofConfig (c : Config) : Except GateError Pipeline := do
  return {
    routes := .ofLeads c.routes
    dispatcher := ← Dispatcher.ofBackends c.backends
    validation := c.validation
    meshEnabled := c.backends.isMeshEnabled }

/-- The text of the first `clientCertificateField`. An empty one counts as absent. -/
def certificate? (h : Http.Headers) : Option String := do
  let text := String.ofList (Text.Utf8.decodeLossy (← h.get? clientCertificateField))
  if text = "" then none else some text

/-- Authorizes a request whose caller's identity is known by its certificates, under the policy of
`Policy.select`, then routes it. -/
def judge (p : Pipeline) (certificate application path : String) (identity : Identity) :
    Decision :=
  let policy := Policy.select identity application p.validation.group p.validation.tenant
  if policy.authorizes (Subject.chain certificate) then
    match p.routes.route path application p.meshEnabled with
    | .ok destination => .forward destination
    | .error e => .reject (.route e)
  else .reject .forbidden

/-- Decides about a request, in the order in which the stages may refuse it. Gives the names that the
directory was asked for, and the cache afterwards. -/
def decide (p : Pipeline) (lookup : Lookup) (cache : TendedCache Identity)
    (application : Option String) (r : Http.Request) :
    Decision × List String × TendedCache Identity :=
  -- nobody is looked up for a request without a certificate
  match certificate? r.headers with
  | none => (.reject (.missingCertificateHeader "X-Forwarded-Client-Cert"), [], cache)
  | some certificate =>
    match application.filter (· ≠ "") with
    | none => (.reject .missingApplication, [], cache)
    | some application =>
      let (resolution, cache) := Identity.resolve lookup cache application
      match resolution.answer with
      | .error (.lookup name source) => (.reject (.identity name source), resolution.lookups, cache)
      | .error (.cache e) => (.crash e, resolution.lookups, cache)
      | .ok identity =>
        (p.judge certificate application r.target.path identity, resolution.lookups, cache)

/-- Carries a `Decision` out: forwards the request, or answers in the backend's place. -/
def carryOut [Monad m] (p : Pipeline) (transport : Transport m) (r : Http.Request)
    (client : Option IpAddr) : Decision → m Http.Response
  | .forward destination => do
    match ← (p.dispatcher.proxy destination).forward transport r.method r.target r.headers r.body
        client with
    | .ok answer => return answer
    | .error e => return e.response
  | .reject e => return e.response
  -- only a build whose panics unwind gets this far
  | .crash _ => return .plain 500 "Service panicked"

end Pipeline

end CertGate
