import CertGate.Backends
import CertGate.Error
import CertGate.Transport
import CertGate.Url.Parser

/-!
# Forwarding to backends

Each destination has a proxy that is bound to a backend's URL and to the transforms of its requests.
Whatever the backend answers is passed on; only when it cannot be reached the gateway answers in its
place.
-/

namespace CertGate

/-- The header field with the details of the client's certificate. -/
def clientCertificateField : String := "x-forwarded-client-cert"

/-- A proxy to the backend of one destination, which it has at `target`, and the changes it makes to
requests. -/
structure Proxy where
  destination : Destination
  target : Url
  transforms : List Transform
  deriving DecidableEq, Repr

namespace Proxy

/-- Whether the text `part` occurs in another. -/
def occursIn (part : List Char) : List Char → Bool
  | [] => part.isEmpty
  | c :: cs => part.isPrefixOf (c :: cs) || occursIn part cs

/-- The URL of a backend, given as a host with an optional port or as a whole URL, which has `://` in
it. It has to have a host. -/
def targetUrl (host : String) : Except GateError Url := do
  let written := if occursIn "://".toList host.toList then host else "http://" ++ host
  match Url.parse written with
  | .error e => .error (.config s!"invalid backend host {host}: {e.message}")
  | .ok url =>
    if url.cannotBeABase || url.host?.isNone then .error (.config s!"invalid backend host {host}")
    else .ok url

/-- The transforms that the requests of all destinations undergo, in the order in which `prepare`
applies them. -/
def commonTransforms : List Transform :=
  [.clearHost, .forceScheme "http", .stripHeader clientCertificateField]

/-- The transforms that the requests of a destination undergo: those to the event mesh all get
`eventMeshDestinationPath`. -/
def transformsOf (b : Backends) : Destination → List Transform
  | .eventMesh => commonTransforms ++ [.rewritePath b.eventMeshDestinationPath]
  | _ => commonTransforms

/-- The proxy of a destination, if `targetUrl` reads its host. -/
def ofBackends (b : Backends) (d : Destination) : Except GateError Proxy := do
  return ⟨d, ← targetUrl (b.host d), transformsOf b d⟩

/-- The request that is sent to the backend for an inbound one: changed by `transforms`, without the
fields for one hop, and with a note of the client. -/
def prepare (p : Proxy) (method : String) (target : Http.Target) (headers : Http.Headers)
    (client : Option IpAddr) : OutboundRequest :=
  let r := p.transforms.foldl Transform.apply (.ofInbound p.target method target headers)
  -- the caller is noted last, so that no listed name can drop the note
  let stripped := r.headers.stripHopByHop
  { r with headers := (client.map stripped.appendForwardedFor).getD stripped }

/-- What is passed on to the caller of a backend's answer: all but the fields that `stripHopByHop`
drops. -/
def relay (r : Http.Response) : Http.Response :=
  { r with headers := r.headers.stripHopByHop }

/-- The policy of a proxy: an answer that leads elsewhere is for the caller to follow. -/
def redirects : RedirectPolicy := .none

@[simp] theorem send_redirects {m : Type → Type} [Monad m] (transport : Transport m) :
    redirects.send transport = transport := rfl

/-- Sends a request on as `prepare` makes it, and gives what `relay` makes of the backend's answer. -/
def forward [Monad m] (p : Proxy) (transport : Transport m) (method : String)
    (target : Http.Target) (headers : Http.Headers) (body : List UInt8) (client : Option IpAddr) :
    m (Except GateError Http.Response) := do
  match ← redirects.send transport (p.prepare method target headers client) body with
  | .ok answer => return .ok (relay answer)
  | .error message => return .error (.upstream p.destination.name message)

end Proxy

/-- The proxies of all destinations, one for each `Destination`. -/
structure Dispatcher where
  eventServiceV1 : Proxy
  eventServiceV2 : Proxy
  eventMesh : Proxy
  appRegistry : Proxy
  deriving DecidableEq, Repr

namespace Dispatcher

/-- Builds the proxies; the first bad host, in the order of `Destination.all`, is reported. -/
def ofBackends (b : Backends) : Except GateError Dispatcher := do
  return {
    eventServiceV1 := ← Proxy.ofBackends b .eventServiceV1
    eventServiceV2 := ← Proxy.ofBackends b .eventServiceV2
    eventMesh := ← Proxy.ofBackends b .eventMesh
    appRegistry := ← Proxy.ofBackends b .appRegistry }

/-- The proxy of a destination, a field of the `Dispatcher`. -/
def proxy (d : Dispatcher) : Destination → Proxy
  | .eventServiceV1 => d.eventServiceV1
  | .eventServiceV2 => d.eventServiceV2
  | .eventMesh => d.eventMesh
  | .appRegistry => d.appRegistry

end Dispatcher

end CertGate
