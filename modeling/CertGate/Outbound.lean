import CertGate.Http.Forwarding
import CertGate.Http.Target
import CertGate.Text.Quoted
import CertGate.Url.Update

/-!
# Outbound requests

A request to a backend starts as the inbound one pointed at the backend's URL and is then changed by
a list of transforms.
-/

namespace CertGate

/-- A request about to be sent to a backend. -/
structure OutboundRequest where
  method : String
  url : Url
  headers : Http.Headers
  deriving DecidableEq, Repr

/-- One change to an `OutboundRequest`. -/
inductive Transform where
  /-- Drops the caller's `Host`; the URL gives the new one. -/
  | clearHost
  /-- Sets the scheme, if the URL admits it. -/
  | forceScheme (scheme : String)
  /-- Drops all header fields of this name. -/
  | stripHeader (name : String)
  /-- Sets the path and keeps the query. -/
  | rewritePath (path : String)
  deriving DecidableEq, Repr

namespace OutboundRequest

/-- Points an inbound request at the URL `base`, whose path and query give way. -/
def ofInbound (base : Url) (method : String) (target : Http.Target) (headers : Http.Headers) :
    OutboundRequest where
  method
  url := (base.setPath target.path).setQuery target.query
  headers

end OutboundRequest

namespace Transform

/-- Changes a request as the `Transform` says. -/
def apply (r : OutboundRequest) : Transform → OutboundRequest
  | clearHost => { r with headers := r.headers.erase "host" }
  | forceScheme scheme => { r with url := r.url.setScheme scheme }
  | stripHeader name => { r with headers := r.headers.erase name }
  | rewritePath path => { r with url := r.url.setPath path }

/-- How a `Transform` is shown. -/
def describe : Transform → String
  | clearHost => "ClearHost"
  | forceScheme scheme => s!"ForceScheme({Text.quoted scheme})"
  | stripHeader name => s!"StripHeader({Text.quoted name})"
  | rewritePath path => s!"RewritePath({Text.quoted path})"

end Transform

end CertGate
