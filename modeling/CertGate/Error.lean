import CertGate.Directory
import CertGate.Route

/-!
# Errors of the gateway

Every failure has a cause, a kind that fixes the HTTP status of the answer, and a text.
-/

namespace CertGate

/-- The kinds of a `GateError` that answers report. -/
inductive ErrorKind where
  | internal
  | badRequest
  | forbidden
  | notFound
  | badGateway
  deriving DecidableEq, Repr

namespace ErrorKind

/-- The name of an `ErrorKind` in answers. -/
def name : ErrorKind → String
  | internal => "internal"
  | badRequest => "bad_request"
  | forbidden => "forbidden"
  | notFound => "not_found"
  | badGateway => "bad_gateway"

/-- The HTTP status of an `ErrorKind`. -/
def status : ErrorKind → Nat
  | internal => 500
  | badRequest => 400
  | forbidden => 403
  | notFound => 404
  | badGateway => 502

end ErrorKind

/-- Why the gateway could not do what it was asked to. -/
inductive GateError where
  | missingCertificateHeader (header : String)
  | missingApplication
  | identity (application : String) (source : DirectoryError)
  | forbidden
  | route (error : RouteError)
  | upstream (destination message : String)
  | config (message : String)
  | io (error : IoError)
  | internal (message : String)
  deriving DecidableEq, Repr

namespace GateError

/-- The `ErrorKind` that an answer reports for a failure. -/
def kind : GateError → ErrorKind
  | missingCertificateHeader _ | identity .. | config _ | io _ | internal _ => .internal
  | missingApplication => .badRequest
  | forbidden => .forbidden
  | route _ => .notFound
  | upstream .. => .badGateway

/-- The text of a `GateError`, as an answer and a log show it. -/
def message : GateError → String
  | missingCertificateHeader header => s!"{header} header not found"
  | missingApplication => "Application name not specified"
  | identity application source =>
    s!"failed to resolve identity for application {application}: {source.message}"
  | forbidden => "No valid subject found"
  | route error => error.message
  | upstream destination message => s!"Failed to reach {destination} backend: {message}"
  | config message => s!"Configuration error: {message}"
  | io error => s!"IO error: {error.message}"
  | internal message => s!"Internal error: {message}"

/-- The text of the failure underneath a `GateError`, where there is one. -/
def source? : GateError → Option String
  | identity _ source => some source.message
  | io error => some error.message
  | _ => none

end GateError

end CertGate
