import CertGate.Error
import CertGate.Http.Message
import CertGate.Json.Value

/-!
# The answer that reports a failure

Its status is that of the failure's kind, and its body a JSON object that names the kind and gives
the text.
-/

namespace CertGate.GateError

/-- What the body of the answer says: the name of the `kind`, and the `message`. -/
def toJson (e : GateError) : Json :=
  .object [("error", .object [("kind", .text e.kind.name), ("message", .text e.message)])]

/-- The answer that reports a `GateError`, with the status of its kind. -/
def response (e : GateError) : Http.Response :=
  .json e.kind.status e.toJson.render

end CertGate.GateError
