import CertGate.Http.Header
import CertGate.Http.Target

/-!
# Requests and responses
-/

namespace CertGate.Http

/-- A request, as it comes in. -/
structure Request where
  method : String
  target : Target
  headers : Headers := {}
  body : List UInt8 := []
  deriving DecidableEq, Repr

/-- A response, as it goes out or is answered to a request. -/
structure Response where
  status : Nat
  headers : Headers := {}
  body : List UInt8 := []
  deriving DecidableEq, Repr

/-- Whether an answer leads to another place, which its `location` names. -/
def Response.isRedirect (r : Response) : Bool :=
  [301, 302, 303, 307, 308].contains r.status && r.headers.contains "location"

/-- An answer with a JSON text as its body. -/
def Response.json (status : Nat) (text : String) : Response where
  status
  headers := ⟨[("content-type", Text.Utf8.bytes "application/json")]⟩
  body := Text.Utf8.bytes text

/-- An answer with a plain text as its body. -/
def Response.plain (status : Nat) (text : String) : Response where
  status
  headers := ⟨[("content-type", Text.Utf8.bytes "text/plain; charset=utf-8")]⟩
  body := Text.Utf8.bytes text

end CertGate.Http
