/-!
# What can be wrong with a JSON text
-/

namespace CertGate.Json

/-- What is wrong with a text that should be a certain record. -/
inductive Fault where
  /-- It is not well-formed. -/
  | malformed
  /-- It is well-formed but says something else. -/
  | mismatch
  /-- It ends too early. -/
  | truncated
  deriving DecidableEq, Repr

end CertGate.Json
