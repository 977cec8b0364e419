import CertGate.Text.Pieces
import CertGate.Url.Percent

/-!
# Endpoints

What a path leads to: the health check, an application, or neither. The path is cut as it was sent;
the application's name is percent-decoded only then.
-/

namespace CertGate

/-- What the path of a request leads to, apart from what the `Pipeline` decides. -/
inductive Endpoint where
  | health
  | application (name : String)
  /-- A part of the path is no text once it is decoded. -/
  | undecodable (part : String)
  | none
  deriving DecidableEq, Repr

namespace Endpoint

/-- The path of the health check. -/
def healthPath : String := "/healthz"

/-- The part of a path with this `name`, decoded. -/
def decodePart (name : String) (written : List Char) : Except Endpoint String :=
  match Text.Utf8.text? (Url.decodeBytes (Text.Utf8.encode written)) with
  | some s => .ok s
  | Option.none => .error (.undecodable name)

/-- The application that the segment `first` of a path names, after checking what stands behind it. -/
def ofParts (first rest : List Char) : Endpoint :=
  let read : Except Endpoint String := do
    -- the rest is decoded only to be refused where that fails
    let name ← decodePart "application" first
    let _ ← decodePart "rest" rest
    return name
  match read with
  | .ok name => .application name
  | .error e => e

/-- What a path leads to. An application takes a segment that is not empty, alone or before a slash
and something more. -/
def ofPath (path : String) : Endpoint :=
  if path = healthPath then .health
  else
    match path.toList with
    | '/' :: cs =>
      match Text.cut? '/' cs with
      | Option.none => if cs.isEmpty then .none else ofParts cs []
      | some (first, rest) => if first.isEmpty || rest.isEmpty then .none else ofParts first rest
    | _ => .none

end Endpoint

end CertGate
