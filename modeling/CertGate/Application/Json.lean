import CertGate.Application
import CertGate.Json.Record
import CertGate.Json.Value

/-!
# Application records as JSON

Writing leaves out Compass metadata that an application does not have. Reading passes over members
that it does not know; `null` is nothing but absent Compass metadata.
-/

namespace CertGate

namespace ObjectMeta

def toJson (m : ObjectMeta) : Json :=
  .object [("name", .text m.name)]

def ofDraft : Json.Draft → Except Json.Fault ObjectMeta :=
  Json.Field.readRecord [⟨"name", fun m d => do return { m with name := ← d.asText }⟩] {}

end ObjectMeta

namespace Authentication

def toJson (a : Authentication) : Json :=
  .object [("clientIds", .array (a.clientIds.map .text))]

def ofDraft : Json.Draft → Except Json.Fault Authentication :=
  Json.Field.readRecord
    [⟨"clientIds", fun a d => do return { a with clientIds := ← d.asList (·.asText) }⟩] {}

end Authentication

namespace CompassMetadata

def toJson (c : CompassMetadata) : Json :=
  .object [("authentication", c.authentication.toJson)]

def ofDraft : Json.Draft → Except Json.Fault CompassMetadata :=
  Json.Field.readRecord
    [⟨"authentication", fun c d => do
        return { c with authentication := ← Authentication.ofDraft d }⟩] {}

end CompassMetadata

namespace ApplicationSpec

def toJson (s : ApplicationSpec) : Json :=
  match s.compassMetadata with
  | some c => .object [("compassMetadata", c.toJson)]
  | none => .object []

def ofDraft : Json.Draft → Except Json.Fault ApplicationSpec :=
  Json.Field.readRecord
    [⟨"compassMetadata", fun s d => do
        return { s with compassMetadata := ← d.asOption CompassMetadata.ofDraft }⟩] {}

end ApplicationSpec

namespace Application

def toJson (a : Application) : Json :=
  .object [("metadata", a.metadata.toJson), ("spec", a.spec.toJson)]

def ofDraft : Json.Draft → Except Json.Fault Application :=
  Json.Field.readRecord
    [⟨"metadata", fun a d => do return { a with metadata := ← ObjectMeta.ofDraft d }⟩,
     ⟨"spec", fun a d => do return { a with spec := ← ApplicationSpec.ofDraft d }⟩] {}

/-- Reads an `Application` from the JSON text of its record. -/
def read (bs : List UInt8) : Except Json.Fault Application :=
  (Json.Document.read bs).decode ofDraft

/-- The JSON text of a record, as `Json.render` writes it. -/
def write (a : Application) : String :=
  a.toJson.render

end Application

end CertGate
