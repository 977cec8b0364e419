/-!
# Application records

The directory's record of an application, reduced to what the gateway looks at: its name and, for
an application managed by Compass, the client IDs that may call it.
-/

namespace CertGate

/-- The `metadata` of a record, of which the name of the application is read. -/
structure ObjectMeta where
  name : String := ""
  deriving DecidableEq, Repr

/-- The `authentication` in Compass metadata: the client IDs of the callers of a managed application. -/
structure Authentication where
  clientIds : List String := []
  deriving DecidableEq, Repr

/-- The `compassMetadata` of a record; an application that has it is managed. -/
structure CompassMetadata where
  authentication : Authentication := {}
  deriving DecidableEq, Repr

/-- The `spec` of a record, which describes the application. -/
structure ApplicationSpec where
  compassMetadata : Option CompassMetadata := none
  deriving DecidableEq, Repr

/-- The record of one application, as the directory gives it. -/
structure Application where
  metadata : ObjectMeta := {}
  spec : ApplicationSpec := {}
  deriving DecidableEq, Repr

namespace Application

/-- The record of an application with these client IDs; with `none` at all it has no Compass metadata. -/
def ofClientIds (name : String) (clientIds? : Option (List String)) : Application where
  metadata := { name }
  spec := { compassMetadata := clientIds?.map fun clientIds => { authentication := { clientIds } } }

/-- The client IDs that may call the application. Without `compassMetadata` there are none. -/
def clientIds (a : Application) : List String :=
  match a.spec.compassMetadata with
  | some compass => compass.authentication.clientIds
  | none => []

end Application

end CertGate
