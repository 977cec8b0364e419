import CertGate.Application
import CertGate.IoError
import CertGate.Json.Fault

/-!
# Directories of applications

A directory answers a lookup by name with a record or says why it cannot. `StaticDirectory` holds
fixed records.
-/

namespace CertGate

/-- Why a `Lookup` failed. -/
inductive DirectoryError where
  | notFound (name : String)
  | status (code : Nat) (body : String)
  | http (message : String)
  | token (error : IoError)
  | decode (fault : Json.Fault) (message : String)
  | config (message : String)
  deriving DecidableEq, Repr

/-- The text of a `DirectoryError`. -/
def DirectoryError.message : DirectoryError → String
  | .notFound name => s!"application {name} not found"
  | .status code body => s!"unexpected status {code} from API server: {body}"
  | .http message => s!"HTTP error: {message}"
  | .token error => s!"failed to read service account token: {error.message}"
  | .decode _ message => s!"failed to decode application: {message}"
  | .config message => s!"directory configuration error: {message}"

/-- How a directory answers: with the record of a name, or with a `DirectoryError`. -/
abbrev Lookup := String → Except DirectoryError Application

/-- Fixed records, each an `Application` under its name. -/
structure StaticDirectory where
  records : List (String × Application) := []
  deriving DecidableEq, Repr

namespace StaticDirectory

/-- The directory with the record `a` added; one of the same name is replaced. -/
def insert (d : StaticDirectory) (a : Application) : StaticDirectory :=
  ⟨(a.metadata.name, a) :: d.records.filter (·.1 != a.metadata.name)⟩

/-- The directory of these applications, with the record of `Application.ofClientIds` for each. -/
def ofClientIds (applications : List (String × Option (List String))) : StaticDirectory :=
  applications.foldl (fun d (name, ids) => d.insert (.ofClientIds name ids)) {}

/-- The record of a name, or `notFound`. -/
def get (d : StaticDirectory) : Lookup := fun name =>
  match d.records.lookup name with
  | some a => .ok a
  | none => .error (.notFound name)

end StaticDirectory

/-- Fixed records, and the names whose lookups fail for the time being, each with its `DirectoryError`. -/
structure FaultyDirectory where
  records : StaticDirectory := {}
  outages : List (String × DirectoryError) := []
  deriving DecidableEq, Repr

namespace FaultyDirectory

/-- Adds the record `a`, or replaces the one of the same name. -/
def insert (d : FaultyDirectory) (a : Application) : FaultyDirectory :=
  { d with records := d.records.insert a }

/-- Lets the lookups of `name` succeed again. -/
def restore (d : FaultyDirectory) (name : String) : FaultyDirectory :=
  { d with outages := d.outages.filter (·.1 != name) }

/-- Lets the lookups of `name` fail with `error` from now on. -/
def fail (d : FaultyDirectory) (name : String) (error : DirectoryError) : FaultyDirectory :=
  { d with outages := (name, error) :: (d.restore name).outages }

/-- The record of a name, unless `fail` has made its lookups fail. -/
def get (d : FaultyDirectory) : Lookup := fun name =>
  match d.outages.lookup name with
  | some error => .error error
  | none => d.records.get name

end FaultyDirectory

end CertGate
