import CertGate.Subject

/-!
# Authorization policies

Which check a certificate has to pass depends on whether the application lists client IDs and on
whether the gateway is scoped to a group and a tenant:

| client IDs | scope | a subject is permitted when |
|------------|-------|-----------------------------|
| none       | no    | its common name is the application |
| none       | yes   | … and its organization is the tenant and its unit the group |
| some       | no    | its common name is one of the client IDs |
| some       | yes   | … and its organization is the tenant and its unit the group |

A chain is authorized when some subject of it is permitted, so an empty one never is.
-/

namespace CertGate

/-- The group and the tenant that every certificate has to carry. -/
structure Scope where
  group : String
  tenant : String
  deriving DecidableEq, Repr

namespace Scope

/-- The scope of a group and a tenant; with one of them empty there is `none`. -/
def ofParts? (group tenant : String) : Option Scope :=
  if group ≠ "" ∧ tenant ≠ "" then some ⟨group, tenant⟩ else none

/-- Whether `value` is given and is the expected one; an empty one never is. -/
def matchesValue (value expected : String) : Bool :=
  value ≠ "" && value == expected

/-- Whether a subject belongs to the scope by its `organization` and its `organizationalUnit`. -/
def admits (scope : Scope) (s : Subject) : Bool :=
  matchesValue s.organization scope.tenant && matchesValue s.organizationalUnit scope.group

end Scope

/-- What the subject of a certificate has to be. -/
inductive Policy where
  | applicationName (application : String)
  | scopedApplicationName (application : String) (scope : Scope)
  | clientIds (clientIds : List String)
  | scopedClientIds (clientIds : List String) (scope : Scope)
  deriving DecidableEq, Repr

namespace Policy

/-- The policy for an application that lists `clientIds`: by its own name if there are none. -/
def select (clientIds : List String) (application group tenant : String) : Policy :=
  match clientIds.isEmpty, Scope.ofParts? group tenant with
  | true, none => .applicationName application
  | true, some scope => .scopedApplicationName application scope
  | false, none => .clientIds clientIds
  | false, some scope => .scopedClientIds clientIds scope

/-- Whether one `Subject` is all that the policy asks for. -/
def permits : Policy → Subject → Bool
  | .applicationName application, s => s.commonName == application
  | .scopedApplicationName application scope, s => s.commonName == application && scope.admits s
  | .clientIds ids, s => ids.contains s.commonName
  | .scopedClientIds ids scope, s => ids.contains s.commonName && scope.admits s

/-- Whether the policy `permits` some subject of a chain. -/
def authorizes (policy : Policy) (subjects : List Subject) : Bool :=
  subjects.any policy.permits

/-- The name of the kind of a `Policy`, as it is shown. -/
def name : Policy → String
  | .applicationName .. => "application_name"
  | .scopedApplicationName .. => "scoped_application_name"
  | .clientIds .. => "client_ids"
  | .scopedClientIds .. => "scoped_client_ids"

end Policy

end CertGate
