import CertGate.Application.Json
import CertGate.Config.Basic
import CertGate.Files
import CertGate.Proxy

/-!
# The directory of a cluster

Records are resources of a cluster's API server. The token that a lookup is made with is read anew
each time, so that it may be replaced at any time.
-/

namespace CertGate

/-- A directory of records behind an API server, which is reached at `base`. -/
structure KubernetesDirectory where
  base : Url
  tokenFile : Option String
  deriving DecidableEq, Repr

namespace KubernetesDirectory

/-- The API group of the records. -/
def group : String := "applicationconnector.kyma-project.io"

/-- The API version of the records. -/
def version : String := "v1alpha1"

/-- The plural name of the collection of records. -/
def collection : String := "applications"

/-- How many characters of an unexpected answer are kept in `DirectoryError.status`. -/
def keptLength : Nat := 512

/-- What the client of the API server says to a file of certificates: it can be set up to trust them,
or why it cannot. -/
abbrev Trust := List UInt8 → Except String Unit

/-- Sets up a directory. Its `apiServer` has to be the base of URLs, a file with certificates has to be
readable, and the client has to be able to trust them. -/
def ofConfig (trust : Trust) (files : Files) (c : KubernetesConfig) :
    Except DirectoryError KubernetesDirectory := do
  let base ← (Url.parse c.apiServer).mapError fun e =>
    .config s!"invalid API server URL {c.apiServer}: {e.message}"
  if base.cannotBeABase then .error (.config s!"API server URL {c.apiServer} cannot be a base URL")
  match c.caFile with
  | none => return ⟨base, c.tokenFile⟩
  | some path =>
    match files.read path with
    | .error e => .error (.config s!"failed to read CA file {path}: {e.message}")
    | .ok certificates =>
      match trust certificates with
      | .error message => .error (.http message)
      | .ok _ => return ⟨base, c.tokenFile⟩

/-- The URL that the record of `name` is looked up at. -/
def resourceUrl (d : KubernetesDirectory) (name : String) : Url :=
  ["apis", group, version, collection, name].foldl Url.appendSegment d.base.dropTrailingSlash

/-- The token to look up with, as `tokenFile` holds it at this moment; none if there is no such file
configured. -/
def token (d : KubernetesDirectory) (files : Files) : Except DirectoryError (Option String) :=
  match d.tokenFile with
  | none => .ok none
  | some path =>
    match files.read path with
    | .error e => .error (.token e)
    | .ok bs =>
      match Text.Utf8.text? bs with
      | some s => .ok (some (Text.trimBlank s))
      | none => .error (.token (.other "stream did not contain valid UTF-8"))

/-- Whether `s` can be sent as the value of a header field: it has no control characters but tabs. -/
def isSendable (s : String) : Bool :=
  s.toList.all fun c => c == '\t' || (c.toNat ≥ 0x20 && c.toNat ≠ 0x7F)

/-- The request that looks up the record of `name`. -/
def request (d : KubernetesDirectory) (name : String) (token : Option String) :
    OutboundRequest where
  method := "GET"
  url := d.resourceUrl name
  headers :=
    let accept : Http.Headers := ⟨[("accept", Text.Utf8.bytes "application/json")]⟩
    match token with
    | some t => accept.append "authorization" (Text.Utf8.bytes ("Bearer " ++ t))
    | none => accept

/-- How the fault in the text of a record is put into words. -/
abbrev Wording := List UInt8 → Json.Fault → String

/-- Reads the record that a text says, or gives `decode` with the fault in words. -/
def readRecord (wording : Wording) (bs : List UInt8) : Except DirectoryError Application :=
  (Application.read bs).mapError fun fault => .decode fault (wording bs fault)

/-- What the answer to a lookup of `name` means: a record, or an error by its status. -/
def classify (wording : Wording) (name : String) (r : Http.Response) :
    Except DirectoryError Application :=
  if r.status = 404 then .error (.notFound name)
  else if 200 ≤ r.status ∧ r.status < 300 then readRecord wording r.body
  else
    .error (.status r.status
      (String.ofList ((Text.Utf8.decodeLossy r.body).take keptLength)))

/-- The policy of the client: an API server may lead a lookup elsewhere, up to ten times, which is
`RedirectPolicy.limited`. -/
def redirects (next? : Redirection) : RedirectPolicy := .limited 10 next?

section
variable {m : Type → Type} [Monad m] (d : KubernetesDirectory) (wording : Wording)
  (next? : Redirection) (transport : Transport m)

/-- Looks up the record of `name`, with the token read anew. -/
def get (files : Files) (name : String) : m (Except DirectoryError Application) := do
  match d.token files with
  | .error e => return .error e
  | .ok token =>
    if (token.map isSendable) = some false then return .error (.http "builder error")
    match ← (redirects next?).send transport (d.request name token) [] with
    | .ok answer => return classify wording name answer
    | .error message => return .error (.http message)

/-! ## Runs -/

/-- What can happen around a directory: a file is written anew, or a record is looked up. -/
inductive Event where
  | write (file : String) (content : List UInt8)
  | lookup (name : String)
  deriving Repr

/-- Lets an `Event` happen. A lookup is answered. -/
def handle (files : Files) :
    Event → m (Option (Except DirectoryError Application) × Files)
  | .write file content => return (none, files.write file content)
  | .lookup name => return (some (← d.get wording next? transport files name), files)

/-- Lets one `Event` happen after the other, and gives the answers in their order. -/
def run : Files → List Event → m (List (Option (Except DirectoryError Application)) × Files)
  | files, [] => return ([], files)
  | files, event :: events => do
    let (answer, files) ← d.handle wording next? transport files event
    let (answers, files) ← run files events
    return (answer :: answers, files)

end

end KubernetesDirectory

end CertGate
