import CertGate.Http.Header
import CertGate.IpAddr
import CertGate.Text.Pieces

/-!
# Header fields on the way through a proxy

Fields that are meant for one hop only are not passed on, and the caller's address is noted.
-/

namespace CertGate.Http

/-- The names of the fields that are always meant for one hop only. -/
def hopByHopNames : List String :=
  ["connection", "keep-alive", "proxy-authenticate", "proxy-authorization", "te", "trailer",
   "transfer-encoding", "upgrade"]

namespace Headers

/-- The names that one value of `Connection` lists. A value with other than visible characters lists
none, and what is no field name by `fieldName?` is passed over. -/
def listedNames (value : FieldValue) : List String :=
  match value.visible? with
  | none => []
  | some cs => (Text.pieces ',' cs).filterMap fun p => fieldName? (Text.trim Text.isBlank p)

/-- Drops the fields that are meant for one hop only: those of `hopByHopNames`, and those that
`Connection` lists. -/
def stripHopByHop (h : Headers) : Headers :=
  -- the listed names are read before the field that lists them is dropped
  h.eraseAll ((h.values "connection").flatMap listedNames ++ hopByHopNames)

/-- The text of the first `x-forwarded-for`, unless it is blank or not visible. -/
def forwardedFor? (h : Headers) : Option String := do
  let cs ← (← h.get? "x-forwarded-for").visible?
  if cs.all Text.isBlank then none else some (String.ofList cs)

/-- Notes the address of the caller behind the addresses that the first `x-forwarded-for` names.
Further values of the field are dropped. -/
def appendForwardedFor (h : Headers) (client : IpAddr) : Headers :=
  let value :=
    match h.forwardedFor? with
    | some existing => s!"{existing}, {client.render}"
    | none => client.render
  h.insert "x-forwarded-for" (Text.Utf8.bytes value)

end Headers

end CertGate.Http
