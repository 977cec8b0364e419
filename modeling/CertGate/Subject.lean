import CertGate.Text.Pieces

/-!
# Certificate subjects

A front door that ends TLS passes the client's certificate chain on in a header, one element
`Subject="<distinguished name>"` per certificate among other text:

    Hash=abc;Subject="CN=app1,O=tenant1,OU=group1";URI=,By=spiffe://cluster.local

`Subject.elements` finds the elements, `Subject.parse` reads one distinguished name, and
`Subject.chain` does both. Reading is lenient: a segment that is no `key=value`, or whose key is
not known, says nothing.
-/

namespace CertGate

/-- The attributes of a distinguished name that a `Subject` has. -/
inductive Attribute where
  | commonName
  | organization
  | organizationalUnit
  | country
  | locality
  | province
  deriving DecidableEq, Repr

/-- The key that an attribute is written with, in front of its `=`. -/
def Attribute.key : Attribute → String
  | .commonName => "CN"
  | .organization => "O"
  | .organizationalUnit => "OU"
  | .country => "C"
  | .locality => "L"
  | .province => "ST"

/-- All attributes, in the order of the fields of a `Subject`. -/
def Attribute.all : List Attribute :=
  [.commonName, .organization, .organizationalUnit, .country, .locality, .province]

/-- The attribute that is written with exactly this key, its `Attribute.key`. -/
def Attribute.ofKey? (key : List Char) : Option Attribute :=
  Attribute.all.find? fun a => a.key.toList == key

/-- The subject of one certificate. An attribute that was not given is empty. -/
structure Subject where
  commonName : String := ""
  organization : String := ""
  organizationalUnit : String := ""
  country : String := ""
  locality : String := ""
  province : String := ""
  deriving DecidableEq, Repr, Inhabited

namespace Subject

/-- The value of an `Attribute` in the subject. -/
def get (s : Subject) : Attribute → String
  | .commonName => s.commonName
  | .organization => s.organization
  | .organizationalUnit => s.organizationalUnit
  | .country => s.country
  | .locality => s.locality
  | .province => s.province

/-- The subject with one attribute set to `value`. -/
def set (s : Subject) (value : String) : Attribute → Subject
  | .commonName => { s with commonName := value }
  | .organization => { s with organization := value }
  | .organizationalUnit => { s with organizationalUnit := value }
  | .country => { s with country := value }
  | .locality => { s with locality := value }
  | .province => { s with province := value }

/-- The attribute that one segment gives, and its value: the key is all that stands before the
first `=`, the value all that follows it, blanks included. -/
def segment? (segment : List Char) : Option (Attribute × String) := do
  let (key, value) ← Text.cut? '=' segment
  let attr ← Attribute.ofKey? key
  return (attr, String.ofList value)

/-- Adds to a subject what one segment of a distinguished name says, if `segment?` finds anything in
it. -/
def addSegment (s : Subject) (segment : List Char) : Subject :=
  match segment? segment with
  | some (attr, value) => s.set value attr
  | none => s

/-- Reads a distinguished name: segments parted by `,`, of which the last one for an attribute decides
it. -/
def parse (name : String) : Subject :=
  (Text.pieces ',' name.toList).foldl addSegment {}

/-! ## Elements of the header -/

/-- The text that opens an element of a header. -/
def opening : List Char := "Subject=\"".toList

/-- The text up to the closing quote, and what follows the quote. An element ends on the line that
it starts on. -/
def closing? : List Char → Option (List Char × List Char)
  | [] => none
  | c :: cs =>
    if c = '"' then some ([], cs)
    else if c = '\n' then none
    else (closing? cs).map fun (inner, rest) => (c :: inner, rest)

/-- The inner text of an element that starts right here, behind `opening`, and what follows the
element. -/
def element? (cs : List Char) : Option (List Char × List Char) :=
  (Text.after? opening cs).bind closing?

theorem closing?_length {cs inner rest : List Char} (h : closing? cs = some (inner, rest)) :
    rest.length < cs.length := by
  induction cs generalizing inner with
  | nil => simp [closing?] at h
  | cons c cs ih =>
    simp only [closing?] at h
    split at h
    · cases h; simp
    · split at h
      · simp at h
      · obtain ⟨⟨i, r⟩, hr, heq⟩ := Option.map_eq_some_iff.1 h
        cases heq
        exact Nat.lt_succ_of_lt (ih hr)

theorem element?_length {cs inner rest : List Char} (h : element? cs = some (inner, rest)) :
    rest.length < cs.length := by
  obtain ⟨body, hbody, hclose⟩ := Option.bind_eq_some_iff.1 h
  have hlt := closing?_length hclose
  rw [Text.after?_eq_some_iff.1 hbody, List.length_append]
  omega

/-- The inner texts of the elements, found from left to right by `element?`: each search goes on behind
the element found last. -/
def elements (cs : List Char) : List (List Char) :=
  match cs with
  | [] => []
  | c :: cs =>
    match h : element? (c :: cs) with
    | some (inner, rest) =>
      have := element?_length h
      inner :: elements rest
    | none => elements cs
termination_by cs.length
decreasing_by
  · exact this
  · exact Nat.lt_succ_self _

/-- The distinguished names in a header, in order: its `elements`, of which empty ones are left out. -/
def names (header : String) : List String :=
  ((elements header.toList).filter (!·.isEmpty)).map String.ofList

/-- The subjects of the certificate chain in a header, one for each of its `names`. -/
def chain (header : String) : List Subject :=
  (names header).map parse

end Subject

end CertGate
