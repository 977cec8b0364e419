import CertGate.Text.Blank
import CertGate.Text.Utf8

/-!
# Header fields

Fields are pairs of a name and a value in their order. Names are kept in lower case, so that
comparing them ignores case; values are bytes. A name may have several values.
-/

namespace CertGate.Http

/-- Whether a character may stand in a method or a field name. -/
def isTokenChar (c : Char) : Bool :=
  c.isAlphanum || "!#$%&'*+-.^_\x60|~".toList.contains c

/-- A text of at least one character, all of them allowed by `isTokenChar`. -/
def isToken (cs : List Char) : Bool :=
  !cs.isEmpty && cs.all isTokenChar

/-- The name of a field in lower case, if the text is a token, by `isToken`, and not too long. -/
def fieldName? (cs : List Char) : Option String :=
  if isToken cs ∧ cs.length < 0x10000 then some (String.ofList (cs.map Char.toLower)) else none

/-- The value of a field: any bytes, which need not be a text. -/
abbrev FieldValue := List UInt8

/-- The text of a value that consists of visible ASCII characters, spaces and tabs. -/
def FieldValue.visible? (v : FieldValue) : Option (List Char) :=
  if v.all fun b => b = 0x09 || (0x20 ≤ b && b < 0x7F) then
    some (v.map fun b => Char.ofNat b.toNat)
  else none

/-- The fields of a message, in their order. -/
structure Headers where
  fields : List (String × FieldValue) := []
  deriving DecidableEq, Repr

namespace Headers

/-- All values of the fields called `name`, in order. -/
def values (h : Headers) (name : String) : List FieldValue :=
  (h.fields.filter (·.1 == name)).map (·.2)

/-- The first value of the fields called `name`. -/
def get? (h : Headers) (name : String) : Option FieldValue :=
  h.fields.lookup name

/-- Whether there is a field called `name`. -/
def contains (h : Headers) (name : String) : Bool :=
  (h.get? name).isSome

/-- Adds a field behind all others: those called `name` before stay. -/
def append (h : Headers) (name : String) (value : FieldValue) : Headers :=
  ⟨h.fields ++ [(name, value)]⟩

/-- Drops all fields called `name`. -/
def erase (h : Headers) (name : String) : Headers :=
  ⟨h.fields.filter (·.1 != name)⟩

/-- Drops all fields called one of `names`. -/
def eraseAll (h : Headers) (names : List String) : Headers :=
  names.foldl erase h

/-- Puts one field in place of all those called `name`, behind all others. -/
def insert (h : Headers) (name : String) (value : FieldValue) : Headers :=
  (h.erase name).append name value

end Headers

end CertGate.Http
