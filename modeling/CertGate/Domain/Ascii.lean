import CertGate.Domain.Direction
import CertGate.Domain.Joiner
import CertGate.Domain.Mapping
import CertGate.Domain.Normal
import CertGate.Domain.Punycode
import CertGate.Text.Utf8

/-!
# Domain names in ASCII

A name is mapped and composed, and cut into labels at its points. A label with other characters is
written in ASCII letters behind a mark. A label that comes with the mark must be what writing such a
label gives. Names that are ASCII already need none of this.
-/

namespace CertGate.Domain

/-- ASCII characters that no domain name may hold. -/
def isForbidden (c : Char) : Bool :=
  c.toNat ≤ 0x20 || c.toNat = 0x7F || "%#/:<>?@[\\]^|".toList.contains c

def isAscii (c : Char) : Bool := c.toNat < 0x80

/-- The mark of a label that stands for one with other characters. -/
def labelMark : List Char := "xn--".toList

/-- A label, as it is shown and in ASCII. -/
structure Label where
  shown : List Char
  ascii : List Char
  deriving DecidableEq, Repr

namespace Label

/-- Whether the characters of a label may stand as they do, its direction apart. -/
def isSound (cs : List Char) : Bool :=
  !cs.any isForbidden && !cs.head?.any isMark && hasGoodJoiners [] cs

/-- The label that comes with the mark. It stands for one that is not ASCII, and that mapping and
composing keep as it is. -/
def ofMarked? (cs : List Char) : Option Label := do
  let shown ← Punycode.decode? (cs.drop labelMark.length)
  if !cs.all isAscii || shown.all isAscii || !shown.all isKept
      || Normal.normalize shown ≠ shown then none
  return { shown, ascii := cs }

/-- The label of characters that have been mapped and composed. -/
def ofMapped? (cs : List Char) : Option Label := do
  let label ←
    if labelMark.isPrefixOf cs then ofMarked? cs
    else if cs.all isAscii then some { shown := cs, ascii := cs }
    else some { shown := cs, ascii := labelMark ++ Punycode.encode cs }
  if cs.any isForbidden then none
  if label.shown.all isAscii || isSound label.shown then some label else none

/-- The directions of the characters of a label. -/
def directions (l : Label) : List Direction := l.shown.map .ofChar

end Label

/-- The labels of a name. -/
def labels? (cs : List Char) : Option (List Label) := do
  let mapped := (← cs.mapM mapChar).flatten
  let labels ← (Text.pieces '.' (Normal.normalize mapped)).mapM Label.ofMapped?
  let directions := labels.map Label.directions
  -- one label that turns makes the rule bind all labels of the name
  if directions.any (·.any Direction.turns) && !directions.all Direction.isKept then none
  return labels

/-- Whether a name needs no more than small letters. -/
def isPlain (cs : List Char) : Bool :=
  cs.all isAscii
    && (Text.pieces '.' (cs.map Char.toLower)).all fun label => !labelMark.isPrefixOf label

/-- The form of a domain name in ASCII letters. -/
def toAscii? (bs : List UInt8) : Option (List Char) := do
  let cs ← Text.Utf8.decode? bs
  -- marked labels have to be checked, so a name with one is not plain
  if isPlain cs then if cs.any isForbidden then none else some (cs.map Char.toLower)
  else return ['.'].intercalate ((← labels? cs).map Label.ascii)

end CertGate.Domain
