import CertGate.Domain.Direction.Table
import CertGate.Domain.Marks

/-!
# Labels of names that run from right to left

In a name with a letter of such a script every label must keep to one direction, so that it cannot
be mistaken for another one when it is shown.
-/

namespace CertGate.Domain

/-- What a character says of the direction of a text. -/
inductive Direction where
  | leftToRight
  | rightToLeft
  | arabicLetter
  | arabicNumber
  | europeanNumber
  | europeanSeparator
  | europeanTerminator
  | commonSeparator
  | nonspacing
  | boundary
  | other
  deriving DecidableEq, Repr

namespace Direction

/-- The direction of an ASCII character. -/
def ofAscii (c : Char) : Direction :=
  if c.isAlpha then .leftToRight
  else if c.isDigit then .europeanNumber
  else if c == '+' || c == '-' then .europeanSeparator
  else if c == '#' || c == '$' || c == '%' then .europeanTerminator
  else if c == ',' || c == '.' || c == '/' || c == ':' then .commonSeparator
  else .other

/-- The direction of a character. -/
def ofChar (c : Char) : Direction :=
  if c.toNat < 0x80 then ofAscii c
  else if leftToRightMarks.contains c then .leftToRight
  else if nonspacingMarks.contains c then .nonspacing
  else if rightToLeftLetters.contains c then .rightToLeft
  else if arabicLetters.contains c then .arabicLetter
  else if arabicNumbers.contains c then .arabicNumber
  else if europeanNumbers.contains c then .europeanNumber
  else if europeanSeparators.contains c then .europeanSeparator
  else if europeanTerminators.contains c then .europeanTerminator
  else if commonSeparators.contains c then .commonSeparator
  else if boundaryNeutrals.contains c then .boundary
  else if otherNeutrals.contains c then .other
  else .leftToRight

/-- Whether a character makes its name one that runs from right to left. -/
def turns : Direction → Bool
  | .rightToLeft | .arabicLetter | .arabicNumber => true
  | _ => false

/-- Characters that may stand in labels of both directions. -/
def isNeutral : Direction → Bool
  | .europeanNumber | .europeanSeparator | .europeanTerminator | .commonSeparator | .nonspacing
  | .boundary | .other => true
  | _ => false

/-- Whether a label keeps to its direction, which its first character gives. -/
def isKept (ds : List Direction) : Bool :=
  let last? := (ds.reverse.dropWhile (· == .nonspacing)).head?
  match ds.head? with
  | none => true
  | some .leftToRight =>
    ds.all (fun d => d == .leftToRight || d.isNeutral)
      && last?.any fun d => d == .leftToRight || d == .europeanNumber
  | some .rightToLeft | some .arabicLetter =>
    ds.all (fun d => d.turns || d.isNeutral)
      && last?.any (fun d => d.turns || d == .europeanNumber)
      && !(ds.contains .europeanNumber && ds.contains .arabicNumber)
  | some _ => false

end Direction

end CertGate.Domain
