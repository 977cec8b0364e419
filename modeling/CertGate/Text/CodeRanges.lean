import CertGate.Text.Digits
import CertGate.Text.Pieces

/-!
# Sets of code points

A set of characters is a list of ranges, written in hexadecimal digits as in `5be 5d0-5ea`.
-/

namespace CertGate.Text

/-- The words between the blanks and line ends of a text. -/
def codeWords (s : String) : List (List Char) :=
  (pieces ' ' (s.toList.map fun c => if c == '\n' then ' ' else c)).filter (!·.isEmpty)

/-- The code point that hexadecimal digits stand for. -/
def codePoint (cs : List Char) : Nat :=
  (digits? 16 cs).getD 0

/-- A set of code points, as ranges with their ends. -/
abbrev CodeRanges := List (Nat × Nat)

namespace CodeRanges

/-- Reads one range: two code points, or a single one. -/
def rangeOf (cs : List Char) : Nat × Nat :=
  match cut? '-' cs with
  | some (first, last) => (codePoint first, codePoint last)
  | none => (codePoint cs, codePoint cs)

/-- Reads a set of ranges, written as words. -/
def ofText (s : String) : CodeRanges :=
  (codeWords s).map rangeOf

/-- Whether the code point of a character is in a set. -/
def contains (r : CodeRanges) (c : Char) : Bool :=
  r.any fun (first, last) => first ≤ c.toNat && c.toNat ≤ last

end CodeRanges

end CertGate.Text
