import CertGate.Text.Decimal
import CertGate.Value

/-!
# What plain texts mean

A text without quotes may be null, a flag or a number. The same rules tell which texts have to be
quoted when they are written. Digits that start with a zero are a text.
-/

namespace CertGate.Yaml

def isNullWord (s : String) : Bool :=
  s == "null" || s == "Null" || s == "NULL" || s == "~"

def readFlag? (s : String) : Option Bool :=
  if s == "true" || s == "True" || s == "TRUE" then some true
  else if s == "false" || s == "False" || s == "FALSE" then some false
  else none

/-- Whether a text is a zero in front of further digits. -/
def isPaddedNumber (cs : List Char) : Bool :=
  match (Text.Decimal.takeSign cs).2 with
  | '0' :: c :: cs => (c :: cs).all Char.isDigit
  | _ => false

/-- The base that the start of a number names, and the digits behind it. -/
def splitBase : List Char → Nat × List Char
  | '0' :: 'x' :: cs => (16, cs)
  | '0' :: 'o' :: cs => (8, cs)
  | '0' :: 'b' :: cs => (2, cs)
  | cs => (10, cs)

/-- Reads a whole number of up to 128 bits. -/
def readInt? (s : String) : Option Int := do
  let cs := s.toList
  if isPaddedNumber cs then none
  -- the sign stands in front of the lead that names the base
  let (negative, digits) := Text.Decimal.takeSign cs
  let (base, digits) := splitBase digits
  let n ← Text.digits? base digits
  if negative then if n ≤ 0x80000000000000000000000000000000 then some (-n) else none
  else if n ≤ 0xffffffffffffffffffffffffffffffff then some n else none

/-- Whether a text is a number, maybe with a fraction, or a name for none or for an infinite one. A
plus stands in front of no other sign. -/
def isDecimal (s : String) : Bool :=
  let signed :=
    match s.toList with
    | '+' :: c :: cs => if c == '+' || c == '-' then [] else c :: cs
    | cs => cs
  [".inf", ".Inf", ".INF"].contains (String.ofList signed)
    || ["-.inf", "-.Inf", "-.INF", ".nan", ".NaN", ".NAN"].contains s
    || (Text.Decimal.parse? signed).any Text.Decimal.isFinite

/-- The value that a plain text stands for. -/
def plainValue (s : String) : Value :=
  if s == "" || isNullWord s then .null
  else
    match readFlag? s with
    | some b => .flag b
    | none =>
      match readInt? s with
      | some n => .int n
      | none => if !isPaddedNumber s.toList && isDecimal s then .decimal s else .text s

end CertGate.Yaml
