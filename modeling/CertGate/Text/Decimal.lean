import CertGate.Text.Digits

/-!
# Decimal fractions as text

`Decimal.parse?` reads a number with an optional point and an optional power of ten. Whether the
nearest double is finite is decided in whole numbers.
-/

namespace CertGate.Text

/-- The number `mantissa · 10 ^ exponent`, up to its sign. -/
structure Decimal where
  mantissa : Nat
  exponent : Int
  deriving DecidableEq, Repr

/-- The least number whose nearest double is infinite. -/
def doubleLimit : Nat := Nat.pow 2 1024 - Nat.pow 2 970

namespace Decimal

/-- Takes a sign off the front of a text. Gives whether it is a minus, and the rest. -/
def takeSign : List Char → Bool × List Char
  | '-' :: cs => (true, cs)
  | '+' :: cs => (false, cs)
  | cs => (false, cs)

/-- Reads the power of ten at the end of a number. -/
def readExponent? : List Char → Option Int
  | [] => some 0
  | c :: cs => do
    if c ≠ 'e' ∧ c ≠ 'E' then none
    let (negative, digits) := takeSign cs
    let n ← digits? 10 digits
    return if negative then -n else n

/-- Reads a decimal number. A point needs a digit on at least one side. -/
def parse? (cs : List Char) : Option Decimal := do
  let (_, cs) := takeSign cs
  let whole := cs.takeWhile Char.isDigit
  let cs := cs.dropWhile Char.isDigit
  let (fraction, cs) :=
    match cs with
    | '.' :: cs => (cs.takeWhile Char.isDigit, cs.dropWhile Char.isDigit)
    | _ => ([], cs)
  let mantissa ← digits? 10 (whole ++ fraction)
  let power ← readExponent? cs
  return { mantissa, exponent := power - fraction.length }

/-- Whether the nearest double of a number is finite. Exponents that are out of reach of the digits are
not worked out. -/
def isFinite (d : Decimal) : Bool :=
  let size : Int := d.mantissa.repr.length + d.exponent
  d.mantissa == 0 || size < 309
    || (size ≤ 309
      && d.mantissa * Nat.pow 10 d.exponent.toNat < doubleLimit * Nat.pow 10 (-d.exponent).toNat)

end Decimal

end CertGate.Text
