import CertGate.Json.Token
import CertGate.Text.Decimal

/-!
# The range of JSON numbers

A number is kept as up to 64 bits of leading digits and a power of ten. Read as a double it may lie
beyond the greatest finite one; `Number.tooLarge` says when.
-/

namespace CertGate.Json

/-- The nearest number to `n` of 53 significant bits, ties to the even one. -/
def roundTo53 (n : Nat) : Nat :=
  if n < 0x20000000000000 then n
  else
    let unit := Nat.pow 2 (n.log2 - 52)
    let q := n / unit
    let up := n % unit * 2 > unit || (n % unit * 2 == unit && q % 2 == 1)
    (if up then q + 1 else q) * unit

namespace Number

/-- Adds digits to a 64-bit number `n` for as long as they fit. Gives the number, and how many digits
were taken and how many not. -/
def accumulate (n taken : Nat) : List UInt8 → Nat × Nat × Nat
  | [] => (n, taken, 0)
  | d :: ds =>
    let m := n * 10 + (d.toNat - 0x30)
    if m < 0x10000000000000000 then accumulate m (taken + 1) ds else (n, taken, ds.length + 1)

/-- The value of a run of decimal digits. -/
def valueOf (ds : List UInt8) : Nat :=
  ds.foldl (fun n d => n * 10 + (d.toNat - 0x30)) 0

/-- The leading digits as a whole number, and the power of ten that goes with them. -/
def parts (x : Number) : Nat × Int :=
  let (n, _, dropped) := accumulate 0 0 x.whole
  let (n, taken, _) := accumulate n 0 x.fraction
  let shift : Int := valueOf x.exponent
  (n, (dropped : Int) - taken + (if x.exponentNegative then -shift else shift))

/-- Whether a number is greater than every finite double, so that it cannot be read. -/
def tooLarge (x : Number) : Bool :=
  let (n, power) := x.parts
  n ≠ 0 && 0 ≤ power
    && (power > 308 || roundTo53 n * roundTo53 (Nat.pow 10 power.toNat) ≥ Text.doubleLimit)

end Number

end CertGate.Json
