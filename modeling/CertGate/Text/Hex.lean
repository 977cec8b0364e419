import CertGate.Text.Digits

/-!
# Hexadecimal digits
-/

namespace CertGate.Text

/-- The value of a hexadecimal digit, given as a byte. -/
def hexByte? (b : UInt8) : Option Nat :=
  digitValue? 16 (Char.ofNat b.toNat)

/-- The hexadecimal digit of a value below 16; `letters` is the first of the letters to use. -/
def hexDigit (letters : Char) (n : Nat) : Char :=
  if n < 10 then Char.ofNat ('0'.toNat + n) else Char.ofNat (letters.toNat + (n - 10))

/-- The lower-case hexadecimal digits of a number. -/
def hexDigits (n : Nat) : List Char :=
  Nat.toDigits 16 n

end CertGate.Text
