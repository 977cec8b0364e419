import CertGate.Json.Fault
import CertGate.Text.Hex
import CertGate.Text.Utf8

/-!
# JSON strings

`escape` writes the inside of a string, `unescape` reads it. Quotes, backslashes and control
characters are escaped, everything else stands for itself.
-/

namespace CertGate.Json

/-- What stands in a string for the character `c`. -/
def escapeChar (c : Char) : List Char :=
  match c with
  | '"' => ['\\', '"']
  | '\\' => ['\\', '\\']
  | '\x08' => ['\\', 'b']
  | '\x0c' => ['\\', 'f']
  | '\n' => ['\\', 'n']
  | '\r' => ['\\', 'r']
  | '\t' => ['\\', 't']
  | c =>
    if c.toNat < 0x20 then
      ['\\', 'u', '0', '0', Text.hexDigit 'a' (c.toNat / 16), Text.hexDigit 'a' (c.toNat % 16)]
    else [c]

/-- What stands between the quotes of a string that says `s`. -/
def escape (s : String) : List Char :=
  s.toList.flatMap escapeChar

/-- What a backslash and the byte `b` stand for. -/
def simpleEscape (b : UInt8) : UInt8 :=
  if b = 0x62 then 0x08
  else if b = 0x66 then 0x0C
  else if b = 0x6E then 0x0A
  else if b = 0x72 then 0x0D
  else if b = 0x74 then 0x09
  else b

/-- The number that four hexadecimal digits stand for. -/
def hexUnit? (h₁ h₂ h₃ h₄ : UInt8) : Option Nat := do
  return (((← Text.hexByte? h₁) * 16 + (← Text.hexByte? h₂)) * 16 + (← Text.hexByte? h₃)) * 16
    + (← Text.hexByte? h₄)

/-- The bytes that the inside of a string stands for. A code unit from the upper half of the
surrogates has to be followed by one from the lower half, which may not stand alone. A text that
ends within an escape or between such a pair is truncated. -/
def unescape : List UInt8 → Except Fault (List UInt8)
  | [] => .ok []
  | 0x5C :: 0x75 :: h₁ :: h₂ :: h₃ :: h₄ :: rest =>
    match hexUnit? h₁ h₂ h₃ h₄ with
    | none => .error .malformed
    | some n =>
      if 0xDC00 ≤ n ∧ n ≤ 0xDFFF then .error .malformed
      else if 0xD800 ≤ n ∧ n ≤ 0xDBFF then
        match rest with
        | 0x5C :: 0x75 :: g₁ :: g₂ :: g₃ :: g₄ :: rest =>
          match hexUnit? g₁ g₂ g₃ g₄ with
          | none => .error .malformed
          | some m =>
            if 0xDC00 ≤ m ∧ m ≤ 0xDFFF then do
              let code := 0x10000 + (n - 0xD800) * 0x400 + (m - 0xDC00)
              return String.utf8EncodeChar (Char.ofNat code) ++ (← unescape rest)
            else .error .malformed
        | 0x5C :: 0x75 :: _ => .error .truncated
        | [0x5C] => .error .truncated
        | [] => .error .truncated
        | _ => .error .malformed
      else do return String.utf8EncodeChar (Char.ofNat n) ++ (← unescape rest)
  | 0x5C :: e :: rest =>
    if e = 0x75 then .error .truncated
    else do return simpleEscape e :: (← unescape rest)
  | [0x5C] => .error .truncated
  | b :: rest => do return b :: (← unescape rest)

/-- The text that the inside of a finished string stands for. -/
def textOf (raw : List UInt8) : Except Fault String :=
  match unescape raw with
  | .error _ => .error .malformed
  | .ok bs =>
    match Text.Utf8.text? bs with
    | some s => .ok s
    | none => .error .malformed

end CertGate.Json
