import CertGate.Text.Hex
import CertGate.Text.Utf8

/-!
# Percent encoding

A set says which ASCII characters are written as `%` and two digits; all others beyond ASCII are,
byte by byte.
-/

namespace CertGate.Url

/-- The ASCII characters that are to be encoded, as a test on characters. -/
abbrev PercentSet := Char → Bool

namespace PercentSet

/-- The control characters of ASCII. -/
def controls : PercentSet := fun c => c.toNat < 0x20 || c.toNat = 0x7F

def fragment : PercentSet := fun c => controls c || " \"<>\x60".toList.contains c

def query : PercentSet := fun c => controls c || " \"#<>".toList.contains c

def specialQuery : PercentSet := fun c => query c || c == '\''

def path : PercentSet := fun c => fragment c || "#?\x7b\x7d".toList.contains c

/-- The set of a segment that is put into a path on its own: it must not break in two or be decoded
twice. -/
def segment : PercentSet := fun c => path c || c == '/' || c == '%'

def specialSegment : PercentSet := fun c => segment c || c == '\\'

def userinfo : PercentSet := fun c => path c || "/:;=@[\\]^|".toList.contains c

end PercentSet

/-- The escape of a byte: `%` and its two digits. -/
def encodeByte (b : UInt8) : List Char :=
  ['%', Text.hexDigit 'A' (b.toNat / 16), Text.hexDigit 'A' (b.toNat % 16)]

/-- A character as it is written in a part with this `set`. -/
def encodeChar (set : PercentSet) (c : Char) : List Char :=
  if c.toNat < 0x80 ∧ set c = false then [c] else (String.utf8EncodeChar c).flatMap encodeByte

/-- A text as it is written in a part with this `set`. -/
def encode (set : PercentSet) (cs : List Char) : List Char :=
  cs.flatMap (encodeChar set)

/-- The bytes of a text in which `%` and two digits stand for a byte. A `%` without them stands for
itself. -/
def decodeBytes : List UInt8 → List UInt8
  | [] => []
  | b :: h₁ :: h₂ :: rest =>
    if b = 0x25 then
      match Text.hexByte? h₁, Text.hexByte? h₂ with
      | some x, some y => (x * 16 + y).toUInt8 :: decodeBytes rest
      | _, _ => b :: decodeBytes (h₁ :: h₂ :: rest)
    else b :: decodeBytes (h₁ :: h₂ :: rest)
  | b :: rest => b :: decodeBytes rest

/-- The bytes that a percent-encoded text stands for. -/
def decode (s : String) : List UInt8 :=
  decodeBytes (Text.Utf8.bytes s)

end CertGate.Url
