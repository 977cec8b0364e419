import CertGate.Json.Fault
import CertGate.Text.Hex
import CertGate.Text.Utf8

/-!
# JSON tokens

`Token.scan` cuts a text into tokens. Strings keep their escapes and are only checked for their
form; what they say is read by `unescape`, when somebody asks. A token that cannot be finished is
the last one.
-/

namespace CertGate.Json

/-- The digits of a number as they are written, and its signs. -/
structure Number where
  negative : Bool
  whole : List UInt8
  fraction : List UInt8
  exponentNegative : Bool
  exponent : List UInt8
  deriving DecidableEq, Repr

/-- Where and how a text ceases to be JSON. -/
inductive Break where
  /-- Between tokens, or in one whose content matters to nobody. -/
  | plain (fault : Fault)
  /-- In a string, after these bytes. -/
  | inText (raw : List UInt8) (fault : Fault)
  /-- In a number, for want of a digit; `atEnd` if there is no further byte at all. -/
  | inNumber (atEnd : Bool)
  deriving DecidableEq, Repr

/-- The tokens of a JSON text. -/
inductive Token where
  | openArray
  | closeArray
  | openObject
  | closeObject
  | comma
  | colon
  | null
  | bool (b : Bool)
  | number (n : Number)
  | text (raw : List UInt8)
  | broken (b : Break)
  deriving DecidableEq, Repr

namespace Token

/-- The bytes that may stand between tokens. -/
def isSpace (b : UInt8) : Bool :=
  b = 0x20 || b = 0x0A || b = 0x09 || b = 0x0D

def isDigit (b : UInt8) : Bool :=
  0x30 ≤ b && b ≤ 0x39

/-- The bytes that may follow a backslash alone. -/
def isSimpleEscape (b : UInt8) : Bool :=
  [0x22, 0x5C, 0x2F, 0x62, 0x66, 0x6E, 0x72, 0x74].contains b

/-- What was found at the start of some bytes, and the bytes behind it, or the `Break` that was met. -/
abbrev Scanned (α : Type) : Type := Except Break (α × List UInt8)

/-- Reads the rest of a word such as `null` whose first byte has been read. -/
def scanWord (token : Token) : List UInt8 → List UInt8 → Scanned Token
  | [], bs => .ok (token, bs)
  | _ :: _, [] => .error (.plain .truncated)
  | w :: ws, b :: bs => if w = b then scanWord token ws bs else .error (.plain .malformed)

/-- Reads a string whose opening quote has been read. In `done` are the bytes read so far, the last one
first. -/
def scanText (done : List UInt8) : List UInt8 → Scanned Token
  | [] => .error (.inText done.reverse .truncated)
  | b :: bs =>
    if b = 0x22 then .ok (.text done.reverse, bs)
    else if b < 0x20 then .error (.inText done.reverse .malformed)
    else if b = 0x5C then
      match bs with
      | [] => .error (.inText (b :: done).reverse .truncated)
      | e :: bs =>
        if isSimpleEscape e then scanText (e :: b :: done) bs
        else if e = 0x75 then
          match bs with
          | h₁ :: h₂ :: h₃ :: h₄ :: bs =>
            -- whether four digits make a character is a question for `unescape`
            if [h₁, h₂, h₃, h₄].all (Text.hexByte? · |>.isSome) then
              scanText (h₄ :: h₃ :: h₂ :: h₁ :: e :: b :: done) bs
            else .error (.inText (e :: b :: done).reverse .malformed)
          | _ => .error (.inText (e :: b :: done).reverse .truncated)
        else .error (.inText (b :: done).reverse .malformed)
    else scanText (b :: done) bs

/-- Reads a run of at least one byte that `isDigit`. -/
def scanDigits (bs : List UInt8) : Scanned (List UInt8) :=
  match bs.takeWhile isDigit with
  | [] => .error (.inNumber bs.isEmpty)
  | ds => .ok (ds, bs.dropWhile isDigit)

/-- Reads the exponent of a number, if there is one. -/
def scanExponent (bs : List UInt8) : Except Break ((Bool × List UInt8) × List UInt8) :=
  match bs with
  | [] => .ok ((false, []), [])
  | b :: rest =>
    if b = 0x65 || b = 0x45 then do
      let (negative, rest) :=
        match rest with
        | 0x2D :: rest => (true, rest)
        | 0x2B :: rest => (false, rest)
        | _ => (false, rest)
      let (ds, rest) ← scanDigits rest
      return ((negative, ds), rest)
    else .ok ((false, []), bs)

/-- Reads a number behind its sign, which is `negative` or not. A leading zero stands alone. -/
def scanNumber (negative : Bool) (bs : List UInt8) : Except Break (Token × List UInt8) := do
  let (whole, rest) ← scanDigits bs
  if whole.length > 1 && whole.head? == some 0x30 then .error (.plain .malformed)
  let (fraction, rest) ←
    match rest with
    | 0x2E :: rest => scanDigits rest
    | _ => pure ([], rest)
  let ((exponentNegative, exponent), rest) ← scanExponent rest
  return (.number { negative, whole, fraction, exponentNegative, exponent }, rest)

/-- Reads the token that starts with the byte `b`. -/
def scanOne (b : UInt8) (bs : List UInt8) : Scanned Token :=
  if b = 0x5B then .ok (.openArray, bs)
  else if b = 0x5D then .ok (.closeArray, bs)
  else if b = 0x7B then .ok (.openObject, bs)
  else if b = 0x7D then .ok (.closeObject, bs)
  else if b = 0x2C then .ok (.comma, bs)
  else if b = 0x3A then .ok (.colon, bs)
  else if b = 0x22 then scanText [] bs
  else if b = 0x6E then scanWord .null (Text.Utf8.bytes "ull") bs
  else if b = 0x74 then scanWord (.bool true) (Text.Utf8.bytes "rue") bs
  else if b = 0x66 then scanWord (.bool false) (Text.Utf8.bytes "alse") bs
  else if b = 0x2D then scanNumber true bs
  else if isDigit b then scanNumber false (b :: bs)
  else .error (.plain .malformed)

/-- Cuts a text into tokens. Each one takes at least one byte, so as many steps as there are bytes
are enough. -/
def scanFuel : Nat → List UInt8 → List Token
  | 0, _ => []
  | _, [] => []
  | fuel + 1, b :: bs =>
    if isSpace b then scanFuel fuel bs
    else
      match scanOne b bs with
      | .ok (token, rest) => token :: scanFuel fuel rest
      | .error e => [.broken e]

/-- Cuts a text into tokens. Where it ceases to be JSON, the last one is `broken`. -/
def scan (bs : List UInt8) : List Token :=
  scanFuel bs.length bs

end Token

end CertGate.Json
