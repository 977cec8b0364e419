import CertGate.Json.Record
import CertGate.Json.Value

/-!
# Reading JSON values

`Json.parse` reads a text as the value that it says, whatever this is. Members stay in their order, also
those whose names are the same.
-/

namespace CertGate

namespace Json

/-- The shortest text of a number with these digits. -/
def Number.written (n : Number) : String :=
  let sign (negative : Bool) : List UInt8 := if negative then [0x2D] else []
  let fraction := if n.fraction.isEmpty then [] else 0x2E :: n.fraction
  let exponent := if n.exponent.isEmpty then [] else 0x65 :: (sign n.exponentNegative ++ n.exponent)
  let bytes := sign n.negative ++ n.whole ++ fraction ++ exponent
  String.ofList (bytes.map fun b => Char.ofNat b.toNat)

namespace Draft

mutual

/-- What a value says; a `Fault` if it is not finished. -/
def value : Draft → Except Fault Json
  | .null => return .null
  | .bool b => return .bool b
  | .number n => return .number n.written
  | .text raw => return .text (← textOf raw)
  | .array items unfinished => do
    let js ← itemValues items
    ending unfinished
    return .array js
  | .object members unfinished => do
    let js ← memberValues members
    ending unfinished
    return .object js
  | .broken b => .error b.met

/-- What the items of an array say. -/
def itemValues : List Draft → Except Fault (List Json)
  | [] => return []
  | d :: ds => return (← d.value) :: (← itemValues ds)

/-- What the members of an object say. -/
def memberValues : List (List UInt8 × Draft) → Except Fault (List (String × Json))
  | [] => return []
  | (key, d) :: ms => return (← textOf key, ← d.value) :: (← memberValues ms)

end

end Draft

/-- Reads a text as a `Json` value. -/
def parse (bs : List UInt8) : Except Fault Json :=
  (Document.read bs).decode Draft.value

end Json

end CertGate
