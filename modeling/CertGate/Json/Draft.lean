import CertGate.Json.Number
import CertGate.Json.Text

/-!
# JSON values as far as they could be read

A text that is not JSON still says something up to the point where it breaks. A draft is the tree
of what was read; whatever the break has left unfinished is marked with it. Readers of records walk
a draft from left to right and so report what is wrong first: a value that does not fit, or the
break.
-/

namespace CertGate.Json

/-- A value as far as it could be read; `broken` stands where the text breaks. -/
inductive Draft where
  | null
  | bool (b : Bool)
  | number (n : Number)
  | text (raw : List UInt8)
  | array (items : List Draft) (unfinished : Option Break)
  | object (members : List (List UInt8 × Draft)) (unfinished : Option Break)
  | broken (b : Break)

/-- A container whose end has not come yet, with what it holds so far, the last first. -/
inductive Frame where
  | array (items : List Draft)
  | object (members : List (List UInt8 × Draft)) (key : List UInt8)

/-- What a reader is waiting for, and the containers around it, the innermost first. -/
inductive Awaiting where
  | value (around : List Frame)
  | firstItem (around : List Frame)
  | itemEnd (items : List Draft) (around : List Frame)
  | firstKey (around : List Frame)
  | nextKey (members : List (List UInt8 × Draft)) (around : List Frame)
  | keyEnd (members : List (List UInt8 × Draft)) (key : List UInt8) (around : List Frame)
  | memberEnd (members : List (List UInt8 × Draft)) (around : List Frame)
  | nothing (value : Draft)

/-- A whole text: its value, and whether something stands behind it. -/
structure Document where
  value : Draft
  trailing : Bool

namespace Awaiting

/-- What a reader awaits behind the value `d`: the end of the innermost container, or that of the text. -/
def afterValue (d : Draft) : List Frame → Awaiting
  | [] => .nothing d
  | .array items :: around => .itemEnd (d :: items) around
  | .object members key :: around => .memberEnd ((key, d) :: members) around

/-- The outermost value when the text breaks at `d`: all containers around it are unfinished. -/
def unwind (b : Break) (d : Draft) : List Frame → Draft
  | [] => d
  | .array items :: around => unwind b (.array (d :: items).reverse (some b)) around
  | .object members key :: around =>
    unwind b (.object ((key, d) :: members).reverse (some b)) around

/-- The `Document` that was read, when the text breaks where the reader awaits something. -/
def stop (b : Break) : Awaiting → Document
  | .value around => ⟨unwind b (.broken b) around, false⟩
  | .firstItem around => ⟨unwind b (.array [.broken b] (some b)) around, false⟩
  | .itemEnd items around => ⟨unwind b (.array items.reverse (some b)) around, false⟩
  | .firstKey around => ⟨unwind b (.object [] (some b)) around, false⟩
  | .nextKey members around => ⟨unwind b (.object members.reverse (some b)) around, false⟩
  | .keyEnd members key around =>
    ⟨unwind b (.object ((key, .broken b) :: members).reverse (some b)) around, false⟩
  | .memberEnd members around => ⟨unwind b (.object members.reverse (some b)) around, false⟩
  | .nothing d => ⟨d, true⟩

/-- Takes a token where a value may start; there is a `Break` if it starts none. -/
def startValue (around : List Frame) : Token → Except Break Awaiting
  | .null => .ok (afterValue .null around)
  | .bool b => .ok (afterValue (.bool b) around)
  | .number n => .ok (afterValue (.number n) around)
  | .text raw => .ok (afterValue (.text raw) around)
  | .openArray => .ok (.firstItem around)
  | .openObject => .ok (.firstKey around)
  | .broken b => .error b
  | _ => .error (.plain .malformed)

/-- Takes a token where a key is due. -/
def takeKey (members : List (List UInt8 × Draft)) (around : List Frame) :
    Token → Except Break Awaiting
  | .text raw => .ok (.keyEnd members raw around)
  | .broken (.inText raw fault) => .error (.inText raw fault)
  | _ => .error (.plain .malformed)

/-- Takes one token in whatever the reader awaits. -/
def take : Awaiting → Token → Except Break Awaiting
  | .value around, t => startValue around t
  | .firstItem around, .closeArray => .ok (afterValue (.array [] none) around)
  | .firstItem around, t => startValue (.array [] :: around) t
  | .itemEnd items around, .comma => .ok (.value (.array items :: around))
  | .itemEnd items around, .closeArray => .ok (afterValue (.array items.reverse none) around)
  | .firstKey around, .closeObject => .ok (afterValue (.object [] none) around)
  | .firstKey around, t => takeKey [] around t
  | .nextKey members around, t => takeKey members around t
  | .keyEnd members key around, .colon => .ok (.value (.object members key :: around))
  | .memberEnd members around, .comma => .ok (.nextKey members around)
  | .memberEnd members around, .closeObject =>
    .ok (afterValue (.object members.reverse none) around)
  | _, _ => .error (.plain .malformed)

/-- Takes tokens up to the end of the text, or to the first `Break`. -/
def run (state : Awaiting) : List Token → Document
  | [] =>
    match state with
    | .nothing d => ⟨d, false⟩
    | _ => state.stop (.plain .truncated)
  | t :: ts =>
    match state.take t with
    | .ok next => next.run ts
    -- what follows a break is not looked at
    | .error b => state.stop b

end Awaiting

/-- Reads a text as a `Document`. -/
def Document.read (bs : List UInt8) : Document :=
  (Awaiting.value []).run (Token.scan bs)

end CertGate.Json
