import CertGate.Json.Draft

/-!
# Reading records from JSON

A reader asks a draft for what it expects, from left to right, and gives the first thing that is
wrong. A record is an object whose members may come in any order, at most once each, among others
that are passed over; or an array of the values of its fields in order, of which the last may be
missing.
-/

namespace CertGate.Json

/-- What a break means to a reader that passes over the value in which it lies. -/
def Break.skipped : Break → Fault
  | .plain fault => fault
  | .inText _ fault => fault
  | .inNumber _ => .malformed

/-- What a break means to a reader that reads the value in which it lies. -/
def Break.met : Break → Fault
  | .plain fault => fault
  | .inText raw fault =>
    match unescape raw with
    | .error .malformed => .malformed
    | _ => fault
  | .inNumber atEnd => if atEnd then .truncated else .malformed

namespace Draft

/-- The `Fault` of a value that is not of the expected kind. Strings and numbers are read to their end
before that is noticed. -/
def wrongKind : Draft → Fault
  | .text raw =>
    match textOf raw with
    | .error fault => fault
    | .ok _ => .mismatch
  | .number n => if n.tooLarge then .malformed else .mismatch
  | .broken b => b.met
  | _ => .mismatch

/-- Passes over a value, which only has to be finished. -/
def skip : Draft → Except Fault Unit
  | .array _ (some b) => .error b.skipped
  | .object _ (some b) => .error b.skipped
  | .broken b => .error b.skipped
  | _ => .ok ()

/-- Reads a string as its text. -/
def asText : Draft → Except Fault String
  | .text raw => textOf raw
  | d => .error d.wrongKind

/-- The end of a container, which may be where the text breaks: a `Fault` then. -/
def ending : Option Break → Except Fault Unit
  | none => .ok ()
  | some b => .error b.met

/-- Reads an array, each of its items by `item`. -/
def asList (item : Draft → Except Fault α) : Draft → Except Fault (List α)
  | .array items unfinished => do
    let xs ← items.mapM item
    ending unfinished
    return xs
  | d => .error d.wrongKind

/-- Reads a value that may be null, otherwise by `value`. -/
def asOption (value : Draft → Except Fault α) : Draft → Except Fault (Option α)
  | .null => .ok none
  | d => some <$> value d

end Draft

/-- A field of a record of type `α`: its name, and how the record is completed by its value. -/
structure Field (α : Type) where
  name : String
  read : α → Draft → Except Fault α

namespace Field

/-- Reads the values of fields in order. Missing ones at the end leave the record as it is; values
without a field are an error. -/
def readItems (unfinished : Option Break) :
    List (Field α) → List Draft → α → Except Fault α
  | _, [], x => do
    Draft.ending unfinished
    return x
  | [], _ :: _, _ => .error .malformed
  | f :: fs, d :: ds, x => do readItems unfinished fs ds (← f.read x d)

/-- Reads members by their fields. In `seen` are the names of the fields that were read already. -/
def readMembers (fields : List (Field α)) (unfinished : Option Break) :
    List String → List (List UInt8 × Draft) → α → Except Fault α
  | _, [], x => do
    Draft.ending unfinished
    return x
  | seen, (rawKey, d) :: ms, x => do
    -- a key is read even if its value is passed over
    let key ← textOf rawKey
    match fields.find? (·.name == key) with
    | none => do
      d.skip
      readMembers fields unfinished seen ms x
    | some f =>
      if seen.contains f.name then .error .mismatch
      else readMembers fields unfinished (f.name :: seen) ms (← f.read x d)

/-- Reads a record, with `start` for what it is when no field is given. -/
def readRecord (fields : List (Field α)) (start : α) : Draft → Except Fault α
  | .array items unfinished => readItems unfinished fields items start
  | .object members unfinished => readMembers fields unfinished [] members start
  | d => .error d.wrongKind

end Field

/-- Reads a whole text with the reader of its value, and refuses what stands behind it. -/
def Document.decode (value : Draft → Except Fault α) (d : Document) : Except Fault α := do
  let x ← value d.value
  if d.trailing then .error .malformed
  return x

end CertGate.Json
