import CertGate.Environment
import CertGate.Text.Blank
import CertGate.Text.Decimal
import CertGate.Text.Pieces
import CertGate.Value

/-!
# Variables as values

A variable may hold a flag, a number, a letter or text in quotes, a list or a dictionary; whatever
has no such form is a text as it stands. Its name gives the path to what it sets.
-/

namespace CertGate.Environment

/-! ## What a variable says -/

/-- Blanks that may stand around a value. -/
def isGap (c : Char) : Bool := c == ' ' || c == '\t'

/-- Characters that end a text without quotes. -/
def isSeparator (c : Char) : Bool :=
  c == ',' || c == '\x7b' || c == '\x7d' || c == '[' || c == ']'

/-- Characters of a key without quotes. -/
def isKeyChar (c : Char) : Bool := c.isAlphanum || c == '_' || c == '-'

/-- The value of a number or of a text without quotes. Numbers with a point have a fraction, so they
are a `Value.decimal`. -/
def bareValue (cs : List Char) : Value :=
  let s := String.ofList cs
  -- without a point, what could be a number with an exponent is a text
  if cs.contains '.' && (Text.Decimal.parse? cs).isSome then .decimal s
  else
    match cs with
    | '-' :: digits =>
      match Text.digits? 10 digits with
      | some n => if n ≤ 0x8000000000000000 then .int (-n) else .text s
      | none => .text s
    | _ =>
      match Text.readNat 0x10000000000000000 cs with
      | .ok n => .int n
      | .error _ => .text s

/-- The characters up to the closing quote, with escapes as they are, and what follows the quote. -/
def takeQuoted? : List Char → Option (List Char × List Char)
  | [] => none
  | '"' :: cs => some ([], cs)
  | ['\\'] => none
  | '\\' :: c :: cs => (takeQuoted? cs).map fun (inner, rest) => ('\\' :: c :: inner, rest)
  | c :: cs => (takeQuoted? cs).map fun (inner, rest) => (c :: inner, rest)

/-- The character that a letter behind a backslash stands for. -/
def escapeOf? : Char → Option Char
  | '"' => some '"'
  | '\\' => some '\\'
  | 'b' => some '\x08'
  | 'f' => some '\x0c'
  | 'n' => some '\n'
  | 'r' => some '\r'
  | 't' => some '\t'
  | _ => none

/-- The character whose code point is written with the `width` digits at the start of a text. -/
def readCodePoint? (width : Nat) (cs : List Char) : Option Char := do
  if cs.length < width then none
  let n ← Text.digits? 16 (cs.take width)
  if n.isValidChar then some (Char.ofNat n) else none

/-- Reads the escapes in a quoted text, in which no control characters but tabs may stand. In `done`
are the characters read so far, the last one first. -/
def unescape? : Nat → List Char → List Char → Option (List Char)
  | 0, _, _ => none
  | _ + 1, done, [] => some done.reverse
  | fuel + 1, done, '\\' :: c :: cs =>
    if c == 'u' || c == 'U' then do
      let width := if c == 'u' then 4 else 8
      unescape? fuel ((← readCodePoint? width cs) :: done) (cs.drop width)
    else do unescape? fuel ((← escapeOf? c) :: done) cs
  | fuel + 1, done, c :: cs =>
    if c == '\\' || (c.toNat < 0x20 && c != '\t') || c == '\x7f' then none
    else unescape? fuel (c :: done) cs

/-- Reads a quoted text behind its opening quote, by `unescape?`, and gives what follows the closing
one. -/
def readQuoted? (cs : List Char) : Option (String × List Char) := do
  let (inner, rest) ← takeQuoted? cs
  return (String.ofList (← unescape? (inner.length + 1) [] inner), rest)

/-- Reads the key of a member, with or without quotes. Without, all characters are those of
`isKeyChar`. -/
def readKey? (cs : List Char) : Option (String × List Char) :=
  match cs with
  | '"' :: cs => readQuoted? cs
  | _ =>
    match cs.takeWhile isKeyChar with
    | [] => none
    | key => some (String.ofList key, cs.dropWhile isKeyChar)

mutual

/-- Reads a value with the blanks around it. The fuel counts the characters that are left. -/
def readValue? : Nat → List Char → Option (Value × List Char)
  | 0, _ => none
  | fuel + 1, cs => do
    let cs := cs.dropWhile isGap
    let (v, rest) ←
      -- a longer word that starts like a flag leaves a rest, and so is no value at all
      match Text.after? "true".toList cs, Text.after? "false".toList cs, cs with
      | some rest, _, _ => some (.flag true, rest)
      | none, some rest, _ => some (.flag false, rest)
      | none, none, '[' :: rest => do
        let (items, rest) ← readItems? fuel rest
        some (.list items, rest)
      | none, none, '\x7b' :: rest => do
        let (members, rest) ← readMembers? fuel rest
        some (.ofMembers members, rest)
      | none, none, '"' :: rest => do
        let (s, rest) ← readQuoted? rest
        some (.text s, rest)
      | none, none, '\'' :: c :: '\'' :: rest => some (.letter c, rest)
      | none, none, '\'' :: _ => none
      | none, none, cs =>
        let bare := cs.takeWhile (!isSeparator ·)
        some (bareValue (Text.trim Text.isBlank bare), cs.dropWhile (!isSeparator ·))
    some (v, rest.dropWhile isGap)

/-- Reads the items of a list, each by `readValue?`, up to its closing bracket. A comma may stand
behind the last one. -/
def readItems? : Nat → List Char → Option (List Value × List Char)
  | 0, _ => none
  | _ + 1, ']' :: cs => some ([], cs)
  | fuel + 1, cs => do
    let (item, cs) ← readValue? fuel cs
    match cs with
    | ',' :: cs => do
      let (items, cs) ← readItems? fuel cs
      some (item :: items, cs)
    | ']' :: cs => some ([item], cs)
    | _ => none

/-- Reads the members of a dictionary, each key by `readKey?`, up to its closing brace. A comma may
stand behind the last one. -/
def readMembers? : Nat → List Char → Option (List (String × Value) × List Char)
  | 0, _ => none
  | _ + 1, '\x7d' :: cs => some ([], cs)
  | fuel + 1, cs => do
    let (key, cs) ← readKey? (cs.dropWhile isGap)
    match cs.dropWhile isGap with
    | '=' :: cs => do
      let (v, cs) ← readValue? fuel cs
      match cs with
      | ',' :: cs => do
        let (members, cs) ← readMembers? fuel cs
        some ((key, v) :: members, cs)
      | '\x7d' :: cs => some ([(key, v)], cs)
      | _ => none
    | _ => none

end

/-- The value that the text of a variable stands for; a text that `readValue?` cannot read as one
stands for itself. -/
def valueOf (s : String) : Value :=
  let cs := s.toList
  match readValue? (2 * cs.length + 2) cs with
  -- anything behind the value makes the whole a text, its blanks included
  | some (v, []) => v
  | _ => .text s

/-! ## What a variable sets -/

/-- The start of the names of variables that are settings, whatever their case. -/
def settingLead : String := "connectivity_validator_"

/-- A text with a point for every two underscores. -/
def dotted : List Char → List Char
  | '_' :: '_' :: cs => '.' :: dotted cs
  | c :: cs => c :: dotted cs
  | [] => []

/-- The path of the setting that the variable `name` stands for, if it starts with `settingLead`. -/
def settingPath? (name : String) : Option (List String) := do
  let lower := (Text.trim Text.isBlank name.toList).map Char.toLower
  let rest ← Text.after? settingLead.toList lower
  let path := (Text.pieces '.' (Text.trim Text.isBlank (dotted rest))).map String.ofList
  if path.contains "" then none else some path

/-- The settings in an environment, each at the end of its `settingPath?`. What later variables set is
merged over what earlier ones do. -/
def settings (env : Environment) : Value :=
  env.foldl (fun v (name, said) =>
    match settingPath? name with
    | some path => v.merge (Value.nest path (valueOf said))
    | none => v) (.dict [])

end CertGate.Environment
