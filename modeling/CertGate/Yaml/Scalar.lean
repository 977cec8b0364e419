import CertGate.Text.Digits
import CertGate.Yaml.Cursor

/-!
# Scalars in a YAML text

The four ways to write a text: plain, in single or double quotes, and as a block of lines. Each
reader starts at the first character and gives the text and the place behind it; nothing is a fault
of form. Fuel counts the characters that are left.
-/

namespace CertGate.Yaml

/-! ## Quotes -/

/-- The character that a letter stands for behind a backslash. -/
def escapeOf? : Char → Option Char
  | '0' => some '\x00'
  | 'a' => some '\x07'
  | 'b' => some '\x08'
  | 't' => some '\t'
  | '\t' => some '\t'
  | 'n' => some '\n'
  | 'v' => some '\x0b'
  | 'f' => some '\x0c'
  | 'r' => some '\r'
  | 'e' => some '\x1b'
  | ' ' => some ' '
  | '"' => some '"'
  | '/' => some '/'
  | '\\' => some '\\'
  | 'N' => some '\u0085'
  | '_' => some '\u00a0'
  | 'L' => some '\u2028'
  | 'P' => some '\u2029'
  | _ => none

/-- How many digits follow a letter behind a backslash. -/
def escapeDigits? : Char → Option Nat
  | 'x' => some 2
  | 'u' => some 4
  | 'U' => some 8
  | _ => none

/-- The character of a code point. -/
def charOf? (n : Nat) : Option Char :=
  if n.isValidChar then some (Char.ofNat n) else none

/-- Reads what follows a backslash. -/
def readEscape? (c : Cursor) : Option (Char × Cursor) := do
  let letter ← c.rest.head?
  match escapeDigits? letter with
  | some n =>
    let code ← Text.digits? 16 ((c.rest.drop 1).take n)
    if (c.rest.drop 1).length < n then none
    return (← charOf? code, c.skip (n + 1))
  | none => return (← escapeOf? letter, c.skip 1)

/-- Reads characters up to a blank, a line end or the closing quote. A backslash at the end of a
line hides the line end. `done` holds the characters read so far, the last one first. -/
def readQuotedRun? (single : Bool) : Nat → List Char → Cursor →
    Option (List Char × Bool × Cursor)
  | 0, _, _ => none
  | fuel + 1, done, c =>
    match c.rest with
    | [] => some (done.reverse, false, c)
    | x :: rest =>
      if isBlankOrBreak x then some (done.reverse, false, c)
      else if single && x == '\'' then
        if rest.head? == some '\'' then readQuotedRun? single fuel ('\'' :: done) (c.skip 2)
        else some (done.reverse, false, c)
      else if !single && x == '"' then some (done.reverse, false, c)
      else if !single && x == '\\' then
        if (c.skip 1).sees isBreak then some (done.reverse, true, (c.skip 1).takeBreak.2)
        else do
          let (e, c) ← readEscape? (c.skip 1)
          readQuotedRun? single fuel (e :: done) c
      else readQuotedRun? single fuel (x :: done) (c.skip 1)

/-- Reads blanks and line ends. -/
def readSpacing : Nat → Spacing → Cursor → Spacing × Cursor
  | 0, s, c => (s, c)
  | fuel + 1, s, c =>
    match c.rest with
    | [] => (s, c)
    | x :: _ =>
      if isBlank x then readSpacing fuel (s.addBlank x) (c.skip 1)
      else if isBreak x then
        let (lineEnd, c) := c.takeBreak
        readSpacing fuel (s.addBreak lineEnd) c
      else (s, c)

/-- Reads a quoted text behind its opening quote. -/
def readQuotedFrom? (single : Bool) : Nat → List Char → Cursor → Option (List Char × Cursor)
  | 0, _, _ => none
  | fuel + 1, done, c =>
    if c.atDocumentEdge || c.rest.isEmpty then none
    else do
      let (run, hidden, c) ← readQuotedRun? single (c.rest.length + 1) [] c
      let done := done ++ run
      if !hidden && c.sees (· == if single then '\'' else '"') then some (done, c.skip 1)
      else
        let (spacing, c) := readSpacing (c.rest.length + 1) { broken := hidden } c
        readQuotedFrom? single fuel (done ++ spacing.text) c

/-- Reads a quoted text. -/
def readQuoted? (single : Bool) (c : Cursor) : Option (List Char × Cursor) :=
  readQuotedFrom? single (c.rest.length + 1) [] (c.skip 1)

/-! ## Plain text -/

/-- Characters that part the items of a flow collection. -/
def isFlowMark (c : Char) : Bool :=
  c == ',' || c == '[' || c == ']' || c == '\x7b' || c == '\x7d'

/-- Reads plain characters up to a blank or what ends a plain text. `done` holds the characters read
so far, the last one first. -/
def readPlainRun? (inFlow : Bool) : Nat → List Char → Cursor → Option (List Char × Cursor)
  | 0, _, _ => none
  | fuel + 1, done, c =>
    match c.rest with
    | [] => some (done.reverse, c)
    | x :: _ =>
      if isBlankOrBreak x then some (done.reverse, c)
      else if inFlow && x == ':' && (c.skip 1).sees (fun y => isFlowMark y || y == '?') then none
      else if (x == ':' && c.atOrEnd 1 isBlankOrBreak) || (inFlow && isFlowMark x) then
        some (done.reverse, c)
      else readPlainRun? inFlow fuel (x :: done) (c.skip 1)

/-- Whether a tab stands in the indentation of a line. -/
def hasTabIndent (indent : Nat) : Nat → Bool → Cursor → Bool
  | 0, _, _ => false
  | fuel + 1, broken, c =>
    match c.rest with
    | [] => false
    | x :: _ =>
      if x == '\t' && broken && c.column < indent then true
      else if isBlank x then hasTabIndent indent fuel broken (c.skip 1)
      else if isBreak x then hasTabIndent indent fuel true c.takeBreak.2
      else false

/-- Reads a plain text from a run on. `spacing` stands before the run. Gives the text, whether it is
followed by a line end, and the place behind it. -/
def readPlainFrom? (inFlow : Bool) (indent : Nat) : Nat → List Char → Spacing → Cursor →
    Option (List Char × Bool × Cursor)
  | 0, _, _, _ => none
  | fuel + 1, done, spacing, c =>
    if c.atDocumentEdge || c.sees (· == '#') then some (done, spacing.broken, c)
    else do
      let (run, c) ← readPlainRun? inFlow (c.rest.length + 1) [] c
      let (done, spacing) :=
        if run.isEmpty then (done, spacing) else (done ++ spacing.text ++ run, {})
      if !c.sees isBlankOrBreak then return (done, spacing.broken, c)
      if hasTabIndent indent (c.rest.length + 1) spacing.broken c then none
      let (spacing, c) := readSpacing (c.rest.length + 1) spacing c
      -- a line that is not deeper than the block around is no part of the text
      if !inFlow && c.column < indent then return (done, spacing.broken, c)
      readPlainFrom? inFlow indent fuel done spacing c

/-- Reads a plain text. -/
def readPlain? (inFlow : Bool) (indent : Nat) (c : Cursor) :
    Option (List Char × Bool × Cursor) :=
  readPlainFrom? inFlow indent (c.rest.length + 1) [] {} c

/-! ## Blocks -/

/-- What becomes of the line ends at the end of a block. -/
inductive Chomping where
  | strip
  | clip
  | keep
  deriving DecidableEq

/-- Reads one indicator of a block header. -/
def readChomping (c : Cursor) : Chomping × Cursor :=
  if c.sees (· == '+') then (.keep, c.skip 1)
  else if c.sees (· == '-') then (.strip, c.skip 1)
  else (.clip, c)

/-- Reads the depth that a block header gives; zero if it gives none. -/
def readDepth? (c : Cursor) : Option (Nat × Cursor) :=
  match c.rest with
  | d :: _ =>
    if d == '0' then none
    else if d.isDigit then some (d.toNat - '0'.toNat, c.skip 1)
    else some (0, c)
  | [] => some (0, c)

/-- Reads a block header, whose two indicators come in either order, to the end of its line. -/
def readBlockHeader? (c : Cursor) : Option (Chomping × Nat × Cursor) := do
  let finish (chomping : Chomping) (depth : Nat) (c : Cursor) :
      Option (Chomping × Nat × Cursor) :=
    let c := (c.skipWhile isBlank).skipComment
    if c.atLineEnd then some (chomping, depth, c.takeBreak.2) else none
  if c.sees fun x => x == '+' || x == '-' then
    let (chomping, c) := readChomping c
    let (depth, c) ← readDepth? c
    finish chomping depth c
  else
    let (depth, c) ← readDepth? c
    let (chomping, c) := if depth = 0 then (.clip, c) else readChomping c
    finish chomping depth c

/-- Reads the empty lines in front of a line of a block. With no depth known, the deepest line gives
it. -/
def readBlockGap? : Nat → Nat → Nat → List Char → Cursor → Option (List Char × Nat × Cursor)
  | 0, _, _, _, _ => none
  | fuel + 1, depth, deepest, breaks, c =>
    -- a known depth is not passed: blanks beyond it belong to the line
    let indent := (c.rest.takeWhile isSpace).length
    let c := c.skip (if depth = 0 then indent else min indent (depth - c.column))
    let deepest := max deepest c.column
    if (depth = 0 || c.column < depth) && c.sees (· == '\t') then none
    else if c.sees isBreak then
      let (lineEnd, c) := c.takeBreak
      readBlockGap? fuel depth deepest (breaks ++ lineEnd) c
    else some (breaks, deepest, c)

/-- A block while it is read: its text, the line end of the last line, the empty lines behind it,
and whether that line started with a blank. -/
structure BlockState where
  done : List Char := []
  lineEnd : List Char := []
  gap : List Char := []
  wasBlank : Bool := false

/-- Adds a line. When folding, the line end between two lines that start with no blank becomes a
space, or nothing before empty lines. -/
def BlockState.addLine (s : BlockState) (folded : Bool) (line lineEnd : List Char) : BlockState :=
  let startsBlank := (line.headD 'x' |> isBlank)
  -- lines that start with a blank keep the line ends around them
  let joint :=
    if folded && s.lineEnd == ['\n'] && !s.wasBlank && !startsBlank then
      if s.gap.isEmpty then [' '] else []
    else s.lineEnd
  { done := s.done ++ joint ++ s.gap ++ line, lineEnd, wasBlank := startsBlank }

/-- Reads the lines of a block. -/
def readBlockLines? (folded : Bool) (depth : Nat) : Nat → BlockState → Cursor →
    Option (BlockState × Cursor)
  | 0, _, _ => none
  | fuel + 1, s, c =>
    if c.column == depth && !c.rest.isEmpty then do
      let (line, c) := c.takeWhile (!isBreak ·)
      let (lineEnd, c) := c.takeBreak
      let s := s.addLine folded line lineEnd
      let (gap, _, c) ← readBlockGap? (c.rest.length + 1) depth 0 [] c
      readBlockLines? folded depth fuel { s with gap } c
    else some (s, c)

/-- Reads a block. `indent` is the depth of the collection around it, if there is one. -/
def readBlock? (folded : Bool) (indent : Option Nat) (c : Cursor) :
    Option (List Char × Cursor) := do
  let (chomping, given, c) ← readBlockHeader? (c.skip 1)
  let depth := if given = 0 then 0 else indent.getD 0 + given
  let (gap, deepest, c) ← readBlockGap? (c.rest.length + 1) depth 0 [] c
  -- with no depth given, the deepest of the first lines decides, but the block has to be deeper
  -- than what is around it
  let least := (indent.map (· + 1)).getD 1
  let depth := if depth = 0 then max deepest (max least 1) else depth
  let (s, c) ← readBlockLines? folded depth (c.rest.length + 1) { gap } c
  let ending := match chomping with
    | .strip => []
    | .clip => s.lineEnd
    | .keep => s.lineEnd ++ s.gap
  return (s.done ++ ending, c)

end CertGate.Yaml
