import CertGate.Yaml.Cursor
import CertGate.Yaml.Plain

/-!
# Writing texts

A text is written plain where it reads back as itself that way, else in single quotes, and in double
quotes with escapes where even those cannot hold it. A text of several lines is a block of lines.
-/

namespace CertGate.Yaml

/-- How a text is written. -/
inductive Style where
  | plain
  | single
  | double
  | block
  deriving DecidableEq, Repr

/-- Characters that stand for themselves. -/
def isWritable (c : Char) : Bool :=
  let n := c.toNat
  c == '\n' || (0x20 ≤ n && n ≤ 0x7E) || (0xA0 ≤ n && n ≤ 0xFFFD && n ≠ 0xFEFF)

/-- Characters that start no plain text. -/
def startsNoPlain (c : Char) : Bool :=
  "#,[]\x7b\x7d&*!|>'\"%@\x60".toList.contains c

/-- Whether two characters of two classes stand side by side. -/
def hasPair (p q : Char → Bool) : List Char → Bool
  | c :: d :: cs => (p c && q d) || hasPair p q (d :: cs)
  | _ => false

/-- Whether a text has the form of a plain one. -/
def fitsPlain (cs : List Char) : Bool :=
  cs.all isWritable && !cs.any isBreak
    && !cs.head?.any isSpace && !cs.getLast?.any isSpace
    && !"---".toList.isPrefixOf cs && !"...".toList.isPrefixOf cs
    && !cs.head?.any startsNoPlain
    && !(cs.head?.any (fun c => c == '?' || c == '-') && (cs.drop 1).head?.all isSpace)
    && !hasPair (· == ':') isSpace cs && cs.getLast? != some ':'
    && !hasPair isSpace (· == '#') cs

/-- Whether single quotes can hold a text. -/
def fitsSingle (cs : List Char) : Bool :=
  cs.all isWritable && !hasPair isBreak isSpace cs && !hasPair isSpace isBreak cs

/-- Whether a block of lines can hold a text. -/
def fitsBlock (cs : List Char) : Bool :=
  cs.all isWritable && !cs.getLast?.any isSpace && !hasPair isSpace isBreak cs

/-- Whether a plain text is read as a text. -/
def readsAsText (s : String) : Bool :=
  match plainValue s with
  | .text _ => !isPaddedNumber s.toList
  | _ => false

/-- How a text is written; a key on a line of its own name is never a block. -/
def styleOf (s : String) (lineKey : Bool) : Style :=
  let cs := s.toList
  -- only a line feed asks for a block; other line ends are kept by single quotes
  if cs.contains '\n' then if fitsBlock cs && !lineKey then .block else .double
  else if readsAsText s && fitsPlain cs then .plain
  else if fitsSingle cs then .single
  else .double

/-- A number in upper-case hexadecimal digits. -/
def upperHex (width n : Nat) : List Char :=
  let digits := (Nat.toDigits 16 n).map Char.toUpper
  List.replicate (width - digits.length) '0' ++ digits

/-- A character in double quotes. -/
def escaped (c : Char) : List Char :=
  let n := c.toNat
  match c with
  | '\x00' => ['\\', '0']
  | '\x07' => ['\\', 'a']
  | '\x08' => ['\\', 'b']
  | '\t' => ['\\', 't']
  | '\n' => ['\\', 'n']
  | '\x0b' => ['\\', 'v']
  | '\x0c' => ['\\', 'f']
  | '\r' => ['\\', 'r']
  | '\x1b' => ['\\', 'e']
  | '"' => ['\\', '"']
  | '\\' => ['\\', '\\']
  | '\u0085' => ['\\', 'N']
  | '\u2028' => ['\\', 'L']
  | '\u2029' => ['\\', 'P']
  | c =>
    if isWritable c then [c]
    else if n ≤ 0xFF then ['\\', 'x'] ++ upperHex 2 n
    else if n ≤ 0xFFFF then ['\\', 'u'] ++ upperHex 4 n
    else ['\\', 'U'] ++ upperHex 8 n

/-- Blanks up to a column. -/
def pad (column : Nat) : List Char := List.replicate column ' '

/-- Writes lines from a column on. `fresh` says whether the current line is still empty; an empty
one stays so. -/
def writeLines (column : Nat) : Bool → List Char → List Char
  | _, [] => []
  | fresh, c :: cs =>
    if isBreak c then c :: writeLines column true cs
    else (if fresh then pad column else []) ++ c :: writeLines column false cs

/-- What a block says of its first line and of its end: the depth, where the first line starts with
a blank or is empty, and whether the line ends behind the text are none or many. -/
def blockHints (cs : List Char) : List Char :=
  (if cs.head?.any (fun c => isSpace c || isBreak c) then ['2'] else [])
    ++ match cs.reverse with
      | c :: rest =>
        if !isBreak c then ['-'] else if rest.head?.all isBreak then ['+'] else []
      | [] => ['-']

/-- Writes a text in a style; further lines start at a column. -/
def writeStyled (column : Nat) (style : Style) (s : String) : List Char :=
  let cs := s.toList
  match style with
  | .plain => cs
  | .single =>
    let inner := cs.flatMap fun c => if c == '\'' then ['\'', '\''] else [c]
    let closing := if cs.getLast?.any isBreak then pad column else []
    '\'' :: writeLines column false inner ++ closing ++ ['\'']
  | .double => '"' :: cs.flatMap escaped ++ ['"']
  | .block => '|' :: blockHints cs ++ '\n' :: writeLines column true cs

/-- Ends the line, unless it has been ended. -/
def endLine (cs : List Char) : List Char :=
  if cs.getLast?.any isBreak then cs else cs ++ ['\n']

end CertGate.Yaml
