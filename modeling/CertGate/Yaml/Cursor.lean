/-!
# A place in a YAML text

A cursor is what is left of a text, with the place where it starts. Line ends are taken as a whole,
also those of two characters.
-/

namespace CertGate.Yaml

/-- What is left of a text, and the line and column at which it starts. -/
structure Cursor where
  rest : List Char
  index : Nat := 0
  line : Nat := 0
  column : Nat := 0

def isSpace (c : Char) : Bool := c == ' '

def isBlank (c : Char) : Bool := c == ' ' || c == '\t'

/-- Characters that end a line. -/
def isBreak (c : Char) : Bool :=
  c == '\r' || c == '\n' || c == '\u0085' || c == '\u2028' || c == '\u2029'

def isBlankOrBreak (c : Char) : Bool := isBlank c || isBreak c

/-- The characters of anchors and handles. -/
def isWordChar (c : Char) : Bool := c.isAlphanum || c == '_' || c == '-'

/-- The characters that may stand in a text at all. -/
def isPrintable (c : Char) : Bool :=
  let n := c.toNat
  c == '\t' || c == '\n' || c == '\r' || (0x20 ≤ n && n ≤ 0x7E) || n = 0x85
    || (0xA0 ≤ n && n ≤ 0xFFFD) || 0x10000 ≤ n

namespace Cursor

/-- Whether the character at an `offset` is in the class `p`; the end of the text is in every class. -/
def atOrEnd (c : Cursor) (offset : Nat) (p : Char → Bool) : Bool :=
  match c.rest.drop offset with
  | [] => true
  | x :: _ => p x

/-- Whether the next character is in the class `p`. -/
def sees (c : Cursor) (p : Char → Bool) : Bool :=
  match c.rest with
  | [] => false
  | x :: _ => p x

/-- Whether a blank, a line end or the end of the text comes next. -/
def atGap (c : Cursor) : Bool := c.atOrEnd 0 isBlankOrBreak

/-- Whether a line end or the end of the text comes next. -/
def atLineEnd (c : Cursor) : Bool := c.atOrEnd 0 isBreak

/-- Passes over `n` characters, none of which ends a line. -/
def skip (c : Cursor) (n : Nat) : Cursor :=
  { c with rest := c.rest.drop n, index := c.index + n, column := c.column + n }

/-- Passes over the run of the class `p`, in which no line ends. -/
def skipWhile (c : Cursor) (p : Char → Bool) : Cursor :=
  c.skip (c.rest.takeWhile p).length

/-- The run of the class `p`, in which no line ends, and the place behind it. -/
def takeWhile (c : Cursor) (p : Char → Bool) : List Char × Cursor :=
  (c.rest.takeWhile p, c.skipWhile p)

/-- Passes over a line end. Gives the character that stands for it, if there is a line end. -/
def takeBreak (c : Cursor) : List Char × Cursor :=
  let next (n : Nat) : Cursor :=
    { rest := c.rest.drop n, index := c.index + n, line := c.line + 1 }
  match c.rest with
  | '\r' :: '\n' :: _ => (['\n'], next 2)
  | '\r' :: _ => (['\n'], next 1)
  | '\n' :: _ => (['\n'], next 1)
  | '\u0085' :: _ => (['\n'], next 1)
  | '\u2028' :: _ => (['\u2028'], next 1)
  | '\u2029' :: _ => (['\u2029'], next 1)
  | _ => ([], c)

/-- Whether a line starts here with three times the character `mark`, with a gap behind them. -/
def atDocumentMark (c : Cursor) (mark : Char) : Bool :=
  c.column == 0 && c.rest.take 3 == [mark, mark, mark] && c.atOrEnd 3 isBlankOrBreak

/-- Whether the start or end of a document is marked here. -/
def atDocumentEdge (c : Cursor) : Bool :=
  c.atDocumentMark '-' || c.atDocumentMark '.'

/-- Passes over a comment and everything up to the end of the line. -/
def skipComment (c : Cursor) : Cursor :=
  if c.sees (· == '#') then c.skipWhile (!isBreak ·) else c

end Cursor

/-- Blanks and line ends between two parts of a scalar. -/
structure Spacing where
  blanks : List Char := []
  firstBreak : List Char := []
  moreBreaks : List Char := []
  broken : Bool := false

namespace Spacing

/-- The characters that a `Spacing` stands for: its blanks, or, over line ends, a single space for one
line end and otherwise all but the first. -/
def text (s : Spacing) : List Char :=
  if !s.broken then s.blanks
  else if s.firstBreak == ['\n'] then if s.moreBreaks.isEmpty then [' '] else s.moreBreaks
  else s.firstBreak ++ s.moreBreaks

/-- Takes a line end into a `Spacing`. -/
def addBreak (s : Spacing) (lineEnd : List Char) : Spacing :=
  if s.broken then { s with moreBreaks := s.moreBreaks ++ lineEnd }
  else { s with blanks := [], firstBreak := lineEnd, broken := true }

/-- Takes a blank into a `Spacing`; those at the start of a line are lost. -/
def addBlank (s : Spacing) (c : Char) : Spacing :=
  if s.broken then s else { s with blanks := s.blanks ++ [c] }

end Spacing

end CertGate.Yaml
