import CertGate.Url.Percent
import CertGate.Yaml.Scalar

/-!
# YAML tokens

`Token.scan?` cuts a text into tokens. Indentation becomes tokens of its own: where a block
collection starts and where it ends. Whether a text is a key shows only at the colon behind it;
its place among the tokens is kept until then, and the key token goes there.
-/

namespace CertGate.Yaml

/-- The tokens of a YAML text. -/
inductive Token where
  | version (major minor : Nat)
  | handle (handle : String) (lead : String)
  | documentStart
  | documentEnd
  | blockSequence
  | blockMapping
  | blockEnd
  | flowSequence
  | flowSequenceEnd
  | flowMapping
  | flowMappingEnd
  | entry
  | flowEntry
  | key
  | value
  | alias (name : String)
  | anchor (name : String)
  | tag (handle suffix : String)
  | scalar (text : String) (plain : Bool)
  deriving DecidableEq, Repr

/-- Where a key may have started. -/
structure KeyPlace where
  required : Bool
  tokenNumber : Nat
  index : Nat
  line : Nat
  column : Nat

/-- A text in the course of being cut into tokens. Depths of blocks are columns; there is none
outside all blocks. `keys` has a place for each flow collection around and one for the block; the
last token comes first. -/
structure Lexer where
  cursor : Cursor
  flowDepth : Nat := 0
  keyAllowed : Bool := true
  indent : Option Nat := none
  outer : List (Option Nat) := []
  keys : List (Option KeyPlace) := [none]
  tokens : List Token := []
  count : Nat := 0

namespace Lexer

def inFlow (l : Lexer) : Bool := l.flowDepth != 0

/-- Adds a `Token` behind all others. -/
def emit (l : Lexer) (t : Token) : Lexer :=
  { l with tokens := t :: l.tokens, count := l.count + 1 }

/-- Adds tokens in the place of an earlier one, that of the `number`. -/
def emitAt (l : Lexer) (number : Nat) (ts : List Token) : Lexer :=
  -- the last token comes first, so what was emitted since then stands in front
  let later := l.tokens.take (l.count - number)
  { l with
    tokens := later ++ ts.reverse ++ l.tokens.drop (l.count - number)
    count := l.count + ts.length }

/-- Passes over characters of the current line. -/
def skip (l : Lexer) (n : Nat) : Lexer := { l with cursor := l.cursor.skip n }

/-! ## Indentation and keys -/

/-- Whether `column` is deeper than the block around. -/
def isDeeper (l : Lexer) (column : Nat) : Bool :=
  match l.indent with
  | some n => n < column
  | none => true

/-- Starts a block, whose first token is emitted by `start`. -/
def openBlock (l : Lexer) (column : Nat) (start : Lexer → Lexer) : Lexer :=
  if !l.inFlow && l.isDeeper column then
    start { l with indent := some column, outer := l.indent :: l.outer }
  else l

/-- Ends the blocks, the innermost first, that are deeper than `column`; without one, all of them. -/
def closeDeeper (column : Option Nat) : List (Option Nat) → Option Nat → Lexer → Lexer
  | outer :: outers, some n, l =>
    if column.all (· < n) then
      closeDeeper column outers outer { l.emit .blockEnd with indent := outer, outer := outers }
    else l
  | _, _, l => l

/-- Ends the blocks that are deeper than `column`, outside flow collections. -/
def closeBlocks (l : Lexer) (column : Option Nat) : Lexer :=
  if l.inFlow then l else closeDeeper column l.outer l.indent l

/-- Whether a key that started at a `KeyPlace` can still be one. -/
def isFresh (l : Lexer) (k : KeyPlace) : Bool :=
  k.line == l.cursor.line && l.cursor.index ≤ k.index + 1024

/-- Forgets the places of `keys` that are on an earlier line or too far away. One that had to be a key
is a fault. -/
def dropStaleKeys? (l : Lexer) : Option Lexer := do
  let keys ← l.keys.mapM fun k? =>
    match k? with
    | none => some none
    | some k => if l.isFresh k then some (some k) else if k.required then none else some none
  return { l with keys }

/-- Forgets the place of a key in the innermost collection, the first of `keys`. -/
def dropKey? (l : Lexer) : Option Lexer :=
  match l.keys with
  | some k :: rest => if k.required then none else some { l with keys := none :: rest }
  | _ => some l

/-- Notes that a key may start here, if `keyAllowed`. -/
def noteKey? (l : Lexer) : Option Lexer :=
  if l.keyAllowed then do
    -- at the depth of a block mapping nothing but a key can start
    let required := !l.inFlow && l.indent == some l.cursor.column
    let l ← l.dropKey?
    let place : KeyPlace :=
      { required, tokenNumber := l.count, index := l.cursor.index, line := l.cursor.line,
        column := l.cursor.column }
    return { l with keys := some place :: l.keys.drop 1 }
  else some l

/-! ## Single tokens -/

/-- Takes the opening of a flow collection, `flowSequence` or `flowMapping`. -/
def openFlow? (l : Lexer) (t : Token) : Option Lexer := do
  let l ← l.noteKey?
  return { (l.skip 1).emit t with
    flowDepth := l.flowDepth + 1, keys := none :: l.keys, keyAllowed := true }

/-- Takes the end of a flow collection, `flowSequenceEnd` or `flowMappingEnd`. -/
def closeFlow? (l : Lexer) (t : Token) : Option Lexer := do
  let l ← l.dropKey?
  let l := if l.inFlow then { l with flowDepth := l.flowDepth - 1, keys := l.keys.drop 1 } else l
  return { (l.skip 1).emit t with keyAllowed := false }

/-- Takes the comma in a flow collection, a `flowEntry`. -/
def takeFlowEntry? (l : Lexer) : Option Lexer := do
  let l ← l.dropKey?
  return { (l.skip 1).emit .flowEntry with keyAllowed := true }

/-- Takes the mark of a sequence entry, an `entry`. -/
def takeEntry? (l : Lexer) : Option Lexer := do
  if !l.inFlow && !l.keyAllowed then none
  let l ← (l.openBlock l.cursor.column (·.emit .blockSequence)).dropKey?
  return { (l.skip 1).emit .entry with keyAllowed := true }

/-- Takes the mark of a key, a `Token.key`. -/
def takeKey? (l : Lexer) : Option Lexer := do
  if !l.inFlow && !l.keyAllowed then none
  let l ← (l.openBlock l.cursor.column (·.emit .blockMapping)).dropKey?
  return { (l.skip 1).emit .key with keyAllowed := !l.inFlow }

/-- Takes the mark of a value, a `Token.value`. What stood before it becomes the key, if it can be one. -/
def takeValue? (l : Lexer) : Option Lexer :=
  match l.keys with
  | some k :: rest =>
    -- the key token goes first, so that the opening of a new mapping comes to stand before it
    let l := { l with keys := none :: rest }.emitAt k.tokenNumber [.key]
    let l := l.openBlock k.column (·.emitAt k.tokenNumber [.blockMapping])
    some { (l.skip 1).emit .value with keyAllowed := false }
  | _ =>
    if !l.inFlow && !l.keyAllowed then none
    else
      let l := l.openBlock l.cursor.column (·.emit .blockMapping)
      some { (l.skip 1).emit .value with keyAllowed := !l.inFlow }

/-- Takes an anchor or an alias, of which `make` makes a token. -/
def takeName? (l : Lexer) (make : String → Token) : Option Lexer := do
  let l ← l.noteKey?
  let (name, c) := (l.cursor.skip 1).takeWhile isWordChar
  let ends := c.atOrEnd 0 fun x => isBlankOrBreak x || "?:,]\x7d%@\x60".toList.contains x
  if name.isEmpty || !ends then none
  return { l with cursor := c, keyAllowed := false }.emit (make (String.ofList name))

/-- Characters of the URI of a tag. -/
def isTagChar (verbatim : Bool) (c : Char) : Bool :=
  isWordChar c || ";/?:@&=+$.%!~*'()".toList.contains c || (verbatim && ",[]".toList.contains c)

/-- Reads the URI of a tag, which has characters of `isTagChar` and may have bytes percent-encoded. -/
def readTagUri? (verbatim : Bool) (c : Cursor) : Option (String × Cursor) := do
  let (written, c) := c.takeWhile (isTagChar verbatim)
  let bytes := Url.decodeBytes (Text.Utf8.encode written)
  if (written.filter (· == '%')).length ≠ 0 ∧ bytes.length + 2 * (written.filter (· == '%')).length
      ≠ (Text.Utf8.encode written).length then none
  return (← Text.Utf8.text? bytes, c)

/-- The handle that a tag starts with. -/
def readHandle (c : Cursor) : List Char × Cursor :=
  let (word, after) := (c.skip 1).takeWhile isWordChar
  if after.sees (· == '!') then ('!' :: word ++ ['!'], after.skip 1) else ('!' :: word, after)

/-- Reads a `Token.tag`: in angle brackets, behind a handle of its own, or behind the mark alone. -/
def readTag? (c : Cursor) : Option (Token × Cursor) :=
  if (c.skip 1).sees (· == '<') then do
    let (uri, c) ← readTagUri? true (c.skip 2)
    if uri.isEmpty || !c.sees (· == '>') then none
    return (.tag "" uri, c.skip 1)
  else do
    let (handle, after) := readHandle c
    let (uri, rest) ← readTagUri? false after
    if handle.length > 1 && handle.getLast? == some '!' then
      if uri.isEmpty then none
      return (.tag (String.ofList handle) uri, rest)
    -- without a second mark, what was taken for a handle is the start of the suffix
    let suffix := String.ofList (handle.drop 1) ++ uri
    return (if suffix.isEmpty then .tag "" "!" else .tag "!" suffix, rest)

/-- Takes a tag, which `readTag?` reads. -/
def takeTag? (l : Lexer) : Option Lexer := do
  let l ← l.noteKey?
  let (token, c) ← readTag? l.cursor
  if !(l.inFlow && c.sees (· == ',')) && !c.atGap then none
  return { l with cursor := c, keyAllowed := false }.emit token

/-- Takes a block of lines, which `readBlock?` reads. -/
def takeBlockScalar? (l : Lexer) (folded : Bool) : Option Lexer := do
  let l ← l.dropKey?
  let (text, c) ← readBlock? folded l.indent l.cursor
  return { l with cursor := c, keyAllowed := true }.emit (.scalar (String.ofList text) false)

/-- Takes a quoted text, which `readQuoted?` reads. -/
def takeQuoted? (l : Lexer) (single : Bool) : Option Lexer := do
  let l ← l.noteKey?
  let (text, c) ← readQuoted? single l.cursor
  return { l with cursor := c, keyAllowed := false }.emit (.scalar (String.ofList text) false)

/-- Takes a plain text, which `readPlain?` reads. A line end behind it lets a key start. -/
def takePlain? (l : Lexer) : Option Lexer := do
  let l ← l.noteKey?
  -- further lines of the text have to stand deeper than the block around
  let depth := (l.indent.map (· + 1)).getD 0
  let (text, broken, c) ← readPlain? l.inFlow depth l.cursor
  return { l with cursor := c, keyAllowed := broken }.emit (.scalar (String.ofList text) true)

/-- Takes the mark of a `documentStart` or `documentEnd`. -/
def takeDocumentMark? (l : Lexer) (t : Token) : Option Lexer := do
  let l ← (l.closeBlocks none).dropKey?
  return { (l.skip 3).emit t with keyAllowed := false }

/-- Reads the numbers of a `Token.version`. -/
def readVersion? (c : Cursor) : Option (Token × Cursor) := do
  let (major, c) := (c.skipWhile isBlank).takeWhile Char.isDigit
  if !c.sees (· == '.') then none
  let (minor, c) := (c.skip 1).takeWhile Char.isDigit
  -- longer numbers are refused even if zeros fill them
  if major.length > 9 || minor.length > 9 then none
  return (.version (← Text.digits? 10 major) (← Text.digits? 10 minor), c)

/-- Reads the declaration of a `Token.handle`. -/
def readDeclaration? (c : Cursor) : Option (Token × Cursor) := do
  let c := c.skipWhile isBlank
  if !c.sees (· == '!') then none
  let (handle, c) := readHandle c
  if handle.getLast? ≠ some '!' || !c.sees isBlank then none
  let (lead, c) ← readTagUri? true (c.skipWhile isBlank)
  if lead.isEmpty || !c.atGap then none
  return (.handle (String.ofList handle) lead, c)

/-- Takes a directive: `YAML` with a version, or `TAG` with a handle. -/
def takeDirective? (l : Lexer) : Option Lexer := do
  let l ← (l.closeBlocks none).dropKey?
  let (name, c) := (l.cursor.skip 1).takeWhile isWordChar
  if !c.atGap then none
  let (token, c) ←
    match String.ofList name with
    | "YAML" => readVersion? c
    | "TAG" => readDeclaration? c
    | _ => none
  let c := (c.skipWhile isBlank).skipComment
  if !c.atLineEnd then none
  return { l with cursor := c.takeBreak.2, keyAllowed := false }.emit token

/-! ## The next token -/

/-- Passes over blanks, comments and line ends. A tab may stand only where no key can start. A line
end lets a key start. A byte order mark may start a line, of which it takes the first column. -/
def skipGap : Nat → Lexer → Lexer
  | 0, l => l
  | fuel + 1, l =>
    let c := l.cursor
    let c := if c.column == 0 && c.sees (· == '\ufeff') then c.skip 1 else c
    -- where a key may start, a tab would be indentation
    let tabs := l.inFlow || !l.keyAllowed
    let c := (c.skipWhile fun x => x == ' ' || (tabs && x == '\t')).skipComment
    if c.sees isBreak then
      skipGap fuel { l with cursor := c.takeBreak.2, keyAllowed := l.keyAllowed || !l.inFlow }
    else { l with cursor := c }

/-- Characters that start no plain text by themselves. -/
def isIndicator (c : Char) : Bool :=
  isBlankOrBreak c || "-?:,[]\x7b\x7d#&*!|>'\"%@\x60".toList.contains c

/-- Whether a plain text starts here with the character `x`. -/
def startsPlain (l : Lexer) (x : Char) : Bool :=
  !isIndicator x || (x == '-' && !(l.cursor.skip 1).sees isBlank)
    || (!l.inFlow && (x == '?' || x == ':') && !l.cursor.atOrEnd 1 isBlankOrBreak)

/-- Takes the token that starts with the character `x`. -/
def takeToken? (l : Lexer) (x : Char) : Option Lexer :=
  let gapNext := l.cursor.atOrEnd 1 isBlankOrBreak
  if l.cursor.column == 0 && x == '%' then l.takeDirective?
  else if l.cursor.atDocumentMark '-' then l.takeDocumentMark? .documentStart
  else if l.cursor.atDocumentMark '.' then l.takeDocumentMark? .documentEnd
  else if x == '[' then l.openFlow? .flowSequence
  else if x == '\x7b' then l.openFlow? .flowMapping
  else if x == ']' then l.closeFlow? .flowSequenceEnd
  else if x == '\x7d' then l.closeFlow? .flowMappingEnd
  else if x == ',' then l.takeFlowEntry?
  else if x == '-' && gapNext then l.takeEntry?
  else if x == '?' && (l.inFlow || gapNext) then l.takeKey?
  else if x == ':' && (l.inFlow || gapNext) then l.takeValue?
  else if x == '*' then l.takeName? .alias
  else if x == '&' then l.takeName? .anchor
  else if x == '!' then l.takeTag?
  else if x == '|' && !l.inFlow then l.takeBlockScalar? false
  else if x == '>' && !l.inFlow then l.takeBlockScalar? true
  else if x == '\'' then l.takeQuoted? true
  else if x == '"' then l.takeQuoted? false
  else if l.startsPlain x then l.takePlain?
  else none

/-- Ends all blocks at the end of the text, by `closeBlocks`. -/
def finish? (l : Lexer) : Option (List Token) := do
  let l ← (l.closeBlocks none).dropKey?
  return l.tokens.reverse

/-- Takes tokens to the end of the text. -/
def run? : Nat → Lexer → Option (List Token)
  | 0, _ => none
  | fuel + 1, l => do
    -- every round takes a character, so the fuel lasts to the end of the text
    let l ← (skipGap (l.cursor.rest.length + 1) l).dropStaleKeys?
    match l.cursor.rest with
    | [] => l.finish?
    | x :: _ => run? fuel (← (l.closeBlocks (some l.cursor.column)).takeToken? x)

end Lexer

/-- Cuts a text into tokens, if every character `isPrintable`. -/
def Token.scan? (s : String) : Option (List Token) :=
  let cs := s.toList
  if cs.all isPrintable then Lexer.run? (cs.length + 1) { cursor := { rest := cs } } else none

end CertGate.Yaml
