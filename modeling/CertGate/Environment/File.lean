import CertGate.Environment
import CertGate.Text.Alphanumeric
import CertGate.Text.Blank
import CertGate.Text.Utf8

/-!
# Environment files

A file of variables, one to a line, as in `NAME=value # comment`. Quotes may hold line ends, and
`$NAME` stands for a variable. Lines up to the first bad one count; a variable that is set already
is left alone.
-/

namespace CertGate.Environment.File

/-! ## Lines -/

/-- Where a line has got to: what kind of quotes are open, whether a backslash hides the next
character, whether a blank came last outside quotes. -/
inductive LineState where
  | plain
  | blank
  | hidden
  | single
  | singleHidden
  | double
  | doubleHidden
  deriving DecidableEq, Repr

/-- The state behind the character `c` outside quotes, which is no blank. -/
def LineState.afterPlain (c : Char) : LineState :=
  if c == '\\' then .hidden
  else if c == '"' then .double
  else if c == '\'' then .single
  else .plain

/-- The state behind the character `c`. -/
def LineState.next (s : LineState) (c : Char) : LineState :=
  match s with
  | .blank => afterPlain c
  | .plain => if Text.isBlank c && c != '\n' && c != '\r' then .blank else afterPlain c
  | .hidden => .plain
  | .single => if c == '\\' then .singleHidden else if c == '\'' then .plain else .single
  | .singleHidden => .single
  | .double => if c == '\\' then .doubleHidden else if c == '"' then .plain else .double
  | .doubleHidden => .double

/-- The state at the end of a line, and what stands there before a comment. A comment starts behind
a blank; nothing is said of the state then. -/
def lineState : LineState → List Char → Option LineState × List Char
  | s, [] => (some s, [])
  | s, c :: cs =>
    if s == .blank && c == '#' then (none, [])
    else
      let (last, kept) := lineState (s.next c) cs
      (last, c :: kept)

/-- A line without its end. -/
def dropLineEnd (cs : List Char) : List Char :=
  match cs.reverse with
  | '\n' :: '\r' :: rest => rest.reverse
  | '\n' :: rest => rest.reverse
  | _ => cs

/-- Cuts bytes behind every line end. In `done` are the bytes of the line so far, the last one first. -/
def cutLines (done : List UInt8) : List UInt8 → List (List UInt8)
  | [] => if done.isEmpty then [] else [done.reverse]
  | b :: bs => if b == 10 then (b :: done).reverse :: cutLines [] bs else cutLines (b :: done) bs

/-- Puts lines together where one ends within quotes. A line that is bad is `none`, and the last. -/
def joinLines (before : List Char) (s : LineState) : List (List UInt8) → List (Option (List Char))
  | [] => if s == .plain then [] else [none]
  | line :: lines =>
    match Text.Utf8.decode? line with
    | none => [none]
    | some cs =>
      -- a line of comment counts as such before its quotes are looked at
      if ((before ++ cs).dropWhile Text.isBlank).head? == some '#' then
        some [] :: joinLines [] .plain lines
      else
        match lineState s cs with
        | (some .plain, _) => some (dropLineEnd (before ++ cs)) :: joinLines [] .plain lines
        | (some s, _) => joinLines (before ++ cs) s lines
        | (none, kept) => some (before ++ kept) :: joinLines [] .plain lines

/-- The lines of a file with these bytes. A bad one is `none`. -/
def lines (content : List UInt8) : List (Option (List Char)) :=
  let content := match content with
    | 0xEF :: 0xBB :: 0xBF :: rest => rest
    | _ => content
  joinLines [] .plain (cutLines [] content)

/-! ## Values -/

/-- Where `readValue?` has got to in a value. -/
inductive ValueState where
  | plain
  | single
  | double
  /-- Behind a backslash, in double quotes or not. -/
  | hidden (inDouble : Bool)
  /-- Behind a dollar sign; the name of the variable so far, the last character first. -/
  | name (inDouble : Bool) (done : List Char)
  /-- Behind a dollar sign and a brace; the name so far, as in `name`. -/
  | braced (inDouble : Bool) (done : List Char)
  /-- Behind the value, where only a comment may stand. -/
  | behind
  deriving DecidableEq, Repr

/-- The state of a value outside single quotes, within double quotes or not. -/
def ValueState.outside (inDouble : Bool) : ValueState :=
  if inDouble then .double else .plain

/-- What stands for the variable with the name `done`, both with the last character first. -/
def expand (env : Environment) (done : List Char) : List Char :=
  ((env.get? (String.ofList done.reverse)).getD "").toList.reverse

/-- Characters that a backslash may hide, and what they stand for. -/
def hiddenChar? (c : Char) : Option Char :=
  if c == '\\' || c == '\'' || c == '"' || c == '$' || c == ' ' then some c
  else if c == 'n' then some '\n'
  else none

/-- Reads a value. In `done` are its characters so far, the last one first. -/
def readValue? (env : Environment) : ValueState → List Char → List Char → Option (List Char)
  | .plain, done, [] | .hidden false, done, [] | .behind, done, [] => some done.reverse
  | .name false name, done, [] => some (expand env name ++ done).reverse
  | _, _, [] => none
  | .behind, done, c :: cs =>
    if c == ' ' || c == '\t' then readValue? env .behind done cs
    else if c == '#' then some done.reverse
    else none
  | .hidden inDouble, done, c :: cs => do
    readValue? env (.outside inDouble) ((← hiddenChar? c) :: done) cs
  | .single, done, c :: cs =>
    if c == '\'' then readValue? env .plain done cs else readValue? env .single (c :: done) cs
  | .name inDouble name, done, c :: cs =>
    -- a low line ends a name, so only names without one can be meant outside braces
    if Text.isAlphanumeric c then readValue? env (.name inDouble (c :: name)) done cs
    else if c == '\x7b' && name.isEmpty then readValue? env (.braced inDouble []) done cs
    else
      let done := expand env name ++ done
      if c == '$' then readValue? env (.name inDouble []) done cs
      else readValue? env (.outside inDouble) (c :: done) cs
  | .braced inDouble name, done, c :: cs =>
    if c == '\x7d' then readValue? env (.outside inDouble) (expand env name ++ done) cs
    else readValue? env (.braced inDouble (c :: name)) done cs
  | .double, done, c :: cs =>
    if c == '$' then readValue? env (.name true []) done cs
    else if c == '"' then readValue? env .plain done cs
    else if c == '\\' then readValue? env (.hidden true) done cs
    else readValue? env .double (c :: done) cs
  | .plain, done, c :: cs =>
    if c == '$' then readValue? env (.name false []) done cs
    else if c == '\'' then readValue? env .single done cs
    else if c == '"' then readValue? env .double done cs
    else if c == '\\' then readValue? env (.hidden false) done cs
    else if c == ' ' || c == '\t' then readValue? env .behind done cs
    else readValue? env .plain (c :: done) cs

/-! ## Entries -/

/-- Reads the name of a variable at the start of a text, and gives what stands behind it. -/
def readName? (cs : List Char) : Option (List Char × List Char) :=
  let isNameChar (c : Char) : Bool := c.isAlphanum || c == '_' || c == '.'
  if cs.head?.any fun c => c.isAlpha || c == '_' then
    some (cs.takeWhile isNameChar, (cs.dropWhile isNameChar).dropWhile Text.isBlank)
  else none

/-- Reads the name that a line sets, up to the equals sign. The word `export` may stand in front of
it, unless it is the name itself. -/
def readTarget? (cs : List Char) : Option (String × List Char) := do
  let (name, rest) ← readName? cs
  match rest with
  | '=' :: rest => return (String.ofList name, rest)
  | _ =>
    -- two names in a row: the first one has to be the word that exports the second
    if name ≠ "export".toList then none
    let (name, rest) ← readName? rest
    match rest with
    | '=' :: rest => return (String.ofList name, rest)
    | _ => none

/-- Whether a text is empty or a comment. -/
def isVoid (cs : List Char) : Bool :=
  cs.head?.all (· == '#')

/-- Reads a line; gives the variable that it sets, or `none` within for a line that sets none. -/
def readLine? (env : Environment) (line : List Char) : Option (Option (String × String)) :=
  let line := Text.trim Text.isBlank line
  if isVoid line then some none
  else do
    let (name, rest) ← readTarget? line
    let rest := rest.dropWhile Text.isBlank
    if isVoid rest then return some (name, "")
    return some (name, String.ofList (← readValue? env .plain [] rest))

/-- Sets the variables of lines by `setNew`, up to the first bad line. -/
def loadLines (env : Environment) : List (Option (List Char)) → Environment
  | some line :: rest =>
    match readLine? env line with
    | some (some (name, value)) => loadLines (env.setNew name value) rest
    | some none => loadLines env rest
    | none => env
  | _ => env

/-- Sets the variables of a file with these bytes. -/
def load (env : Environment) (content : List UInt8) : Environment :=
  loadLines env (lines content)

end CertGate.Environment.File
