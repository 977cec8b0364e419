import CertGate.Url.Basic
import CertGate.Url.Percent

/-!
# Reading the path of a URL

A path is read segment by segment. Segments of one or two dots, written plainly or percent-encoded,
are steps within the hierarchy and do not stay.
-/

namespace CertGate.Url

/-- The characters that a URL does not see: tabs and line ends. -/
def isDropped (c : Char) : Bool :=
  c == '\t' || c == '\n' || c == '\r'

/-- The text of a segment with the spellings of a dot made alike. -/
def dotted : List Char → List Char
  | '%' :: '2' :: 'e' :: cs => '.' :: dotted cs
  | '%' :: '2' :: 'E' :: cs => '.' :: dotted cs
  | c :: cs => c :: dotted cs
  | [] => []

def isSingleDot (segment : List Char) : Bool :=
  dotted segment == ['.']

def isDoubleDot (segment : List Char) : Bool :=
  dotted segment == ['.', '.']

/-- Whether a segment is the name of a drive: a letter and a colon or bar. -/
def isDriveLetter : List Char → Bool
  | [letter, mark] => letter.isAlpha && (mark == ':' || mark == '|')
  | _ => false

/-- The drive that the segments `done` of a file path consist of. -/
def driveOf? (isFile : Bool) (done : List String) : Option String :=
  match done with
  | [s] =>
    if isFile && isDriveLetter s.toList && s.toList.getLast? == some ':' then some s else none
  | _ => none

/-- Takes a step up from the segments `done`. The drive of a file path stays. -/
def shorten (isFile : Bool) (done : List String) : List String :=
  if (driveOf? isFile done).isSome then done else done.dropLast

/-- The segment, with a colon in the name of a drive at the start of a file path. -/
def normalDrive (isFile : Bool) (done : List String) (segment : List Char) : List Char :=
  match isFile && done.isEmpty && isDriveLetter segment, segment with
  | true, letter :: _ => [letter, ':']
  | _, _ => segment

/-- Adds a segment, which is encoded already, to the segments `done`. Behind a step that ends the path,
a slash stays. -/
def pushSegment (isFile : Bool) (done : List String) (segment : List Char) (last : Bool) :
    List String :=
  -- a step that ends the path names a place below which there may be more
  if isDoubleDot segment then shorten isFile done ++ (if last then [""] else [])
  else if isSingleDot segment then done ++ (if last then [""] else [])
  else done ++ [String.ofList (normalDrive isFile done segment)]

/-- Adds segments by `pushSegment`, one after the other. -/
def pushSegments (isFile : Bool) : List String → List (List Char) → List String
  | done, [] => done
  | done, [s] => pushSegment isFile done s true
  | done, s :: rest => pushSegments isFile (pushSegment isFile done s false) rest

/-- Whether a character parts segments; a backslash does so under a `special` scheme. -/
def isSlash (special : Bool) (c : Char) : Bool :=
  c == '/' || (special && c == '\\')

/-- Cuts a text at everything that `isSlash` takes for a slash. -/
def cutAtSlashes (special : Bool) (cs : List Char) : List (List Char) :=
  Text.pieces '/' (cs.map fun c => if isSlash special c then '/' else c)

/-- The segments of a file path, which does not start with empty ones. -/
def dropEmptyStart : List String → List String
  | "" :: s :: ss => dropEmptyStart (s :: ss)
  | ss => ss

/-- Reads the segments of a path behind its first slash. -/
def readSegments (scheme : String) (cs : List Char) : List String :=
  let isFile := scheme == "file"
  let written := (cutAtSlashes (isSpecialScheme scheme) cs).map (encode .path)
  let read := pushSegments isFile [] written
  if isFile then dropEmptyStart read else read

/-- Reads the segments of a path. That of a special scheme always has one; a path of another scheme
that is empty, or that starts with what would end it, has none. -/
def readPath (scheme : String) (cs : List Char) : List String :=
  match cs.filter (!isDropped ·) with
  | [] => if isSpecialScheme scheme then [""] else []
  | c :: rest =>
    if isSlash (isSpecialScheme scheme) c then readSegments scheme rest
    else if !isSpecialScheme scheme && (c == '?' || c == '#') then []
    else readSegments scheme (c :: rest)

end CertGate.Url
