import CertGate.IoError
import CertGate.Text.Pieces

/-!
# Files

The files that a program sees: some files by name, the directories that their names lead through, and
the working directory. Nothing else is there, and there are no links.

A path is walked name by name. Every name but the last has to stand for a directory, also when `..`
leads out of it again, and the empty name behind a slash at the end asks for a directory as well.
-/

namespace CertGate

/-- A working directory, and files by their names as seen from there. -/
structure Files where
  location : String := "/"
  entries : List (String × List UInt8) := []
  deriving Repr

namespace Files

/-- What can stand at a place: a directory, or a file with its content. -/
inductive Node where
  | file (content : List UInt8)
  | directory

/-! ## Places -/

/-- The place that one `name` leads to from `place`. A place is told by the names from the root to it. -/
def follow (place : List String) (name : List Char) : List String :=
  match String.ofList name with
  | "" | "." => place
  | ".." => place.dropLast
  | s => place ++ [s]

/-- The places that names lead through, from `place` on, without the one that they lead to. -/
def passed (place : List String) : List (List Char) → List (List String)
  | [] => []
  | name :: names => place :: passed (follow place name) names

/-- The place of the working directory, whose path is `location`. -/
def workplace (fs : Files) : List String :=
  (Text.pieces '/' fs.location.toList).foldl follow []

/-- The place that a path starts from, and the names that it leads along. -/
def start (fs : Files) (path : String) : List String × List (List Char) :=
  match path.toList with
  | '/' :: rest => ([], Text.pieces '/' rest)
  | cs => (fs.workplace, Text.pieces '/' cs)

/-- The place that the `name` of a file means, without looking at what stands there. -/
def placeOf (fs : Files) (name : String) : List String :=
  (fs.start name).2.foldl follow (fs.start name).1

/-- Directories are the working directory, those above it, and those that names of files lead
through. -/
def isDirectory (fs : Files) (place : List String) : Bool :=
  place.isPrefixOf fs.workplace ||
    fs.entries.any fun (name, _) => (passed (fs.start name).1 (fs.start name).2).contains place

/-- What stands at `place`, if anything does. -/
def node? (fs : Files) (place : List String) : Option Node :=
  match fs.entries.find? fun (name, _) => fs.placeOf name == place with
  | some (_, content) => some (.file content)
  | none => if fs.isDirectory place then some .directory else none

/-! ## Reading and writing -/

/-- Walks along names from `place`. Nothing is looked up in a file or where nothing is, and no name is
longer than 255 bytes. -/
def walk (fs : Files) (place : List String) : List (List Char) → Except IoError (List String)
  | [] => .ok place
  | name :: names =>
    match fs.node? place with
    | none => .error (.os 2)
    | some (.file _) => .error (.os 20)
    | some .directory =>
      if (String.ofList name).utf8ByteSize > 255 then .error (.os 36)
      else walk fs (follow place name) names

/-- Reads the file that `path` leads to. -/
def read (fs : Files) (path : String) : Except IoError (List UInt8) :=
  if path.toList.contains '\x00' then .error (.other "file name contained an unexpected NUL byte")
  else if path = "" then .error (.os 2)
  else if path.utf8ByteSize > 4095 then .error (.os 36)
  else
    match fs.walk (fs.start path).1 (fs.start path).2 with
    | .error e => .error e
    | .ok place =>
      match fs.node? place with
      | some (.file content) => .ok content
      | some .directory => .error (.os 21)
      | none => .error (.os 2)

/-- Whether `path` leads to a file or directory. -/
def contains (fs : Files) (path : String) : Bool :=
  match fs.read path with
  | .ok _ => true
  | .error e => e == .os 21

/-- The files with the one of this `name` written anew. -/
def write (fs : Files) (name : String) (content : List UInt8) : Files :=
  { fs with entries := (name, content) :: fs.entries.filter (·.1 != name) }

end Files

end CertGate
