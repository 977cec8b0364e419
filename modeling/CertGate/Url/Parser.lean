import CertGate.Url.Host
import CertGate.Url.Update

/-!
# Reading URLs

A URL is read from left to right: scheme, authority, path, query, fragment. Blanks at its ends and
tabs and line ends anywhere are not seen.
-/

namespace CertGate.Url

/-- The text up to the first character in the class `p`, and the rest that starts with it. -/
def spanUntil (p : Char → Bool) (cs : List Char) : List Char × List Char :=
  cs.span (!p ·)

/-! ## Authority -/

/-- Whether a character ends the authority of a URL; a backslash does so under a `special` scheme. -/
def endsAuthority (special : Bool) (c : Char) : Bool :=
  c == '/' || c == '?' || c == '#' || (special && c == '\\')

/-- What stands before the last `@`, and what stands after it. -/
def cutLastAt? (cs : List Char) : Option (List Char × List Char) :=
  (Text.cut? '@' cs.reverse).map fun (after, before) => (before.reverse, after.reverse)

/-- Reads a user and a password, which the first colon parts. -/
def readUserinfo (cs : List Char) : String × String :=
  let write (cs : List Char) : String := String.ofList (encode .userinfo cs)
  match Text.cut? ':' cs with
  | some (user, password) => (write user, write password)
  | none => (write cs, "")

/-- The host up to the colon in front of the port; colons in brackets belong to the host. -/
def spanHost (inside : Bool) : List Char → List Char × List Char
  | [] => ([], [])
  | c :: cs =>
    if c == ':' && !inside then ([], c :: cs)
    else
      let inside := c == '[' || (inside && c != ']')
      let (host, rest) := spanHost inside cs
      (c :: host, rest)

/-- Reads a port. It may end at a backslash under any scheme; what follows then is path. -/
def readPort (scheme : String) (cs : List Char) :
    Except ParseError (Option Nat × List Char) :=
  let (digits, rest) := cs.span Char.isDigit
  let n := digits.foldl (fun n d => n * 10 + (d.toNat - '0'.toNat)) 0
  let port := if digits.isEmpty ∨ defaultPort? scheme = some n then none else some n
  if n > 65535 then .error .invalidPort
  else
    match rest with
    | [] => .ok (port, [])
    | '\\' :: _ => .ok (port, rest)
    | _ => .error .invalidPort

/-- Reads what stands between `//` and the path, and gives what it leaves to the path. Whether anything
stands behind it is `followed`; user and password that are empty may only stand before nothing at all. -/
def readAuthority (scheme : String) (followed : Bool) (cs : List Char) :
    Except ParseError (Authority × List Char) := do
  let special := isSpecialScheme scheme
  -- a password may hold the mark that parts it from the host, so the last one counts
  let (userinfo?, hostport) := match cutLastAt? cs with
    | some (userinfo, hostport) => (some userinfo, hostport)
    | none => (none, cs)
  let (user, password) := readUserinfo (userinfo?.getD [])
  if userinfo? = some [] && hostport.isEmpty && followed then .error .emptyHost
  let (hostText, rest) := spanHost false hostport
  if special && hostText.isEmpty then .error .emptyHost
  let host ← if special then readDomain hostText else readOpaqueHost hostText
  let host? := if host = .domain "" then none else some host
  if host?.isNone && (!rest.isEmpty || user ≠ "" || password ≠ "") then .error .emptyHost
  match rest with
  | [] => return ({ user, password, host := host? }, [])
  | _ :: portText =>
    let (port, rest) ← readPort scheme portText
    return ({ user, password, host := host?, port }, rest)

/-! ## Files -/

/-- Whether a path starts with a drive. -/
def startsWithDrive : List Char → Bool
  | letter :: mark :: rest =>
    isDriveLetter [letter, mark] && (rest.isEmpty || "/\\?#".toList.contains (rest.headD ' '))
  | _ => false

/-- Reads the host of a file, which is absent on the machine itself, and gives the path. What looks
like a drive is no host. -/
def readFileHost (cs : List Char) : Except ParseError (Option Host × List Char) := do
  let (hostText, path) := spanUntil (isSlash true) cs
  if isDriveLetter hostText then return (none, cs)
  if hostText.isEmpty then return (none, path)
  let host ← readDomain hostText
  return (if host = .domain "localhost" then none else some host, path)

/-- Reads what follows the scheme of a file. The host goes where the path starts with a drive. -/
def readFile (cs : List Char) : Except ParseError Url := do
  let hostless (path : List Char) : Url :=
    { scheme := "file", authority := some {}, path := .segments (readPath "file" path) }
  match cs with
  | a :: b :: rest =>
    if isSlash true a && isSlash true b then
      let (host, path) ← readFileHost rest
      let drive := startsWithDrive (path.drop 1)
      return { hostless path with authority := some { host := if drive then none else host } }
    else return hostless cs
  | _ => return hostless cs

/-! ## The whole URL -/

/-- Reads what stands before query and fragment. Whether one of these comes is `followed`. -/
def readHierarchy (scheme : String) (followed : Bool) (cs : List Char) : Except ParseError Url :=
  if scheme = "file" then readFile cs
  else
    let withAuthority (cs : List Char) : Except ParseError Url := do
      let (authorityText, path) := spanUntil (endsAuthority (isSpecialScheme scheme)) cs
      let followed := followed || !path.isEmpty
      let (authority, before) ← readAuthority scheme followed authorityText
      let path := .segments (readPath scheme (before ++ path))
      return { scheme, authority := some authority, path }
    -- special schemes have an authority however many slashes stand in front of it
    if isSpecialScheme scheme then withAuthority (cs.dropWhile (isSlash true))
    else
      match cs with
      | '/' :: '/' :: rest => withAuthority rest
      | '/' :: _ => .ok { scheme, path := .segments (readPath scheme cs) }
      | _ => .ok { scheme, path := .opaqueText (String.ofList (encode .controls cs)) }

/-- Whether a character is cut off the ends of a URL. -/
def isEdge (c : Char) : Bool :=
  c.toNat ≤ 0x20

/-- Reads a URL without the characters of `isEdge` at its ends and those of `isDropped` anywhere. -/
def parse (s : String) : Except ParseError Url := do
  let cs := (Text.trim isEdge s.toList).filter (!isDropped ·)
  match readScheme? cs with
  | some (scheme, some rest) =>
    -- fragment and query are cut off first: nothing in front of them can hold their marks
    let (beforeFragment, fragment) := spanUntil (· == '#') rest
    let (hierarchy, query) := spanUntil (· == '?') beforeFragment
    let u ← readHierarchy scheme (!query.isEmpty || !fragment.isEmpty) hierarchy
    let write (set : PercentSet) (cs : List Char) : Option String :=
      if cs.isEmpty then none else some (String.ofList (encode set (cs.drop 1)))
    return { u with query := write (querySet scheme) query, fragment := write .fragment fragment }
  | _ => .error .relativeWithoutBase

end CertGate.Url
