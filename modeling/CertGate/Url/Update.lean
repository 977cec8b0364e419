import CertGate.Text.Blank
import CertGate.Url.Path

/-!
# Changing parts of a URL

Each change keeps all other parts. A change that a URL does not admit leaves it as it is.
-/

namespace CertGate.Url

/-- Replaces the path by what `readPath` reads; it cannot run into a query or fragment. -/
def setPath (u : Url) (text : String) : Url :=
  match u.path with
  | .segments _ => { u with path := .segments (readPath u.scheme text.toList) }
  | .opaqueText _ =>
    let cs := text.toList.filter (!isDropped ·)
    let cs := match cs with
      | '/' :: cs => "%2F".toList ++ encode .controls cs
      | cs => encode .controls cs
    { u with path := .opaqueText (String.ofList cs) }

/-- The set that a query is encoded with under a scheme. -/
def querySet (scheme : String) : PercentSet :=
  if isSpecialScheme scheme then .specialQuery else .query

/-- Drops the spaces at the end of a path that is no hierarchy. -/
def Path.dropTrailingSpaces : Path → Path
  | .opaqueText text => .opaqueText (String.ofList (Text.trimEnd (· == ' ') text.toList))
  | path => path

/-- Replaces the query, or drops it. Spaces may stand at the end of a path that is no hierarchy only
if something follows. -/
def setQuery (u : Url) (query : Option String) : Url :=
  match query with
  | some q =>
    let written := encode (querySet u.scheme) (q.toList.filter (!isDropped ·))
    { u with query := some (String.ofList written) }
  | none =>
    let path := if u.fragment.isNone then u.path.dropTrailingSpaces else u.path
    { u with query := none, path }

/-- Reads a scheme up to the colon or the end of the text, in lower case, and what follows the
colon. -/
def readScheme? (cs : List Char) : Option (String × Option (List Char)) :=
  let name := cs.takeWhile fun c => c.isAlphanum || c == '+' || c == '-' || c == '.'
  let rest := cs.drop name.length
  match name with
  | [] => none
  | c :: _ =>
    if !c.isAlpha then none
    else
      let scheme := String.ofList (name.map Char.toLower)
      match rest with
      | [] => some (scheme, none)
      | ':' :: rest => some (scheme, some rest)
      | _ => none

/-- Whether the scheme of a URL may become this one. -/
def admitsScheme (u : Url) (scheme : String) : Bool :=
  isSpecialScheme scheme == u.isSpecial
    && !(scheme == "file" && u.authority.isSome)
    && !(isSpecialScheme scheme && u.host?.isNone)

/-- The authority without its port, if the port goes without saying under the scheme. -/
def Authority.dropDefaultPort (scheme : String) (a : Authority) : Authority :=
  if a.port.isSome ∧ a.host.isSome ∧ scheme ≠ "file" ∧ a.port = defaultPort? scheme then
    { a with port := none }
  else a

/-- Replaces the scheme if `admitsScheme` allows it; otherwise the URL stays as it is. -/
def setScheme (u : Url) (text : String) : Url :=
  match readScheme? (text.toList.filter (!isDropped ·)) with
  | some (scheme, rest) =>
    if (rest.getD []).isEmpty && u.admitsScheme scheme then
      { u with scheme, authority := u.authority.map (·.dropDefaultPort scheme) }
    else u
  | none => u

/-- Drops an empty segment at the end of the path. -/
def dropTrailingSlash (u : Url) : Url :=
  match u.path with
  | .segments ss =>
    if ss.length > 1 ∧ ss.getLast? = some "" then { u with path := .segments ss.dropLast } else u
  | .opaqueText _ => u

/-- Adds a segment to the path. A single or double dot is passed over, and so are the characters of
`isDropped`. -/
def appendSegment (u : Url) (segment : String) : Url :=
  match u.path with
  | .opaqueText _ => u
  | .segments ss =>
    if segment = "." ∨ segment = ".." then u
    else
      let set : PercentSet := if u.isSpecial then .specialSegment else .segment
      let written := encode set (segment.toList.filter (!isDropped ·))
      -- the path that is a slash alone has no segment yet
      let done := if ss = [""] then [] else ss
      { u with path := .segments (pushSegment (u.scheme == "file") done written true) }

end CertGate.Url
