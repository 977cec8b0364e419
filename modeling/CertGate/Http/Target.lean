import CertGate.Text.Utf8

/-!
# Request targets

What a request asks for: a path with an optional query, a whole URI, an authority alone, or `*`.
A fragment is dropped.
-/

namespace CertGate.Http

/-- What a request asks for. The path is as it was sent, without any decoding. -/
structure Target where
  authority : Option String := none
  path : String
  query : Option String := none
  deriving DecidableEq, Repr

namespace Target

/-! ## Authority -/

/-- The characters of an authority. -/
def isUriChar (c : Char) : Bool :=
  c.isAlphanum || "!#$&'()*+,-./:;=?@[]_~".toList.contains c

/-- What `spanAuthority?` has seen of an authority. -/
structure AuthorityScan where
  colons : Nat := 0
  opened : Bool := false
  closed : Bool := false
  percent : Bool := false
  lastIsAt : Bool := false

/-- Takes one character of an authority. What stands before an `@` or in brackets may hold colons;
percent signs are for what stands before an `@` alone. -/
def AuthorityScan.step (s : AuthorityScan) (c : Char) : Option AuthorityScan :=
  -- colons and percent signs are forgotten once it is clear that they belong to a user
  let s := { s with lastIsAt := false }
  if c == ':' then if s.colons ≥ 8 then none else some { s with colons := s.colons + 1 }
  else if c == '[' then if s.percent || s.opened then none else some { s with opened := true }
  else if c == ']' then
    if !s.opened || s.closed then none
    else some { s with closed := true, colons := 0, percent := false }
  else if c == '@' then some { s with colons := 0, percent := false, lastIsAt := true }
  else if c == '%' then some { s with percent := true }
  else if isUriChar c then some s
  else none

/-- Whether an authority may end where the scan has got to. -/
def AuthorityScan.complete (s : AuthorityScan) : Bool :=
  s.opened == s.closed && s.colons ≤ 1 && !s.lastIsAt && !s.percent

/-- The authority at the start of a text, up to a slash, question mark or number sign, and the rest;
nothing if it is ill-formed. -/
def spanAuthority? (cs : List Char) : Option (List Char × List Char) := do
  let (authority, rest) := cs.span fun c => !(c == '/' || c == '?' || c == '#')
  let s ← authority.foldlM AuthorityScan.step {}
  if s.complete then some (authority, rest) else none

/-! ## Path and query -/

/-- The characters of a path, quotes and braces among them. -/
def isPathChar (c : Char) : Bool :=
  let n := c.toNat
  n = 0x21 || (0x24 ≤ n && n ≤ 0x3B) || n = 0x3D || (0x40 ≤ n && n ≤ 0x5F)
    || (0x61 ≤ n && n ≤ 0x7A) || 0x7C ≤ n || c == '"' || n = 0x7B

/-- The characters of a query. -/
def isQueryChar (c : Char) : Bool :=
  let n := c.toNat
  n = 0x21 || (0x24 ≤ n && n ≤ 0x3B) || n = 0x3D || 0x3F ≤ n

/-- Reads a path and a query behind an `authority`. A path that is empty becomes a slash. -/
def readPath? (authority : Option String) (cs : List Char) : Option Target := do
  let (path, rest) := cs.span fun c => !(c == '?' || c == '#')
  let (query?, ok) := match rest with
    | '?' :: rest =>
      let query := rest.takeWhile (· != '#')
      (some (String.ofList query), query.all isQueryChar)
    | _ => (none, true)
  if path.all isPathChar && ok then
    let path := if path.isEmpty then "/" else String.ofList path
    some { authority, path, query := query? }
  else none

/-! ## Targets -/

/-- Whether a text starts with `lead`, with letters in either case. -/
def startsWithNoCase (lead : String) (cs : List Char) : Bool :=
  (cs.take lead.length).map Char.toLower == lead.toList

/-- Drops a scheme of letters, digits and a few marks. A scheme of more than 64 characters is
refused; other texts have none. -/
def dropScheme? (cs : List Char) : Option (Bool × List Char) :=
  if startsWithNoCase "http://" cs then some (true, cs.drop 7)
  else if startsWithNoCase "https://" cs then some (true, cs.drop 8)
  else
    let name := cs.takeWhile fun c => c.isAlphanum || "+-.~".toList.contains c
    match cs.drop name.length with
    | ':' :: '/' :: '/' :: rest => if name.length > 64 then none else some (true, rest)
    | _ => some (false, cs)

/-- Reads a `Target`: a path, a URL, or an authority alone. -/
def parse? (s : String) : Option Target :=
  let cs := s.toList
  if s.utf8ByteSize > 65534 then none
  else
    match cs with
    | [] => none
    | ['*'] => some { path := "*" }
    | '/' :: _ => readPath? none cs
    | _ => do
      let (absolute, rest) ← dropScheme? cs
      let (authority, rest) ← spanAuthority? rest
      if absolute then
        if authority.isEmpty then none else readPath? (some (String.ofList authority)) rest
      -- without a scheme there may be nothing but an authority
      else if rest.isEmpty then some { authority := some (String.ofList authority), path := "" }
      else none

end Target

end CertGate.Http
