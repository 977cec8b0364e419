import CertGate.IpAddr

/-!
# URLs

The parts of a URL and how they are written. Parts are kept as they are written, so that writing
only puts them together.
-/

namespace CertGate

/-- The host of a URL: a name, or an address of version 4 or 6. -/
inductive Url.Host where
  | domain (name : String)
  | v4 (addr : Ipv4)
  | v6 (addr : Ipv6)
  deriving DecidableEq, Repr

/-- What follows `//` in a URL. The host may be absent, with an empty text in its place. -/
structure Url.Authority where
  user : String := ""
  password : String := ""
  host : Option Url.Host := none
  port : Option Nat := none
  deriving DecidableEq, Repr

/-- The path of a URL: a text that is no hierarchy, or segments, each after a slash. -/
inductive Url.Path where
  | opaqueText (text : String)
  | segments (segments : List String)
  deriving DecidableEq, Repr

/-- A URL, with its parts as they are written. -/
structure Url where
  scheme : String
  authority : Option Url.Authority := none
  path : Url.Path
  query : Option String := none
  fragment : Option String := none
  deriving DecidableEq, Repr

namespace Url

/-- The schemes with rules of their own, of which `http` is one. -/
def isSpecialScheme (scheme : String) : Bool :=
  ["http", "https", "ws", "wss", "ftp", "file"].contains scheme

/-- The port that goes without saying under a scheme. -/
def defaultPort? (scheme : String) : Option Nat :=
  if scheme = "http" ∨ scheme = "ws" then some 80
  else if scheme = "https" ∨ scheme = "wss" then some 443
  else if scheme = "ftp" then some 21
  else none

/-- Whether the scheme of a URL has rules of its own, by `isSpecialScheme`. -/
def isSpecial (u : Url) : Bool :=
  isSpecialScheme u.scheme

/-- The host of a URL, where its `Authority` has one. -/
def host? (u : Url) : Option Host :=
  u.authority.bind (·.host)

/-- Whether the path is an `opaqueText` and no hierarchy, so that nothing can be relative to the URL. -/
def cannotBeABase (u : Url) : Bool :=
  match u.path with
  | .opaqueText _ => true
  | .segments _ => false

/-- The `segments` of the path; none if it is no hierarchy. -/
def segments (u : Url) : List String :=
  match u.path with
  | .opaqueText _ => []
  | .segments ss => ss

/-! ## Writing -/

def Host.render : Host → String
  | .domain name => name
  | .v4 addr => addr.render
  | .v6 addr => s!"[{addr.render}]"

def Authority.render (a : Authority) : String :=
  let password := if a.password = "" then "" else ":" ++ a.password
  let userinfo := if a.user = "" ∧ a.password = "" then "" else a.user ++ password ++ "@"
  let host := (a.host.map Host.render).getD ""
  let port := (a.port.map fun p => ":" ++ p.repr).getD ""
  "//" ++ userinfo ++ host ++ port

def Path.render : Path → String
  | .opaqueText text => text
  | .segments ss => String.join (ss.map ("/" ++ ·))

/-- What keeps a path that starts with an empty segment from being taken for an `Authority`. -/
def guard (u : Url) : String :=
  match u.authority, u.path with
  | none, .segments ("" :: _ :: _) => "/."
  | _, _ => ""

/-- Writes a URL with the parts that it has. -/
def render (u : Url) : String :=
  u.scheme ++ ":" ++ (u.authority.map Authority.render).getD "" ++ u.guard ++ u.path.render
    ++ (u.query.map ("?" ++ ·)).getD "" ++ (u.fragment.map ("#" ++ ·)).getD ""

end Url

end CertGate
