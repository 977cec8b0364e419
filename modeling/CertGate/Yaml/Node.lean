import CertGate.Yaml.Token

/-!
# YAML nodes

`Node.ofTokens?` builds the tree of the one document in a text. What is left out is an empty text
without quotes. Fuel bounds the depth of the descent, in which no token is looked at more than a few
times.
-/

namespace CertGate.Yaml

/-- What may stand in front of the content of a node. -/
structure Marks where
  anchor : Option String := none
  tag : Option String := none
  deriving DecidableEq, Repr

/-- The nodes of a YAML document. -/
inductive Node where
  | alias (name : String)
  | scalar (marks : Marks) (text : String) (plain : Bool)
  | sequence (marks : Marks) (items : List Node)
  | mapping (marks : Marks) (members : List (Node × Node))
  deriving Repr, Inhabited

/-- The handles that tags may start with, and what they stand for. -/
abbrev Handles := List (String × String)

/-- The handles that need no declaration. -/
def Handles.standard : Handles :=
  [("!", "!"), ("!!", "tag:yaml.org,2002:")]

/-- The tag that a handle and a suffix make, if the handle is known. -/
def Handles.tag? (handles : Handles) (handle suffix : String) : Option String :=
  if handle = "" then some suffix else (handles.lookup handle).map (· ++ suffix)

/-- The directives in front of a document: whether there is a version, and the handles. -/
structure Directives where
  versioned : Bool := false
  handles : Handles := []

/-- Reads the directives in front of a document. A version must be known, and nothing is declared
twice. -/
def Directives.read? (d : Directives) : List Token → Option (Directives × List Token)
  | .version major minor :: ts =>
    if d.versioned || major != 1 || (minor != 1 && minor != 2) then none
    else read? { d with versioned := true } ts
  | .handle handle lead :: ts =>
    if (d.handles.lookup handle).isSome then none
    else read? { d with handles := (handle, lead) :: d.handles } ts
  | ts => some (d, ts)

namespace Node

/-- A node that is left out. -/
def leftOut (marks : Marks := {}) : Node := .scalar marks "" true

/-- Reads an anchor and a tag, which come in either order. -/
def readMarks? (handles : Handles) : List Token → Option (Marks × List Token)
  | .anchor a :: .tag h s :: ts
  | .tag h s :: .anchor a :: ts => do return ({ anchor := a, tag := ← handles.tag? h s }, ts)
  | .anchor a :: ts => some ({ anchor := a }, ts)
  | .tag h s :: ts => do return ({ tag := ← handles.tag? h s }, ts)
  | ts => some ({}, ts)

/-- A scalar with these marks, without the tag that says nothing. -/
def ofScalar (marks : Marks) (text : String) (plain : Bool) : Node :=
  .scalar { marks with tag := marks.tag.filter (· ≠ "!") } text plain

/-- Whether one of the tokens `stops` comes next. -/
def next (ts : List Token) (stops : List Token) : Bool :=
  match ts with
  | [] => false
  | t :: _ => stops.contains t

mutual

/-- Reads a node. Whether it may be a sequence whose entries stand no deeper than what is around it is
`bare`. -/
def read? (handles : Handles) : Nat → Bool → List Token → Option (Node × List Token)
  | 0, _, _ => none
  | _ + 1, _, .alias name :: ts => some (.alias name, ts)
  | fuel + 1, bare, ts => do
    let (marks, ts) ← readMarks? handles ts
    match ts with
    | .scalar text plain :: ts => some (ofScalar marks text plain, ts)
    | .flowSequence :: ts =>
      let (items, ts) ← readFlowItems? handles fuel true ts
      some (.sequence marks items, ts)
    | .flowMapping :: ts =>
      let (members, ts) ← readFlowMembers? handles fuel true ts
      some (.mapping marks members, ts)
    | .blockSequence :: ts =>
      let (items, ts) ← readEntries? handles fuel [.entry, .blockEnd] ts
      match ts with
      | .blockEnd :: ts => some (.sequence marks items, ts)
      | _ => none
    | .blockMapping :: ts =>
      let (members, ts) ← readMembers? handles fuel ts
      some (.mapping marks members, ts)
    | ts =>
      -- entries no deeper than the key in front of them open no block of their own
      if bare && next ts [.entry] then do
        let (items, ts) ← readEntries? handles fuel [.entry, .key, .value, .blockEnd] ts
        some (.sequence marks items, ts)
      else if marks ≠ {} then some (leftOut marks, ts)
      else none

/-- Reads a node, which is left out where one of the tokens of the first list comes next. -/
def readUnless? (handles : Handles) :
    Nat → Bool → List Token → List Token → Option (Node × List Token)
  | 0, _, _, _ => none
  | fuel + 1, bare, stops, ts =>
    if next ts stops then some (leftOut, ts) else read? handles fuel bare ts

/-- Reads the entries of a sequence, as long as there are any. -/
def readEntries? (handles : Handles) :
    Nat → List Token → List Token → Option (List Node × List Token)
  | 0, _, _ => none
  | fuel + 1, stops, .entry :: ts => do
    let (item, ts) ← readUnless? handles fuel false stops ts
    let (items, ts) ← readEntries? handles fuel stops ts
    some (item :: items, ts)
  | _ + 1, _, ts => some ([], ts)

/-- Reads the members of a mapping to its end. -/
def readMembers? (handles : Handles) :
    Nat → List Token → Option (List (Node × Node) × List Token)
  | 0, _ => none
  | fuel + 1, .key :: ts => do
    let stops := [.key, .value, .blockEnd]
    let (key, ts) ← readUnless? handles fuel true stops ts
    let (value, ts) ←
      match ts with
      | .value :: ts => readUnless? handles fuel true stops ts
      | ts => some (leftOut, ts)
    let (members, ts) ← readMembers? handles fuel ts
    some ((key, value) :: members, ts)
  | _ + 1, .blockEnd :: ts => some ([], ts)
  | _ + 1, _ => none

/-- Reads the items of a flow sequence to its end. An item with a key is a mapping of its own. -/
def readFlowItems? (handles : Handles) :
    Nat → Bool → List Token → Option (List Node × List Token)
  | 0, _, _ => none
  | _ + 1, _, .flowSequenceEnd :: ts => some ([], ts)
  | fuel + 1, first, ts => do
    -- all but the first item stand behind a comma
    let ts ← match first, ts with
      | true, ts => some ts
      | false, .flowEntry :: ts => some ts
      | false, _ => none
    match ts with
    | .flowSequenceEnd :: ts => some ([], ts)
    | .key :: ts =>
      let (member, ts) ← readPair? handles fuel ts
      let (items, ts) ← readFlowItems? handles fuel false ts
      some (.mapping {} [member] :: items, ts)
    | ts =>
      let (item, ts) ← read? handles fuel false ts
      let (items, ts) ← readFlowItems? handles fuel false ts
      some (item :: items, ts)

/-- Reads the one member of a mapping in a flow sequence. A key that is left out takes the next
token with it. -/
def readPair? (handles : Handles) : Nat → List Token → Option ((Node × Node) × List Token)
  | 0, _ => none
  | fuel + 1, ts => do
    let (key, ts) ←
      -- the token behind a key that is left out is lost with it
      if next ts [.value, .flowEntry, .flowSequenceEnd] then some (leftOut, ts.drop 1)
      else read? handles fuel false ts
    let (value, ts) ←
      match ts with
      | .value :: ts => readUnless? handles fuel false [.flowEntry, .flowSequenceEnd] ts
      | ts => some (leftOut, ts)
    some ((key, value), ts)

/-- Reads the members of a flow mapping to its end. -/
def readFlowMembers? (handles : Handles) :
    Nat → Bool → List Token → Option (List (Node × Node) × List Token)
  | 0, _, _ => none
  | _ + 1, _, .flowMappingEnd :: ts => some ([], ts)
  | fuel + 1, first, ts => do
    let ts ← match first, ts with
      | true, ts => some ts
      | false, .flowEntry :: ts => some ts
      | false, _ => none
    match ts with
    | .flowMappingEnd :: ts => some ([], ts)
    | .key :: ts =>
      let (key, ts) ←
        readUnless? handles fuel false [.value, .flowEntry, .flowMappingEnd] ts
      let (value, ts) ←
        match ts with
        | .value :: ts => readUnless? handles fuel false [.flowEntry, .flowMappingEnd] ts
        | ts => some (leftOut, ts)
      let (members, ts) ← readFlowMembers? handles fuel false ts
      some ((key, value) :: members, ts)
    | ts =>
      let (key, ts) ← read? handles fuel false ts
      let (members, ts) ← readFlowMembers? handles fuel false ts
      some ((key, leftOut) :: members, ts)

end

/-- Whether a token can only stand in front of a document. -/
def leads : Token → Bool
  | .version .. | .handle .. | .documentStart => true
  | _ => false

/-- Reads a document: directives and a start mark, or neither, and a node. -/
def readDocument? (ts : List Token) : Option (Node × List Token) := do
  let fuel := 4 * ts.length + 4
  if !ts.head?.any leads then read? Handles.standard fuel false ts
  else
    let (directives, ts) ← Directives.read? {} ts
    match ts with
    | .documentStart :: ts =>
      if ts.head?.all fun t => leads t || t == .documentEnd then some (leftOut, ts)
      else read? (directives.handles ++ Handles.standard) fuel false ts
    | _ => none

/-- The document in a text that has exactly one; nothing within if the text has none. -/
def ofTokens? (ts : List Token) : Option (Option Node) :=
  if ts.isEmpty then some none
  else do
    let (node, ts) ← readDocument? ts
    if (ts.dropWhile (· == .documentEnd)).isEmpty then some (some node) else none

end Node

end CertGate.Yaml
