import CertGate.Text.Utf8
import CertGate.Yaml.Node
import CertGate.Yaml.Plain

/-!
# YAML documents as values

Tags and plain texts are given their meaning, and aliases the value of their anchor. An alias
reaches the latest anchor of its name, which must be finished. How deep a value is, and how often
aliases have to be followed, is limited.
-/

namespace CertGate.Yaml

/-- What an anchor marks. A scalar has a text as a key and, unless its tag forbids it, a value;
a collection has a value only. -/
structure Marked where
  key : Option String
  value : Option Value
  depth : Nat
  follows : Nat

/-- The anchors so far, the latest first; nothing for one whose node is not finished. `follows`
counts how often an alias had to be followed. -/
structure Anchors where
  entries : List (String × Option Marked) := []
  follows : Nat := 0

namespace Anchors

/-- Enters an anchor whose node is still to come. Gives its place, counted from the end. -/
def enter (a : Anchors) : Option String → Anchors × Option Nat
  | some name => ({ a with entries := (name, none) :: a.entries }, some a.entries.length)
  | none => (a, none)

/-- Finishes the node of an anchor. -/
def finish (a : Anchors) (place : Option Nat) (m : Marked) : Anchors :=
  match place with
  | some n =>
    { a with
      entries := a.entries.modify (a.entries.length - 1 - n) fun (name, _) => (name, some m) }
  | none => a

/-- What an alias reaches. -/
def follow? (a : Anchors) (name : String) : Option (Marked × Anchors) := do
  let m ← (← a.entries.lookup name)
  return (m, { a with follows := a.follows + 1 + m.follows })

end Anchors

/-- The text of tags whose meaning is known. -/
def standardTag (name : String) : String := "tag:yaml.org,2002:" ++ name

/-- The value of a scalar. -/
def scalarValue? (tag : Option String) (text : String) (plain : Bool) : Option Value :=
  match tag with
  | none => some (if plain then plainValue text else .text text)
  | some tag =>
    if tag = standardTag "bool" then (readFlag? text).map .flag
    else if tag = standardTag "int" then (readInt? text).map .int
    else if tag = standardTag "float" then if isDecimal text then some (.decimal text) else none
    else if tag = standardTag "null" then if isNullWord text then some .null else none
    else if tag.toList.head? = some '!' then none
    else some (.text text)

/-- Whether a collection may have a tag. -/
def isCollectionTag (tag : Option String) : Bool :=
  tag.all fun tag => tag.toList.head? != some '!'

/-- A value and its depth. -/
abbrev Deep := Value × Nat

/-- Reads a scalar, and enters its anchor. -/
def readScalar (marks : Marks) (text : String) (plain : Bool) (a : Anchors) : Marked × Anchors :=
  let m : Marked :=
    { key := some text, value := scalarValue? marks.tag text plain, depth := 0, follows := 0 }
  let (a, place) := a.enter marks.anchor
  (m, a.finish place m)

/-- Reads a key, which is a scalar. Its tag does not matter. -/
def Node.key? (a : Anchors) : Node → Option (String × Anchors)
  | .alias name => do
    let (m, a) ← a.follow? name
    return (← m.key, a)
  | .scalar marks text plain => some (text, (readScalar marks text plain a).2)
  | _ => none

mutual

/-- The value of a node, and its depth. -/
def Node.value? (a : Anchors) : Node → Option (Deep × Anchors)
  | .alias name => do
    let (m, a) ← a.follow? name
    return ((← m.value, m.depth), a)
  | .scalar marks text plain => do
    let (m, a) := readScalar marks text plain a
    return ((← m.value, 0), a)
  | .sequence marks items => do
    if !isCollectionTag marks.tag then none
    let (a, place) := a.enter marks.anchor
    let ((values, depth), after) ← itemValues? a items
    -- the anchor is finished only now: an alias inside its own node reaches nothing
    let v : Deep := (.list values, depth + 1)
    return (v, after.finish place
      { key := none, value := some v.1, depth := v.2, follows := after.follows - a.follows })
  | .mapping marks members => do
    if !isCollectionTag marks.tag then none
    let (a, place) := a.enter marks.anchor
    let ((values, depth), after) ← memberValues? a members
    let v : Deep := (.ofMembers values, depth + 1)
    return (v, after.finish place
      { key := none, value := some v.1, depth := v.2, follows := after.follows - a.follows })

/-- The values of the items of a sequence, and the greatest depth. -/
def itemValues? (a : Anchors) : List Node → Option ((List Value × Nat) × Anchors)
  | [] => some (([], 0), a)
  | node :: nodes => do
    let ((v, d), a) ← Node.value? a node
    let ((vs, ds), a) ← itemValues? a nodes
    return ((v :: vs, max d ds), a)

/-- The values of the members of a mapping, and the greatest depth. -/
def memberValues? (a : Anchors) :
    List (Node × Node) → Option ((List (String × Value) × Nat) × Anchors)
  | [] => some (([], 0), a)
  | (key, node) :: nodes => do
    let (key, a) ← key.key? a
    let ((v, d), a) ← Node.value? a node
    let ((vs, ds), a) ← memberValues? a nodes
    return (((key, v) :: vs, max d ds), a)

end

mutual

/-- The number of marks in a document: one for a scalar or an alias, two for the ends of a
collection. -/
def Node.size : Node → Nat
  | .alias _ => 1
  | .scalar .. => 1
  | .sequence _ items => 2 + itemsSize items
  | .mapping _ members => 2 + membersSize members

def itemsSize : List Node → Nat
  | [] => 0
  | node :: nodes => node.size + itemsSize nodes

def membersSize : List (Node × Node) → Nat
  | [] => 0
  | (key, node) :: nodes => key.size + node.size + membersSize nodes

end

/-- The dictionary that a document holds. One that is left out holds an empty one; the tag of the
outermost mapping does not matter. -/
def Node.dict? : Node → Option Value
  | .scalar _ "" true => some (.dict [])
  | .mapping marks members => do
    -- few aliases may stand for much: a text that follows them too often is refused
    let node : Node := .mapping { marks with tag := none } members
    let ((v, depth), a) ← node.value? {}
    if depth ≤ 128 ∧ a.follows ≤ 100 * node.size then some v else none
  | _ => none

/-- Reads the dictionary in a YAML text. -/
def readDict? (content : List UInt8) : Option Value := do
  match ← Node.ofTokens? (← Token.scan? (← Text.Utf8.text? content)) with
  | none => some (.dict [])
  | some node => node.dict?

end CertGate.Yaml
