import CertGate.Value
import CertGate.Yaml.Written

/-!
# Writing values

Collections are written as blocks, two columns deeper each; a list in a dictionary is as deep as its
key. Empty collections are written as such. Whatever is written ends with the line.
-/

namespace CertGate.Yaml

/-- Whether a key can stand on its line in front of its colon. -/
def isLineKey (key : String) : Bool :=
  !key.toList.any isBreak && key.utf8ByteSize ≤ 128

/-- Writes a text in the style of `styleOf`, to the end of its line. -/
def textLine (column : Nat) (s : String) : List Char :=
  endLine (writeStyled column (styleOf s false) s)

/-- Writes a value that is no collection, to the end of its line. -/
def leafLine (column : Nat) : Value → List Char
  | .null => "null\n".toList
  | .flag b => if b then "true\n".toList else "false\n".toList
  | .letter c => textLine column (String.singleton c)
  | .text s => textLine column s
  | .int n => (toString n).toList ++ ['\n']
  | .decimal written => written.toList ++ ['\n']
  | _ => []

mutual

/-- Writes a value from a column on, in which the line stands already. -/
def writeInline (column : Nat) : Value → List Char
  | .list vs => if vs.isEmpty then "[]\n".toList else writeItems column vs
  | .dict ms => if ms.isEmpty then "\x7b\x7d\n".toList else writeMembers column ms
  | v => leafLine column v

/-- Writes a value behind the colon of a key that stands at a column. -/
def writeBehind (column : Nat) : Value → List Char
  | .list vs =>
    if vs.isEmpty then " []\n".toList else '\n' :: pad column ++ writeItems column vs
  | .dict ms =>
    if ms.isEmpty then " \x7b\x7d\n".toList
    else '\n' :: pad (column + 2) ++ writeMembers (column + 2) ms
  | v => ' ' :: leafLine (column + 2) v

/-- Writes the items of a list. -/
def writeItems (column : Nat) : List Value → List Char
  | [] => []
  | v :: vs =>
    '-' :: ' ' :: writeInline (column + 2) v
      ++ if vs.isEmpty then [] else pad column ++ writeItems column vs

/-- Writes the members of a dictionary. A key that cannot stand in front of its colon is marked. -/
def writeMembers (column : Nat) : List (String × Value) → List Char
  | [] => []
  | (key, v) :: ms =>
    (if isLineKey key then
      writeStyled (column + 2) (styleOf key true) key ++ ':' :: writeBehind column v
    else
      '?' :: ' ' :: textLine (column + 2) key ++ pad column
        ++ ':' :: ' ' :: writeInline (column + 2) v)
      ++ if ms.isEmpty then [] else pad column ++ writeMembers column ms

end

end CertGate.Yaml

namespace CertGate

/-- The YAML text of a value. -/
def Value.toYaml (v : Value) : String :=
  String.ofList (match v with
    | .list _ => Yaml.writeInline 0 v
    | .dict _ => Yaml.writeInline 0 v
    | v => Yaml.writeInline 2 v)

end CertGate
