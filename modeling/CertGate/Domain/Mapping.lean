import CertGate.Domain.Mapping.Table

/-!
# Mapping characters of domain names

Letters become small and variants of a character become that character. A character that is kept as
it is may stand in a name that has been mapped before.
-/

namespace CertGate.Domain

namespace Mapping

/-- Characters from `first` to `last`, every `step`-th of them, that stand for as many others from
`target` on. -/
structure Run where
  first : Nat
  last : Nat
  step : Nat
  target : Nat
  deriving DecidableEq, Repr

/-- Reads a run. -/
def Run.ofText (cs : List Char) : Run :=
  let (source, target) := (Text.cut? '>' cs).getD (cs, [])
  let (range, step) :=
    match Text.cut? '/' source with
    | some (range, _) => (range, 2)
    | none => (source, 1)
  let (first, last) := Text.CodeRanges.rangeOf range
  { first, last, step, target := Text.codePoint target }

/-- What a character of a run stands for. -/
def Run.target? (r : Run) (c : Char) : Option Char :=
  if r.first ≤ c.toNat ∧ c.toNat ≤ r.last ∧ (c.toNat - r.first) % r.step = 0 then
    some (Char.ofNat (r.target + (c.toNat - r.first)))
  else none

/-- All runs. -/
def runList : List Run :=
  (Text.codeWords runs).map Run.ofText

/-- Reads a character and what it stands for. -/
def expansionOf (cs : List Char) : Nat × List Char :=
  let (source, target) := (Text.cut? '>' cs).getD (cs, [])
  (Text.codePoint source, (Text.pieces ',' target).map fun t => Char.ofNat (Text.codePoint t))

/-- All characters that stand for several others. -/
def expansionList : List (Nat × List Char) :=
  (Text.codeWords expansions).map expansionOf

end Mapping

/-- What becomes of a character; nothing if it may not stand in a domain name at all. -/
def mapChar (c : Char) : Option (List Char) :=
  if c.toNat < 0x80 then some [c.toLower]
  else
    match Mapping.runList.findSome? (·.target? c) with
    | some d => some [d]
    | none =>
      match Mapping.expansionList.lookup c.toNat with
      | some ds => some ds
      | none =>
        if Mapping.leftOut.contains c then some []
        else if Mapping.allowed.contains c then some [c]
        else none

/-- Whether a character is kept as it is. -/
def isKept (c : Char) : Bool :=
  mapChar c == some [c]

end CertGate.Domain
