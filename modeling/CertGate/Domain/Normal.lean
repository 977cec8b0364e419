import CertGate.Domain.Normal.Table

/-!
# The composed form of a text

Characters are taken apart into letters and marks, the marks behind a letter are put in the order of
their classes, and letters are composed with marks again as far as possible.
-/

namespace CertGate.Domain.Normal

/-- Reads a composite and its parts. -/
def compositeOf (cs : List Char) : Char × Char × Char :=
  let (whole, parts) := (Text.cut? '=' cs).getD (cs, [])
  let (first, second) := (Text.cut? '+' parts).getD (parts, [])
  let char (cs : List Char) : Char := Char.ofNat (Text.codePoint cs)
  (char whole, char first, char second)

/-- All composites and their parts. -/
def compositeList : List (Char × Char × Char) :=
  (Text.codeWords composites).map compositeOf

/-- The class of a mark; zero for what is none. -/
def classOf (c : Char) : Nat :=
  if c.toNat < 0x300 then 0
  else ((classes.find? fun (_, marks) => marks.contains c).map (·.1)).getD 0

/-! ## Hangul syllables

A syllable is composed of a leading consonant, a vowel and, maybe, a trailing consonant. -/

def firstSyllable : Nat := 0xAC00

def firstLeading : Nat := 0x1100

def firstVowel : Nat := 0x1161

/-- One less than the first trailing consonant. -/
def noTrailing : Nat := 0x11A7

/-- The parts of a syllable. -/
def syllableParts? (c : Char) : Option (List Char) :=
  let n := c.toNat - firstSyllable
  if firstSyllable ≤ c.toNat ∧ n < 19 * 21 * 28 then
    let trailing := n % 28
    some ([Char.ofNat (firstLeading + n / (21 * 28)), Char.ofNat (firstVowel + n % (21 * 28) / 28)]
      ++ if trailing = 0 then [] else [Char.ofNat (noTrailing + trailing)])
  else none

/-- The syllable that two characters make. -/
def syllable? (a b : Char) : Option Char :=
  let n := a.toNat - firstSyllable
  if firstLeading ≤ a.toNat ∧ a.toNat < firstLeading + 19
      ∧ firstVowel ≤ b.toNat ∧ b.toNat < firstVowel + 21 then
    some (Char.ofNat
      (firstSyllable + ((a.toNat - firstLeading) * 21 + (b.toNat - firstVowel)) * 28))
  else if firstSyllable ≤ a.toNat ∧ n < 19 * 21 * 28 ∧ n % 28 = 0
      ∧ noTrailing < b.toNat ∧ b.toNat < noTrailing + 28 then
    some (Char.ofNat (a.toNat + (b.toNat - noTrailing)))
  else none

/-! ## Taking apart and composing -/

/-- Takes a character apart. Only the first part of a composite is a composite again, and no more
than three times. -/
def takeApart : Nat → Char → List Char
  | 0, c => [c]
  | n + 1, c =>
    if c.toNat < 0xC0 then [c]
    else
      match syllableParts? c with
      | some parts => parts
      | none =>
        match compositeList.find? (·.1 == c) with
        | some (_, first, second) => takeApart n first ++ [second]
        | none => [c]

/-- Puts a mark in its place behind others, the last of which comes first. -/
def insertMark (c : Char) : List Char → List Char
  | [] => [c]
  | d :: ds =>
    if classOf c ≠ 0 ∧ classOf c < classOf d then d :: insertMark c ds else c :: d :: ds

/-- Puts the marks behind each letter in the order of their classes. -/
def orderMarks (cs : List Char) : List Char :=
  (cs.foldl (fun done c => insertMark c done) []).reverse

/-- The composite of two characters. -/
def composite? (a b : Char) : Option Char :=
  (syllable? a b).or
    ((compositeList.find? fun (_, first, second) => first == a && second == b).map (·.1))

/-- Composes a letter with what follows. `held` are the marks behind it that stay, the last one
first; a mark that is not of a higher class than those is out of reach. -/
def composeFrom (letter : Char) (held : List Char) : List Char → List Char
  | [] => letter :: held.reverse
  | c :: cs =>
    let inReach := held.head?.all (classOf · < classOf c)
    match if inReach then composite? letter c else none with
    | some d => composeFrom d held cs
    | none =>
      if classOf c = 0 then letter :: held.reverse ++ composeFrom c [] cs
      else composeFrom letter (c :: held) cs

/-- Composes letters and marks. Marks in front of the first letter stay. -/
def compose (cs : List Char) : List Char :=
  match cs.dropWhile (classOf · != 0) with
  | [] => cs
  | c :: rest => cs.takeWhile (classOf · != 0) ++ composeFrom c [] rest

/-- The composed form of a text. -/
def normalize (cs : List Char) : List Char :=
  compose (orderMarks (cs.flatMap (takeApart 4)))

end CertGate.Domain.Normal
