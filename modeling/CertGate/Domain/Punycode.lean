import CertGate.Text.Pieces

/-!
# Labels in ASCII letters

A label with other characters is written as its ASCII characters, a hyphen, and numbers to the base
36 that say where the others go. The digits of a number stop at a threshold that follows the numbers
read before.
-/

namespace CertGate.Domain.Punycode

/-- The digit of a value below 36. -/
def digit (n : Nat) : Char :=
  if n < 26 then Char.ofNat ('a'.toNat + n) else Char.ofNat ('0'.toNat + (n - 26))

/-- The value of a digit. -/
def digitValue? (c : Char) : Option Nat :=
  if 'a' ≤ c ∧ c ≤ 'z' then some (c.toNat - 'a'.toNat)
  else if 'A' ≤ c ∧ c ≤ 'Z' then some (c.toNat - 'A'.toNat)
  else if c.isDigit then some (c.toNat - '0'.toNat + 26)
  else none

/-- The digit at a position is the last one of its number when it is below this. -/
def threshold (bias position : Nat) : Nat :=
  if position ≤ bias then 1 else if bias + 26 ≤ position then 26 else position - bias

theorem threshold_pos (bias position : Nat) : 0 < threshold bias position := by
  simp only [threshold]
  split
  · omega
  · split <;> omega

/-- Brings a number down to what one digit can be expected to say, and counts how often that takes a
digit. -/
def scaleDown (steps delta : Nat) : Nat × Nat :=
  if 455 < delta then scaleDown (steps + 36) (delta / 35) else (steps, delta)
termination_by delta
decreasing_by omega

/-- The bias behind a number. -/
def adapt (delta length : Nat) (isFirst : Bool) : Nat :=
  -- the first distance is that to the first foreign letter and says little about the next ones
  let delta := if isFirst then delta / 700 else delta / 2
  let (steps, delta) := scaleDown 0 (delta + delta / length)
  steps + 36 * delta / (delta + 38)

/-! ## Writing -/

/-- The digits of a number. -/
def digits (bias position n : Nat) : List Char :=
  let t := threshold bias position
  if n < t then [digit n]
  else digit (t + (n - t) % (36 - t)) :: digits bias (position + 36) ((n - t) / (36 - t))
termination_by n
decreasing_by
  have := threshold_pos bias position
  exact Nat.lt_of_le_of_lt (Nat.div_le_self ..) (by omega)

/-- A label while it is written: the distance from the last place, the number of characters that
have been placed, and what has been written. -/
structure Writing where
  delta : Nat := 0
  bias : Nat := 72
  placed : Nat
  isFirst : Bool := true
  written : List Char := []

/-- Passes over a character of the label while those of one code point are placed. -/
def Writing.pass (code : Nat) (w : Writing) (c : Char) : Writing :=
  if c.toNat < code then { w with delta := w.delta + 1 }
  else if c.toNat = code then
    { delta := 0
      bias := adapt w.delta (w.placed + 1) w.isFirst
      placed := w.placed + 1
      isFirst := false
      written := w.written ++ digits w.bias 36 w.delta }
  else w

/-- Places the characters of ascending code points. `next` is the least one that is not placed
yet. -/
def placeAll (label : List Char) : List Nat → Nat → Writing → Writing
  | [], _, w => w
  | code :: codes, next, w =>
    let w := { w with delta := w.delta + (code - next) * (w.placed + 1) }
    let w := label.foldl (Writing.pass code) w
    placeAll label codes (code + 1) { w with delta := w.delta + 1 }

/-- Writes a label. -/
def encode (label : List Char) : List Char :=
  let basic := label.filter (·.toNat < 0x80)
  let codes := ((label.filter (0x80 ≤ ·.toNat)).map Char.toNat).mergeSort.eraseDups
  let hyphen := if basic.isEmpty then [] else ['-']
  basic ++ hyphen ++ (placeAll label codes 0x80 { placed := basic.length }).written

/-! ## Reading -/

/-- Reads a number. `weight` is what its next digit counts. -/
def readNumber? (bias : Nat) : Nat → Nat → Nat → List Char → Option (Nat × List Char)
  | _, _, _, [] => none
  | position, weight, n, c :: cs => do
    let d ← digitValue? c
    let n := n + d * weight
    let t := threshold bias position
    if d < t then return (n, cs)
    readNumber? bias (position + 36) (weight * (36 - t)) n cs

theorem readNumber?_length {bias position weight n m : Nat} {cs rest : List Char}
    (h : readNumber? bias position weight n cs = some (m, rest)) : rest.length < cs.length := by
  induction cs generalizing position weight n with
  | nil => simp [readNumber?] at h
  | cons c cs ih =>
    simp only [readNumber?, Option.bind_eq_bind, Option.bind_eq_some_iff] at h
    obtain ⟨d, -, h⟩ := h
    split at h
    · simp only [pure, Option.some.injEq, Prod.mk.injEq] at h
      simp [h.2]
    · exact Nat.lt_succ_of_lt (ih h)

/-- Reads the numbers of a label and puts the characters that they say in their places. -/
def placeNumbers? (label : List Char) (code place bias : Nat) (cs : List Char) :
    Option (List Char) :=
  if cs.isEmpty then some label
  else
    match h : readNumber? bias 36 1 place cs with
    | none => none
    | some (n, rest) =>
      -- a number says how far to go through places and, after each round, code points
      let length := label.length + 1
      let code := code + n / length
      let bias := adapt (n - place) length (place = 0)
      let place := n % length
      if code.isValidChar then
        placeNumbers? (label.take place ++ Char.ofNat code :: label.drop place) code (place + 1)
          bias rest
      else none
termination_by cs.length
decreasing_by exact readNumber?_length h

/-- Cuts at the last hyphen, unless that stands in front of everything. -/
def splitBasic (cs : List Char) : List Char × List Char :=
  match (cs.reverse.dropWhile (· != '-')).reverse.dropLast with
  | [] => ([], cs)
  | basic => (basic, (cs.reverse.takeWhile (· != '-')).reverse)

/-- Reads a label. -/
def decode? (cs : List Char) : Option (List Char) :=
  let (basic, numbers) := splitBasic cs
  placeNumbers? basic 0x80 0 72 numbers

end CertGate.Domain.Punycode
