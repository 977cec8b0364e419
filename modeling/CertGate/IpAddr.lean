import CertGate.Text.Digits
import CertGate.Text.Hex
import CertGate.Text.Pieces

/-!
# IP addresses

Text and value of addresses of both versions. Version 6 is written in groups of hexadecimal digits,
where the longest run of zero groups, the first of several, gives way to `::`.
-/

namespace CertGate

/-- An address of version 4. -/
structure Ipv4 where
  a : UInt8
  b : UInt8
  c : UInt8
  d : UInt8
  deriving DecidableEq, Repr

/-- An address of version 6: eight groups of 16 bits. -/
structure Ipv6 where
  groups : List UInt16
  length_groups : groups.length = 8 := by decide
  deriving DecidableEq, Repr

/-- An address of version 4 or 6, an `Ipv4` or an `Ipv6`. -/
inductive IpAddr where
  | v4 (addr : Ipv4)
  | v6 (addr : Ipv6)
  deriving DecidableEq, Repr

/-! ## Version 4 -/

namespace Ipv4

/-- Reads one of the four numbers: up to three digits, with no needless zero in front. -/
def octet? (cs : List Char) : Option UInt8 := do
  let n ← Text.digits? 10 cs
  if cs.length ≤ 3 ∧ n < 256 ∧ (cs.length = 1 ∨ cs.head? ≠ some '0') then some n.toUInt8 else none

/-- Reads an address of version 4: four numbers, each by `octet?`, parted by points. -/
def parse? (cs : List Char) : Option Ipv4 :=
  match Text.pieces '.' cs with
  | [a, b, c, d] => do return ⟨← octet? a, ← octet? b, ← octet? c, ← octet? d⟩
  | _ => none

/-- The address of version 4 whose 32 bits have the value `n`. -/
def ofNat (n : Nat) : Ipv4 :=
  ⟨(n / 0x1000000).toUInt8, (n / 0x10000).toUInt8, (n / 0x100).toUInt8, n.toUInt8⟩

def render (x : Ipv4) : String :=
  s!"{x.a.toNat}.{x.b.toNat}.{x.c.toNat}.{x.d.toNat}"

/-- The address as two groups of 16 bits. -/
def groups (x : Ipv4) : List UInt16 :=
  [x.a.toUInt16 * 256 + x.b.toUInt16, x.c.toUInt16 * 256 + x.d.toUInt16]

end Ipv4

/-! ## Version 6 -/

namespace Ipv6

/-- The address of version 6 with these `groups`, if there are eight of them. -/
def ofGroups? (groups : List UInt16) : Option Ipv6 :=
  if h : groups.length = 8 then some ⟨groups, h⟩ else none

/-- Reads one group: one to four hexadecimal digits. -/
def group? (cs : List Char) : Option UInt16 := do
  let n ← Text.digits? 16 cs
  if cs.length ≤ 4 then some n.toUInt16 else none

/-- Reads groups parted by colons, each by `group?`; the last two may be written as an address of
version 4. -/
def pieces? : List (List Char) → Option (List UInt16)
  | [] => some []
  | [p] => (group? p).map ([·]) <|> (Ipv4.parse? p).map Ipv4.groups
  | p :: ps => do return (← group? p) :: (← pieces? ps)

/-- Reads the groups on one side of a gap, by `pieces?`, or none where nothing stands there. -/
def side? (cs : List Char) : Option (List UInt16) :=
  if cs.isEmpty then some [] else pieces? (Text.pieces ':' cs)

/-- What stands before and after the first `::`, if there is one. -/
def cutGap? : List Char → Option (List Char × List Char)
  | [] => none
  | ':' :: ':' :: cs => some ([], cs)
  | c :: cs => (cutGap? cs).map fun (before, after) => (c :: before, after)

/-- Reads an address of version 6. A gap, by `cutGap?`, stands for at least one zero group, and what is
left of it has no address of version 4. -/
def parse? (cs : List Char) : Option Ipv6 :=
  match cutGap? cs with
  | none => side? cs >>= ofGroups?
  | some (before, after) => do
    let head ← side? before
    let tail ← side? after
    if before.contains '.' ∨ head.length + tail.length > 7 then none
    ofGroups? (head ++ List.replicate (8 - head.length - tail.length) 0 ++ tail)

/-- The length of the run of zeros at the start of `gs`. -/
def zeroRun (gs : List UInt16) : Nat :=
  (gs.takeWhile (· = 0)).length

/-- Where the longest run of zeros starts and how long it is, counted from `index`; the first of
several. -/
def longestRun (index : Nat) : List UInt16 → Nat × Nat
  | [] => (index, 0)
  | g :: gs =>
    let here := zeroRun (g :: gs)
    let (start, length) := longestRun (index + 1) gs
    -- of equally long runs the first one counts
    if here ≥ length then (index, here) else (start, length)

/-- Groups with colons between them. -/
def joined (gs : List UInt16) : List Char :=
  [':'].intercalate (gs.map fun g => Text.hexDigits g.toNat)

/-- Writes an address of version 6, with a gap for the `longestRun` of zeros but for a single one. -/
def render (x : Ipv6) : String :=
  let (start, length) := longestRun 0 x.groups
  String.ofList <|
    if length < 2 then joined x.groups
    else joined (x.groups.take start) ++ "::".toList ++ joined (x.groups.drop (start + length))

end Ipv6

namespace IpAddr

/-- Reads an address of either version. -/
def parse? (s : String) : Option IpAddr :=
  (Ipv4.parse? s.toList).map v4 <|> (Ipv6.parse? s.toList).map v6

/-- Writes an address of either version. One of version 4 that is mapped into version 6 keeps its
points. -/
def render : IpAddr → String
  | v4 x => x.render
  | v6 x =>
    match x.groups with
    | [0, 0, 0, 0, 0, 0xFFFF, g, h] =>
      s!"::ffff:{(Ipv4.ofNat (g.toNat * 65536 + h.toNat)).render}"
    | _ => x.render

end IpAddr

end CertGate
