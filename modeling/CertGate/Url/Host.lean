import CertGate.Domain.Ascii
import CertGate.Url.Basic
import CertGate.Url.Percent

/-!
# Reading the host of a URL

A special scheme has a domain name, which is turned into ASCII, or an address; a name that ends in
a number is an address of version 4 in one of its many spellings. Other schemes take any text.
-/

namespace CertGate.Url

/-- Why a text cannot be read as a URL. -/
inductive ParseError where
  | emptyHost
  | invalidDomainName
  | invalidDomainCharacter
  | invalidPort
  | invalidIpv4
  | invalidIpv6
  | relativeWithoutBase
  deriving DecidableEq, Repr

/-- The text of a `ParseError`. -/
def ParseError.message : ParseError → String
  | .emptyHost => "empty host"
  | .invalidDomainName => "invalid international domain name"
  | .invalidDomainCharacter => "invalid domain character"
  | .invalidPort => "invalid port number"
  | .invalidIpv4 => "invalid IPv4 address"
  | .invalidIpv6 => "invalid IPv6 address"
  | .relativeWithoutBase => "relative URL without a base"

/-! ## Numbers for addresses -/

/-- One number of an address: hexadecimal after `0x`, octal after `0`, else decimal. -/
def looseNumber? : List Char → Option Nat
  | [] => none
  | ['0', 'x'] => some 0
  | ['0', 'X'] => some 0
  | '0' :: 'x' :: cs => Text.digits? 16 cs
  | '0' :: 'X' :: cs => Text.digits? 16 cs
  | '0' :: c :: cs => Text.digits? 8 (c :: cs)
  | cs => Text.digits? 10 cs

/-- The parts of a name between its points, without an empty one at the end. -/
def nameParts (cs : List Char) : List (List Char) :=
  let ps := Text.pieces '.' cs
  if ps.length > 1 ∧ ps.getLast? = some [] then ps.dropLast else ps

/-- Whether the last of `nameParts` is a number, so that the name has to be an address. -/
def endsInNumber (cs : List Char) : Bool :=
  match (nameParts cs).getLast? with
  | some part => (!part.isEmpty && part.all Char.isDigit) || (looseNumber? part).isSome
  | none => false

/-- Reads an address of up to four numbers by `looseNumber?`, the last of which fills all bytes that
are left. -/
def looseIpv4? (cs : List Char) : Option Ipv4 := do
  let numbers ← (nameParts cs).mapM looseNumber?
  let last ← numbers.getLast?
  let before := numbers.dropLast
  if numbers.length > 4 ∨ before.any (· > 255) ∨ last ≥ Nat.pow 256 (4 - before.length) then none
  -- the numbers in front fill one byte each, from the highest on
  let high := (before ++ List.replicate (4 - before.length) 0).foldl (fun n b => n * 256 + b) 0
  return Ipv4.ofNat (high + last)

/-! ## Hosts -/

/-- Reads an address of version 6 in brackets. -/
def readBracketed (cs : List Char) : Except ParseError Host :=
  if cs.getLast? = some ']' ∧ cs.length > 1 then
    match Ipv6.parse? (cs.drop 1).dropLast with
    | some addr => .ok (.v6 addr)
    | none => .error .invalidIpv6
  else .error .invalidIpv6

/-- Reads the host of a special scheme. -/
def readDomain (cs : List Char) : Except ParseError Host :=
  match cs with
  | '[' :: _ => readBracketed cs
  | _ =>
    match Domain.toAscii? (decodeBytes (Text.Utf8.encode cs)) with
    | none => .error .invalidDomainName
    | some [] => .error .emptyHost
    | some name =>
      if endsInNumber name then
        match looseIpv4? name with
        | some addr => .ok (.v4 addr)
        | none => .error .invalidIpv4
      else .ok (.domain (String.ofList name))

/-- The characters that the host of another scheme may not hold. -/
def isForbiddenInHost (c : Char) : Bool :=
  "\x00\t\n\r #/:<>?@[\\]^|".toList.contains c

/-- Reads the host of a scheme that has no rules of its own. -/
def readOpaqueHost (cs : List Char) : Except ParseError Host :=
  match cs with
  | '[' :: _ => readBracketed cs
  | _ =>
    if cs.any isForbiddenInHost then .error .invalidDomainCharacter
    else .ok (.domain (String.ofList (encode .controls cs)))

end CertGate.Url
