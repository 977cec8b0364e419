/-!
# Decimal numbers as text

`readNat` reads an unsigned decimal number below a bound and says what is wrong with a text that is
none. Printing is `Nat.repr`.
-/

namespace CertGate.Text

/-- Why `readNat` cannot read a number. -/
inductive NumberError where
  | empty
  | invalidDigit
  | tooLarge
  deriving DecidableEq, Repr

/-- The text of a `NumberError`. -/
def NumberError.message : NumberError → String
  | .empty => "cannot parse integer from empty string"
  | .invalidDigit => "invalid digit found in string"
  | .tooLarge => "number too large to fit in target type"

/-- The value of a digit of a base up to 36, letters in either case. -/
def digitValue? (base : Nat) (c : Char) : Option Nat :=
  let value? :=
    if c.isDigit then some (c.toNat - '0'.toNat)
    else if 'a' ≤ c ∧ c ≤ 'z' then some (c.toNat - 'a'.toNat + 10)
    else if 'A' ≤ c ∧ c ≤ 'Z' then some (c.toNat - 'A'.toNat + 10)
    else none
  value?.filter (· < base)

/-- The value of a run of digits that continues the number `n`; nothing if one is no digit. -/
def digitsFrom? (base n : Nat) : List Char → Option Nat
  | [] => some n
  | c :: cs => do digitsFrom? base (n * base + (← digitValue? base c)) cs

/-- The value of a non-empty run of digits. -/
def digits? (base : Nat) (cs : List Char) : Option Nat :=
  if cs.isEmpty then none else digitsFrom? base 0 cs

/-- Reads digits that continue the number `n` and stay below `bound`. What is wrong first, from the
left, is reported. -/
def readNatFrom (bound n : Nat) : List Char → Except NumberError Nat
  | [] => .ok n
  | c :: cs =>
    match digitValue? 10 c with
    | none => .error .invalidDigit
    | some d => if n * 10 + d < bound then readNatFrom bound (n * 10 + d) cs else .error .tooLarge

/-- Reads a decimal number below `bound`, which may have one leading `+`. -/
def readNat (bound : Nat) (cs : List Char) : Except NumberError Nat :=
  match cs with
  | [] => .error .empty
  | ['+'] => .error .invalidDigit
  | '+' :: c :: cs => readNatFrom bound 0 (c :: cs)
  | c :: cs => readNatFrom bound 0 (c :: cs)

/-- A number in decimal digits, at least `width` of them. -/
def padded (width n : Nat) : String :=
  let s := n.repr
  String.ofList (List.replicate (width - s.length) '0') ++ s

end CertGate.Text
