/-!
# UTF-8

Bytes are read character by character; where they are ill-formed, the longest start of a character
counts as one fault. `decode?` refuses faults, `decodeLossy` writes a replacement character for
each.
-/

namespace CertGate.Text.Utf8

/-- What a lead byte of more than one says: how many bytes follow, which values the first of them
may have, and the bits that the lead contributes. -/
structure Lead where
  following : Nat
  low : UInt8
  high : UInt8
  bits : Nat
  deriving DecidableEq, Repr

/-- The bytes that may lead a longer character. -/
def lead? (b : UInt8) : Option Lead :=
  if 0xC2 ≤ b ∧ b ≤ 0xDF then some ⟨1, 0x80, 0xBF, b.toNat - 0xC0⟩
  else if b = 0xE0 then some ⟨2, 0xA0, 0xBF, 0⟩
  else if b = 0xED then some ⟨2, 0x80, 0x9F, 0xD⟩
  else if 0xE1 ≤ b ∧ b ≤ 0xEF then some ⟨2, 0x80, 0xBF, b.toNat - 0xE0⟩
  else if b = 0xF0 then some ⟨3, 0x90, 0xBF, 0⟩
  else if 0xF1 ≤ b ∧ b ≤ 0xF3 then some ⟨3, 0x80, 0xBF, b.toNat - 0xF0⟩
  else if b = 0xF4 then some ⟨3, 0x80, 0x8F, 4⟩
  else none

/-- Takes the following bytes of a character, the first of them from `low` to `high`. Gives the code
point, or `none` where a byte does not follow, and the bytes that were not taken. -/
def take (low high : UInt8) (code : Nat) : Nat → List UInt8 → Option Nat × List UInt8
  | 0, bs => (some code, bs)
  | _ + 1, [] => (none, [])
  | n + 1, b :: bs =>
    if low ≤ b ∧ b ≤ high then take 0x80 0xBF (code * 64 + (b.toNat - 0x80)) n bs
    else (none, b :: bs)

theorem take_length (low high : UInt8) (code n : Nat) (bs : List UInt8) :
    (take low high code n bs).2.length ≤ bs.length := by
  induction bs generalizing low high code n with
  | nil => cases n <;> simp [take]
  | cons b bs ih =>
    cases n with
    | zero => simp [take]
    | succ n =>
      simp only [take]
      split
      · exact Nat.le_succ_of_le (ih ..)
      · simp

/-- The characters of a text, with `none` in the place of each fault. -/
def scan (bs : List UInt8) : List (Option Char) :=
  match bs with
  | [] => []
  | b :: bs =>
    if b < 0x80 then some (Char.ofNat b.toNat) :: scan bs
    else
      match lead? b with
      | none => none :: scan bs
      | some lead =>
        let taken := take lead.low lead.high lead.bits lead.following bs
        taken.1.map Char.ofNat :: scan taken.2
termination_by bs.length
decreasing_by
  · simp
  · simp
  · exact Nat.lt_succ_of_le (take_length ..)

/-- The characters of a well-formed text, otherwise `none`. -/
def decode? (bs : List UInt8) : Option (List Char) :=
  (scan bs).mapM id

/-- The characters of a text, with U+FFFD in the place of each fault. -/
def decodeLossy (bs : List UInt8) : List Char :=
  (scan bs).map (·.getD '\ufffd')

/-- The UTF-8 bytes of characters. -/
def encode (cs : List Char) : List UInt8 :=
  cs.flatMap String.utf8EncodeChar

/-- The text of well-formed bytes, otherwise `none`. -/
def text? (bs : List UInt8) : Option String :=
  (decode? bs).map String.ofList

/-- The UTF-8 bytes of a text. -/
def bytes (s : String) : List UInt8 :=
  encode s.toList

end CertGate.Text.Utf8
