import CertGate.Json.Text
import CertGate.Proofs.PercentDecoding
import CertGate.Proofs.TokenSpelling
import CertGate.Proofs.Utf8RoundTrip

/-!
# Strings and their escapes

The inside of a string that is written for a text ends where its quote does, and says this text: a
quote, a backslash and a control character are told by their escapes, and no byte of any other character
is one of them.

## Key results

- `isBody_escape`: what is written can stand between quotes
- `textOf_escape`: it says the text it was written for
-/

namespace CertGate.Json

open Text.Utf8 (encode)

/-- The bytes that `escape` writes between the quotes for the text `s`. -/
abbrev escapedBytes (s : String) : List UInt8 :=
  encode (escape s)

/-! ## Escapes of one character -/

/-- `unescape` keeps a byte other than the backslash. -/
theorem unescape_plain (b : UInt8) (rest bs : List UInt8) (hb : b ≠ 0x5C) (h : unescape rest = .ok bs) :
    unescape (b :: rest) = .ok (b :: bs) := by
  rw [unescape.eq_def]
  simp [hb, h]

/-- `unescape` reads a backslash and a byte other than `u` as what `simpleEscape` says. -/
theorem unescape_simple (e : UInt8) (rest bs : List UInt8) (he : e ≠ 0x75) (h : unescape rest = .ok bs) :
    unescape (0x5C :: e :: rest) = .ok (simpleEscape e :: bs) := by
  rw [unescape.eq_def]
  simp [he, h]

/-- `unescape` reads `\u` and four digits of a number below the surrogates as the character of that
number. -/
theorem unescape_unit (h₁ h₂ h₃ h₄ : UInt8) (n : Nat) (rest bs : List UInt8)
    (hn : hexUnit? h₁ h₂ h₃ h₄ = some n) (hlow : n < 0xD800) (h : unescape rest = .ok bs) :
    unescape (0x5C :: 0x75 :: h₁ :: h₂ :: h₃ :: h₄ :: rest) =
      .ok (String.utf8EncodeChar (Char.ofNat n) ++ bs) := by
  have hnotlow : ¬(0xDC00 ≤ n ∧ n ≤ 0xDFFF) := by omega
  have hnothigh : ¬(0xD800 ≤ n ∧ n ≤ 0xDBFF) := by omega
  rw [unescape.eq_def]
  simp only [hn, if_neg hnotlow, if_neg hnothigh, h]
  rfl

/-- `unescape` keeps bytes among which there is no backslash. -/
theorem unescape_append_of_ne (as rest bs : List UInt8) (has : ∀ a ∈ as, a ≠ 0x5C)
    (h : unescape rest = .ok bs) : unescape (as ++ rest) = .ok (as ++ bs) := by
  induction as with
  | nil => exact h
  | cons a as ih =>
    obtain ⟨ha, has⟩ := List.forall_mem_cons.1 has
    exact unescape_plain a _ _ ha (ih has)

/-- The escape of a control character has two digits from which `hexUnit?` reads its code again. -/
theorem exists_control_escape (c : Char) (hc : c.toNat < 0x20) :
    ∃ h₃ h₄, encode ['\\', 'u', '0', '0', Text.hexDigit 'a' (c.toNat / 16),
        Text.hexDigit 'a' (c.toNat % 16)] = [0x5C, 0x75, 0x30, 0x30, h₃, h₄] ∧
      [0x30, 0x30, h₃, h₄].all (Text.hexByte? · |>.isSome) = true ∧
      hexUnit? 0x30 0x30 h₃ h₄ = some c.toNat := by
  let digit (n : Nat) : UInt8 := (Text.hexDigit 'a' n).toNat.toUInt8
  -- the digits depend on the code alone, and there are only 32 codes
  have hall : ∀ n : Fin 0x20,
      encode ['\\', 'u', '0', '0', Text.hexDigit 'a' (n.val / 16), Text.hexDigit 'a' (n.val % 16)] =
          [0x5C, 0x75, 0x30, 0x30, digit (n.val / 16), digit (n.val % 16)] ∧
        [0x30, 0x30, digit (n.val / 16), digit (n.val % 16)].all
          (Text.hexByte? · |>.isSome) = true ∧
        hexUnit? 0x30 0x30 (digit (n.val / 16)) (digit (n.val % 16)) = some n.val := by
    decide +kernel
  exact ⟨_, _, hall ⟨c.toNat, hc⟩⟩

/-- The bytes of a character that is no quote, no backslash and no control character, by
`utf8EncodeChar`, are none of these. -/
theorem plain_of_mem_utf8EncodeChar (c : Char) (hquote : c ≠ '"') (hslash : c ≠ '\\')
    (hcontrol : ¬c.toNat < 0x20) (b : UInt8) (hb : b ∈ String.utf8EncodeChar c) :
    0x20 ≤ b ∧ b ≠ 0x22 ∧ b ≠ 0x5C := by
  refine ⟨?_, Url.ne_of_mem_utf8EncodeChar c '"' (by decide) hquote b hb,
    Url.ne_of_mem_utf8EncodeChar c '\\' (by decide) hslash b hb⟩
  rw [UInt8.le_iff_toNat_le]
  -- one byte of ASCII, or bytes that are all beyond it
  obtain ⟨hlt, hone⟩ | ⟨-, hbeyond⟩ := Url.utf8EncodeChar_cases c
  · rw [hone, List.mem_singleton] at hb
    subst hb
    rw [UInt8.toNat_ofNat']
    simp only [UInt8.reduceToNat]
    omega
  · exact Nat.le_trans (by decide) (hbeyond b hb)

/-- Bytes that need no escape can stand between quotes: they make an `IsBody`. -/
theorem isBody_of_plain (bs : List UInt8) (h : ∀ b ∈ bs, 0x20 ≤ b ∧ b ≠ 0x22 ∧ b ≠ 0x5C) : IsBody bs := by
  induction bs with
  | nil => exact .nil
  | cons b bs ih =>
    obtain ⟨⟨hcontrol, hquote, hslash⟩, hbs⟩ := List.forall_mem_cons.1 h
    exact .plain b bs hcontrol hquote hslash (ih hbs)

/-- What `escapeChar` writes for `c` can stand in a string, and `unescape` reads it as the bytes of
`c`. -/
theorem escapeChar_spec (c : Char) :
    IsBody (encode (escapeChar c)) ∧ ∀ rest bs, unescape rest = .ok bs →
      unescape (encode (escapeChar c) ++ rest) = .ok (String.utf8EncodeChar c ++ bs) := by
  -- an escape of two bytes
  have hsimple (e : UInt8) (hsimple : Token.isSimpleEscape e = true) (he : e ≠ 0x75) :
      IsBody [0x5C, e] ∧ ∀ rest bs, unescape rest = .ok bs →
        unescape ([0x5C, e] ++ rest) = .ok ([simpleEscape e] ++ bs) :=
    ⟨.escape e [] hsimple .nil, fun rest bs h => unescape_simple e rest bs he h⟩
  unfold escapeChar
  split
  case h_1 => exact hsimple 0x22 (by decide) (by decide)
  case h_2 => exact hsimple 0x5C (by decide) (by decide)
  case h_3 => exact hsimple 0x62 (by decide) (by decide)
  case h_4 => exact hsimple 0x66 (by decide) (by decide)
  case h_5 => exact hsimple 0x6E (by decide) (by decide)
  case h_6 => exact hsimple 0x72 (by decide) (by decide)
  case h_7 => exact hsimple 0x74 (by decide) (by decide)
  case h_8 hquote hslash _ _ _ _ _ =>
    split
    · next hcontrol =>
      -- a control character: four digits tell its code
      obtain ⟨h₃, h₄, hbytes, hdigits, hunit⟩ := exists_control_escape c hcontrol
      rw [hbytes]
      refine ⟨.unit 0x30 0x30 h₃ h₄ [] hdigits .nil, fun rest bs h => ?_⟩
      have hchar := unescape_unit 0x30 0x30 h₃ h₄ c.toNat rest bs hunit (by omega) h
      rwa [Char.ofNat_toNat] at hchar
    · next hcontrol =>
      -- every other character stands for itself
      have hplain := plain_of_mem_utf8EncodeChar c hquote hslash hcontrol
      have hone : encode [c] = String.utf8EncodeChar c := List.flatMap_singleton ..
      rw [hone]
      exact ⟨isBody_of_plain _ hplain, fun rest bs h =>
        unescape_append_of_ne _ rest bs (fun b hb => (hplain b hb).2.2) h⟩

/-! ## Texts -/

/-- What `escape` writes for a text can stand between quotes. -/
theorem isBody_escape (s : String) : IsBody (escapedBytes s) := by
  rw [escapedBytes, escape]
  induction s.toList with
  | nil => exact .nil
  | cons c cs ih =>
    rw [List.flatMap_cons, encode, List.flatMap_append]
    exact (escapeChar_spec c).1.append ih

/-- `unescape` reads what `escape` wrote for a text as the bytes of this text. -/
theorem unescape_escape (s : String) : unescape (escapedBytes s) = .ok (Text.Utf8.bytes s) := by
  rw [escapedBytes, escape, Text.Utf8.bytes]
  induction s.toList with
  | nil => rfl
  | cons c cs ih =>
    rw [List.flatMap_cons, encode, List.flatMap_append]
    -- one character at a time, the rest of the text behind it
    exact (escapeChar_spec c).2 _ _ ih

/-- `textOf` reads what `escape` wrote for `s` as `s`. -/
theorem textOf_escape (s : String) : textOf (escapedBytes s) = .ok s := by
  simp only [textOf, unescape_escape, Text.Utf8.text?_bytes]

end CertGate.Json
