import CertGate.Url.Percent

/-!
# Percent decoding

What a text stands for when its percent signs are read. Percent-encoding some of its characters
makes no difference to that, as long as percent signs and digits stay as they are: a sign in front
of a character that is encoded cannot have been the start of an escape, neither before nor after.

## Key results

- `length_decodeBytes_le`: decoding never makes a text longer
- `decodeBytes_encodeBytes`: bytes that are written as escapes are decoded to themselves
- `decodeBytes_encode`: a text stands for the same bytes before and after it is encoded
-/

namespace CertGate.Url

/-! ## Single steps -/

/-- `decodeBytes` never makes a text longer. -/
theorem length_decodeBytes_le (bs : List UInt8) : (decodeBytes bs).length ≤ bs.length := by
  fun_induction decodeBytes bs with
  | case1 => exact Nat.le_refl _
  -- an escape: three bytes become one
  | case2 rest h₁ h₂ x y hx hy ih =>
    simp only [List.length_cons]
    omega
  -- a percent sign without two digits
  | case3 rest h₁ h₂ hnone ih =>
    simp only [List.length_cons] at ih ⊢
    omega
  -- any other byte
  | case4 b h₁ h₂ rest hb ih =>
    simp only [List.length_cons] at ih ⊢
    omega
  -- too little is left for an escape
  | case5 b rest hrest ih =>
    simp only [List.length_cons] at ih ⊢
    omega

/-- `decodeBytes` keeps a byte that is no percent sign. -/
theorem decodeBytes_cons_of_ne (b : UInt8) (bs : List UInt8) (h : b ≠ 0x25) :
    decodeBytes (b :: bs) = b :: decodeBytes bs := by
  match bs with
  | [] => rfl
  | [_] => rfl
  | _ :: _ :: _ => rw [decodeBytes, if_neg h]

/-- `decodeBytes` keeps a run of bytes without percent signs. -/
theorem decodeBytes_append_of_ne (as bs : List UInt8) (h : ∀ a ∈ as, a ≠ 0x25) :
    decodeBytes (as ++ bs) = as ++ decodeBytes bs := by
  induction as with
  | nil => rfl
  | cons a as ih =>
    rw [List.cons_append, decodeBytes_cons_of_ne a _ (h a List.mem_cons_self),
      ih fun b hb => h b (List.mem_cons_of_mem a hb)]
    rfl

/-- `decodeBytes` reads a percent sign and two digits as one byte. -/
theorem decodeBytes_escape (h₁ h₂ : UInt8) (x y : Nat) (bs : List UInt8)
    (hx : Text.hexByte? h₁ = some x) (hy : Text.hexByte? h₂ = some y) :
    decodeBytes (0x25 :: h₁ :: h₂ :: bs) = (x * 16 + y).toUInt8 :: decodeBytes bs := by
  rw [decodeBytes, if_pos rfl, hx, hy]

/-- The bytes start with two hexadecimal digits, for both of which `hexByte?` gives a number. -/
def StartsWithDigits (bs : List UInt8) : Prop :=
  ∃ h₁ h₂ rest, bs = h₁ :: h₂ :: rest ∧ (Text.hexByte? h₁).isSome ∧ (Text.hexByte? h₂).isSome

/-- `decodeBytes` keeps a percent sign that no two digits follow. -/
theorem decodeBytes_percent_of_not_digits (bs : List UInt8) (h : ¬StartsWithDigits bs) :
    decodeBytes (0x25 :: bs) = 0x25 :: decodeBytes bs := by
  match bs with
  | [] => rfl
  | [_] => rfl
  | h₁ :: h₂ :: rest =>
    rw [decodeBytes, if_pos rfl]
    split
    · next x y hx hy =>
      exact absurd ⟨h₁, h₂, rest, rfl, by rw [hx]; rfl, by rw [hy]; rfl⟩ h
    · rfl

/-! ## Escapes -/

/-- `Text.hexDigit` is written as one byte, and `Text.hexByte?` reads that byte as the digit. -/
theorem hexDigit_bytes (n : Nat) (h : n < 16) :
    ∃ b, String.utf8EncodeChar (Text.hexDigit 'A' n) = [b] ∧ Text.hexByte? b = some n := by
  have hall : ∀ n : Fin 16, String.utf8EncodeChar (Text.hexDigit 'A' n) =
      [(Text.hexDigit 'A' n).toNat.toUInt8] ∧
      Text.hexByte? (Text.hexDigit 'A' n).toNat.toUInt8 = some n.val := by decide
  exact ⟨_, hall ⟨n, h⟩⟩

/-- `decodeBytes` undoes `encodeByte`. -/
theorem decodeBytes_encodeByte (b : UInt8) (bs : List UInt8) :
    decodeBytes (Text.Utf8.encode (encodeByte b) ++ bs) = b :: decodeBytes bs := by
  have hb : b.toNat < 256 := b.toNat_lt
  obtain ⟨h₁, hbytes₁, hx⟩ := hexDigit_bytes (b.toNat / 16) (by omega)
  obtain ⟨h₂, hbytes₂, hy⟩ := hexDigit_bytes (b.toNat % 16) (by omega)
  have hwritten : Text.Utf8.encode (encodeByte b) = [0x25, h₁, h₂] := by
    simp only [Text.Utf8.encode, encodeByte, List.flatMap_cons, List.flatMap_nil, hbytes₁, hbytes₂]
    rfl
  rw [hwritten]
  show decodeBytes (0x25 :: h₁ :: h₂ :: bs) = _
  rw [decodeBytes_escape h₁ h₂ _ _ bs hx hy, Nat.div_add_mod' b.toNat 16]
  exact congrArg (· :: decodeBytes bs) UInt8.ofNat_toNat

/-- `decodeBytes` undoes `encodeByte` for a run of bytes. -/
theorem decodeBytes_encodeBytes (as bs : List UInt8) :
    decodeBytes (Text.Utf8.encode (as.flatMap encodeByte) ++ bs) = as ++ decodeBytes bs := by
  induction as with
  | nil => rfl
  | cons a as ih =>
    rw [List.flatMap_cons, Text.Utf8.encode, List.flatMap_append, List.append_assoc]
    exact (decodeBytes_encodeByte a _).trans (congrArg (a :: ·) ih)

/-! ## Characters -/

/-- By `utf8EncodeChar` a character is one byte with its own value, or several bytes beyond ASCII. -/
theorem utf8EncodeChar_cases (c : Char) :
    (c.toNat < 0x80 ∧ String.utf8EncodeChar c = [c.toNat.toUInt8]) ∨
      (0x80 ≤ c.toNat ∧ ∀ b ∈ String.utf8EncodeChar c, 0x80 ≤ b.toNat) := by
  by_cases hc : c.toNat < 0x80
  · refine Or.inl ⟨hc, ?_⟩
    have hle : c.val.toNat ≤ 0x7f := Nat.le_of_lt_succ hc
    simp only [String.utf8EncodeChar, if_pos hle]
    rfl
  · refine Or.inr ⟨Nat.le_of_not_lt hc, fun b hb => ?_⟩
    have hnot : ¬c.val.toNat ≤ 0x7f := fun hle => hc (Nat.lt_succ_of_le hle)
    simp only [String.utf8EncodeChar, if_neg hnot] at hb
    split at hb
    · -- two bytes
      simp only [List.mem_cons, List.not_mem_nil, or_false] at hb
      obtain rfl | rfl := hb <;> rw [UInt8.toNat_ofNat'] <;> omega
    · split at hb
      · -- three bytes
        simp only [List.mem_cons, List.not_mem_nil, or_false] at hb
        obtain rfl | rfl | rfl := hb <;> rw [UInt8.toNat_ofNat'] <;> omega
      · -- four bytes
        simp only [List.mem_cons, List.not_mem_nil, or_false] at hb
        obtain rfl | rfl | rfl | rfl := hb <;> rw [UInt8.toNat_ofNat'] <;> omega

/-- The bytes of `c` do not hold the byte of another character of ASCII. -/
theorem ne_of_mem_utf8EncodeChar (c d : Char) (hd : d.toNat < 0x80) (hc : c ≠ d) (b : UInt8)
    (hb : b ∈ String.utf8EncodeChar c) : b ≠ d.toNat.toUInt8 := by
  rintro rfl
  obtain ⟨hlt, hone⟩ | ⟨-, hbeyond⟩ := utf8EncodeChar_cases c
  · -- one byte each, with different values
    rw [hone, List.mem_singleton, ← UInt8.toNat_inj, UInt8.toNat_ofNat', UInt8.toNat_ofNat',
      Nat.mod_eq_of_lt (Nat.lt_trans hd (by decide)),
      Nat.mod_eq_of_lt (Nat.lt_trans hlt (by decide))] at hb
    exact hc (Char.toNat_inj.1 hb).symm
  · -- several bytes, all beyond ASCII
    have hge := hbeyond _ hb
    rw [UInt8.toNat_ofNat', Nat.mod_eq_of_lt (Nat.lt_trans hd (by decide))] at hge
    omega

theorem ne_percent_of_mem_utf8EncodeChar (c : Char) (hc : c ≠ '%') (b : UInt8)
    (hb : b ∈ String.utf8EncodeChar c) : b ≠ 0x25 :=
  ne_of_mem_utf8EncodeChar c '%' (by decide) hc b hb

/-- A character that is written as one byte, a hexadecimal digit that `hexByte?` reads. -/
def IsHexDigit (c : Char) : Prop :=
  ∃ b, String.utf8EncodeChar c = [b] ∧ (Text.hexByte? b).isSome

/-- No byte beyond ASCII is a hexadecimal digit: `hexByte?` gives nothing. -/
theorem hexByte?_of_ge (b : UInt8) (h : 0x80 ≤ b.toNat) : Text.hexByte? b = none := by
  have hall : ∀ n : Fin 256, 0x80 ≤ n.val → Text.hexByte? n.val.toUInt8 = none := by decide +kernel
  have hb := hall ⟨b.toNat, b.toNat_lt⟩ h
  rwa [show b.toNat.toUInt8 = b from UInt8.ofNat_toNat] at hb

/-- `IsHexDigit` holds of characters of ASCII only. -/
theorem utf8EncodeChar_of_isHexDigit (c : Char) (hc : IsHexDigit c) :
    c.toNat < 0x80 ∧ String.utf8EncodeChar c = [c.toNat.toUInt8] := by
  obtain ⟨b, hone, hb⟩ := hc
  obtain hascii | ⟨-, hbeyond⟩ := utf8EncodeChar_cases c
  · exact hascii
  · rw [hexByte?_of_ge b (hbeyond b (by rw [hone]; exact List.mem_cons_self))] at hb
    cases hb

/-- If the bytes of `cs` start with two digits, so do its characters. -/
theorem isHexDigit_of_startsWithDigits (cs : List Char)
    (h : StartsWithDigits (Text.Utf8.encode cs)) :
    ∃ d₁ d₂ rest, cs = d₁ :: d₂ :: rest ∧ IsHexDigit d₁ ∧ IsHexDigit d₂ := by
  have hfirst : ∀ (c : Char) (cs : List Char) (b : UInt8) (bs : List UInt8),
      Text.Utf8.encode (c :: cs) = b :: bs → (Text.hexByte? b).isSome →
        IsHexDigit c ∧ Text.Utf8.encode cs = bs := by
    intro c cs b bs hbytes hb
    rw [Text.Utf8.encode, List.flatMap_cons] at hbytes
    obtain ⟨-, hone⟩ | ⟨-, hbeyond⟩ := utf8EncodeChar_cases c
    · rw [hone] at hbytes
      obtain ⟨rfl, hrest⟩ := List.cons.inj hbytes
      exact ⟨⟨_, hone, hb⟩, hrest⟩
    · -- no byte beyond ASCII is a digit
      cases hc : String.utf8EncodeChar c with
      | nil => exact absurd hc String.utf8EncodeChar_ne_nil
      | cons a as =>
        rw [hc] at hbytes
        obtain ⟨rfl, -⟩ := List.cons.inj hbytes
        rw [hexByte?_of_ge a (hbeyond a (by rw [hc]; exact List.mem_cons_self))] at hb
        cases hb
  -- two digits are two characters, one byte each
  obtain ⟨h₁, h₂, rest, hbytes, hd₁, hd₂⟩ := h
  match cs with
  | [] => cases hbytes
  | [c] =>
    obtain ⟨-, hrest⟩ := hfirst c [] h₁ _ hbytes hd₁
    cases hrest
  | c :: d :: cs =>
    obtain ⟨hc, hrest⟩ := hfirst c (d :: cs) h₁ _ hbytes hd₁
    obtain ⟨hd, -⟩ := hfirst d cs h₂ _ hrest hd₂
    exact ⟨c, d, cs, rfl, hc, hd⟩

/-! ## Encoded texts -/

/-- A set of characters to `encode` that leaves percent signs and hexadecimal digits as they are. -/
structure PercentSet.KeepsEscapes (set : PercentSet) : Prop where
  percent : set '%' = false
  digit : ∀ c, IsHexDigit c → set c = false

/-- The set `PercentSet.path` keeps escapes. -/
theorem PercentSet.keepsEscapes_path : PercentSet.KeepsEscapes .path where
  percent := by decide
  digit c hc := by
    -- only ASCII has digits, so it is enough to try that
    have hall : ∀ n : Fin 128, (Text.hexByte? n.val.toUInt8).isSome →
        PercentSet.path (Char.ofNat n) = false := by decide +kernel
    obtain ⟨hlt, hone⟩ := utf8EncodeChar_of_isHexDigit c hc
    obtain ⟨b, hone', hb⟩ := hc
    rw [hone] at hone'
    obtain ⟨rfl, -⟩ := List.cons.inj hone'
    have hset := hall ⟨c.toNat, hlt⟩ hb
    rwa [Char.ofNat_toNat] at hset

/-- `decodeBytes` reads a character other than the percent sign as its bytes, encoded or not. -/
theorem decodeBytes_encodeChar (set : PercentSet) (c : Char) (hc : c ≠ '%') (bs : List UInt8) :
    decodeBytes (Text.Utf8.encode (encodeChar set c) ++ bs) =
      String.utf8EncodeChar c ++ decodeBytes bs := by
  unfold encodeChar
  split
  · -- left as it is
    rw [Text.Utf8.encode, List.flatMap_cons, List.flatMap_nil, List.append_nil]
    exact decodeBytes_append_of_ne _ bs (ne_percent_of_mem_utf8EncodeChar c hc)
  · exact decodeBytes_encodeBytes _ bs

/-- If `encode` gives a text that starts with `d`, and `d` is no percent sign, the text started with
`d` before. -/
theorem encode_eq_cons (set : PercentSet) (cs : List Char) (d : Char) (ds : List Char)
    (hd : d ≠ '%') (h : encode set cs = d :: ds) : ∃ cs', cs = d :: cs' ∧ ds = encode set cs' := by
  cases cs with
  | nil => cases h
  | cons c cs =>
    rw [encode, List.flatMap_cons, encodeChar] at h
    split at h
    · obtain ⟨rfl, hrest⟩ := List.cons.inj h
      exact ⟨cs, rfl, hrest.symm⟩
    · -- an encoded character would have put a percent sign first
      cases hc : String.utf8EncodeChar c with
      | nil => exact absurd hc String.utf8EncodeChar_ne_nil
      | cons b bs =>
        rw [hc, List.flatMap_cons] at h
        exact absurd (List.cons.inj h).1.symm hd

/-- `encode` keeps hexadecimal digits. -/
theorem encode_cons_of_isHexDigit (set : PercentSet) (hset : set.KeepsEscapes) (c : Char)
    (cs : List Char) (hc : IsHexDigit c) : encode set (c :: cs) = c :: encode set cs := by
  obtain ⟨hlt, -⟩ := utf8EncodeChar_of_isHexDigit c hc
  rw [encode, List.flatMap_cons, encodeChar, if_pos ⟨hlt, hset.digit c hc⟩]
  rfl

/-- No hexadecimal digit is the percent sign. -/
theorem ne_percent_of_isHexDigit (c : Char) (hc : IsHexDigit c) : c ≠ '%' := by
  rintro rfl
  obtain ⟨b, hone, hb⟩ := hc
  have hpercent : String.utf8EncodeChar '%' = [0x25] := by decide
  rw [hpercent] at hone
  cases hone
  exact absurd hb (by decide)

/-- The bytes of a text that starts with two hexadecimal digits, `d₁` and `d₂`. -/
theorem encode_two_digits (d₁ d₂ : Char) (hd₁ : IsHexDigit d₁) (hd₂ : IsHexDigit d₂) :
    ∃ b₁ b₂ x y, Text.hexByte? b₁ = some x ∧ Text.hexByte? b₂ = some y ∧
      ∀ cs, Text.Utf8.encode (d₁ :: d₂ :: cs) = b₁ :: b₂ :: Text.Utf8.encode cs := by
  obtain ⟨b₁, hone₁, hb₁⟩ := hd₁
  obtain ⟨b₂, hone₂, hb₂⟩ := hd₂
  obtain ⟨x, hx⟩ := Option.isSome_iff_exists.1 hb₁
  obtain ⟨y, hy⟩ := Option.isSome_iff_exists.1 hb₂
  refine ⟨b₁, b₂, x, y, hx, hy, fun cs => ?_⟩
  rw [Text.Utf8.encode, List.flatMap_cons, List.flatMap_cons, hone₁, hone₂]
  rfl

/-- `encode` neither brings two digits to the front nor takes them away. -/
theorem startsWithDigits_encode_iff (set : PercentSet) (hset : set.KeepsEscapes) (cs : List Char) :
    StartsWithDigits (Text.Utf8.encode (encode set cs)) ↔
      StartsWithDigits (Text.Utf8.encode cs) := by
  -- it is enough to look at the first two characters, which `encode` keeps on either side
  have hmk : ∀ (d₁ d₂ : Char) (rest : List Char), IsHexDigit d₁ → IsHexDigit d₂ →
      StartsWithDigits (Text.Utf8.encode (d₁ :: d₂ :: rest)) := by
    intro d₁ d₂ rest hd₁ hd₂
    obtain ⟨b₁, b₂, x, y, hx, hy, htwo⟩ := encode_two_digits d₁ d₂ hd₁ hd₂
    exact ⟨b₁, b₂, _, htwo rest, by rw [hx]; rfl, by rw [hy]; rfl⟩
  constructor
  · intro h
    obtain ⟨d₁, d₂, rest, henc, hd₁, hd₂⟩ := isHexDigit_of_startsWithDigits _ h
    obtain ⟨cs₁, rfl, henc₁⟩ := encode_eq_cons set cs d₁ _ (ne_percent_of_isHexDigit d₁ hd₁) henc
    obtain ⟨cs₂, rfl, -⟩ :=
      encode_eq_cons set cs₁ d₂ _ (ne_percent_of_isHexDigit d₂ hd₂) henc₁.symm
    exact hmk d₁ d₂ cs₂ hd₁ hd₂
  · intro h
    obtain ⟨d₁, d₂, rest, rfl, hd₁, hd₂⟩ := isHexDigit_of_startsWithDigits _ h
    rw [encode_cons_of_isHexDigit set hset d₁ _ hd₁, encode_cons_of_isHexDigit set hset d₂ _ hd₂]
    exact hmk d₁ d₂ _ hd₁ hd₂

/-- `decodeBytes` reads the same before and after `encode`. -/
theorem decodeBytes_encode (set : PercentSet) (hset : set.KeepsEscapes) (cs : List Char) :
    decodeBytes (Text.Utf8.encode (encode set cs)) = decodeBytes (Text.Utf8.encode cs) := by
  -- the induction is on the length, since an escape takes three characters at once
  induction hlength : cs.length using Nat.strongRecOn generalizing cs with
  | ind n ih =>
    cases cs with
    | nil => rfl
    | cons c cs =>
      by_cases hc : c = '%'
      case neg =>
        -- no percent sign: the character stands for its bytes on both sides
        have hcs := ih cs.length (by rw [← hlength]; exact Nat.lt_succ_self _) cs rfl
        rw [encode, List.flatMap_cons, ← encode, Text.Utf8.encode, List.flatMap_append,
          ← Text.Utf8.encode, ← Text.Utf8.encode, decodeBytes_encodeChar set c hc, hcs]
        rw [Text.Utf8.encode, Text.Utf8.encode, List.flatMap_cons,
          decodeBytes_append_of_ne _ _ (ne_percent_of_mem_utf8EncodeChar c hc)]
      subst hc
      have hraw : ∀ cs, Text.Utf8.encode ('%' :: cs) = 0x25 :: Text.Utf8.encode cs := fun _ => rfl
      have hpercent : encode set ('%' :: cs) = '%' :: encode set cs := by
        rw [encode, List.flatMap_cons, encodeChar, if_pos ⟨by decide, hset.percent⟩]
        rfl
      rw [hpercent, hraw, hraw]
      -- the digits of an escape are kept, and no others come to stand behind the sign
      by_cases hdigits : StartsWithDigits (Text.Utf8.encode cs)
      · -- an escape, which is three characters on both sides
        obtain ⟨d₁, d₂, rest, rfl, hd₁, hd₂⟩ := isHexDigit_of_startsWithDigits cs hdigits
        have hrest := ih rest.length (by rw [← hlength]; simp only [List.length_cons]; omega) rest rfl
        obtain ⟨b₁, b₂, x, y, hx, hy, htwo⟩ := encode_two_digits d₁ d₂ hd₁ hd₂
        rw [encode_cons_of_isHexDigit set hset d₁ _ hd₁, encode_cons_of_isHexDigit set hset d₂ _ hd₂,
          htwo, htwo, decodeBytes_escape b₁ b₂ x y _ hx hy, decodeBytes_escape b₁ b₂ x y _ hx hy,
          hrest]
      · -- a percent sign that stands for itself on both sides
        have hcs := ih cs.length (by rw [← hlength]; exact Nat.lt_succ_self _) cs rfl
        rw [decodeBytes_percent_of_not_digits _ hdigits,
          decodeBytes_percent_of_not_digits _
            (mt (startsWithDigits_encode_iff set hset cs).1 hdigits), hcs]

end CertGate.Url
