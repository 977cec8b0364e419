import CertGate.Proofs.PercentDecoding
import CertGate.Text.Alphanumeric
import CertGate.Url.Path

/-!
# Segments before and after they are encoded

A path is encoded segment by segment before its steps are taken. Encoding neither makes nor hides a
step, the name of a drive, or an empty segment, so all of them can be seen in the path as it was sent.

## Key results

- `dotted_encode`: the spellings of a dot are the same before and after
- `isDoubleDot_encode`, `isSingleDot_encode`: so are steps
- `normalDrive_encode`, `driveOf?_encode`: and the names of drives
-/

namespace CertGate.Url

/-! ## Lengths -/

/-- `encodeChar` writes a character as itself, or as one escape at least. -/
theorem encodeChar_cases (set : PercentSet) (c : Char) :
    encodeChar set c = [c] ∨ 3 ≤ (encodeChar set c).length := by
  unfold encodeChar
  split
  · exact Or.inl rfl
  · refine Or.inr ?_
    cases hc : String.utf8EncodeChar c with
    | nil => exact absurd hc String.utf8EncodeChar_ne_nil
    | cons b bs =>
      simp only [List.flatMap_cons, encodeByte, List.length_append, List.length_cons,
        List.length_nil]
      omega

/-- What is shorter than an escape once `encode` has passed over it was written as itself. -/
theorem encode_eq_self_of_length (set : PercentSet) (cs : List Char)
    (h : (encode set cs).length < 3) : encode set cs = cs := by
  induction cs with
  | nil => rfl
  | cons c cs ih =>
    rw [encode, List.flatMap_cons, ← encode, List.length_append] at h
    rw [encode, List.flatMap_cons, ← encode]
    obtain hself | hlong := encodeChar_cases set c
    · -- the character is written as itself
      rw [hself, ih (by omega)]
      rfl
    · -- an escape is too long already
      omega

/-- `encode` gives the empty text only for the empty one. -/
theorem encode_eq_nil_iff (set : PercentSet) (cs : List Char) : encode set cs = [] ↔ cs = [] := by
  constructor
  · intro h
    rw [← encode_eq_self_of_length set cs (by rw [h]; decide), h]
  · rintro rfl
    rfl

/-! ## Dots -/

/-- A set of characters to encode that leaves dots as they are, and with `KeepsEscapes` escapes as
well. -/
structure PercentSet.KeepsDots (set : PercentSet) : Prop extends set.KeepsEscapes where
  dot : set '.' = false

/-- The set `PercentSet.path` keeps dots. -/
theorem PercentSet.keepsDots_path : PercentSet.KeepsDots .path where
  toKeepsEscapes := PercentSet.keepsEscapes_path
  dot := by decide

/-- `dotted` keeps a character that does not start a spelled-out dot. -/
theorem dotted_cons (c : Char) (cs : List Char)
    (h : ∀ cs', c = '%' → cs ≠ '2' :: 'e' :: cs' ∧ cs ≠ '2' :: 'E' :: cs') :
    dotted (c :: cs) = c :: dotted cs := by
  rw [dotted]
  · exact fun cs' hc hcs => (h cs' hc).1 hcs
  · exact fun cs' hc hcs => (h cs' hc).2 hcs

/-- `dotted` keeps the escape of any byte but that of the dot. -/
theorem dotted_encodeByte (b : UInt8) (hb : b ≠ 0x2E) (cs : List Char) :
    dotted (encodeByte b ++ cs) = encodeByte b ++ dotted cs := by
  -- all bytes are tried: neither digit is a percent sign, and the two are not those of a dot
  have hall : ∀ n : Fin 256, n.val ≠ 0x2E →
      Text.hexDigit 'A' (n / 16) ≠ '%' ∧ Text.hexDigit 'A' (n % 16) ≠ '%' ∧
        ¬(Text.hexDigit 'A' (n / 16) = '2' ∧
          (Text.hexDigit 'A' (n % 16) = 'e' ∨ Text.hexDigit 'A' (n % 16) = 'E')) := by
    decide +kernel
  have hne : b.toNat ≠ 0x2E := fun h => hb (UInt8.toNat_inj.1 h)
  obtain ⟨hhigh, hlow, hdot⟩ := hall ⟨b.toNat, b.toNat_lt⟩ hne
  simp only [encodeByte, List.cons_append, List.nil_append]
  rw [dotted_cons, dotted_cons _ _ fun _ h => absurd h hhigh,
    dotted_cons _ _ fun _ h => absurd h hlow]
  intro cs' _
  constructor
  · intro h
    obtain ⟨hh, hrest⟩ := List.cons.inj h
    exact hdot ⟨hh, Or.inl (List.cons.inj hrest).1⟩
  · intro h
    obtain ⟨hh, hrest⟩ := List.cons.inj h
    exact hdot ⟨hh, Or.inr (List.cons.inj hrest).1⟩

/-- `dotted` keeps the escapes of bytes other than the dot. -/
theorem dotted_encodeBytes (bs : List UInt8) (hbs : ∀ b ∈ bs, b ≠ 0x2E) (cs : List Char) :
    dotted (bs.flatMap encodeByte ++ cs) = bs.flatMap encodeByte ++ dotted cs := by
  induction bs with
  | nil => rfl
  | cons b bs ih =>
    rw [List.flatMap_cons, List.append_assoc, dotted_encodeByte b (hbs b List.mem_cons_self),
      ih fun b' hb' => hbs b' (List.mem_cons_of_mem b hb'), List.append_assoc]

/-- `dotted` keeps a character other than the percent sign, encoded or not. -/
theorem dotted_encodeChar (set : PercentSet) (hset : set.KeepsDots) (c : Char) (hc : c ≠ '%')
    (cs : List Char) : dotted (encodeChar set c ++ cs) = encodeChar set c ++ dotted cs := by
  unfold encodeChar
  split
  · exact dotted_cons c cs fun _ h => absurd h hc
  · next hencoded =>
    -- the dot itself is not encoded
    have hdot : c ≠ '.' := fun heq => hencoded (heq ▸ ⟨by decide, hset.dot⟩)
    exact dotted_encodeBytes _ (ne_of_mem_utf8EncodeChar c '.' (by decide) hdot) cs

/-- `2`, `e` and `E`, the digits of a spelled-out dot, are hexadecimal digits. -/
theorem isHexDigit_dot : IsHexDigit '2' ∧ IsHexDigit 'e' ∧ IsHexDigit 'E' :=
  ⟨⟨0x32, by decide, by decide⟩, ⟨0x65, by decide, by decide⟩, ⟨0x45, by decide, by decide⟩⟩

/-- `encode` keeps a character outside of its set. -/
theorem encode_cons_of_kept (set : PercentSet) (c : Char) (cs : List Char) (hlt : c.toNat < 0x80)
    (hc : set c = false) : encode set (c :: cs) = c :: encode set cs := by
  rw [encode, List.flatMap_cons, encodeChar, if_pos ⟨hlt, hc⟩]
  rfl

/-- `dotted` commutes with `encode`: the spellings of a dot are the same before and after. -/
theorem dotted_encode (set : PercentSet) (hset : set.KeepsDots) (cs : List Char) :
    dotted (encode set cs) = encode set (dotted cs) := by
  obtain ⟨htwo, hlower, hupper⟩ := isHexDigit_dot
  have hkept := hset.toKeepsEscapes
  fun_induction dotted cs with
  | case1 cs ih =>
    -- `%2e`
    rw [encode_cons_of_kept set '%' _ (by decide) hset.percent,
      encode_cons_of_isHexDigit set hkept '2' _ htwo,
      encode_cons_of_isHexDigit set hkept 'e' _ hlower, dotted, ih,
      encode_cons_of_kept set '.' _ (by decide) hset.dot]
  | case2 cs ih =>
    -- `%2E`
    rw [encode_cons_of_kept set '%' _ (by decide) hset.percent,
      encode_cons_of_isHexDigit set hkept '2' _ htwo,
      encode_cons_of_isHexDigit set hkept 'E' _ hupper, dotted, ih,
      encode_cons_of_kept set '.' _ (by decide) hset.dot]
  | case3 c cs hnot hnot' ih =>
    by_cases hc : c = '%'
    case neg =>
      rw [encode, List.flatMap_cons, ← encode, dotted_encodeChar set hset c hc, ih]
      rfl
    subst hc
    -- what follows the sign was no dot, and encoding does not make it one
    rw [encode_cons_of_kept set '%' _ (by decide) hset.percent,
      encode_cons_of_kept set '%' _ (by decide) hset.percent, dotted_cons, ih]
    intro ds _
    constructor
    · intro h
      obtain ⟨cs₁, rfl, h₁⟩ := encode_eq_cons set cs '2' _ (by decide) h
      obtain ⟨cs₂, rfl, -⟩ := encode_eq_cons set cs₁ 'e' _ (by decide) h₁.symm
      exact hnot cs₂ rfl rfl
    · intro h
      obtain ⟨cs₁, rfl, h₁⟩ := encode_eq_cons set cs '2' _ (by decide) h
      obtain ⟨cs₂, rfl, -⟩ := encode_eq_cons set cs₁ 'E' _ (by decide) h₁.symm
      exact hnot' cs₂ rfl rfl
  | case4 => rfl

/-- `isDoubleDot` holds before `encode` exactly if it holds after it. -/
theorem isDoubleDot_encode (cs : List Char) : isDoubleDot (encode .path cs) = isDoubleDot cs := by
  rw [Bool.eq_iff_iff, isDoubleDot, isDoubleDot, dotted_encode _ PercentSet.keepsDots_path,
    beq_iff_eq, beq_iff_eq]
  constructor
  · intro h
    -- two dots are too short to hold an escape
    rw [← encode_eq_self_of_length .path (dotted cs) (by rw [h]; decide), h]
  · intro h
    rw [h]
    decide

/-- `isSingleDot` holds before `encode` exactly if it holds after it. -/
theorem isSingleDot_encode (cs : List Char) : isSingleDot (encode .path cs) = isSingleDot cs := by
  rw [Bool.eq_iff_iff, isSingleDot, isSingleDot, dotted_encode _ PercentSet.keepsDots_path,
    beq_iff_eq, beq_iff_eq]
  constructor
  · intro h
    rw [← encode_eq_self_of_length .path (dotted cs) (by rw [h]; decide), h]
  · intro h
    rw [h]
    decide

/-! ## Drives -/

/-- A letter is not in the set `PercentSet.path`. -/
theorem path_eq_false_of_isAlpha (c : Char) (hc : c.isAlpha = true) :
    c.toNat < 0x80 ∧ PercentSet.path c = false := by
  have halphanum : c.isAlphanum = true := by rw [Char.isAlphanum, hc]; rfl
  have hlt := Text.toNat_lt_of_isAlphanum halphanum
  have hall : ∀ n : Fin 128, (Char.ofNat n).isAlpha = true →
      PercentSet.path (Char.ofNat n) = false := by decide +kernel
  have hpath := hall ⟨c.toNat, hlt⟩
  simp only [Char.ofNat_toNat] at hpath
  exact ⟨hlt, hpath hc⟩

/-- The name of a drive, a letter and a mark, is its own `encode`. -/
theorem encode_of_isDriveLetter (cs : List Char) (h : isDriveLetter cs = true) :
    encode .path cs = cs := by
  unfold isDriveLetter at h
  split at h
  · next letter mark =>
    -- the letter
    rw [Bool.and_eq_true, Bool.or_eq_true, beq_iff_eq, beq_iff_eq] at h
    obtain ⟨hletter, hmark⟩ := h
    obtain ⟨hlt, hpath⟩ := path_eq_false_of_isAlpha letter hletter
    rw [encode_cons_of_kept _ letter _ hlt hpath]
    -- the mark
    obtain rfl | rfl := hmark
    · rw [encode_cons_of_kept _ ':' _ (by decide) (by decide)]
      rfl
    · rw [encode_cons_of_kept _ '|' _ (by decide) (by decide)]
      rfl
  · cases h

/-- `isDriveLetter` holds before `encode` exactly if it holds after it. -/
theorem isDriveLetter_encode (cs : List Char) :
    isDriveLetter (encode .path cs) = isDriveLetter cs := by
  rw [Bool.eq_iff_iff]
  constructor
  · intro h
    -- a drive is too short to hold an escape
    have hlength : (encode .path cs).length < 3 := by
      unfold isDriveLetter at h
      split at h
      · next heq =>
        rw [heq]
        exact Nat.lt_succ_self 2
      · cases h
    rwa [encode_eq_self_of_length .path cs hlength] at h
  · intro h
    rwa [encode_of_isDriveLetter cs h]

/-- `normalDrive` commutes with `encode`. -/
theorem normalDrive_encode (isFile : Bool) (done : List String) (cs : List Char) :
    normalDrive isFile done (encode .path cs) = encode .path (normalDrive isFile done cs) := by
  by_cases hdrive : isDriveLetter cs = true
  · -- a drive, which is a drive still once it has its colon
    have hkept : isDriveLetter (normalDrive isFile done cs) = true := by
      unfold normalDrive
      split
      · next letter rest hmatch =>
        unfold isDriveLetter at hdrive
        split at hdrive
        · next heq =>
          cases heq
          rw [Bool.and_eq_true] at hdrive
          simp only [isDriveLetter, hdrive.1]
          rfl
        · cases hdrive
      · exact hdrive
    rw [encode_of_isDriveLetter cs hdrive, encode_of_isDriveLetter _ hkept]
  · -- no drive, so nothing is done on either side
    have hdrive' : ¬isDriveLetter (encode .path cs) = true := by rwa [isDriveLetter_encode]
    rw [Bool.not_eq_true] at hdrive hdrive'
    simp only [normalDrive, hdrive, hdrive', Bool.and_false]

/-- `driveOf?` finds a drive before `encode` exactly if it finds one after it. -/
theorem driveOf?_encode (isFile : Bool) (cs : List Char) :
    (driveOf? isFile [String.ofList (encode .path cs)]).isSome =
      (driveOf? isFile [String.ofList cs]).isSome := by
  by_cases hdrive : isDriveLetter cs = true
  · rw [encode_of_isDriveLetter cs hdrive]
  · have hdrive' : ¬isDriveLetter (encode .path cs) = true := by rwa [isDriveLetter_encode]
    rw [Bool.not_eq_true] at hdrive hdrive'
    simp [driveOf?, hdrive, hdrive']

end CertGate.Url
