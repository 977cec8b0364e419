import CertGate.Proofs.Outcomes
import CertGate.Text.Utf8

/-!
# Reading UTF-8 and writing it again

Well-formed bytes are the bytes of exactly the text that is read from them: no text has a second
spelling. And the bytes of any text are well-formed, so every text is read back from them.

## Key results

- `encode_of_take`: a character that is read is written with the bytes it was read from
- `encode_of_decode?`: so is a whole text
- `bytes_of_text?`: the same for strings
- `scan_encodeChar`: a character that is written is read back, whatever follows it
- `text?_bytes`: so is a whole text
-/

namespace CertGate.Text.Utf8

/-! ## Characters -/

/-- `Char.ofNat` keeps the code point of a character. -/
theorem toNat_val_ofNat (n : Nat) (h : n.isValidChar) : (Char.ofNat n).val.toNat = n := by
  rw [Char.ofNat, dif_pos h]
  rfl

/-- `UInt8.ofNat` gives the byte with that value. -/
theorem ofNat_eq_byte (n : Nat) (b : UInt8) (h : n = b.toNat) : UInt8.ofNat n = b := by
  rw [h, UInt8.ofNat_toNat]

/-- By `utf8EncodeChar` the character of a byte below `0x80` is written as that byte. -/
theorem utf8EncodeChar_one (b : UInt8) (h : b.toNat < 0x80) :
    String.utf8EncodeChar (Char.ofNat b.toNat) = [b] := by
  have hval := toNat_val_ofNat b.toNat (Or.inl (by omega))
  simp only [String.utf8EncodeChar, hval]
  rw [if_pos (by omega), UInt8.ofNat_toNat]

/-- The character that is read from two bytes, the lead `b₀` with five bits and one more, is written as
these. -/
theorem utf8EncodeChar_two (b₀ b₁ : UInt8) (x : Nat) (h₀ : b₀.toNat = 0xC0 + x) (hx : 2 ≤ x)
    (hx' : x < 32) (h₁ : 0x80 ≤ b₁.toNat) (h₁' : b₁.toNat ≤ 0xBF) :
    String.utf8EncodeChar (Char.ofNat (x * 64 + (b₁.toNat - 0x80))) = [b₀, b₁] := by
  have hval := toNat_val_ofNat (x * 64 + (b₁.toNat - 0x80)) (Or.inl (by omega))
  simp only [String.utf8EncodeChar, hval]
  rw [if_neg (by omega), if_pos (by omega)]
  rw [ofNat_eq_byte _ b₀ (by omega), ofNat_eq_byte _ b₁ (by omega)]

/-- The character that is read from three bytes, the lead `b₀` with four bits and two more, is written
as these. The bounds keep out code points that take two bytes and surrogates. -/
theorem utf8EncodeChar_three (b₀ b₁ b₂ : UInt8) (x : Nat) (h₀ : b₀.toNat = 0xE0 + x) (hx : x < 16)
    (h₁ : 0x80 ≤ b₁.toNat) (h₁' : b₁.toNat ≤ 0xBF) (h₂ : 0x80 ≤ b₂.toNat) (h₂' : b₂.toNat ≤ 0xBF)
    (hlow : x ≠ 0 ∨ 0xA0 ≤ b₁.toNat) (hhigh : x ≠ 0xD ∨ b₁.toNat ≤ 0x9F) :
    String.utf8EncodeChar
      (Char.ofNat ((x * 64 + (b₁.toNat - 0x80)) * 64 + (b₂.toNat - 0x80))) = [b₀, b₁, b₂] := by
  have hvalid : ((x * 64 + (b₁.toNat - 0x80)) * 64 + (b₂.toNat - 0x80)).isValidChar := by
    unfold Nat.isValidChar
    omega
  simp only [String.utf8EncodeChar, toNat_val_ofNat _ hvalid]
  rw [if_neg (by omega), if_neg (by omega), if_pos (by omega)]
  rw [ofNat_eq_byte _ b₀ (by omega), ofNat_eq_byte _ b₁ (by omega), ofNat_eq_byte _ b₂ (by omega)]

/-- The character that is read from four bytes, the lead `b₀` with three bits and three more, is
written as these. The bounds keep out code points that take three bytes and those beyond the last one. -/
theorem utf8EncodeChar_four (b₀ b₁ b₂ b₃ : UInt8) (x : Nat) (h₀ : b₀.toNat = 0xF0 + x) (hx : x ≤ 4)
    (h₁ : 0x80 ≤ b₁.toNat) (h₁' : b₁.toNat ≤ 0xBF) (h₂ : 0x80 ≤ b₂.toNat) (h₂' : b₂.toNat ≤ 0xBF)
    (h₃ : 0x80 ≤ b₃.toNat) (h₃' : b₃.toNat ≤ 0xBF)
    (hlow : x ≠ 0 ∨ 0x90 ≤ b₁.toNat) (hhigh : x ≠ 4 ∨ b₁.toNat ≤ 0x8F) :
    String.utf8EncodeChar
      (Char.ofNat (((x * 64 + (b₁.toNat - 0x80)) * 64 + (b₂.toNat - 0x80)) * 64 +
        (b₃.toNat - 0x80))) = [b₀, b₁, b₂, b₃] := by
  have hvalid : (((x * 64 + (b₁.toNat - 0x80)) * 64 + (b₂.toNat - 0x80)) * 64 +
      (b₃.toNat - 0x80)).isValidChar := by
    unfold Nat.isValidChar
    omega
  simp only [String.utf8EncodeChar, toNat_val_ofNat _ hvalid]
  rw [if_neg (by omega), if_neg (by omega), if_neg (by omega)]
  rw [ofNat_eq_byte _ b₀ (by omega), ofNat_eq_byte _ b₁ (by omega), ofNat_eq_byte _ b₂ (by omega),
    ofNat_eq_byte _ b₃ (by omega)]

/-! ## Following bytes -/

/-- What `take` has seen of the next byte if it succeeds. -/
theorem take_succ (low high : UInt8) (code code' n : Nat) (bs rest : List UInt8)
    (h : take low high code (n + 1) bs = (some code', rest)) :
    ∃ b bs', bs = b :: bs' ∧ low.toNat ≤ b.toNat ∧ b.toNat ≤ high.toNat ∧
      take 0x80 0xBF (code * 64 + (b.toNat - 0x80)) n bs' = (some code', rest) := by
  cases bs with
  | nil => cases h
  | cons b bs =>
    simp only [take] at h
    split at h
    · next hb => exact ⟨b, bs, rfl, UInt8.le_iff_toNat_le.1 hb.1, UInt8.le_iff_toNat_le.1 hb.2, h⟩
    · cases h

/-- What `lead?` says, by the number of bytes that follow. -/
theorem lead?_cases (b : UInt8) (lead : Lead) (h : lead? b = some lead) :
    (lead.following = 1 ∧ b.toNat = 0xC0 + lead.bits ∧ 2 ≤ lead.bits ∧ lead.bits < 32 ∧
        0x80 ≤ lead.low.toNat ∧ lead.high.toNat ≤ 0xBF) ∨
      (lead.following = 2 ∧ b.toNat = 0xE0 + lead.bits ∧ lead.bits < 16 ∧
        0x80 ≤ lead.low.toNat ∧ lead.high.toNat ≤ 0xBF ∧
        (lead.bits ≠ 0 ∨ 0xA0 ≤ lead.low.toNat) ∧ (lead.bits ≠ 0xD ∨ lead.high.toNat ≤ 0x9F)) ∨
      (lead.following = 3 ∧ b.toNat = 0xF0 + lead.bits ∧ lead.bits ≤ 4 ∧
        0x80 ≤ lead.low.toNat ∧ lead.high.toNat ≤ 0xBF ∧
        (lead.bits ≠ 0 ∨ 0x90 ≤ lead.low.toNat) ∧ (lead.bits ≠ 4 ∨ lead.high.toNat ≤ 0x8F)) := by
  simp only [lead?, UInt8.le_iff_toNat_le, ← UInt8.toNat_inj, UInt8.reduceToNat] at h
  -- one branch for each run of lead bytes with the same bounds
  split at h
  · cases h
    refine Or.inl ⟨rfl, ?_⟩
    simp only [UInt8.reduceToNat]
    omega
  split at h
  · cases h
    refine Or.inr (Or.inl ⟨rfl, ?_⟩)
    simp only [UInt8.reduceToNat]
    omega
  split at h
  · cases h
    refine Or.inr (Or.inl ⟨rfl, ?_⟩)
    simp only [UInt8.reduceToNat]
    omega
  split at h
  · cases h
    refine Or.inr (Or.inl ⟨rfl, ?_⟩)
    simp only [UInt8.reduceToNat]
    omega
  split at h
  · cases h
    refine Or.inr (Or.inr ⟨rfl, ?_⟩)
    simp only [UInt8.reduceToNat]
    omega
  split at h
  · cases h
    refine Or.inr (Or.inr ⟨rfl, ?_⟩)
    simp only [UInt8.reduceToNat]
    omega
  split at h
  · cases h
    refine Or.inr (Or.inr ⟨rfl, ?_⟩)
    simp only [UInt8.reduceToNat]
    omega
  · cases h

/-- A lead byte and the bytes that `take` takes after it are those of the character that they give. -/
theorem encode_of_take (b : UInt8) (lead : Lead) (code : Nat) (bs rest : List UInt8)
    (hlead : lead? b = some lead)
    (htake : take lead.low lead.high lead.bits lead.following bs = (some code, rest)) :
    String.utf8EncodeChar (Char.ofNat code) ++ rest = b :: bs := by
  obtain ⟨hn, hb, hx, hx', hlow, hhigh⟩ | ⟨hn, hb, hx, hlow, hhigh, hfirst, hlast⟩ |
    ⟨hn, hb, hx, hlow, hhigh, hfirst, hlast⟩ := lead?_cases b lead hlead
  -- the bytes are taken one by one; only the first of them has bounds of its own
  · -- two bytes
    rw [hn] at htake
    obtain ⟨b₁, bs, rfl, h₁, h₁', htake⟩ := take_succ _ _ _ _ _ _ _ htake
    simp only [take, Prod.mk.injEq, Option.some.injEq] at htake
    obtain ⟨rfl, rfl⟩ := htake
    rw [utf8EncodeChar_two b b₁ lead.bits hb hx hx' (by omega) (by omega)]
    rfl
  · -- three bytes
    rw [hn] at htake
    obtain ⟨b₁, bs, rfl, h₁, h₁', htake⟩ := take_succ _ _ _ _ _ _ _ htake
    obtain ⟨b₂, bs, rfl, h₂, h₂', htake⟩ := take_succ _ _ _ _ _ _ _ htake
    simp only [take, Prod.mk.injEq, Option.some.injEq] at htake
    obtain ⟨rfl, rfl⟩ := htake
    rw [utf8EncodeChar_three b b₁ b₂ lead.bits hb hx (by omega) (by omega) h₂ h₂' (by omega)
      (by omega)]
    rfl
  · -- four bytes
    rw [hn] at htake
    obtain ⟨b₁, bs, rfl, h₁, h₁', htake⟩ := take_succ _ _ _ _ _ _ _ htake
    obtain ⟨b₂, bs, rfl, h₂, h₂', htake⟩ := take_succ _ _ _ _ _ _ _ htake
    obtain ⟨b₃, bs, rfl, h₃, h₃', htake⟩ := take_succ _ _ _ _ _ _ _ htake
    simp only [take, Prod.mk.injEq, Option.some.injEq] at htake
    obtain ⟨rfl, rfl⟩ := htake
    rw [utf8EncodeChar_four b b₁ b₂ b₃ lead.bits hb hx (by omega) (by omega) h₂ h₂' h₃ h₃' (by omega)
      (by omega)]
    rfl

/-! ## Texts -/

/-- If `scan` reads `cs` from `bs` without a fault, then `bs` is `encode cs`. -/
theorem encode_of_scan (bs : List UInt8) (cs : List Char) (h : scan bs = cs.map some) :
    encode cs = bs := by
  induction cs generalizing bs with
  | nil =>
    -- every byte gives a character or a fault
    cases bs with
    | nil => rfl
    | cons b bs =>
      rw [scan] at h
      split at h
      · cases h
      · split at h <;> cases h
  | cons c cs ih =>
    cases bs with
    | nil =>
      rw [scan] at h
      cases h
    | cons b bs =>
      rw [encode, List.flatMap_cons]
      rw [scan, List.map_cons] at h
      -- one byte, or a lead byte with what it takes; a fault would not be a character
      split at h
      · next hb =>
        obtain ⟨hc, hrest⟩ := List.cons.inj h
        cases hc
        rw [utf8EncodeChar_one b (UInt8.lt_iff_toNat_lt.1 hb)]
        exact congrArg (b :: ·) (ih bs hrest)
      · split at h
        · cases h
        · next lead hlead =>
          obtain ⟨hc, hrest⟩ := List.cons.inj h
          obtain ⟨code, hcode, rfl⟩ := Option.map_eq_some_iff.1 hc
          have htake := encode_of_take b lead code bs _ hlead (Prod.ext hcode rfl)
          rw [← htake]
          exact congrArg (String.utf8EncodeChar (Char.ofNat code) ++ ·) (ih _ hrest)

/-- `mapM id` succeeds on a list of successes only. -/
theorem eq_map_some_of_mapM_id (os : List (Option Char)) (cs : List Char)
    (h : os.mapM id = some cs) : os = cs.map some := by
  induction os generalizing cs with
  | nil =>
    cases h
    rfl
  | cons o os ih =>
    rw [List.mapM_cons] at h
    obtain ⟨c, hc, h⟩ := Option.bind_eq_some_iff.1 h
    obtain ⟨cs', hcs', h⟩ := Option.bind_eq_some_iff.1 h
    cases h
    rw [List.map_cons, ← ih cs' hcs']
    exact congrArg (· :: os) hc

/-- `encode` undoes `decode?`: well-formed bytes are those of the text that is read from them. -/
theorem encode_of_decode? (bs : List UInt8) (cs : List Char) (h : decode? bs = some cs) :
    encode cs = bs :=
  encode_of_scan bs cs (eq_map_some_of_mapM_id (scan bs) cs h)

/-- `bytes` undoes `text?`. -/
theorem bytes_of_text? (bs : List UInt8) (s : String) (h : text? bs = some s) : bytes s = bs := by
  obtain ⟨cs, hcs, rfl⟩ := Option.map_eq_some_iff.1 h
  rw [bytes, String.toList_ofList]
  exact encode_of_decode? bs cs hcs

/-! ## Reading what was written -/

/-- `lead?` of a byte that one more byte follows. -/
theorem lead?_two (x : Nat) (hx : 2 ≤ x) (hx' : x < 32) :
    lead? (UInt8.ofNat (0xC0 + x)) = some ⟨1, 0x80, 0xBF, x⟩ := by
  have hall : ∀ x : Fin 32, 2 ≤ x.val →
      lead? (UInt8.ofNat (0xC0 + x.val)) = some ⟨1, 0x80, 0xBF, x.val⟩ := by decide
  exact hall ⟨x, hx'⟩ hx

/-- `lead?` of a byte that two more bytes follow. The first of them has a bound of its own after
`0xE0`, where shorter spellings are kept out, and after `0xED`, where surrogates are. -/
theorem lead?_three (x : Nat) (hx : x < 16) : lead? (UInt8.ofNat (0xE0 + x)) =
    some ⟨2, if x = 0 then 0xA0 else 0x80, if x = 0xD then 0x9F else 0xBF, x⟩ := by
  have hall : ∀ x : Fin 16, lead? (UInt8.ofNat (0xE0 + x.val)) =
      some ⟨2, if x.val = 0 then 0xA0 else 0x80, if x.val = 0xD then 0x9F else 0xBF, x.val⟩ := by
    decide
  exact hall ⟨x, hx⟩

/-- `lead?` of a byte that three more bytes follow. The first of them has a bound of its own after
`0xF0`, where shorter spellings are kept out, and after `0xF4`, where code points end. -/
theorem lead?_four (x : Nat) (hx : x ≤ 4) : lead? (UInt8.ofNat (0xF0 + x)) =
    some ⟨3, if x = 0 then 0x90 else 0x80, if x = 4 then 0x8F else 0xBF, x⟩ := by
  have hall : ∀ x : Fin 5, lead? (UInt8.ofNat (0xF0 + x.val)) =
      some ⟨3, if x.val = 0 then 0x90 else 0x80, if x.val = 4 then 0x8F else 0xBF, x.val⟩ := by
    decide
  exact hall ⟨x, Nat.lt_succ_of_le hx⟩

/-- `take` takes a byte within the bounds, and its six bits. -/
theorem take_cons_ofNat (low high : UInt8) (code n y : Nat) (bs : List UInt8) (hy : y < 64)
    (hlow : low.toNat ≤ 0x80 + y) (hhigh : 0x80 + y ≤ high.toNat) :
    take low high code (n + 1) (UInt8.ofNat (0x80 + y) :: bs) = take 0x80 0xBF (code * 64 + y) n bs := by
  have hbyte : (UInt8.ofNat (0x80 + y)).toNat = 0x80 + y := by
    rw [UInt8.toNat_ofNat']
    omega
  rw [take, if_pos, hbyte, Nat.add_sub_cancel_left]
  rw [UInt8.le_iff_toNat_le, UInt8.le_iff_toNat_le, hbyte]
  exact ⟨hlow, hhigh⟩

/-- `scan` reads a lead byte and the bytes that `take` takes as one character. -/
theorem scan_of_lead (b : UInt8) (lead : Lead) (code : Nat) (bs rest : List UInt8)
    (hlead : lead? b = some lead)
    (htake : take lead.low lead.high lead.bits lead.following bs = (some code, rest)) :
    scan (b :: bs) = some (Char.ofNat code) :: scan rest := by
  -- a lead byte is none of ASCII
  have hb : ¬b < 0x80 := by
    have hcases := lead?_cases b lead hlead
    simp only [UInt8.lt_iff_toNat_lt, UInt8.reduceToNat]
    omega
  rw [scan, if_neg hb]
  simp only [hlead, htake]
  rfl

/-- `scan` reads two bytes as one character. -/
theorem scan_two (x y : Nat) (bs : List UInt8) (hx : 2 ≤ x) (hx' : x < 32) (hy : y < 64) :
    scan (UInt8.ofNat (0xC0 + x) :: UInt8.ofNat (0x80 + y) :: bs) =
      some (Char.ofNat (x * 64 + y)) :: scan bs := by
  refine scan_of_lead _ _ _ _ _ (lead?_two x hx hx') ?_
  have hlow : (0x80 : UInt8).toNat ≤ 0x80 + y := Nat.le_add_right _ _
  have hhigh : 0x80 + y ≤ (0xBF : UInt8).toNat := by
    simp only [UInt8.reduceToNat]
    omega
  rw [take_cons_ofNat _ _ _ _ _ _ hy hlow hhigh, take]

/-- `scan` reads three bytes as one character, unless two would do or the code point is a surrogate. -/
theorem scan_three (x y z : Nat) (bs : List UInt8) (hx : x < 16) (hy : y < 64) (hz : z < 64)
    (hfirst : x ≠ 0 ∨ 0x20 ≤ y) (hgap : x ≠ 0xD ∨ y < 0x20) :
    scan (UInt8.ofNat (0xE0 + x) :: UInt8.ofNat (0x80 + y) :: UInt8.ofNat (0x80 + z) :: bs) =
      some (Char.ofNat ((x * 64 + y) * 64 + z)) :: scan bs := by
  refine scan_of_lead _ _ _ _ _ (lead?_three x hx) ?_
  have hlow : (if x = 0 then 0xA0 else 0x80 : UInt8).toNat ≤ 0x80 + y := by
    split <;> simp only [UInt8.reduceToNat] <;> omega
  have hhigh : 0x80 + y ≤ (if x = 0xD then 0x9F else 0xBF : UInt8).toNat := by
    split <;> simp only [UInt8.reduceToNat] <;> omega
  have hlow' : (0x80 : UInt8).toNat ≤ 0x80 + z := Nat.le_add_right _ _
  have hhigh' : 0x80 + z ≤ (0xBF : UInt8).toNat := by
    simp only [UInt8.reduceToNat]
    omega
  rw [take_cons_ofNat _ _ _ _ _ _ hy hlow hhigh, take_cons_ofNat _ _ _ _ _ _ hz hlow' hhigh', take]

/-- `scan` reads four bytes as one character, unless three would do or the code point is beyond the
last one. -/
theorem scan_four (x y z w : Nat) (bs : List UInt8) (hx : x ≤ 4) (hy : y < 64) (hz : z < 64)
    (hw : w < 64) (hfirst : x ≠ 0 ∨ 0x10 ≤ y) (hlast : x ≠ 4 ∨ y < 0x10) :
    scan (UInt8.ofNat (0xF0 + x) :: UInt8.ofNat (0x80 + y) :: UInt8.ofNat (0x80 + z) ::
        UInt8.ofNat (0x80 + w) :: bs) =
      some (Char.ofNat (((x * 64 + y) * 64 + z) * 64 + w)) :: scan bs := by
  refine scan_of_lead _ _ _ _ _ (lead?_four x hx) ?_
  have hlow : (if x = 0 then 0x90 else 0x80 : UInt8).toNat ≤ 0x80 + y := by
    split <;> simp only [UInt8.reduceToNat] <;> omega
  have hhigh : 0x80 + y ≤ (if x = 4 then 0x8F else 0xBF : UInt8).toNat := by
    split <;> simp only [UInt8.reduceToNat] <;> omega
  have hlow' (u : Nat) : (0x80 : UInt8).toNat ≤ 0x80 + u := Nat.le_add_right _ _
  have hhigh' (u : Nat) (hu : u < 64) : 0x80 + u ≤ (0xBF : UInt8).toNat := by
    simp only [UInt8.reduceToNat]
    omega
  rw [take_cons_ofNat _ _ _ _ _ _ hy hlow hhigh,
    take_cons_ofNat _ _ _ _ _ _ hz (hlow' z) (hhigh' z hz),
    take_cons_ofNat _ _ _ _ _ _ hw (hlow' w) (hhigh' w hw), take]

/-- `scan` reads a character back that was written, whatever follows it. -/
theorem scan_encodeChar (c : Char) (bs : List UInt8) :
    scan (String.utf8EncodeChar c ++ bs) = some c :: scan bs := by
  have hc : Char.ofNat c.val.toNat = c := c.ofNat_toNat
  have hvalid : c.val.toNat < 0xD800 ∨ 0xDFFF < c.val.toNat ∧ c.val.toNat < 0x110000 := c.valid
  simp only [String.utf8EncodeChar]
  generalize c.val.toNat = v at hc hvalid ⊢
  -- by the number of bytes; the code point is put together from the bits of each
  split
  · -- one byte
    have hbyte : (UInt8.ofNat v).toNat = v := by
      rw [UInt8.toNat_ofNat']
      omega
    have hlt : UInt8.ofNat v < 0x80 := by
      simp only [UInt8.lt_iff_toNat_lt, hbyte, UInt8.reduceToNat]
      omega
    rw [List.cons_append, List.nil_append, scan, if_pos hlt, hbyte, hc]
  split
  · -- two bytes
    have hcode : v / 64 * 64 + v % 64 = v := by omega
    rw [show v / 64 % 32 + 192 = 0xC0 + v / 64 by omega, Nat.add_comm (v % 64)]
    refine (scan_two _ _ bs ?_ ?_ ?_).trans (by rw [hcode, hc]) <;> omega
  split
  · -- three bytes
    have hcode : (v / 4096 * 64 + v / 64 % 64) * 64 + v % 64 = v := by omega
    rw [show v / 4096 % 16 + 224 = 0xE0 + v / 4096 by omega, Nat.add_comm (v / 64 % 64),
      Nat.add_comm (v % 64)]
    refine (scan_three _ _ _ bs ?_ ?_ ?_ ?_ ?_).trans (by rw [hcode, hc]) <;> omega
  · -- four bytes
    have hcode : ((v / 262144 * 64 + v / 4096 % 64) * 64 + v / 64 % 64) * 64 + v % 64 = v := by omega
    rw [show v / 262144 % 8 + 240 = 0xF0 + v / 262144 by omega, Nat.add_comm (v / 4096 % 64),
      Nat.add_comm (v / 64 % 64), Nat.add_comm (v % 64)]
    refine (scan_four _ _ _ _ bs ?_ ?_ ?_ ?_ ?_ ?_).trans (by rw [hcode, hc]) <;> omega

/-- `scan` reads all characters back that `encode` has written. -/
theorem scan_encode (cs : List Char) : scan (encode cs) = cs.map some := by
  induction cs with
  | nil => rw [encode, List.flatMap_nil, scan, List.map_nil]
  | cons c cs ih => rw [encode, List.flatMap_cons, scan_encodeChar, ← encode, ih, List.map_cons]

/-- `text?` undoes `bytes`: every string is read back. -/
theorem text?_bytes (s : String) : text? (bytes s) = some s := by
  have hdecode : decode? (encode s.toList) = some s.toList := by
    rw [decode?, scan_encode, List.mapM_map_of_read id some fun _ => rfl]
  rw [text?, bytes, hdecode, Option.map_some, String.ofList_toList]

/-- No two strings have the same `bytes`. -/
theorem bytes_injective {s t : String} (h : bytes s = bytes t) : s = t :=
  Option.some.inj (by rw [← text?_bytes s, h, text?_bytes])

/-- Only the empty string has no `bytes`. -/
theorem bytes_ne_nil (name : String) (h : name ≠ "") : bytes name ≠ [] := by
  intro hbytes
  have hempty : bytes "" = [] := rfl
  exact h (bytes_injective (hbytes.trans hempty.symm))

end CertGate.Text.Utf8
