import CertGate.Json.Draft
import CertGate.Proofs.Outcomes
import Mathlib.Data.List.Chain

/-!
# How tokens are spelled

The lexical grammar of JSON: which bytes spell a token, and which texts consist of tokens with blanks
around them. Every such text is cut into just these tokens, if no two numbers touch. Nothing else tells
two tokens apart, and in the text of a value there is always a comma or a bracket behind a number.

## Key results

- `scanText_of_isBody`: a string ends at the first quote that is not escaped
- `scanNumber_of_spells`: a number ends where nothing can continue it
- `scanOne_of_spells`: one token, whatever comes behind it
- `scan_of_written`: a whole text
-/

namespace CertGate.Json

/-! ## Strings -/

/-- The inside of a string: bytes that stand for themselves, and escapes of one byte, by
`isSimpleEscape`, or of four digits. -/
inductive IsBody : List UInt8 → Prop where
  | nil : IsBody []
  | plain (b : UInt8) (bs : List UInt8) (hcontrol : 0x20 ≤ b) (hquote : b ≠ 0x22) (hescape : b ≠ 0x5C)
    (h : IsBody bs) : IsBody (b :: bs)
  | escape (e : UInt8) (bs : List UInt8) (he : Token.isSimpleEscape e = true) (h : IsBody bs) :
    IsBody (0x5C :: e :: bs)
  | unit (h₁ h₂ h₃ h₄ : UInt8) (bs : List UInt8)
    (hdigits : [h₁, h₂, h₃, h₄].all (Text.hexByte? · |>.isSome) = true) (h : IsBody bs) :
    IsBody (0x5C :: 0x75 :: h₁ :: h₂ :: h₃ :: h₄ :: bs)

/-- The insides of two strings, `as` and `bs`, make the inside of one. -/
theorem IsBody.append {as bs : List UInt8} (ha : IsBody as) (hb : IsBody bs) : IsBody (as ++ bs) := by
  induction ha with
  | nil => exact hb
  | plain b as hcontrol hquote hescape _ ih => exact .plain b _ hcontrol hquote hescape ih
  | escape e as he _ ih => exact .escape e _ he ih
  | unit h₁ h₂ h₃ h₄ as hdigits _ ih => exact .unit h₁ h₂ h₃ h₄ _ hdigits ih

namespace Token

/-- A quote ends what `scanText` reads. -/
theorem scanText_quote (done rest : List UInt8) :
    scanText done (0x22 :: rest) = .ok (.text done.reverse, rest) := by
  rw [scanText.eq_def]
  rfl

/-- `scanText` takes a byte that stands for itself. -/
theorem scanText_plain (b : UInt8) (done rest : List UInt8) (hcontrol : 0x20 ≤ b) (hquote : b ≠ 0x22)
    (hescape : b ≠ 0x5C) : scanText done (b :: rest) = scanText (b :: done) rest := by
  rw [scanText.eq_def]
  simp only [if_neg hquote, if_neg (UInt8.not_lt.2 hcontrol), if_neg hescape]

/-- `scanText` takes an escape of one byte. -/
theorem scanText_escape (e : UInt8) (done rest : List UInt8) (he : isSimpleEscape e = true) :
    scanText done (0x5C :: e :: rest) = scanText (e :: 0x5C :: done) rest := by
  rw [scanText.eq_def]
  simp [he]

/-- `scanText` takes an escape of four digits. -/
theorem scanText_unit (h₁ h₂ h₃ h₄ : UInt8) (done rest : List UInt8)
    (hdigits : [h₁, h₂, h₃, h₄].all (Text.hexByte? · |>.isSome) = true) :
    scanText done (0x5C :: 0x75 :: h₁ :: h₂ :: h₃ :: h₄ :: rest) =
      scanText (h₄ :: h₃ :: h₂ :: h₁ :: 0x75 :: 0x5C :: done) rest := by
  rw [scanText.eq_def]
  have hu : isSimpleEscape 0x75 = false := by decide
  simp [hu, hdigits]

/-- `scanText` reads a string up to the first quote that is not escaped. -/
theorem scanText_of_isBody (raw done rest : List UInt8) (h : IsBody raw) :
    scanText done (raw ++ 0x22 :: rest) = .ok (.text (done.reverse ++ raw), rest) := by
  induction h generalizing done with
  | nil => rw [List.nil_append, scanText_quote, List.append_nil]
  | plain b bs hcontrol hquote hescape _ ih =>
    rw [List.cons_append, scanText_plain b _ _ hcontrol hquote hescape, ih]
    simp
  | escape e bs he _ ih =>
    rw [List.cons_append, List.cons_append, scanText_escape e _ _ he, ih]
    simp
  | unit h₁ h₂ h₃ h₄ bs hdigits _ ih =>
    simp only [List.cons_append]
    rw [scanText_unit h₁ h₂ h₃ h₄ _ _ hdigits, ih]
    simp

/-! ## Numbers -/

/-- `EndsNumber rest`: no byte that could continue a number stands at the start of `rest`. -/
def EndsNumber (rest : List UInt8) : Prop :=
  ∀ b ∈ rest.head?, isDigit b = false ∧ b ≠ 0x2E ∧ b ≠ 0x65 ∧ b ≠ 0x45

/-- `EndsDigits rest`: no digit stands at the start of `rest`. -/
def EndsDigits (rest : List UInt8) : Prop :=
  ∀ b ∈ rest.head?, isDigit b = false

theorem EndsNumber.endsDigits {rest : List UInt8} (h : EndsNumber rest) : EndsDigits rest :=
  fun b hb => (h b hb).1

/-- `scanDigits` reads a run of digits to its end. -/
theorem scanDigits_append (ds rest : List UInt8) (hne : ds ≠ []) (hds : ∀ d ∈ ds, isDigit d = true)
    (hrest : EndsDigits rest) : scanDigits (ds ++ rest) = .ok (ds, rest) := by
  -- nothing of what stands behind the run is taken
  have hnone : rest.takeWhile isDigit = [] ∧ rest.dropWhile isDigit = rest := by
    cases rest with
    | nil => exact ⟨rfl, rfl⟩
    | cons b rest =>
      have hb : ¬isDigit b = true := by simp [hrest b rfl]
      exact ⟨List.takeWhile_cons_of_neg hb, List.dropWhile_cons_of_neg hb⟩
  have htake : (ds ++ rest).takeWhile isDigit = ds := by
    rw [List.takeWhile_append_of_pos hds, hnone.1, List.append_nil]
  have hdrop : (ds ++ rest).dropWhile isDigit = rest := by
    rw [List.dropWhile_append_of_pos hds, hnone.2]
  rw [scanDigits, htake, hdrop]
  cases ds with
  | nil => exact absurd rfl hne
  | cons d ds => rfl

end Token

namespace Number

/-- The part of a number in front of its power: the byte `0x2E` and digits, or nothing if there are no
digits. -/
def point : List UInt8 → List UInt8
  | [] => []
  | d :: ds => 0x2E :: d :: ds

/-- The bytes that spell a power of ten: a `mark`, a sign that may be left out, and digits; or nothing. -/
inductive SpellsPower : Bool → List UInt8 → List UInt8 → Prop where
  | none : SpellsPower false [] []
  | plain (mark : UInt8) (ds : List UInt8) (hmark : mark = 0x65 ∨ mark = 0x45) (hne : ds ≠ []) :
    SpellsPower false ds (mark :: ds)
  | plus (mark : UInt8) (ds : List UInt8) (hmark : mark = 0x65 ∨ mark = 0x45) (hne : ds ≠ []) :
    SpellsPower false ds (mark :: 0x2B :: ds)
  | minus (mark : UInt8) (ds : List UInt8) (hmark : mark = 0x65 ∨ mark = 0x45) (hne : ds ≠ []) :
    SpellsPower true ds (mark :: 0x2D :: ds)

/-- `n.WellFormed`: all the digits of the number are digits, and a zero at the start stands alone. -/
structure WellFormed (n : Number) : Prop where
  whole_ne : n.whole ≠ []
  whole : ∀ d ∈ n.whole, Token.isDigit d = true
  zero : n.whole.head? = some 0x30 → n.whole.length = 1
  fraction : ∀ d ∈ n.fraction, Token.isDigit d = true
  exponent : ∀ d ∈ n.exponent, Token.isDigit d = true

/-- `n.SpellsUnsigned bs`: these are the digits and marks of the number, without its sign. -/
def SpellsUnsigned (n : Number) (bs : List UInt8) : Prop :=
  n.WellFormed ∧ ∃ power, SpellsPower n.exponentNegative n.exponent power ∧
    bs = n.whole ++ (point n.fraction ++ power)

/-- `n.Spells bs`: these are the bytes of the number, with a minus sign if it is negative. -/
def Spells (n : Number) (bs : List UInt8) : Prop :=
  ∃ unsigned, n.SpellsUnsigned unsigned ∧ bs = if n.negative then 0x2D :: unsigned else unsigned

end Number

namespace Token

open Number (point SpellsPower)

/-- A byte for which `isDigit` holds is none of those for which it does not. -/
theorem isDigit_ne {d : UInt8} (h : isDigit d = true) {b : UInt8} (hb : isDigit b = false) : d ≠ b :=
  fun heq => by simp [heq, hb] at h

/-- Behind digits, `scanExponent` reads a power of ten to its end. -/
theorem scanExponent_of_spellsPower (negative : Bool) (ds power rest : List UInt8)
    (h : SpellsPower negative ds power) (hds : ∀ d ∈ ds, isDigit d = true) (hrest : EndsNumber rest) :
    scanExponent (power ++ rest) = .ok ((negative, ds), rest) := by
  have hmarks : ∀ mark : UInt8, mark = 0x65 ∨ mark = 0x45 →
      (decide (mark = 0x65) || decide (mark = 0x45)) = true := by
    rintro mark (rfl | rfl) <;> decide
  cases h with
  | none =>
    rw [List.nil_append]
    cases rest with
    | nil => rfl
    | cons b rest =>
      -- without a mark there is no power
      obtain ⟨-, -, hsmall, hlarge⟩ := hrest b rfl
      simp only [scanExponent, hsmall, hlarge, decide_false, Bool.or_self, Bool.false_eq_true, if_false]
  | plain mark _ hmark hne =>
    rw [List.cons_append]
    have hscan := scanDigits_append ds rest hne hds hrest.endsDigits
    cases ds with
    | nil => exact absurd rfl hne
    | cons d ds =>
      have hd := hds d List.mem_cons_self
      have hplus : d ≠ 0x2B := isDigit_ne hd (by decide)
      have hminus : d ≠ 0x2D := isDigit_ne hd (by decide)
      simp only [scanExponent, hmarks mark hmark, if_true]
      rw [List.cons_append] at hscan ⊢
      -- a digit is no sign
      split
      · next heq => exact absurd (List.cons.inj heq).1 hminus
      · next heq => exact absurd (List.cons.inj heq).1 hplus
      · simp only [hscan]
        rfl
  | plus mark _ hmark hne =>
    simp only [List.cons_append, scanExponent, hmarks mark hmark, if_true,
      scanDigits_append ds rest hne hds hrest.endsDigits]
    rfl
  | minus mark _ hmark hne =>
    simp only [List.cons_append, scanExponent, hmarks mark hmark, if_true,
      scanDigits_append ds rest hne hds hrest.endsDigits]
    rfl

/-- In front of a power of ten, by `SpellsPower`, or where the number ends, there is neither a digit
nor a point to come. -/
theorem endsDigits_power_append (negative : Bool) (ds power rest : List UInt8)
    (hpower : SpellsPower negative ds power) (hrest : EndsNumber rest) :
    EndsDigits (power ++ rest) ∧ (power ++ rest).head? ≠ some 0x2E := by
  have hmark : ∀ mark : UInt8, mark = 0x65 ∨ mark = 0x45 → isDigit mark = false ∧ mark ≠ 0x2E := by
    rintro mark (rfl | rfl) <;> decide
  cases hpower with
  | none => exact ⟨hrest.endsDigits, fun hhead => (hrest _ hhead).2.1 rfl⟩
  | plain mark _ h _ | plus mark _ h _ | minus mark _ h _ =>
    refine ⟨?_, fun hhead => (hmark mark h).2 (Option.some.inj hhead)⟩
    rintro b ⟨⟩
    exact (hmark mark h).1

/-- In front of a `point`, or where there are no digits behind one, no digit is to come. -/
theorem endsDigits_point_append (ds rest : List UInt8) (hrest : EndsDigits rest) :
    EndsDigits (point ds ++ rest) := by
  cases ds with
  | nil => exact hrest
  | cons d ds =>
    rintro b ⟨⟩
    decide

/-- `scanNumber` reads the digits and marks of a number up to where nothing continues it. -/
theorem scanNumber_of_spells (n : Number) (unsigned rest : List UInt8)
    (h : n.SpellsUnsigned unsigned) (hrest : EndsNumber rest) :
    scanNumber n.negative (unsigned ++ rest) = .ok (.number n, rest) := by
  obtain ⟨hwell, power, hpower, rfl⟩ := h
  obtain ⟨hends, hnopoint⟩ := endsDigits_power_append _ _ power rest hpower hrest
  -- the digits end at the point, at the power or at the end
  have hwhole := scanDigits_append n.whole _ hwell.whole_ne hwell.whole
    (endsDigits_point_append n.fraction _ hends)
  have hexponent := scanExponent_of_spellsPower _ _ power rest hpower hwell.exponent hrest
  -- more than one digit do not start with a zero
  have hzero : (decide (n.whole.length > 1) && n.whole.head? == some 0x30) = false := by
    by_cases hhead : n.whole.head? = some 0x30
    · simp [hwell.zero hhead]
    · simp [beq_false_of_ne hhead]
  simp only [List.append_assoc, scanNumber, hwhole, Except.ok_bind, hzero, Bool.false_eq_true, if_false]
  -- without digits there is no point
  cases hfraction : n.fraction with
  | nil =>
    rw [point, List.nil_append]
    split
    · next heq => exact absurd (congrArg List.head? heq) hnopoint
    · simp only [pure_bind, hexponent, Except.ok_bind]
      rw [← hfraction]
      rfl
  | cons d ds =>
    have hscan := scanDigits_append (d :: ds) (power ++ rest) (List.cons_ne_nil d ds)
      (hfraction ▸ hwell.fraction) hends
    simp only [point, List.cons_append] at hscan ⊢
    simp only [hscan, Except.ok_bind, hexponent]
    rw [← hfraction]
    rfl

/-- A number without its sign, by `SpellsUnsigned`, starts with a digit. -/
theorem exists_cons_of_spellsUnsigned (n : Number) (unsigned : List UInt8)
    (h : n.SpellsUnsigned unsigned) : ∃ d ds, unsigned = d :: ds ∧ isDigit d = true := by
  obtain ⟨hwell, power, -, rfl⟩ := h
  cases hwhole : n.whole with
  | nil => exact absurd hwhole hwell.whole_ne
  | cons d ds => exact ⟨d, _, List.cons_append, hwell.whole d (hwhole ▸ List.mem_cons_self)⟩

/-- `scanOne` reads a number where a digit stands. -/
theorem scanOne_of_isDigit (d : UInt8) (bs : List UInt8) (hd : isDigit d = true) :
    scanOne d bs = scanNumber false (d :: bs) := by
  rw [scanOne]
  -- none of the bytes that start other tokens is a digit
  repeat rw [if_neg (isDigit_ne hd (by decide))]
  rw [if_pos hd]

/-! ## Tokens -/

/-- `t.Spells bs`: these are the bytes of the token. -/
inductive Spells : Token → List UInt8 → Prop where
  | openArray : Spells .openArray [0x5B]
  | closeArray : Spells .closeArray [0x5D]
  | openObject : Spells .openObject [0x7B]
  | closeObject : Spells .closeObject [0x7D]
  | comma : Spells .comma [0x2C]
  | colon : Spells .colon [0x3A]
  | null : Spells .null (Text.Utf8.bytes "null")
  | bool (b : Bool) : Spells (.bool b) (Text.Utf8.bytes (if b then "true" else "false"))
  | number (n : Number) (bs : List UInt8) (h : n.Spells bs) : Spells (.number n) bs
  | text (raw : List UInt8) (h : IsBody raw) : Spells (.text raw) (0x22 :: (raw ++ [0x22]))

/-- `isNumber t`: the token is a number. -/
def isNumber : Token → Bool
  | .number _ => true
  | _ => false

/-- `scanWord` reads a word letter by letter. -/
theorem scanWord_append (t : Token) (ws rest : List UInt8) :
    scanWord t ws (ws ++ rest) = .ok (t, rest) := by
  induction ws with
  | nil => rfl
  | cons w ws ih => rw [List.cons_append, scanWord, if_pos rfl, ih]

/-- The bytes of a token start with one that is no `isSpace`. If the token is no number, this byte does
not continue one. -/
theorem Spells.exists_cons {t : Token} {w : List UInt8} (h : t.Spells w) :
    ∃ b bs, w = b :: bs ∧ isSpace b = false ∧
      (t.isNumber = false → isDigit b = false ∧ b ≠ 0x2E ∧ b ≠ 0x65 ∧ b ≠ 0x45) := by
  cases h with
  | number n _ h =>
    obtain ⟨unsigned, hunsigned, rfl⟩ := h
    cases n.negative with
    | true => exact ⟨_, _, rfl, by decide, fun hno => nomatch hno⟩
    | false =>
      obtain ⟨d, ds, rfl, hd⟩ := exists_cons_of_spellsUnsigned n unsigned hunsigned
      -- no blank is a digit
      have hspace : isSpace d = false := by
        simp [isSpace, isDigit_ne hd (show isDigit 0x20 = false by decide),
          isDigit_ne hd (show isDigit 0x0A = false by decide),
          isDigit_ne hd (show isDigit 0x09 = false by decide),
          isDigit_ne hd (show isDigit 0x0D = false by decide)]
      exact ⟨d, ds, rfl, hspace, fun hno => nomatch hno⟩
  | text raw h => exact ⟨_, _, rfl, by decide, fun _ => by decide⟩
  | bool b => cases b <;> exact ⟨_, _, rfl, by decide, fun _ => by decide⟩
  | _ => exact ⟨_, _, rfl, by decide, fun _ => by decide⟩

/-- `scanOne` reads a token to its end, a number only if nothing continues it. -/
theorem scanOne_of_spells (t : Token) (b : UInt8) (bs rest : List UInt8) (h : t.Spells (b :: bs))
    (hrest : t.isNumber = true → EndsNumber rest) : scanOne b (bs ++ rest) = .ok (t, rest) := by
  generalize hw : b :: bs = w at h
  cases h with
  | number n _ h =>
    obtain ⟨unsigned, hunsigned, rfl⟩ := h
    have hscan := scanNumber_of_spells n unsigned rest hunsigned (hrest rfl)
    -- a number starts with its sign or with a digit
    cases hsign : n.negative with
    | true =>
      rw [hsign, if_pos rfl] at hw
      obtain ⟨rfl, rfl⟩ := List.cons.inj hw
      rw [hsign] at hscan
      exact hscan
    | false =>
      rw [hsign, if_neg Bool.false_ne_true] at hw
      obtain ⟨d, ds, hds, hd⟩ := exists_cons_of_spellsUnsigned n unsigned hunsigned
      rw [hsign, ← hw] at hscan
      obtain ⟨rfl, rfl⟩ := List.cons.inj (hw.trans hds)
      rw [scanOne_of_isDigit b _ hd]
      exact hscan
  | text raw h =>
    obtain ⟨rfl, rfl⟩ := List.cons.inj hw
    rw [List.append_assoc]
    exact scanText_of_isBody raw [] rest h
  | null =>
    obtain ⟨rfl, rfl⟩ := List.cons.inj hw
    exact scanWord_append _ _ rest
  | bool v =>
    cases v <;> obtain ⟨rfl, rfl⟩ := List.cons.inj hw <;> exact scanWord_append _ _ rest
  | _ =>
    obtain ⟨rfl, rfl⟩ := List.cons.inj hw
    rfl

/-! ## Texts -/

/-- `Written ts bs`: the text consists of these tokens, with blanks between and around them. -/
inductive Written : List Token → List UInt8 → Prop where
  | nil : Written [] []
  | space (b : UInt8) {ts : List Token} {bs : List UInt8} (hb : isSpace b = true)
    (h : Written ts bs) : Written ts (b :: bs)
  | token {t : Token} {w : List UInt8} (ht : t.Spells w) {ts : List Token} {bs : List UInt8}
    (h : Written ts bs) : Written (t :: ts) (w ++ bs)

/-- Texts that are put together consist of the tokens of both, `ts` and `us`. -/
theorem Written.append {ts us : List Token} {bs cs : List UInt8} (h : Written ts bs)
    (h' : Written us cs) : Written (ts ++ us) (bs ++ cs) := by
  induction h with
  | nil => exact h'
  | space b hb _ ih => exact .space b hb ih
  | token ht _ ih =>
    rw [List.cons_append, List.append_assoc]
    exact .token ht ih

/-- `Apart ts`: no two numbers stand next to each other. -/
def Apart : List Token → Prop :=
  List.IsChain fun t u => ¬(t.isNumber = true ∧ u.isNumber = true)

/-- A `Written` text ends a number in front of it, unless it starts with a number itself. -/
theorem Written.endsNumber {ts : List Token} {bs : List UInt8} (h : Written ts bs)
    (hts : ∀ t ∈ ts.head?, t.isNumber = false) : EndsNumber bs := by
  cases h with
  | nil => exact fun b hb => nomatch hb
  | space b hb _ =>
    rintro _ ⟨⟩
    simp only [isSpace, Bool.or_eq_true, decide_eq_true_eq] at hb
    obtain ((rfl | rfl) | rfl) | rfl := hb <;> decide
  | token ht h =>
    obtain ⟨b, bs, rfl, -, hends⟩ := ht.exists_cons
    rintro _ ⟨⟩
    exact hends (hts _ rfl)

/-- `scanFuel` cuts a `Written` text into its tokens, if it may take as many steps as there are bytes. -/
theorem scanFuel_of_written (ts : List Token) (bs : List UInt8) (h : Written ts bs)
    (hapart : Apart ts) (fuel : Nat) (hfuel : bs.length ≤ fuel) : scanFuel fuel bs = ts := by
  induction h generalizing fuel with
  | nil => cases fuel <;> rfl
  | space b hb _ ih =>
    obtain ⟨fuel, rfl⟩ : ∃ n, fuel = n + 1 := ⟨fuel - 1, by simp at hfuel; omega⟩
    rw [scanFuel, if_pos hb]
    exact ih hapart fuel (Nat.le_of_succ_le_succ hfuel)
  | @token t w ht ts bs h ih =>
    obtain ⟨b, w, rfl, hb, -⟩ := ht.exists_cons
    obtain ⟨fuel, rfl⟩ : ∃ n, fuel = n + 1 := ⟨fuel - 1, by simp at hfuel; omega⟩
    have hlength : bs.length ≤ fuel := by
      simp only [List.cons_append, List.length_cons, List.length_append] at hfuel
      omega
    obtain ⟨hfirst, hrest⟩ := List.isChain_cons.1 hapart
    -- a number is followed by a token that ends it
    have hends : t.isNumber = true → EndsNumber bs := fun hnumber =>
      h.endsNumber fun u hu => Bool.eq_false_iff.2 fun hnumber' => hfirst u hu ⟨hnumber, hnumber'⟩
    rw [List.cons_append, scanFuel, hb, scanOne_of_spells t b w bs ht hends]
    simp only [Bool.false_eq_true, if_false]
    rw [ih hrest fuel hlength]

/-- `scan` cuts a `Written` text into the tokens that it consists of. -/
theorem scan_of_written (ts : List Token) (bs : List UInt8) (h : Written ts bs) (hapart : Apart ts) :
    scan bs = ts :=
  scanFuel_of_written ts bs h hapart bs.length (Nat.le_refl _)

end Token

end CertGate.Json
