import CertGate.Duration
import CertGate.Proofs.Outcomes

/-!
# What a written duration is

A duration is written as a number and a unit: an optional plus sign, digits, and behind them one of the
texts of a unit, of which seconds have two. Digits and signs are in no unit, so a text has its number and
its unit in one way, and a text in `ms` is never one in `s` or in `m`.

## Key results

- `Text.readNat_eq_ok_iff`: which texts are read as a number
- `Duration.splitUnit_of_mem_suffixes`: the unit is found at the end of a text, behind any number
- `Duration.parse_of_spells`, `Duration.parse_eq_ok_iff`: which texts are read as a duration
- `Duration.Spells.unique`: a text spells one number of one unit
-/

namespace CertGate

namespace Text

/-! ## Numbers -/

/-- `cs` spells the number `n`: digits, and perhaps a plus sign in front of them. -/
def SpellsNat (cs : List Char) (n : Nat) : Prop :=
  ∃ digits, (cs = digits ∨ cs = '+' :: digits) ∧ digits ≠ [] ∧ (∀ c ∈ digits, c.isDigit = true) ∧
    Nat.ofDigitChars 10 digits 0 = n

/-- The value that `digitValue?` gives of a decimal digit. -/
theorem digitValue?_of_isDigit (c : Char) (h : c.isDigit = true) :
    digitValue? 10 c = some (c.toNat - '0'.toNat) := by
  have hlt : c.toNat - '0'.toNat < 10 := by
    have hle := (Char.isDigit_iff_toNat.1 h).2
    have hzero : '0'.toNat = 48 := rfl
    have hnine : '9'.toNat = 57 := rfl
    omega
  simp only [digitValue?, h, if_true, Option.filter_some, hlt, decide_true]

/-- `digitValue? 10` gives nothing else a value: letters have one, but none below ten. -/
theorem digitValue?_of_not_isDigit (c : Char) (h : c.isDigit = false) : digitValue? 10 c = none := by
  simp only [digitValue?, h, Bool.false_eq_true, if_false]
  split
  · simp
  · split
    · simp
    · rfl

/-- `Nat.ofDigitChars` does not get smaller with the digits that follow. -/
theorem le_ofDigitChars (cs : List Char) (n : Nat) : n ≤ Nat.ofDigitChars 10 cs n := by
  induction cs generalizing n with
  | nil => exact Nat.le_of_eq Nat.ofDigitChars_nil.symm
  | cons c cs ih =>
    rw [Nat.ofDigitChars_cons]
    have hrest := ih (10 * n + (c.toNat - '0'.toNat))
    omega

/-- `readNatFrom` goes on with digits unless what they make of the number is too large. -/
theorem readNatFrom_of_digits (bound n : Nat) (cs : List Char) (hn : n < bound)
    (hdigits : ∀ c ∈ cs, c.isDigit = true) :
    readNatFrom bound n cs =
      if Nat.ofDigitChars 10 cs n < bound then .ok (Nat.ofDigitChars 10 cs n)
      else .error .tooLarge := by
  induction cs generalizing n with
  | nil => rw [readNatFrom, Nat.ofDigitChars_nil, if_pos hn]
  | cons c cs ih =>
    have hc := digitValue?_of_isDigit c (hdigits c List.mem_cons_self)
    have hrest : ∀ d ∈ cs, d.isDigit = true := fun d hd => hdigits d (List.mem_cons_of_mem c hd)
    rw [readNatFrom, hc, Nat.ofDigitChars_cons, Nat.mul_comm 10 n]
    dsimp only
    split
    · next hlt => exact ih _ hlt hrest
    · next hge =>
      -- what has become too large stays so
      have hle := le_ofDigitChars cs (n * 10 + (c.toNat - '0'.toNat))
      rw [if_neg (by omega)]

/-- `readNatFrom` reads digits only. -/
theorem isDigit_of_readNatFrom (bound n m : Nat) (cs : List Char)
    (h : readNatFrom bound n cs = .ok m) : ∀ c ∈ cs, c.isDigit = true := by
  induction cs generalizing n with
  | nil => exact fun c hc => absurd hc List.not_mem_nil
  | cons c cs ih =>
    cases hc : c.isDigit with
    | false =>
      rw [readNatFrom, digitValue?_of_not_isDigit c hc] at h
      cases h
    | true =>
      rw [readNatFrom, digitValue?_of_isDigit c hc] at h
      dsimp only at h
      split at h
      · intro d hd
        obtain rfl | hd := List.mem_cons.1 hd
        · exact hc
        · exact ih _ h d hd
      · cases h

/-- `readNat` of a text that `SpellsNat`, with or without a sign. -/
theorem readNat_of_spells (bound n : Nat) (cs : List Char) (hbound : 0 < bound)
    (h : SpellsNat cs n) :
    readNat bound cs = if n < bound then .ok n else .error .tooLarge := by
  obtain ⟨digits, hcs, hne, hdigits, rfl⟩ := h
  obtain ⟨c, digits, rfl⟩ := List.exists_cons_of_ne_nil hne
  rw [← readNatFrom_of_digits bound 0 _ hbound hdigits]
  obtain rfl | rfl := hcs
  · -- a digit is not taken for a sign
    have hplus : c ≠ '+' := by
      rintro rfl
      cases hdigits '+' List.mem_cons_self
    unfold readNat
    split
    · next heq => cases heq
    · next heq => exact absurd (List.cons.inj heq).1 hplus
    · next heq => exact absurd (List.cons.inj heq).1 hplus
    · next heq => rw [heq]
  · -- a sign is taken off the digits
    rfl

/-- `readNat` reads the texts that spell a number below the bound, and nothing else. -/
theorem readNat_eq_ok_iff (bound n : Nat) (cs : List Char) (hbound : 0 < bound) :
    readNat bound cs = .ok n ↔ SpellsNat cs n ∧ n < bound := by
  constructor
  · intro h
    -- what was read is digits behind a sign, if there is one
    have hspells : ∃ m, SpellsNat cs m := by
      unfold readNat at h
      split at h
      · -- no text, or a sign alone
        cases h
      · cases h
      · -- a sign in front
        next c cs =>
        exact ⟨_, c :: cs, Or.inr rfl, List.cons_ne_nil c cs, isDigit_of_readNatFrom _ _ _ _ h, rfl⟩
      · -- no sign
        next c cs _ _ =>
        exact ⟨_, c :: cs, Or.inl rfl, List.cons_ne_nil c cs, isDigit_of_readNatFrom _ _ _ _ h, rfl⟩
    obtain ⟨m, hspells⟩ := hspells
    rw [readNat_of_spells bound m cs hbound hspells] at h
    split at h
    · next hlt =>
      cases h
      exact ⟨hspells, hlt⟩
    · cases h
  · rintro ⟨hspells, hlt⟩
    rw [readNat_of_spells bound n cs hbound hspells, if_pos hlt]

/-- No text spells two numbers, in the sense of `SpellsNat`. -/
theorem SpellsNat.unique {cs : List Char} {n m : Nat} (h : SpellsNat cs n) (h' : SpellsNat cs m) :
    n = m := by
  -- both are what `readNat` reads, under a bound above the two
  have hn := (readNat_eq_ok_iff (n + m + 1) n cs (by omega)).2 ⟨h, by omega⟩
  have hm := (readNat_eq_ok_iff (n + m + 1) m cs (by omega)).2 ⟨h', by omega⟩
  exact Except.ok.inj (hn.symm.trans hm)

/-- `Nat.toDigits` spells its number. -/
theorem spellsNat_toDigits (n : Nat) : SpellsNat (Nat.toDigits 10 n) n :=
  ⟨_, Or.inl rfl, Nat.toDigits_ne_nil,
    fun _ hc => Nat.isDigit_of_mem_toDigits (by decide) (by decide) hc,
    Nat.ofDigitChars_toDigits (by decide) (by decide)⟩

/-- A text that `SpellsNat` has nothing but digits and the sign. -/
theorem SpellsNat.isDigit_or_plus {cs : List Char} {n : Nat} (h : SpellsNat cs n) (c : Char)
    (hc : c ∈ cs) : c.isDigit = true ∨ c = '+' := by
  obtain ⟨digits, rfl | rfl, -, hdigits, -⟩ := h
  · exact Or.inl (hdigits c hc)
  · obtain rfl | hc := List.mem_cons.1 hc
    · exact Or.inr rfl
    · exact Or.inl (hdigits c hc)

end Text

namespace Duration

/-! ## Units -/

/-- The nanoseconds of one `Unit`. -/
def Unit.nanos : Unit → Nat
  | .milliseconds => 1000000
  | .seconds => 1000000000
  | .minutes => 60000000000
  | .hours => 3600000000000

/-- So many of a unit, without the bound of `Unit.times`. -/
def Unit.exactly (u : Unit) (n : Nat) : Duration := ⟨n * u.nanos⟩

/-- What is written for a `Unit`. For seconds nothing need be written. -/
def Unit.suffixes : Unit → List (List Char)
  | .milliseconds => [['m', 's']]
  | .seconds => [['s'], []]
  | .minutes => [['m']]
  | .hours => [['h']]

/-- `s` spells the duration of `n` of the unit `u`. -/
def Spells (s : String) (n : Nat) (u : Unit) : Prop :=
  ∃ number suffix, s.toList = number ++ suffix ∧ Text.SpellsNat number n ∧ suffix ∈ u.suffixes

/-- What `splitUnit` takes off the end is written for the unit it gives. -/
theorem exists_suffix_of_splitUnit (cs number : List Char) (u : Unit)
    (h : splitUnit cs.reverse = (number, u)) : ∃ suffix ∈ u.suffixes, cs = number ++ suffix := by
  have hcs : cs = cs.reverse.reverse := cs.reverse_reverse.symm
  rw [hcs]
  unfold splitUnit at h
  split at h
  · next rest heq => cases h; exact ⟨['m', 's'], by decide, by rw [heq]; simp⟩
  · next rest _ heq => cases h; exact ⟨['s'], by decide, by rw [heq]; simp⟩
  · next rest heq => cases h; exact ⟨['m'], by decide, by rw [heq]; simp⟩
  · next rest heq => cases h; exact ⟨['h'], by decide, by rw [heq]; simp⟩
  · cases h; exact ⟨[], by decide, by simp⟩

/-- `splitUnit` tells seconds from milliseconds by what stands in front. -/
theorem splitUnit_seconds (cs : List Char) (h : 'm' ∉ cs) :
    splitUnit ('s' :: cs) = (cs.reverse, .seconds) := by
  unfold splitUnit
  split
  · -- the text ends in `ms`
    next heq => exact absurd (List.cons.inj heq).2 fun hcs => h (hcs ▸ List.mem_cons_self)
  · next heq => rw [(List.cons.inj heq).2]
  · next heq => cases heq
  · next heq => cases heq
  · next hseconds _ _ => exact absurd rfl (hseconds cs)

/-- `splitUnit` takes a text without letters of units for seconds. -/
theorem splitUnit_bare (cs : List Char) (hs : 's' ∉ cs) (hm : 'm' ∉ cs) (hh : 'h' ∉ cs) :
    splitUnit cs = (cs.reverse, .seconds) := by
  unfold splitUnit
  split
  · exact absurd List.mem_cons_self hs
  · exact absurd List.mem_cons_self hs
  · exact absurd List.mem_cons_self hm
  · exact absurd List.mem_cons_self hh
  · rfl

/-- `splitUnit` takes the unit off whatever stands in front, as long as that has no letter of a unit. -/
theorem splitUnit_of_mem_suffixes (number suffix : List Char) (u : Unit)
    (hsuffix : suffix ∈ u.suffixes) (hs : 's' ∉ number) (hm : 'm' ∉ number) (hh : 'h' ∉ number) :
    splitUnit (number ++ suffix).reverse = (number, u) := by
  rw [← List.mem_reverse] at hs hm hh
  rw [List.reverse_append]
  -- the reversed text starts with the reversed unit
  suffices h : splitUnit (suffix.reverse ++ number.reverse) = (number.reverse.reverse, u) by
    rwa [List.reverse_reverse] at h
  cases u with
  | milliseconds =>
    rw [List.mem_singleton.1 hsuffix]
    rfl
  | seconds =>
    obtain rfl | hsuffix := List.mem_cons.1 hsuffix
    · exact splitUnit_seconds number.reverse hm
    · rw [List.mem_singleton.1 hsuffix]
      exact splitUnit_bare number.reverse hs hm hh
  | minutes =>
    rw [List.mem_singleton.1 hsuffix]
    rfl
  | hours =>
    rw [List.mem_singleton.1 hsuffix]
    rfl

/-! ## Texts -/

/-- `splitUnit` of a text that `Spells` gives its number and its unit. -/
theorem splitUnit_of_spells (s : String) (n : Nat) (u : Unit) (h : Spells s n u) :
    ∃ number, splitUnit s.toList.reverse = (number, u) ∧ Text.SpellsNat number n := by
  obtain ⟨number, suffix, hs, hnumber, hsuffix⟩ := h
  -- no letter is a digit or a sign
  have hletter : ∀ c : Char, c.isDigit = false → c ≠ '+' → c ∉ number := by
    intro c hdigit hplus hmem
    obtain hc | hc := hnumber.isDigit_or_plus c hmem
    · rw [hdigit] at hc
      cases hc
    · exact hplus hc
  refine ⟨number, ?_, hnumber⟩
  rw [hs]
  exact splitUnit_of_mem_suffixes number suffix u hsuffix (hletter 's' rfl (by decide))
    (hletter 'm' rfl (by decide)) (hletter 'h' rfl (by decide))

/-- A text `Spells` one number of one unit. -/
theorem Spells.unique {s : String} {n n' : Nat} {u u' : Unit} (h : Spells s n u)
    (h' : Spells s n' u') : n = n' ∧ u = u' := by
  obtain ⟨number, hsplit, hnumber⟩ := splitUnit_of_spells s n u h
  obtain ⟨number', hsplit', hnumber'⟩ := splitUnit_of_spells s n' u' h'
  rw [hsplit] at hsplit'
  cases hsplit'
  exact ⟨hnumber.unique hnumber', rfl⟩

/-- `parse` of a text that `Spells`, unless the number is too large. -/
theorem parse_of_spells (s : String) (n : Nat) (u : Unit) (h : Spells s n u) :
    parse s = if n < bound then .ok (u.times n) else .error .tooLarge := by
  obtain ⟨number, hsplit, hnumber⟩ := splitUnit_of_spells s n u h
  simp only [parse, hsplit, Text.readNat_of_spells bound n number (by decide) hnumber]
  split <;> rfl

/-- `parse` reads no text but those that spell. -/
theorem exists_spells_of_parse (s : String) (d : Duration) (h : parse s = .ok d) :
    ∃ n u, Spells s n u := by
  obtain ⟨n, hn, -⟩ := Except.bind_eq_ok_iff.1 h
  obtain ⟨hnumber, -⟩ := (Text.readNat_eq_ok_iff bound n _ (by decide)).1 hn
  obtain ⟨suffix, hsuffix, hs⟩ := exists_suffix_of_splitUnit s.toList _ _ rfl
  exact ⟨n, _, _, suffix, hs, hnumber, hsuffix⟩

/-- `parse` reads the texts that spell a number below the bound, as so many `times` their unit. -/
theorem parse_eq_ok_iff (s : String) (d : Duration) :
    parse s = .ok d ↔ ∃ n u, Spells s n u ∧ n < bound ∧ d = u.times n := by
  constructor
  · intro h
    obtain ⟨n, u, hspells⟩ := exists_spells_of_parse s d h
    rw [parse_of_spells s n u hspells] at h
    split at h
    · next hlt => exact ⟨n, u, hspells, hlt, (Except.ok.inj h).symm⟩
    · cases h
  · rintro ⟨n, u, hspells, hlt, rfl⟩
    rw [parse_of_spells s n u hspells, if_pos hlt]

end Duration

end CertGate
