import CertGate.Proofs.HeaderFields
import CertGate.Proofs.PercentDecoding
import CertGate.Proofs.Utf8RoundTrip
import CertGate.Text.Alphanumeric

/-!
# The note of the caller's address

An address is written in letters, digits, points and colons alone. So it holds no comma and no blank,
and wherever it is put behind a comma it is the last element of the list, whatever stands before it.

## Key results

- `isAddressChar_of_mem_render`: the characters of an address
- `visible?_encode`: a text that can be seen is read back from its bytes
- `exists_values_appendForwardedFor`: the one value that notes the caller, and its last element
- `values_appendForwardedFor_of_ne`: fields of other names stay as they are
-/

namespace CertGate

/-! ## The text of an address -/

/-- A character that addresses are written with: a letter, a digit, a point or a colon. -/
def IsAddressChar (c : Char) : Prop :=
  c.isAlphanum = true ∨ c = '.' ∨ c = ':'

/-- `Nat.toDigits` writes a number in the digits of its base. -/
theorem mem_toDigits (b n : Nat) (c : Char) (hb : 1 < b) (h : c ∈ Nat.toDigits b n) :
    ∃ k, k < b ∧ c = Nat.digitChar k := by
  induction n using Nat.strongRecOn with
  | ind n ih =>
    rw [Nat.toDigits_eq_if hb] at h
    by_cases hn : n < b
    · -- one digit
      rw [if_pos hn, List.mem_singleton] at h
      exact ⟨n, hn, h⟩
    · rw [if_neg hn, List.mem_append, List.mem_singleton] at h
      -- the digits of the quotient, and the last one
      obtain h | h := h
      · exact ih (n / b) (Nat.div_lt_self (by omega) hb) h
      · exact ⟨n % b, Nat.mod_lt n (by omega), h⟩

/-- What `toDigits` writes up to base 16 are letters and digits. -/
theorem isAddressChar_of_mem_toDigits (b n : Nat) (c : Char) (hb : 1 < b) (hb' : b ≤ 16)
    (h : c ∈ Nat.toDigits b n) : IsAddressChar c := by
  obtain ⟨k, hk, rfl⟩ := mem_toDigits b n c hb h
  have hall : ∀ k : Fin 16, (Nat.digitChar k).isAlphanum = true := by decide
  exact Or.inl (hall ⟨k, by omega⟩)

/-- `Ipv4.render` writes four numbers and three points. -/
theorem Ipv4.isAddressChar_of_mem_render (x : Ipv4) (c : Char) (h : c ∈ x.render.toList) :
    IsAddressChar c := by
  have hnumber : ∀ n : Nat, c ∈ (toString n).toList → IsAddressChar c := by
    intro n hn
    rw [Nat.toString_eq_ofList_toDigits, String.toList_ofList] at hn
    exact isAddressChar_of_mem_toDigits 10 n c (by omega) (by omega) hn
  have hpoint : c ∈ (toString ".").toList → IsAddressChar c := fun hc =>
    Or.inr (Or.inl (List.mem_singleton.1 hc))
  simp only [render, String.toList_append, List.mem_append] at h
  obtain (((((h | h) | h) | h) | h) | h) | h := h
  · exact hnumber _ h
  · exact hpoint h
  · exact hnumber _ h
  · exact hpoint h
  · exact hnumber _ h
  · exact hpoint h
  · exact hnumber _ h

/-- `Ipv6.joined` writes groups of hexadecimal digits and colons between them. -/
theorem Ipv6.isAddressChar_of_mem_joined (gs : List UInt16) (c : Char) (h : c ∈ joined gs) :
    IsAddressChar c := by
  induction gs with
  | nil => cases h
  | cons g gs ih =>
    have hgroup : c ∈ Text.hexDigits g.toNat → IsAddressChar c := fun hc =>
      isAddressChar_of_mem_toDigits 16 g.toNat c (by omega) (by omega) hc
    cases gs with
    -- the last group
    | nil => exact hgroup (by simpa [joined] using h)
    | cons g' gs =>
      simp only [joined, List.map_cons, List.intercalate_cons_cons, List.mem_append] at h ih
      obtain (h | h) | h := h
      · exact hgroup h
      · exact Or.inr (Or.inr (List.mem_singleton.1 h))
      · exact ih h

/-- `Ipv6.render` writes groups, with a gap for zeros or without. -/
theorem Ipv6.isAddressChar_of_mem_render (x : Ipv6) (c : Char) (h : c ∈ x.render.toList) :
    IsAddressChar c := by
  have hgap : c ∈ "::".toList → IsAddressChar c := fun hc => Or.inr (Or.inr (by simpa using hc))
  simp only [render, String.toList_ofList] at h
  split at h
  · -- no gap
    exact isAddressChar_of_mem_joined _ c h
  · -- groups, the gap, and groups again
    simp only [List.mem_append] at h
    obtain (h | h) | h := h
    · exact isAddressChar_of_mem_joined _ c h
    · exact hgap h
    · exact isAddressChar_of_mem_joined _ c h

/-- `IpAddr.render` writes nothing but `IsAddressChar`. -/
theorem IpAddr.isAddressChar_of_mem_render (ip : IpAddr) (c : Char) (h : c ∈ ip.render.toList) :
    IsAddressChar c := by
  cases ip with
  | v4 x => exact x.isAddressChar_of_mem_render c h
  | v6 x =>
    simp only [render] at h
    split at h
    · -- an address of version 4 that is mapped keeps its points
      simp only [String.toList_append, List.mem_append] at h
      obtain h | h := h
      · have hall : (toString "::ffff:").toList.all (fun c => c.isAlphanum || c == ':') = true := by
          decide +kernel
        have hc := List.all_eq_true.1 hall c h
        rw [Bool.or_eq_true, beq_iff_eq] at hc
        exact hc.imp_right Or.inr
      · exact Ipv4.isAddressChar_of_mem_render _ c h
    · exact x.isAddressChar_of_mem_render c h

/-- There is a point in every `Ipv4.render`. -/
theorem Ipv4.render_ne_empty (x : Ipv4) : x.render ≠ "" := by
  intro h
  have hnil := congrArg String.toList h
  simp [render] at hnil

/-- `Ipv6.render` is never empty. -/
theorem Ipv6.render_ne_empty (x : Ipv6) : x.render ≠ "" := by
  intro h
  have hnil := congrArg String.toList h
  simp only [render, String.toList_ofList] at hnil
  split at hnil
  · -- there are eight groups, so some colon stands between two of them
    obtain ⟨groups, hlength⟩ := x
    match groups, hlength with
    | g :: g' :: gs, _ => simp [joined, List.intercalate_cons_cons] at hnil
  · simp at hnil

/-- `IpAddr.render` is never empty. -/
theorem IpAddr.render_ne_empty (ip : IpAddr) : ip.render ≠ "" := by
  cases ip with
  | v4 x => exact x.render_ne_empty
  | v6 x =>
    simp only [render]
    split
    · intro h
      exact absurd (String.append_eq_empty_iff.1 h).1 (by decide)
    · exact x.render_ne_empty

/-! ## Texts that can be seen -/

namespace Http

/-- A character that a header value may show, as `visible?` has it. -/
def IsVisibleChar (c : Char) : Prop :=
  c = '\t' ∨ 0x20 ≤ c.toNat ∧ c.toNat < 0x7F

/-- The characters of addresses, by `IsAddressChar`, are visible, and neither commas nor blanks. -/
theorem visible_of_isAddressChar (c : Char) (h : IsAddressChar c) :
    IsVisibleChar c ∧ c ≠ ',' ∧ Text.isBlank c = false := by
  have hlt : c.toNat < 0x80 := by
    obtain h | rfl | rfl := h
    · exact Text.toNat_lt_of_isAlphanum h
    · decide
    · decide
  have hall : ∀ n : Fin 128, ((Char.ofNat n).isAlphanum = true ∨ Char.ofNat n = '.' ∨
      Char.ofNat n = ':') → (0x20 ≤ n.val ∧ n.val < 0x7F) ∧ Char.ofNat n ≠ ',' ∧
        Text.isBlank (Char.ofNat n) = false := by decide +kernel
  have hc := hall ⟨c.toNat, hlt⟩
  simp only [Char.ofNat_toNat] at hc
  obtain ⟨hrange, hcomma, hblank⟩ := hc h
  exact ⟨Or.inr hrange, hcomma, hblank⟩

/-- A character for which `IsVisibleChar` holds is written as one visible byte, and read back from it. -/
theorem byte_of_isVisibleChar (c : Char) (h : IsVisibleChar c) :
    String.utf8EncodeChar c = [c.toNat.toUInt8] ∧ IsVisibleByte c.toNat.toUInt8 ∧
      Char.ofNat c.toNat.toUInt8.toNat = c := by
  have hlt : c.toNat < 0x80 := by
    obtain rfl | hrange := h
    · decide
    · omega
  have hback : c.toNat.toUInt8.toNat = c.toNat := by
    simp only [Nat.toUInt8_eq, UInt8.toNat_ofNat']
    omega
  refine ⟨?_, ?_, by rw [hback, Char.ofNat_toNat]⟩
  · obtain ⟨-, hone⟩ | ⟨hge, -⟩ := Url.utf8EncodeChar_cases c
    · exact hone
    · exact absurd hlt (Nat.not_lt.2 hge)
  · obtain rfl | hrange := h
    · exact Or.inl rfl
    · refine Or.inr ?_
      rw [UInt8.le_iff_toNat_le, UInt8.lt_iff_toNat_lt, hback]
      exact hrange

/-- `visible?` undoes `Text.Utf8.encode` on a visible text. -/
theorem visible?_encode (cs : List Char) (h : ∀ c ∈ cs, IsVisibleChar c) :
    FieldValue.visible? (Text.Utf8.encode cs) = some cs := by
  induction cs with
  | nil => rfl
  | cons c cs ih =>
    obtain ⟨hone, hbyte, hback⟩ := byte_of_isVisibleChar c (h c List.mem_cons_self)
    have hrest := ih fun d hd => h d (List.mem_cons_of_mem c hd)
    rw [FieldValue.visible?_eq_some_iff] at hrest ⊢
    rw [Text.Utf8.encode, List.flatMap_cons, hone, ← Text.Utf8.encode, List.singleton_append,
      List.map_cons, hback, ← hrest.2]
    refine ⟨fun b hb => ?_, rfl⟩
    obtain rfl | hb := List.mem_cons.1 hb
    · exact hbyte
    · exact hrest.1 b hb

/-- `visible?` gives texts of visible characters only. -/
theorem isVisibleChar_of_visible? (v : FieldValue) (text : List Char)
    (h : v.visible? = some text) (c : Char) (hc : c ∈ text) : IsVisibleChar c := by
  obtain ⟨hbytes, rfl⟩ := (v.visible?_eq_some_iff text).1 h
  obtain ⟨b, hb, rfl⟩ := List.mem_map.1 hc
  have hvalue : (Char.ofNat b.toNat).toNat = b.toNat :=
    Text.Utf8.toNat_val_ofNat b.toNat (Or.inl (Nat.lt_trans b.toNat_lt (by decide)))
  obtain rfl | ⟨hge, hlt⟩ := hbytes b hb
  · exact Or.inl rfl
  · refine Or.inr ?_
    rw [UInt8.le_iff_toNat_le] at hge
    rw [UInt8.lt_iff_toNat_lt] at hlt
    rw [hvalue]
    exact ⟨hge, hlt⟩

/-! ## The note -/

namespace Headers

/-- The last element of a list of addresses: `,` parts them, and blanks around them do not count. -/
def lastElement? (text : List Char) : Option (List Char) :=
  (Text.pieces ',' text).getLast?.map (Text.trim Text.isBlank)

/-- `appendForwardedFor` without a visible list: the caller's address is the list. -/
theorem appendForwardedFor_of_none (h : Headers) (client : IpAddr) (hnone : h.forwardedFor? = none) :
    h.appendForwardedFor client =
      h.insert "x-forwarded-for" (Text.Utf8.encode client.render.toList) := by
  simp only [appendForwardedFor, hnone, Text.Utf8.bytes]

/-- `appendForwardedFor` behind a visible list, which is kept. -/
theorem appendForwardedFor_of_some (h : Headers) (client : IpAddr) (existing : String)
    (hsome : h.forwardedFor? = some existing) :
    h.appendForwardedFor client = h.insert "x-forwarded-for"
      (Text.Utf8.encode (existing.toList ++ ',' :: ' ' :: client.render.toList)) := by
  have hmark : (toString ", ").toList = [',', ' '] := by decide
  simp only [appendForwardedFor, hsome, Text.Utf8.bytes, String.toList_append, hmark]
  rw [List.append_assoc]
  rfl

/-- The list that `forwardedFor?` finds is visible. -/
theorem isVisibleChar_of_forwardedFor? (h : Headers) (existing : String)
    (hsome : h.forwardedFor? = some existing) (c : Char) (hc : c ∈ existing.toList) :
    IsVisibleChar c := by
  simp only [forwardedFor?, bind, Option.bind_eq_some_iff] at hsome
  obtain ⟨v, -, text, htext, hblank⟩ := hsome
  split at hblank
  · cases hblank
  · cases hblank
    rw [String.toList_ofList] at hc
    exact isVisibleChar_of_visible? v text htext c hc

/-- An address is the `lastElement?` of every list that it ends. -/
theorem lastElement?_append_render (before : List Char) (client : IpAddr) :
    lastElement? client.render.toList = some client.render.toList ∧
      lastElement? (before ++ ',' :: ' ' :: client.render.toList) = some client.render.toList := by
  have haddress : ∀ c ∈ client.render.toList, c ≠ ',' ∧ Text.isBlank c = false := fun c hc =>
    (visible_of_isAddressChar c (client.isAddressChar_of_mem_render c hc)).2
  have hcomma : ',' ∉ client.render.toList := fun hmem => (haddress _ hmem).1 rfl
  have htrim : Text.trim Text.isBlank client.render.toList = client.render.toList :=
    Text.trim_of_forall_not fun c hc => (haddress c hc).2
  constructor
  · -- the address alone
    rw [lastElement?, Text.pieces_of_not_mem _ hcomma]
    exact congrArg some htrim
  · -- behind a comma and a blank
    have hcomma' : ',' ∉ ' ' :: client.render.toList := by
      simpa using hcomma
    rw [lastElement?, Text.pieces_append, Text.pieces_of_not_mem _ hcomma', List.getLast?_append,
      List.getLast?_singleton, Option.some_or, Option.map_some,
      Text.trim_cons_of_pos (by decide), htrim]

/-- `appendForwardedFor` leaves one value, which is visible and ends with the caller's address,
whatever was there before. -/
theorem exists_values_appendForwardedFor (h : Headers) (client : IpAddr) :
    ∃ v text, (h.appendForwardedFor client).values "x-forwarded-for" = [v] ∧
      FieldValue.visible? v = some text ∧ lastElement? text = some client.render.toList := by
  have hclient : ∀ c ∈ client.render.toList, IsVisibleChar c := fun c hc =>
    (visible_of_isAddressChar c (client.isAddressChar_of_mem_render c hc)).1
  cases hexisting : h.forwardedFor? with
  | none =>
    refine ⟨_, client.render.toList, ?_, visible?_encode _ hclient,
      (lastElement?_append_render [] client).1⟩
    rw [appendForwardedFor_of_none h client hexisting, values_insert, if_pos rfl]
  | some existing =>
    refine ⟨_, _, ?_, visible?_encode _ ?_, (lastElement?_append_render existing.toList client).2⟩
    · rw [appendForwardedFor_of_some h client existing hexisting, values_insert, if_pos rfl]
    · intro c hc
      simp only [List.mem_append, List.mem_cons] at hc
      obtain hc | rfl | rfl | hc := hc
      · exact isVisibleChar_of_forwardedFor? h existing hexisting c hc
      · exact Or.inr (by decide)
      · exact Or.inr (by decide)
      · exact hclient c hc

/-- `appendForwardedFor` leaves the values of all other fields. -/
theorem values_appendForwardedFor_of_ne (h : Headers) (client : IpAddr) (n : String)
    (hn : n ≠ "x-forwarded-for") : (h.appendForwardedFor client).values n = h.values n := by
  rw [appendForwardedFor, values_insert, if_neg hn]

end Headers

end Http

end CertGate
