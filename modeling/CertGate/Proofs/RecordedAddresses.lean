import CertGate.Proofs.FieldElements
import CertGate.Proofs.ForwardedFor

/-!
# The list of recorded addresses

Every proxy on the way of a request notes who called it. The list of these addresses may be written in
one value or parted among several, so it is what all values of the field give together. The note is put
behind what the first value gives; so nothing is lost exactly if the whole list can be read there, and
that is how every note leaves it.

## Key results

- `addressesIn_eq_nil_iff`: a value gives no address if it is nothing but blanks and commas
- `addresses_appendForwardedFor`: the list once a caller is noted
- `legibleAddresses_eq_iff`: when the first value gives the whole list
- `notesCaller_appendForwardedFor`: what the note of a caller keeps, and when it keeps all
- `addresses_foldl_appendForwardedFor`: the list after any number of callers
-/

namespace CertGate

/-! ## The bytes of an address -/

/-- An address as `appendForwardedFor` writes it. -/
def IpAddr.note (client : IpAddr) : Http.FieldValue :=
  Text.Utf8.bytes client.render

/-- `note` is not empty. -/
theorem IpAddr.note_ne_nil (client : IpAddr) : client.note ≠ [] :=
  Text.Utf8.bytes_ne_nil _ client.render_ne_empty

/-- `note` holds neither commas nor blanks. -/
theorem IpAddr.note_plain (client : IpAddr) (b : UInt8) (hb : b ∈ client.note) :
    b ≠ 0x2C ∧ Http.isBlankByte b = false := by
  obtain ⟨c, hc, hb⟩ := List.mem_flatMap.1 hb
  obtain ⟨hvisible, hcomma, hblank⟩ :=
    Http.visible_of_isAddressChar c (client.isAddressChar_of_mem_render c hc)
  obtain ⟨hone, hbyte, hshown⟩ := Http.byte_of_isVisibleChar c hvisible
  rw [hone, List.mem_singleton] at hb
  rw [hb]
  constructor
  · intro heq
    rw [heq] at hshown
    exact hcomma hshown.symm
  · rw [← Http.isBlank_shownByte hbyte, Http.shownByte, hshown, hblank]

namespace Http.Headers

/-! ## The addresses of a value -/

/-- The addresses that a value gives: its `elements` that are not blank. -/
def addressesIn (v : FieldValue) : List FieldValue :=
  v.elements.filter (!·.isEmpty)

/-- `addressesIn` is empty for blanks and commas alone. -/
theorem addressesIn_eq_nil_iff (v : FieldValue) :
    addressesIn v = [] ↔ ∀ b ∈ v, b ≠ 0x2C → isBlankByte b = true := by
  simp only [addressesIn, FieldValue.elements, List.filter_eq_nil_iff, List.forall_mem_map,
    Bool.not_eq_true, Bool.not_eq_false', List.isEmpty_iff, Text.trim_eq_nil_iff]
  constructor
  · intro h b hb hcomma
    obtain ⟨piece, hpiece, hmem⟩ := Text.exists_mem_pieces_iff.2 ⟨hb, hcomma⟩
    exact h piece hpiece b hmem
  · intro h piece hpiece b hmem
    obtain ⟨hb, hcomma⟩ := Text.exists_mem_pieces_iff.1 ⟨piece, hpiece, hmem⟩
    exact h b hb hcomma

/-- A value with a byte that is not visible gives an address: `addressesIn` is not empty. -/
theorem addressesIn_ne_nil (v : FieldValue) (h : ¬IsVisible v) : addressesIn v ≠ [] := by
  intro hnil
  refine h fun b hb => ?_
  by_cases hcomma : b = 0x2C
  · exact Or.inr (by rw [hcomma]; decide)
  · have hblank := (addressesIn_eq_nil_iff v).1 hnil b hb hcomma
    rw [isBlankByte, Bool.or_eq_true, beq_iff_eq, beq_iff_eq] at hblank
    obtain rfl | rfl := hblank
    · exact Or.inr (by decide)
    · exact Or.inl rfl

/-- A noted address is one of `addressesIn`, and the only one, also behind a blank. -/
theorem addressesIn_note (client : IpAddr) :
    addressesIn client.note = [client.note] ∧ addressesIn (0x20 :: client.note) = [client.note] := by
  have hcomma : 0x2C ∉ client.note := fun hmem => (client.note_plain _ hmem).1 rfl
  have htrim : Text.trim isBlankByte client.note = client.note :=
    Text.trim_of_forall_not fun b hb => (client.note_plain b hb).2
  have hkept : [client.note].filter (!·.isEmpty) = [client.note] := by
    rw [List.filter_cons, List.isEmpty_eq_false_iff.2 client.note_ne_nil]
    rfl
  constructor
  · rw [addressesIn, FieldValue.elements_of_not_mem _ hcomma, htrim, hkept]
  · have hcomma' : 0x2C ∉ 0x20 :: client.note := by
      rw [List.mem_cons, not_or]
      exact ⟨by decide, hcomma⟩
    rw [addressesIn, FieldValue.elements_of_not_mem _ hcomma', Text.trim_cons_of_pos (by decide),
      htrim, hkept]

/-- A note behind a comma adds one address to `addressesIn`. -/
theorem addressesIn_append_note (v : FieldValue) (client : IpAddr) :
    addressesIn (v ++ 0x2C :: 0x20 :: client.note) = addressesIn v ++ [client.note] := by
  rw [addressesIn, FieldValue.elements_append_comma, List.filter_append]
  exact congrArg (addressesIn v ++ ·) (addressesIn_note client).2

/-! ## The addresses of a header -/

/-- The addresses that a header records: what `addressesIn` has for all its values, one after the
other. -/
def addresses (h : Headers) : List FieldValue :=
  (h.values "x-forwarded-for").flatMap addressesIn

/-- The addresses that `appendForwardedFor` can go on from: those of the first value, if it is visible. -/
def legibleAddresses (h : Headers) : List FieldValue :=
  match h.values "x-forwarded-for" with
  | [] => []
  | v :: _ => if v.visible?.isSome then addressesIn v else []

/-- The first value, if there is one, gives the whole list: it is visible, and no other value has
anything in `addressesIn`. -/
def ListedFirst (h : Headers) : Prop :=
  ∀ v vs, h.values "x-forwarded-for" = v :: vs → IsVisible v ∧ ∀ w ∈ vs, addressesIn w = []

/-- `legibleAddresses` are all `addresses` exactly if the list is `ListedFirst`. -/
theorem legibleAddresses_eq_iff (h : Headers) :
    h.legibleAddresses = h.addresses ↔ h.ListedFirst := by
  rw [legibleAddresses, addresses, ListedFirst]
  cases h.values "x-forwarded-for" with
  | nil => exact iff_of_true rfl nofun
  | cons v vs =>
    have hlisted : (∀ w ws, v :: vs = w :: ws → IsVisible w ∧ ∀ x ∈ ws, addressesIn x = []) ↔
        IsVisible v ∧ vs.flatMap addressesIn = [] := by
      rw [List.flatMap_eq_nil_iff]
      exact ⟨fun h => h v vs rfl, by rintro h _ _ ⟨⟩; exact h⟩
    rw [hlisted, List.flatMap_cons]
    dsimp only
    -- a visible first value: the others must not add anything
    by_cases hvisible : IsVisible v
    · rw [if_pos ((isVisible_iff v).1 hvisible), and_iff_right hvisible, eq_comm,
        List.append_right_eq_self]
    · -- otherwise its own addresses are missing
      rw [if_neg (mt (isVisible_iff v).2 hvisible)]
      refine iff_of_false (fun hnil => ?_) fun h => hvisible h.1
      exact addressesIn_ne_nil v hvisible (List.append_eq_nil_iff.1 hnil.symm).1

/-! ## Notes -/

/-- `forwardedFor?` gives a first value that is visible and not blank. Else there are no
`legibleAddresses`. -/
theorem forwardedFor?_cases (h : Headers) :
    (h.forwardedFor? = none ∧ h.legibleAddresses = []) ∨
      ∃ v text, v.visible? = some text ∧ h.forwardedFor? = some (String.ofList text) ∧
        h.legibleAddresses = addressesIn v := by
  have hread : h.forwardedFor? = (h.values "x-forwarded-for").head?.bind fun v =>
      v.visible?.bind fun text => if text.all Text.isBlank then none else some (String.ofList text) := by
    rw [head?_values]
    rfl
  rw [hread, legibleAddresses]
  cases h.values "x-forwarded-for" with
  -- no value
  | nil => exact Or.inl ⟨rfl, rfl⟩
  | cons v vs =>
    rw [List.head?_cons, Option.bind_some]
    dsimp only
    cases htext : v.visible? with
    -- a first value that is not visible
    | none => exact Or.inl ⟨rfl, rfl⟩
    | some text =>
      rw [Option.bind_some, Option.isSome_some, if_pos rfl]
      by_cases hblank : text.all Text.isBlank = true
      · -- a blank one
        refine Or.inl ⟨if_pos hblank, ?_⟩
        obtain ⟨hvisible, rfl⟩ := (v.visible?_eq_some_iff text).1 htext
        rw [addressesIn_eq_nil_iff]
        intro b hb _
        rw [← isBlank_shownByte (hvisible b hb)]
        exact List.all_eq_true.1 hblank _ (List.mem_map_of_mem hb)
      · exact Or.inr ⟨v, text, htext, if_neg hblank, rfl⟩

/-- `note` is visible. -/
theorem isVisible_note (client : IpAddr) : IsVisible client.note := by
  rw [isVisible_iff, IpAddr.note, Text.Utf8.bytes, visible?_encode _ fun c hc =>
    (visible_of_isAddressChar c (client.isAddressChar_of_mem_render c hc)).1]
  rfl

/-- `appendForwardedFor` puts one value in place of all others: it is visible, and gives the
`legibleAddresses` and the caller. -/
theorem exists_appendForwardedFor_eq (h : Headers) (client : IpAddr) :
    ∃ v, h.appendForwardedFor client = h.insert "x-forwarded-for" v ∧ IsVisible v ∧
      addressesIn v = h.legibleAddresses ++ [client.note] := by
  obtain ⟨hnone, hnil⟩ | ⟨v, text, htext, hsome, hlegible⟩ := h.forwardedFor?_cases
  · -- nothing to go on from, so the value is the note
    refine ⟨client.note, h.appendForwardedFor_of_none client hnone, isVisible_note client, ?_⟩
    rw [hnil, List.nil_append]
    exact (addressesIn_note client).1
  · -- the note is put behind the first value
    have hvalue : Text.Utf8.encode
        ((String.ofList text).toList ++ ',' :: ' ' :: client.render.toList) =
          v ++ 0x2C :: 0x20 :: client.note := by
      rw [String.toList_ofList, Text.Utf8.encode, List.flatMap_append, ← Text.Utf8.encode,
        encode_of_visible? v text htext]
      rfl
    refine ⟨v ++ 0x2C :: 0x20 :: client.note, ?_, ?_, ?_⟩
    · rw [h.appendForwardedFor_of_some client _ hsome, hvalue]
    · intro b hb
      rw [List.mem_append, List.mem_cons, List.mem_cons] at hb
      obtain hb | rfl | rfl | hb := hb
      · exact ((v.visible?_eq_some_iff text).1 htext).1 b hb
      · exact Or.inr (by decide)
      · exact Or.inr (by decide)
      · exact isVisible_note client b hb
    · rw [addressesIn_append_note, hlegible]

/-- The `addresses` once a caller is noted. -/
theorem addresses_appendForwardedFor (h : Headers) (client : IpAddr) :
    (h.appendForwardedFor client).addresses = h.legibleAddresses ++ [client.note] := by
  obtain ⟨v, hinsert, -, hv⟩ := h.exists_appendForwardedFor_eq client
  rw [addresses, hinsert, values_insert, if_pos rfl, List.flatMap_singleton, hv]

/-- `appendForwardedFor` leaves a list that is `ListedFirst`. -/
theorem listedFirst_appendForwardedFor (h : Headers) (client : IpAddr) :
    (h.appendForwardedFor client).ListedFirst := by
  obtain ⟨v, hinsert, hvisible, -⟩ := h.exists_appendForwardedFor_eq client
  intro w ws hvalues
  rw [hinsert, values_insert, if_pos rfl] at hvalues
  cases hvalues
  exact ⟨hvisible, nofun⟩

/-- What the note of a caller does to a header, from `before` to `after`. -/
structure NotesCaller (before after : Headers) (client : IpAddr) : Prop where
  /-- The fields of all other names stay as they are. -/
  others : after.erase "x-forwarded-for" = before.erase "x-forwarded-for"
  /-- The address is put behind the `legibleAddresses`. -/
  addresses_eq : after.addresses = before.legibleAddresses ++ [client.note]
  /-- It is put behind all `addresses` exactly if the list is `ListedFirst`. -/
  complete_iff : after.addresses = before.addresses ++ [client.note] ↔ before.ListedFirst
  /-- Afterwards it is. -/
  listed : after.ListedFirst

/-- `appendForwardedFor` puts the caller behind what the first value gives, and this is all exactly if
no other value gives an address. -/
theorem notesCaller_appendForwardedFor (h : Headers) (client : IpAddr) :
    NotesCaller h (h.appendForwardedFor client) client where
  others := h.erase_insert "x-forwarded-for" _
  addresses_eq := h.addresses_appendForwardedFor client
  complete_iff := by
    rw [addresses_appendForwardedFor, List.append_left_inj, legibleAddresses_eq_iff]
  listed := h.listedFirst_appendForwardedFor client

/-- A list that two proxies wrote, each in a value of its own, loses the second address. -/
theorem addresses_appendForwardedFor_loses :
    let h : Headers := ⟨[("x-forwarded-for", Text.Utf8.bytes "192.168.1.1"),
      ("x-forwarded-for", Text.Utf8.bytes "192.168.1.2")]⟩
    let client : IpAddr := .v4 ⟨10, 0, 0, 7⟩
    h.addresses = [Text.Utf8.bytes "192.168.1.1", Text.Utf8.bytes "192.168.1.2"] ∧
      (h.appendForwardedFor client).addresses =
        [Text.Utf8.bytes "192.168.1.1", Text.Utf8.bytes "10.0.0.7"] ∧
      (h.appendForwardedFor client).addresses ≠ h.addresses ++ [client.note] := by
  decide +kernel

/-! ## Several proxies -/

/-- A list that is `ListedFirst` only grows. -/
theorem addresses_foldl_of_listedFirst (h : Headers) (clients : List IpAddr) (hlisted : h.ListedFirst) :
    (clients.foldl appendForwardedFor h).addresses = h.addresses ++ clients.map IpAddr.note := by
  induction clients generalizing h with
  | nil => exact (List.append_nil _).symm
  | cons client clients ih =>
    rw [List.foldl_cons, ih _ (h.listedFirst_appendForwardedFor client),
      addresses_appendForwardedFor, (legibleAddresses_eq_iff h).2 hlisted, List.append_assoc]
    rfl

/-- One proxy after the other notes who called it. All addresses are there in the end exactly if there
was no proxy, or the list was `ListedFirst` to begin with. -/
theorem addresses_foldl_appendForwardedFor (h : Headers) (clients : List IpAddr) :
    (clients.foldl appendForwardedFor h).addresses = h.addresses ++ clients.map IpAddr.note ↔
      clients = [] ∨ h.ListedFirst := by
  cases clients with
  | nil => exact iff_of_true (List.append_nil _).symm (Or.inl rfl)
  | cons client clients =>
    -- only the first note can lose anything
    rw [List.foldl_cons, addresses_foldl_of_listedFirst _ _ (h.listedFirst_appendForwardedFor client),
      addresses_appendForwardedFor, List.map_cons, List.append_cons h.addresses, List.append_left_inj,
      List.append_left_inj, legibleAddresses_eq_iff]
    exact (or_iff_right (List.cons_ne_nil client clients)).symm

end Http.Headers

end CertGate
