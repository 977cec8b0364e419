import CertGate.Route

/-!
# Leads with the name filled in

What a lead becomes for an application is said here without reading it character by character: the
written lead is cut at all its placeholders, and the name is put between the parts. What the name holds
makes no difference, since only the written lead is cut.

A placeholder opens with a brace and has no other one of that kind, so a part that ends like the start of
a placeholder does not run into the next one, and a lead is cut in one way only.

## Key results

- `exists_parts`: every written lead can be cut at its placeholders
- `fill_read_of_parts`: a lead that was cut is filled by putting the name between the parts
- `replaced_iff`: what is filled in is the lead with all its placeholders replaced, and nothing else is
-/

namespace CertGate.PathLead

/-- `parts` is what stands between the placeholders of `written`. -/
structure Parts (written : List Char) (parts : List (List Char)) : Prop where
  ne_nil : parts ≠ []
  plain : ∀ part ∈ parts, ¬placeholder <:+: part
  joined : written = placeholder.intercalate parts

/-- `text` is `written` with every placeholder replaced by `name`. -/
def Replaced (written name text : List Char) : Prop :=
  ∃ parts, Parts written parts ∧ text = name.intercalate parts

/-! ## Cutting at placeholders -/

/-- A `placeholder` in front adds an empty part. -/
theorem Parts.placeholder_append {written : List Char} {parts : List (List Char)}
    (h : Parts written parts) : Parts (placeholder ++ written) ([] :: parts) where
  ne_nil := List.cons_ne_nil _ _
  plain := by
    intro part hpart
    obtain rfl | hpart := List.mem_cons.1 hpart
    · decide
    · exact h.plain part hpart
  joined := by rw [List.intercalate_cons_of_ne_nil h.ne_nil, List.nil_append, ← h.joined]

/-- A character in front that starts no `placeholder` joins the first part. -/
theorem Parts.exists_cons {written : List Char} {parts : List (List Char)} (h : Parts written parts)
    (c : Char) (hc : ¬placeholder <+: c :: written) : ∃ parts', Parts (c :: written) parts' := by
  obtain ⟨part, parts, rfl⟩ := List.exists_cons_of_ne_nil h.ne_nil
  have hjoined : c :: written = placeholder.intercalate ((c :: part) :: parts) := by
    rw [h.joined]
    cases parts with
    | nil => rw [List.intercalate_singleton, List.intercalate_singleton]
    | cons next parts => rw [List.intercalate_cons_cons, List.intercalate_cons_cons]; rfl
  have hleads : c :: part <+: c :: written := by
    rw [hjoined]
    cases parts with
    | nil => simp only [List.intercalate_singleton, List.prefix_refl]
    | cons next parts =>
      rw [List.intercalate_cons_cons, List.append_assoc]
      exact List.prefix_append ..
  refine ⟨(c :: part) :: parts, List.cons_ne_nil _ _, ?_, hjoined⟩
  intro other hother
  obtain rfl | hother := List.mem_cons.1 hother
  · -- a placeholder in the longer first part would start with the character, and so in front of the
    -- text
    rw [List.infix_cons_iff, not_or]
    exact ⟨fun hstart => hc (hstart.trans hleads), h.plain part List.mem_cons_self⟩
  · exact h.plain other (List.mem_cons_of_mem _ hother)

/-- Every text can be cut into `Parts`. -/
theorem exists_parts (written : List Char) : ∃ parts, Parts written parts := by
  -- from the left, by induction on how much is left of the text
  induction hn : written.length using Nat.strongRecOn generalizing written with
  | ind n ih =>
    by_cases hstart : placeholder <+: written
    · -- a placeholder comes first
      obtain ⟨rest, rfl⟩ := hstart
      have hlength : placeholder.length = 13 := by decide
      have hlt : rest.length < n := by
        rw [List.length_append] at hn
        omega
      obtain ⟨parts, hparts⟩ := ih rest.length hlt rest rfl
      exact ⟨_, hparts.placeholder_append⟩
    · -- a character comes first, or nothing
      cases written with
      | nil => exact ⟨[[]], List.cons_ne_nil _ _, by decide, rfl⟩
      | cons c written =>
        obtain ⟨parts, hparts⟩ := ih written.length (hn ▸ Nat.lt_succ_self _) written rfl
        exact hparts.exists_cons c hstart

/-! ## Filling in the name -/

/-- `readFrom` reads a placeholder as the place of the name. -/
theorem readFrom_placeholder (rest : List Char) :
    readFrom 0 (placeholder ++ rest) = .application :: readFrom 0 rest := rfl

/-- No `placeholder` starts in a part and ends behind it. -/
theorem not_prefix_append (part rest : List Char) (hne : part ≠ []) (hpart : ¬placeholder <:+: part)
    (hrest : rest = [] ∨ ∃ more, rest = placeholder ++ more) : ¬placeholder <+: part ++ rest := by
  have hopens : placeholder = '\x7b' :: "application\x7d".toList := rfl
  have hbrace : '\x7b' ∉ "application\x7d".toList := by decide
  rintro ⟨behind, hbehind⟩
  obtain ⟨more, hmore, -⟩ | ⟨back, hback, hafter⟩ := List.append_eq_append_iff.1 hbehind
  · -- the part would have it
    exact hpart (hmore ▸ (List.prefix_append placeholder more).isInfix)
  · cases back with
    | nil =>
      rw [List.append_nil] at hback
      exact hpart (hback ▸ List.infix_refl _)
    | cons c back =>
      -- its end would open like the placeholder that follows, with a brace
      have hc : c = '\x7b' := by
        obtain rfl | ⟨more, rfl⟩ := hrest
        · exact absurd hafter (List.cons_ne_nil _ _).symm
        · rw [hopens] at hafter
          exact (List.cons.inj hafter).1.symm
      obtain ⟨first, part, rfl⟩ := List.exists_cons_of_ne_nil hne
      rw [hopens, List.cons_append] at hback
      refine hbrace ?_
      rw [(List.cons.inj hback).2, hc]
      simp

/-- `readFrom` reads a part as it stands, whether it is the last one or a placeholder follows. -/
theorem readFrom_part (part rest : List Char) (hpart : ¬placeholder <:+: part)
    (hrest : rest = [] ∨ ∃ more, rest = placeholder ++ more) :
    readFrom 0 (part ++ rest) = part.map .literal ++ readFrom 0 rest := by
  induction part with
  | nil => rfl
  | cons c part ih =>
    have hstart := not_prefix_append (c :: part) rest (List.cons_ne_nil c part) hpart hrest
    rw [List.infix_cons_iff, not_or] at hpart
    rw [List.cons_append] at hstart ⊢
    rw [readFrom, if_neg (mt List.isPrefixOf_iff_prefix.1 hstart), ih hpart.2]
    rfl

/-- `fill` fills leads one after the other. -/
theorem fill_append (lead lead' : PathLead) (application : String) :
    fill (lead ++ lead') application = fill lead application ++ fill lead' application :=
  List.flatMap_append

/-- `fill` leaves literal characters as they are. -/
theorem fill_literals (part : List Char) (application : String) :
    fill (part.map .literal) application = part := by
  rw [fill, List.flatMap_map]
  exact List.flatMap_singleton' part

/-- `fill` of a lead that was cut into `Parts` puts the name between them. -/
theorem fill_read_of_parts (written application : String) (parts : List (List Char))
    (h : Parts written.toList parts) :
    fill (read written) application = application.toList.intercalate parts := by
  rw [read, h.joined]
  have hplain := h.plain
  have hne := h.ne_nil
  clear h
  induction parts with
  | nil => exact absurd rfl hne
  | cons part parts ih =>
    have hpart := hplain part List.mem_cons_self
    cases parts with
    -- the last part
    | nil =>
      have hread := readFrom_part part [] hpart (Or.inl rfl)
      rw [List.append_nil] at hread
      rw [List.intercalate_singleton, List.intercalate_singleton, hread, readFrom, List.append_nil,
        fill_literals]
    -- a part, a placeholder and the rest
    | cons next parts =>
      have hrest := ih (fun other hother => hplain other (List.mem_cons_of_mem part hother))
        (List.cons_ne_nil next parts)
      rw [List.intercalate_cons_cons, List.intercalate_cons_cons, List.append_assoc,
        readFrom_part part _ hpart (Or.inr ⟨_, rfl⟩), readFrom_placeholder, fill_append,
        fill_literals, ← hrest, List.append_assoc]
      rfl

/-- `fill` gives the lead with all its placeholders `Replaced`, and no other text is that. -/
theorem replaced_iff (written application : String) (text : List Char) :
    Replaced written.toList application.toList text ↔ text = fill (read written) application := by
  constructor
  · rintro ⟨parts, hparts, rfl⟩
    rw [fill_read_of_parts written application parts hparts]
  · rintro rfl
    obtain ⟨parts, hparts⟩ := exists_parts written.toList
    exact ⟨parts, hparts, fill_read_of_parts written application parts hparts⟩

-- the start of a placeholder stays, and so does a placeholder that the name completes
example : fill (read "/\x7bapp\x7bapplication\x7d\x7d") "\x7bapplication" =
    "/\x7bapp\x7bapplication\x7d".toList := by decide +kernel

end CertGate.PathLead
