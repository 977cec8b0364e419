import CertGate.Subject

/-!
# Elements of a certificate header

Which elements a header has is said here without a search: the header is cut at them from left to
right, so that none starts in the text before the first one, between two of them, or behind the last
one. There is exactly one way to do so, and the search takes it.

## Key results

- `element?_eq_some_iff`: what is read as an element where it starts
- `scan_elements`, `eq_elements_of_scan`: the search finds the leftmost elements that do not overlap
- `mem_chain_iff`: the subjects of a chain are those of the elements that are not empty
-/

namespace CertGate.Subject

/-! ## Single elements -/

/-- A text that may stand between the quotes of an `element`: it has no quote and stays on its line. -/
def IsInner (inner : List Char) : Prop :=
  '"' ∉ inner ∧ '\n' ∉ inner

/-- An element as it is written, with its word and its quotes around `inner`. -/
def element (inner : List Char) : List Char :=
  opening ++ (inner ++ ['"'])

/-- `cs` starts with an element. -/
def StartsElement (cs : List Char) : Prop :=
  ∃ inner rest, IsInner inner ∧ cs = element inner ++ rest

theorem isInner_nil : IsInner [] := by
  simp [IsInner]

theorem isInner_cons (c : Char) (cs : List Char) :
    IsInner (c :: cs) ↔ c ≠ '"' ∧ c ≠ '\n' ∧ IsInner cs := by
  simp only [IsInner, List.mem_cons, not_or, ne_eq, eq_comm (b := c), and_assoc, and_left_comm]

/-- `closing?` gives what stands before the first quote, which must stand on the same line. -/
theorem closing?_eq_some_iff (cs inner rest : List Char) :
    closing? cs = some (inner, rest) ↔ IsInner inner ∧ cs = inner ++ '"' :: rest := by
  constructor
  · intro h
    -- every character that is passed over is neither a quote nor a line end
    induction cs generalizing inner with
    | nil => cases h
    | cons c cs ih =>
      simp only [closing?] at h
      split at h
      · next hquote =>
        cases h
        exact ⟨isInner_nil, congrArg (· :: rest) hquote⟩
      · next hquote =>
        split at h
        · cases h
        · next hline =>
          obtain ⟨⟨inner', rest'⟩, hclose, heq⟩ := Option.map_eq_some_iff.1 h
          cases heq
          obtain ⟨hinner, hcs⟩ := ih inner' hclose
          exact ⟨(isInner_cons c inner').2 ⟨hquote, hline, hinner⟩, congrArg (c :: ·) hcs⟩
  · rintro ⟨hinner, rfl⟩
    -- the search passes over each character of the inner text
    induction inner with
    | nil => rfl
    | cons c inner ih =>
      obtain ⟨hquote, hline, hinner⟩ := (isInner_cons c inner).1 hinner
      rw [List.cons_append, closing?, if_neg hquote, if_neg hline, ih hinner]
      rfl

/-- `element?` reads an element where it starts, up to its closing quote. -/
theorem element?_eq_some_iff (cs inner rest : List Char) :
    element? cs = some (inner, rest) ↔ IsInner inner ∧ cs = element inner ++ rest := by
  simp only [element?, Option.bind_eq_some_iff, Text.after?_eq_some_iff, closing?_eq_some_iff,
    element, List.append_assoc]
  constructor
  · rintro ⟨body, rfl, hinner, rfl⟩
    exact ⟨hinner, rfl⟩
  · rintro ⟨hinner, rfl⟩
    exact ⟨_, rfl, hinner, rfl⟩

/-- `element?` reads nothing where no element starts. -/
theorem element?_eq_none_iff (cs : List Char) : element? cs = none ↔ ¬StartsElement cs := by
  rw [Option.eq_none_iff_forall_ne_some]
  constructor
  · rintro h ⟨inner, rest, hstart⟩
    exact h (inner, rest) ((element?_eq_some_iff cs inner rest).2 hstart)
  · rintro h ⟨inner, rest⟩ hread
    exact h ⟨inner, rest, (element?_eq_some_iff cs inner rest).1 hread⟩

/-! ## Cutting a text at its elements -/

/-- No element starts within `gap`, which `rest` follows. -/
def NoneWithin (gap rest : List Char) : Prop :=
  ∀ before after, gap = before ++ after → after ≠ [] → ¬StartsElement (after ++ rest)

/-- `Scan cs inners`: the elements of `cs` have these inner texts, each one the leftmost that starts
behind the one before it. -/
inductive Scan : List Char → List (List Char) → Prop where
  | done (cs : List Char) (hnone : NoneWithin cs []) : Scan cs []
  | found (gap inner rest : List Char) (inners : List (List Char)) (hgap :
      NoneWithin gap (element inner ++ rest)) (hinner : IsInner inner) (hrest : Scan rest inners) :
    Scan (gap ++ (element inner ++ rest)) (inner :: inners)

/-- Nothing starts within the empty gap: `NoneWithin` holds of it. -/
theorem noneWithin_nil (rest : List Char) : NoneWithin [] rest := by
  intro before after hgap hne
  exact absurd (List.append_eq_nil_iff.1 hgap.symm).2 hne

/-- By `NoneWithin` a gap starts no element itself, and neither does any later part of it. -/
theorem noneWithin_cons (c : Char) (gap rest : List Char) :
    NoneWithin (c :: gap) rest ↔ ¬StartsElement (c :: gap ++ rest) ∧ NoneWithin gap rest := by
  constructor
  · intro h
    refine ⟨h [] (c :: gap) rfl (List.cons_ne_nil c gap), fun before after hgap hne => ?_⟩
    exact h (c :: before) after (by rw [hgap, List.cons_append]) hne
  · rintro ⟨hhere, hlater⟩ before after hgap hne
    cases before with
    | nil => exact (show c :: gap = after from hgap) ▸ hhere
    | cons b before => exact hlater before after (List.cons.inj hgap).2 hne

/-- `Scan` does not change with a character in front that starts no element: the first gap takes it in. -/
theorem Scan.cons (c : Char) (cs : List Char) (inners : List (List Char)) (h : Scan cs inners)
    (hstart : ¬StartsElement (c :: cs)) : Scan (c :: cs) inners := by
  cases h with
  | done _ hnone =>
    refine .done (c :: cs) ((noneWithin_cons c cs []).2 ⟨?_, hnone⟩)
    rwa [List.append_nil]
  | found gap inner rest inners hgap hinner hrest =>
    exact .found (c :: gap) inner rest inners ((noneWithin_cons c gap _).2 ⟨hstart, hgap⟩) hinner hrest

/-- What `elements` finds is a `Scan` of the text. -/
theorem scan_elements (cs : List Char) : Scan cs (elements cs) := by
  fun_induction elements cs with
  | case1 => exact .done [] (noneWithin_nil [])
  | case2 c cs inner rest hread _ ih =>
    -- an element starts here
    obtain ⟨hinner, hcs⟩ := (element?_eq_some_iff _ _ _).1 hread
    rw [hcs]
    exact .found [] inner rest (elements rest) (noneWithin_nil _) hinner ih
  | case3 c cs hread ih =>
    -- none does, so the character belongs to the gap
    exact ih.cons c cs _ ((element?_eq_none_iff _).1 hread)

/-- `elements` passes over a gap. -/
theorem elements_append_of_noneWithin (gap rest : List Char) (h : NoneWithin gap rest) :
    elements (gap ++ rest) = elements rest := by
  induction gap with
  | nil => rfl
  | cons c gap ih =>
    obtain ⟨hhere, hlater⟩ := (noneWithin_cons c gap rest).1 h
    have hread : element? (c :: (gap ++ rest)) = none := (element?_eq_none_iff _).2 hhere
    rw [List.cons_append, elements]
    split
    · next hsome => rw [hread] at hsome; cases hsome
    · exact ih hlater

/-- `elements` finds an element where it starts and goes on behind it. -/
theorem elements_element_append (inner rest : List Char) (h : IsInner inner) :
    elements (element inner ++ rest) = inner :: elements rest := by
  have hread := (element?_eq_some_iff _ inner rest).2 ⟨h, rfl⟩
  cases hcs : element inner ++ rest with
  | nil => rw [hcs] at hread; cases hread
  | cons c cs =>
    rw [hcs] at hread
    rw [elements]
    split
    · next hsome =>
      rw [hread] at hsome
      cases hsome
      rfl
    · next hnone => rw [hread] at hnone; cases hnone

/-- A text has one `Scan` only. -/
theorem eq_elements_of_scan (cs : List Char) (inners : List (List Char)) (h : Scan cs inners) :
    inners = elements cs := by
  induction h with
  | done cs hnone =>
    have hall := elements_append_of_noneWithin cs [] hnone
    rw [List.append_nil] at hall
    rw [hall, elements]
  | found gap inner rest inners hgap hinner hrest ih =>
    rw [elements_append_of_noneWithin gap _ hgap, elements_element_append inner rest hinner, ih]

/-! ## Headers -/

/-- One of the elements of `header` has the inner text `inner`. -/
def HasElement (header : String) (inner : List Char) : Prop :=
  ∃ inners, Scan header.toList inners ∧ inner ∈ inners

/-- `HasElement` is about what `elements` finds. -/
theorem hasElement_iff (header : String) (inner : List Char) :
    HasElement header inner ↔ inner ∈ elements header.toList := by
  constructor
  · rintro ⟨inners, hscan, hmem⟩
    exact eq_elements_of_scan _ _ hscan ▸ hmem
  · intro hmem
    exact ⟨_, scan_elements _, hmem⟩

/-- The subjects in a `chain` are those of the elements that are not empty. -/
theorem mem_chain_iff (header : String) (s : Subject) :
    s ∈ chain header ↔
      ∃ inner, HasElement header inner ∧ inner ≠ [] ∧ s = parse (String.ofList inner) := by
  simp only [chain, names, List.mem_map, List.mem_filter, hasElement_iff, Bool.not_eq_eq_eq_not,
    Bool.not_true, List.isEmpty_eq_false_iff]
  constructor
  · rintro ⟨name, ⟨inner, ⟨hmem, hne⟩, rfl⟩, rfl⟩
    exact ⟨inner, hmem, hne, rfl⟩
  · rintro ⟨inner, hmem, hne, rfl⟩
    exact ⟨_, ⟨inner, ⟨hmem, hne⟩, rfl⟩, rfl⟩

end CertGate.Subject
