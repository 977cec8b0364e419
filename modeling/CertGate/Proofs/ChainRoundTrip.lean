import CertGate.Proofs.DistinguishedName
import CertGate.Proofs.ElementScan

/-!
# Writing a certificate chain and reading it back

A chain is written as it stands in a header: one element per certificate, with other text before,
between and behind them. Only quotes may not stand in that text; it may have lines of its own, and words
that look like the start of an element. Reading finds the certificates again, and of each one the last
value that was given for a key.

## Key results

- `noneWithin_of_no_quote`: text without a quote starts no element, whatever follows it
- `elements_render`: the elements of a written chain are the names of its certificates
- `parse_renderName`: reading a written name gives the last value for each key
- `chain_render`: reading a written chain gives the subjects of its certificates, in order
-/

namespace CertGate.Subject

/-! ## Writing -/

/-- One `key=value` of a distinguished name. -/
structure Assertion where
  key : String
  value : String
  key_plain : ∀ c ∈ key.toList, c ≠ ',' ∧ c ≠ '=' ∧ c ≠ '"' ∧ c ≠ '\n'
  /-- An equals sign may stand in a value. -/
  value_plain : ∀ c ∈ value.toList, c ≠ ',' ∧ c ≠ '"' ∧ c ≠ '\n'

/-- A certificate as it is presented: its `name`, and the text in front of its element. -/
structure Presented where
  gap : String
  name : List Assertion
  gap_plain : '"' ∉ gap.toList
  name_ne_nil : name ≠ []

/-- A header to be written: every `Presented` certificate, and the text behind the last one. -/
structure Presentation where
  certificates : List Presented
  tail : String
  tail_plain : '"' ∉ tail.toList

def Assertion.render (a : Assertion) : String :=
  a.key ++ "=" ++ a.value

/-- A distinguished name as it is written: one `Assertion` after the other. -/
def renderName (name : List Assertion) : String :=
  ",".intercalate (name.map Assertion.render)

def Presented.render (p : Presented) : String :=
  p.gap ++ "Subject=\"" ++ renderName p.name ++ "\""

def Presentation.render (p : Presentation) : String :=
  String.join (p.certificates.map Presented.render) ++ p.tail

/-- The last value that `name` gives for `key`; empty if it gives none. -/
def lastGiven (key : String) (name : List Assertion) : String :=
  ((name.filter (·.key = key)).getLast?.map (·.value)).getD ""

/-- The subject that `name` describes. -/
def ofName (name : List Assertion) : Subject where
  commonName := lastGiven "CN" name
  organization := lastGiven "O" name
  organizationalUnit := lastGiven "OU" name
  country := lastGiven "C" name
  locality := lastGiven "L" name
  province := lastGiven "ST" name

/-! ## Finding the elements -/

/-- A text without a quote starts no element, neither alone nor in front of one. The quote of `opening`
stands right behind the word, so the word would have to end where the next element's does. -/
theorem noneWithin_of_no_quote (gap rest : List Char) (hgap : '"' ∉ gap)
    (hrest : rest = [] ∨ ∃ body, rest = opening ++ body) : NoneWithin gap rest := by
  have hopening : opening = "Subject=".toList ++ ['"'] := by decide
  have hword : '"' ∉ "Subject=".toList := by decide
  rintro before after rfl hne ⟨inner, behind, -, hstart⟩
  have hafter : '"' ∉ after := fun hmem => hgap (List.mem_append_right before hmem)
  rw [element, hopening, List.append_assoc, List.append_assoc, List.singleton_append] at hstart
  obtain rfl | ⟨body, rfl⟩ := hrest
  · -- nothing follows, so the quote would have to stand in the text
    rw [List.append_nil] at hstart
    exact hafter (hstart ▸ List.mem_append_right _ List.mem_cons_self)
  · -- an element follows, and its word would have to be a part of both
    rw [hopening, List.append_assoc, List.singleton_append, ← List.append_assoc] at hstart
    have hboth : '"' ∉ after ++ "Subject=".toList := by
      rw [List.mem_append, not_or]
      exact ⟨hafter, hword⟩
    have hsame := Text.eq_of_append_sep hstart hboth hword
    exact hne (List.append_left_eq_self.1 hsame)

/-- `Presented.render` is the gap and one `element`. -/
theorem toList_render (p : Presented) :
    p.render.toList = p.gap.toList ++ element (renderName p.name).toList := by
  have hquote : "\"".toList = ['"'] := by decide
  have hopening : "Subject=\"".toList = opening := rfl
  rw [Presented.render, String.toList_append, String.toList_append, String.toList_append, hquote,
    hopening, element, List.append_assoc, List.append_assoc]

theorem toList_renderName (name : List Assertion) :
    (renderName name).toList = [','].intercalate (name.map fun a => a.render.toList) := by
  rw [renderName, String.toList_intercalate, List.map_map]
  rfl

theorem toList_assertion (a : Assertion) : a.render.toList = a.key.toList ++ '=' :: a.value.toList := by
  rw [Assertion.render, String.toList_append, String.toList_append, List.append_assoc]
  rfl

/-- `c` stands in no text and is not the separator, so it does not stand in what joins them. -/
theorem not_mem_intercalate (c sep : Char) (texts : List (List Char)) (hsep : c ≠ sep)
    (h : ∀ text ∈ texts, c ∉ text) : c ∉ [sep].intercalate texts := by
  induction texts with
  | nil => simp
  | cons text texts ih =>
    have hrest := ih fun t ht => h t (List.mem_cons_of_mem text ht)
    have htext := h text List.mem_cons_self
    cases texts with
    | nil => rwa [List.intercalate_singleton]
    | cons next texts =>
      rw [List.intercalate_cons_cons]
      simp only [List.mem_append, List.mem_singleton, not_or]
      exact ⟨⟨htext, hsep⟩, hrest⟩

/-- No comma, quote or line end stands in a written `Assertion`. -/
theorem Assertion.plain (a : Assertion) (c : Char) (hc : c ∈ a.render.toList) :
    c ≠ ',' ∧ c ≠ '"' ∧ c ≠ '\n' := by
  rw [toList_assertion, List.mem_append, List.mem_cons] at hc
  obtain hkey | rfl | hvalue := hc
  · obtain ⟨hcomma, -, hquote, hline⟩ := a.key_plain c hkey
    exact ⟨hcomma, hquote, hline⟩
  · decide
  · exact a.value_plain c hvalue

/-- `renderName` can be the inner text of an element. -/
theorem isInner_renderName (name : List Assertion) : IsInner (renderName name).toList := by
  rw [toList_renderName]
  constructor
  · apply not_mem_intercalate '"' ',' _ (by decide)
    intro text htext hquote
    obtain ⟨a, -, rfl⟩ := List.mem_map.1 htext
    exact (a.plain '"' hquote).2.1 rfl
  · apply not_mem_intercalate '\n' ',' _ (by decide)
    intro text htext hline
    obtain ⟨a, -, rfl⟩ := List.mem_map.1 htext
    exact (a.plain '\n' hline).2.2 rfl

/-- The `pieces` of `renderName` are the assertions it was written from. -/
theorem pieces_renderName (name : List Assertion) (hne : name ≠ []) :
    Text.pieces ',' (renderName name).toList = name.map fun a => a.render.toList := by
  rw [toList_renderName]
  apply Text.pieces_intercalate
  · simpa using hne
  · intro text htext hcomma
    obtain ⟨a, -, rfl⟩ := List.mem_map.1 htext
    exact (a.plain ',' hcomma).1 rfl

/-- `renderName` of a name with assertions is not empty. -/
theorem renderName_ne_nil (name : List Assertion) (hne : name ≠ []) :
    (renderName name).toList ≠ [] := by
  intro hnil
  have hpieces := pieces_renderName name hne
  rw [hnil] at hpieces
  -- an empty text is one empty piece, and no `key=value` is empty
  cases name with
  | nil => exact hne rfl
  | cons a name =>
    have hempty : ([] : List Char) = a.render.toList := (List.cons.inj hpieces).1
    rw [toList_assertion] at hempty
    exact List.cons_ne_nil _ _ (List.append_eq_nil_iff.1 hempty.symm).2

/-- The `elements` of a written presentation are the names of its certificates. -/
theorem elements_render (p : Presentation) :
    elements p.render.toList = p.certificates.map fun c => (renderName c.name).toList := by
  obtain ⟨certificates, tail, htail⟩ := p
  simp only [Presentation.render, String.toList_append, String.toList_join]
  induction certificates with
  | nil =>
    -- the tail has no element
    have hnone := noneWithin_of_no_quote tail.toList [] htail (Or.inl rfl)
    have hall := elements_append_of_noneWithin tail.toList [] hnone
    rw [List.append_nil] at hall
    rw [List.map_nil, List.flatMap_nil, List.nil_append, hall, elements, List.map_nil]
  | cons c certificates ih =>
    -- the gap has none, so the first element is that of the first certificate
    rw [List.map_cons, List.flatMap_cons, toList_render, List.append_assoc, List.append_assoc]
    have hstarts : ∀ rest, ∃ body, element (renderName c.name).toList ++ rest = opening ++ body :=
      fun rest => ⟨_, List.append_assoc ..⟩
    rw [elements_append_of_noneWithin _ _
        (noneWithin_of_no_quote _ _ c.gap_plain (Or.inr (hstarts _))),
      elements_element_append _ _ (isInner_renderName c.name), ih, List.map_cons]

/-! ## Reading the names -/

/-- A written assertion has the `lead` of the attribute with its key, and of no other. -/
theorem after?_lead_render (a : Attribute) (x : Assertion) :
    Text.after? (lead a) x.render.toList = if x.key = a.key then some x.value.toList else none := by
  have hkey : '=' ∉ x.key.toList := fun hmem => (x.key_plain '=' hmem).2.1 rfl
  rw [toList_assertion, after?_lead_of_key a x.key x.value hkey]

/-- `valuesIn` a written name are the values for the key of the attribute. -/
theorem valuesIn_render (a : Attribute) (name : List Assertion) :
    valuesIn a (name.map fun x => x.render.toList) =
      (name.filter (·.key = a.key)).map fun x => x.value.toList := by
  induction name with
  | nil => rfl
  | cons x name ih =>
    rw [List.map_cons, valuesIn_cons, ih, after?_lead_render, List.filter_cons]
    by_cases hkey : x.key = a.key
    · simp [hkey]
    · simp [hkey]

/-- `parse` of a written name gives every attribute the last value for its key. -/
theorem get_parse_renderName (name : List Assertion) (hne : name ≠ []) (a : Attribute) :
    (parse (renderName name)).get a = lastGiven a.key name := by
  rw [get_parse, lastValue, lastValue?, pieces_renderName name hne, valuesIn_render,
    List.getLast?_map, lastGiven]
  cases (name.filter (·.key = a.key)).getLast? with
  | none => rfl
  | some x => exact String.ofList_toList

/-- `parse` undoes `renderName`. -/
theorem parse_renderName (name : List Assertion) (hne : name ≠ []) :
    parse (renderName name) = ofName name := by
  apply eq_of_get
  intro a
  rw [get_parse_renderName name hne a]
  cases a <;> rfl

/-- `chain` undoes `render`: it gives one subject per certificate, in order. -/
theorem chain_render (p : Presentation) :
    chain p.render = p.certificates.map fun c => ofName c.name := by
  -- no name is empty, so no element is left out
  have hnonempty : ∀ inner ∈ p.certificates.map fun c => (renderName c.name).toList,
      (!inner.isEmpty) = true := by
    intro inner hinner
    obtain ⟨c, -, rfl⟩ := List.mem_map.1 hinner
    simpa using renderName_ne_nil c.name c.name_ne_nil
  rw [chain, names, elements_render, List.filter_eq_self.2 hnonempty, List.map_map, List.map_map]
  apply List.map_congr_left
  intro c _
  show parse (String.ofList (renderName c.name).toList) = ofName c.name
  rw [String.ofList_toList, parse_renderName c.name c.name_ne_nil]

/-- Two certificates with text around them. In front of each stands what looks like the start of an
element; the first name gives a key twice and has a value that looks like such a start, and the key of
the second name is no attribute's. -/
def lookalikePresentation : Presentation where
  certificates := [
    { gap := "Hash=1;Subject=\n"
      name := [⟨"O", "a", by simp, by simp⟩, ⟨"CN", "x=y", by simp, by simp⟩,
        ⟨"O", "Subject=", by simp, by simp⟩]
      gap_plain := by decide
      name_ne_nil := nofun },
    { gap := ",Subject="
      name := [⟨"ou", "b", by simp, by simp⟩]
      gap_plain := by decide
      name_ne_nil := nofun }]
  tail := ";URI=Subject="
  tail_plain := by decide

/-- `chain` finds both certificates of `lookalikePresentation`, the first one with the later value of
the key that comes twice. -/
theorem chain_render_lookalike :
    lookalikePresentation.render =
        "Hash=1;Subject=\nSubject=\"O=a,CN=x=y,O=Subject=\",Subject=Subject=\"ou=b\";URI=Subject=" ∧
      chain lookalikePresentation.render =
        [{ commonName := "x=y", organization := "Subject=" }, {}] :=
  ⟨by decide +kernel, (chain_render lookalikePresentation).trans (by decide +kernel)⟩

end CertGate.Subject
