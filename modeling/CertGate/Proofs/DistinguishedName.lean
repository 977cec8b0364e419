import CertGate.Subject

/-!
# Attributes of a distinguished name

An attribute has the value that the last segment for its key gives. Segments are read one after the
other, each over what the earlier ones left, so this is what remains of all overwriting.

## Key results

- `segment?_eq_some_iff`: which segments give an attribute, and which value
- `after?_lead_of_key`: whether a segment is one for an attribute, told by its key
- `get_foldl_addSegment`: what is left after reading segments over an earlier subject
- `get_parse`: the last segment for a key decides
-/

namespace CertGate

/-! ## Keys -/

/-- No two attributes share an `Attribute.key`. -/
theorem Attribute.key_injective (a b : Attribute) (h : a.key.toList = b.key.toList) : a = b := by
  revert h
  cases a <;> cases b <;> decide

/-- No `Attribute.key` holds the mark that ends it. -/
theorem Attribute.equals_not_mem_key (a : Attribute) : '=' ∉ a.key.toList := by
  cases a <;> decide

theorem Attribute.mem_all (a : Attribute) : a ∈ Attribute.all := by
  cases a <;> decide

/-- `ofKey?` knows an attribute by its key. -/
theorem Attribute.ofKey?_eq_some_iff (key : List Char) (a : Attribute) :
    Attribute.ofKey? key = some a ↔ key = a.key.toList := by
  constructor
  · intro h
    have hkey := List.find?_some h
    exact (beq_iff_eq.1 hkey).symm
  · rintro rfl
    cases hfind : Attribute.ofKey? a.key.toList with
    | none =>
      have hno := List.find?_eq_none.1 hfind a a.mem_all
      exact absurd (beq_self_eq_true _) hno
    | some b =>
      have hkey := List.find?_some hfind
      rw [Attribute.key_injective b a (beq_iff_eq.1 hkey)]

namespace Subject

/-- `set` of one attribute leaves `get` of the others. -/
theorem get_set (s : Subject) (value : String) (a b : Attribute) :
    (s.set value a).get b = if b = a then value else s.get b := by
  cases a <;> cases b <;> rfl

theorem get_empty (a : Attribute) : ({} : Subject).get a = "" := by
  cases a <;> rfl

/-- Subjects that `get` cannot tell apart are the same. -/
theorem eq_of_get (s s' : Subject) (h : ∀ a, s.get a = s'.get a) : s = s' := by
  obtain ⟨cn, o, ou, c, l, st⟩ := s
  have hcn : cn = _ := h .commonName
  have ho : o = _ := h .organization
  have hou : ou = _ := h .organizationalUnit
  have hc : c = _ := h .country
  have hl : l = _ := h .locality
  have hst : st = _ := h .province
  rw [hcn, ho, hou, hc, hl, hst]
  rfl

/-! ## Segments -/

/-- What opens a segment for `a`: its key and an equals sign. -/
def lead (a : Attribute) : List Char :=
  a.key.toList ++ ['=']

/-- `segment?` gives the attribute whose `lead` the segment starts with, and all the rest as its value. -/
theorem segment?_eq_some_iff (segment : List Char) (a : Attribute) (value : String) :
    segment? segment = some (a, value) ↔
      Text.after? (lead a) segment = some value.toList := by
  simp only [segment?, lead, bind, Option.bind_eq_some_iff, Text.after?_eq_some_iff]
  constructor
  · -- the key in front of the first equals sign is the attribute's
    rintro ⟨⟨key, text⟩, hcut, b, hkey, heq⟩
    cases heq
    obtain ⟨hsegment, -⟩ := Text.cut?_eq_some_iff.1 hcut
    rw [hsegment, (Attribute.ofKey?_eq_some_iff key a).1 hkey]
    simp
  · intro hsegment
    refine ⟨(a.key.toList, value.toList), ?_, a, (Attribute.ofKey?_eq_some_iff _ a).2 rfl, ?_⟩
    · refine Text.cut?_eq_some_iff.2 ⟨?_, a.equals_not_mem_key⟩
      rw [hsegment, List.append_assoc]
      rfl
    · simp [pure]

/-- A `key=value` has the `lead` of the attribute with that key, and of no other. -/
theorem after?_lead_of_key (a : Attribute) (key value : String) (h : '=' ∉ key.toList) :
    Text.after? (lead a) (key.toList ++ '=' :: value.toList) =
      if key = a.key then some value.toList else none := by
  split
  · next hkey =>
    rw [Text.after?_eq_some_iff, lead, hkey, List.append_assoc]
    rfl
  · next hkey =>
    rw [Option.eq_none_iff_forall_ne_some]
    intro text hafter
    have heq := Text.after?_eq_some_iff.1 hafter
    rw [lead, List.append_assoc, List.singleton_append] at heq
    -- both sides have their first equals sign behind the key
    have hsame := Text.eq_of_append_sep heq h a.equals_not_mem_key
    exact hkey (String.toList_inj.1 hsame)

/-- `addSegment` sets the attribute whose `lead` the segment has, and leaves the others. -/
theorem get_addSegment (s : Subject) (segment : List Char) (a : Attribute) :
    (s.addSegment segment).get a =
      ((Text.after? (lead a) segment).map String.ofList).getD (s.get a) := by
  rw [addSegment]
  cases hafter : Text.after? (lead a) segment with
  | some text =>
    have hgives : segment? segment = some (a, String.ofList text) :=
      (segment?_eq_some_iff ..).2 (by rw [hafter, String.toList_ofList])
    simp [hgives, get_set]
  | none =>
    split
    · next b value hgives =>
      -- a segment for the attribute itself would have its lead
      have hne : a ≠ b := by
        rintro rfl
        rw [(segment?_eq_some_iff ..).1 hgives] at hafter
        cases hafter
      simp [get_set, hne]
    · rfl

/-! ## Whole names -/

/-- The values that segments give for `a`, in order. -/
def valuesIn (a : Attribute) (segments : List (List Char)) : List (List Char) :=
  segments.filterMap (Text.after? (lead a))

/-- `valuesIn` of one more segment. -/
theorem valuesIn_cons (a : Attribute) (segment : List Char) (segments : List (List Char)) :
    valuesIn a (segment :: segments) =
      (Text.after? (lead a) segment).toList ++ valuesIn a segments := by
  rw [valuesIn, List.filterMap_cons]
  cases Text.after? (lead a) segment <;> rfl

/-- The value of the last segment for `a`, where commas part the segments. -/
def lastValue? (a : Attribute) (name : List Char) : Option (List Char) :=
  (valuesIn a (Text.pieces ',' name)).getLast?

/-- `lastValue?`, or the empty text if no segment is for `a`. -/
def lastValue (a : Attribute) (name : List Char) : String :=
  ((lastValue? a name).map String.ofList).getD ""

/-- Of all segments for `a` the last one decides; without any it is as it was. -/
theorem get_foldl_addSegment (segments : List (List Char)) (s : Subject) (a : Attribute) :
    (segments.foldl addSegment s).get a =
      ((valuesIn a segments).getLast?.map String.ofList).getD (s.get a) := by
  induction segments generalizing s with
  | nil => rfl
  | cons segment segments ih =>
    rw [List.foldl_cons, ih, get_addSegment, valuesIn_cons]
    cases Text.after? (lead a) segment with
    | none => rfl
    | some text =>
      -- a later value takes precedence over this one
      rw [Option.toList_some, List.singleton_append, List.getLast?_cons]
      cases (valuesIn a segments).getLast? <;> rfl

/-- `parse` gives each attribute its `lastValue`. -/
theorem get_parse (name : String) (a : Attribute) :
    (parse name).get a = lastValue a name.toList := by
  rw [parse, get_foldl_addSegment, get_empty]
  rfl

end Subject

end CertGate
