import CertGate.Proofs.ElementScan
import Mathlib.Data.List.Pairwise
import Mathlib.Data.List.Sort

/-!
# Where the elements of a header stand

An element takes up a stretch of its header. The elements that count are told by positions alone: their
stretches follow one another without overlap, and no element starts outside of them. One header has one
such list of stretches, and its names are what stands between their quotes.

Hence a header may be cut wherever no element that counts is cut with it. An element that is not closed
on its line is such a place, so it neither has a name nor takes one from what follows.

## Key results

- `LeftmostSpans.unique`: the stretches are determined by the text
- `exists_leftmostSpans_of_scan`: the elements that the search finds have such stretches
- `LeftmostSpans.elements_eq`: what stands between their quotes is what the search finds
- `elements_append_of_cut`: a text that is cut between elements
- `leftmostScan_names`: all of it, for the names in a header
-/

namespace CertGate.Subject

/-! ## Stretches of a text -/

/-- A stretch of a text in which an element may stand: where it starts, and the `inner` text. -/
structure Span where
  start : Nat
  inner : List Char
  deriving DecidableEq, Repr

namespace Span

/-- The position behind the closing quote of `element s.inner`. -/
def stop (s : Span) : Nat :=
  s.start + (element s.inner).length

/-- The element of `s` stands in `cs` where `s` starts. -/
def In (s : Span) (cs : List Char) : Prop :=
  IsInner s.inner ∧ element s.inner <+: cs.drop s.start

/-- The position `p` lies in the stretch. -/
def Covers (s : Span) (p : Nat) : Prop :=
  s.start ≤ p ∧ p < s.stop

/-- `s` ends before `t` starts, or where it starts. -/
def Before (s t : Span) : Prop :=
  s.stop ≤ t.start

/-- `s`, with `n` more characters in front. -/
def shift (n : Nat) (s : Span) : Span :=
  { s with start := n + s.start }

theorem start_lt_stop (s : Span) : s.start < s.stop := by
  have hopening : opening.length = 9 := by decide
  simp only [stop, element, List.length_append, hopening]
  omega

theorem stop_shift (n : Nat) (s : Span) : (s.shift n).stop = n + s.stop := by
  simp only [shift, stop]
  omega

theorem covers_shift (n : Nat) (s : Span) (p : Nat) : (s.shift n).Covers (n + p) ↔ s.Covers p := by
  have hstart : (s.shift n).start = n + s.start := rfl
  simp only [Covers, stop_shift, hstart]
  omega

/-- A stretch that starts at `n` or later is some other one, with `n` characters in front. -/
theorem exists_shift (n : Nat) (s : Span) (h : n ≤ s.start) : ∃ t : Span, t.shift n = s := by
  refine ⟨{ s with start := s.start - n }, ?_⟩
  simp only [shift, Nat.add_sub_cancel' h]

instance : Std.Irrefl Before where
  irrefl s h := Nat.lt_irrefl _ (Nat.lt_of_lt_of_le s.start_lt_stop h)

instance : Std.Antisymm Before where
  antisymm s t h h' := by
    have hs := s.start_lt_stop
    have ht := t.start_lt_stop
    simp only [Before] at h h'
    omega

/-! ## Elements in a stretch -/

/-- A stretch with an element in it is part of `cs`. -/
theorem In.stop_le {s : Span} {cs : List Char} (h : s.In cs) : s.stop ≤ cs.length := by
  have hlength := h.2.length_le
  have hlt := s.start_lt_stop
  rw [List.length_drop] at hlength
  simp only [stop] at hlt ⊢
  omega

/-- Where an element starts determines where it ends, since `element?` reads both. -/
theorem In.eq_of_start {s t : Span} {cs : List Char} (hs : s.In cs) (ht : t.In cs)
    (h : s.start = t.start) : s = t := by
  obtain ⟨rest, hrest⟩ := hs.2
  obtain ⟨rest', hrest'⟩ := ht.2
  -- `element?` reads both at the same place
  have hread := (element?_eq_some_iff _ s.inner rest).2 ⟨hs.1, hrest.symm⟩
  have hread' := (element?_eq_some_iff _ t.inner rest').2 ⟨ht.1, hrest'.symm⟩
  rw [h, hread'] at hread
  have hinner : t.inner = s.inner := congrArg Prod.fst (Option.some.inj hread)
  cases s
  cases t
  simp_all

/-- `StartsElement` at a position where some stretch starts, and at no other. -/
theorem startsElement_drop_iff (cs : List Char) (p : Nat) :
    StartsElement (cs.drop p) ↔ ∃ s : Span, s.start = p ∧ s.In cs := by
  constructor
  · rintro ⟨inner, rest, hinner, hcs⟩
    exact ⟨⟨p, inner⟩, rfl, hinner, rest, hcs.symm⟩
  · rintro ⟨s, rfl, hinner, rest, hcs⟩
    exact ⟨s.inner, rest, hinner, hcs.symm⟩

/-- The text `rest` behind an element leaves it where it is. -/
theorem In.append_right {s : Span} {first : List Char} (h : s.In first) (rest : List Char) :
    s.In (first ++ rest) := by
  have hle : s.start ≤ first.length := Nat.le_trans (Nat.le_of_lt s.start_lt_stop) h.stop_le
  refine ⟨h.1, ?_⟩
  rw [List.drop_append_of_le_length hle]
  exact h.2.trans (List.prefix_append _ rest)

/-- An element that ends in `first` stands in `first`, whatever is behind. -/
theorem In.of_stop_le {s : Span} {first rest : List Char} (h : s.In (first ++ rest))
    (hstop : s.stop ≤ first.length) : s.In first := by
  have hle : s.start ≤ first.length := Nat.le_trans (Nat.le_of_lt s.start_lt_stop) hstop
  have hleads := h.2
  rw [List.drop_append_of_le_length hle] at hleads
  refine ⟨h.1, List.prefix_of_prefix_length_le hleads (List.prefix_append _ rest) ?_⟩
  rw [List.length_drop]
  simp only [stop] at hstop
  omega

/-- The text `first` in front of an element moves it on by its length, which is `shift`. -/
theorem in_shift_iff (s : Span) (first rest : List Char) :
    (s.shift first.length).In (first ++ rest) ↔ s.In rest := by
  simp only [In, shift, List.drop_length_add_append]

end Span

/-! ## The stretches that count -/

/-- Elements stand in all of `spans`, which follow one another without overlap, and no element starts
in a gap: before the first stretch, between two of them, or behind the last one. -/
structure LeftmostSpans (cs : List Char) (spans : List Span) : Prop where
  holds : ∀ s ∈ spans, s.In cs
  ordered : spans.Pairwise Span.Before
  gaps : ∀ s : Span, s.In cs → ∃ t ∈ spans, t.Covers s.start

/-- Stretches of `LeftmostSpans` do not overlap. -/
theorem LeftmostSpans.eq_of_covers {cs : List Char} {spans : List Span}
    (h : LeftmostSpans cs spans) {s t : Span} (hs : s ∈ spans) (ht : t ∈ spans)
    (hcovers : t.Covers s.start) : t = s := by
  have hsymm : Std.Symm fun a b : Span => a.Before b ∨ b.Before a := ⟨fun _ _ => Or.symm⟩
  have happart : spans.Pairwise fun a b => a.Before b ∨ b.Before a := h.ordered.imp Or.inl
  by_contra hne
  have hlt := s.start_lt_stop
  obtain ⟨hle, hstop⟩ := hcovers
  cases happart.forall ht hs hne with
  | inl hbefore => exact Nat.lt_irrefl _ (Nat.lt_of_lt_of_le hstop hbefore)
  | inr hbefore => exact Nat.lt_irrefl _ (Nat.lt_of_lt_of_le hlt (Nat.le_trans hbefore hle))

/-- Of two `LeftmostSpans` of a text, one has every stretch of the other. -/
theorem LeftmostSpans.mem {cs : List Char} {spans spans' : List Span} (h : LeftmostSpans cs spans)
    (h' : LeftmostSpans cs spans') (s : Span) (hs : s ∈ spans) : s ∈ spans' := by
  -- by induction on where the stretch starts, for both lists at once
  induction hp : s.start using Nat.strongRecOn generalizing s spans spans' with
  | ind p ih =>
    obtain ⟨t, ht, hcovers⟩ := h'.gaps s (h.holds s hs)
    obtain heq | hlt := Nat.eq_or_lt_of_le hcovers.1
    · rwa [(h.holds s hs).eq_of_start (h'.holds t ht) heq.symm]
    · -- the one that covers the start is in the first list too, where it would overlap
      have hmem : t ∈ spans := ih t.start (hp ▸ hlt) h' h t ht rfl
      rwa [← h.eq_of_covers hs hmem hcovers]

/-- A text has one list of `LeftmostSpans`. -/
theorem LeftmostSpans.unique {cs : List Char} {spans spans' : List Span}
    (h : LeftmostSpans cs spans) (h' : LeftmostSpans cs spans') : spans = spans' :=
  h.ordered.eq_of_mem_iff h'.ordered fun s => ⟨h.mem h' s, h'.mem h s⟩

/-- `LeftmostSpans` of two parts of a text make up those of the whole, if the first ones cover what
starts in the first part, also what would end in the second. -/
theorem LeftmostSpans.append {first rest : List Char} {spans spans' : List Span}
    (hspans : ∀ s ∈ spans, s.In first) (hordered : spans.Pairwise Span.Before)
    (hgaps : ∀ s : Span, s.In (first ++ rest) → s.start < first.length →
      ∃ t ∈ spans, t.Covers s.start)
    (hrest : LeftmostSpans rest spans') :
    LeftmostSpans (first ++ rest) (spans ++ spans'.map (Span.shift first.length)) := by
  constructor
  case holds =>
    intro s hs
    rw [List.mem_append, List.mem_map] at hs
    obtain hs | ⟨s, hs, rfl⟩ := hs
    · exact (hspans s hs).append_right rest
    · exact (s.in_shift_iff first rest).2 (hrest.holds s hs)
  case ordered =>
    rw [List.pairwise_append, List.pairwise_map]
    refine ⟨hordered, hrest.ordered.imp ?_, ?_⟩
    · intro s t hbefore
      simp only [Span.Before, Span.stop_shift] at hbefore ⊢
      exact Nat.add_le_add_left hbefore first.length
    · intro s hs t ht
      obtain ⟨t, -, rfl⟩ := List.mem_map.1 ht
      exact Nat.le_trans (hspans s hs).stop_le (Nat.le_add_right first.length t.start)
  case gaps =>
    intro s hs
    -- an element that starts in the first part
    obtain hlt | hle := Nat.lt_or_ge s.start first.length
    · obtain ⟨t, ht, hcovers⟩ := hgaps s hs hlt
      exact ⟨t, List.mem_append_left _ ht, hcovers⟩
    · -- an element that starts in the second part
      obtain ⟨s, rfl⟩ := s.exists_shift first.length hle
      obtain ⟨t, ht, hcovers⟩ := hrest.gaps s ((s.in_shift_iff first rest).1 hs)
      exact ⟨t.shift first.length, List.mem_append_right _ (List.mem_map_of_mem ht),
        (t.covers_shift first.length s.start).2 hcovers⟩

/-! ## What the search finds -/

/-- Behind a gap with `NoneWithin`, no element starts before its end. -/
theorem NoneWithin.length_le {gap rest : List Char} (h : NoneWithin gap rest) {s : Span}
    (hs : s.In (gap ++ rest)) : gap.length ≤ s.start := by
  by_contra hlt
  rw [Nat.not_le] at hlt
  have hstarts := (Span.startsElement_drop_iff (gap ++ rest) s.start).2 ⟨s, rfl, hs⟩
  rw [List.drop_append_of_le_length (Nat.le_of_lt hlt)] at hstarts
  refine h (gap.take s.start) (gap.drop s.start) (List.take_append_drop ..).symm ?_ hstarts
  rwa [ne_eq, List.drop_eq_nil_iff, Nat.not_le]

/-- The elements of a `Scan` have stretches that are `LeftmostSpans`. -/
theorem exists_leftmostSpans_of_scan (cs : List Char) (inners : List (List Char))
    (h : Scan cs inners) : ∃ spans, LeftmostSpans cs spans ∧ spans.map Span.inner = inners := by
  induction h with
  | done cs hnone =>
    refine ⟨[], ⟨by simp, List.Pairwise.nil, fun s hs => ?_⟩, rfl⟩
    -- an element would stand behind the gap, which is all there is
    have hle : cs.length ≤ s.start := hnone.length_le (by rwa [List.append_nil])
    exact absurd (Nat.lt_of_lt_of_le s.start_lt_stop hs.stop_le) (Nat.not_lt.2 hle)
  | found gap inner rest inners hgap hinner hrest ih =>
    -- the first element stands behind the gap, and the others behind it
    obtain ⟨spans, hspans, hinners⟩ := ih
    have hhere : Span.In ⟨gap.length, inner⟩ (gap ++ element inner) :=
      ⟨hinner, by simp only [List.drop_left, List.prefix_refl]⟩
    refine ⟨[⟨gap.length, inner⟩] ++ spans.map (Span.shift (gap ++ element inner).length), ?_, ?_⟩
    · rw [← List.append_assoc]
      refine .append ?_ (List.pairwise_singleton ..) ?_ hspans
      · simpa using hhere
      · -- an element that starts before the end of the first one starts in it, not in the gap
        intro s hs hlt
        rw [List.append_assoc] at hs
        refine ⟨_, List.mem_singleton_self _, hgap.length_le hs, ?_⟩
        rwa [List.length_append] at hlt
    · rw [List.map_append, List.map_map, ← hinners]
      rfl

/-- `elements` are the inner texts of `LeftmostSpans`. -/
theorem LeftmostSpans.elements_eq {cs : List Char} {spans : List Span}
    (h : LeftmostSpans cs spans) : elements cs = spans.map Span.inner := by
  obtain ⟨spans', hspans', hinners⟩ := exists_leftmostSpans_of_scan cs _ (scan_elements cs)
  rw [← hinners, h.unique hspans']

/-- Every text has `LeftmostSpans`. -/
theorem exists_leftmostSpans (cs : List Char) : ∃ spans, LeftmostSpans cs spans := by
  obtain ⟨spans, hspans, -⟩ := exists_leftmostSpans_of_scan cs _ (scan_elements cs)
  exact ⟨spans, hspans⟩

/-! ## Cutting a text between elements -/

/-- `elements` of a text that is cut where no element that counts is cut with it. -/
theorem elements_append_of_cut {first rest : List Char} {spans : List Span}
    (h : LeftmostSpans (first ++ rest) spans)
    (hcut : ∀ s ∈ spans, s.stop ≤ first.length ∨ first.length ≤ s.start) :
    elements (first ++ rest) = elements first ++ elements rest := by
  obtain ⟨spans', hspans'⟩ := exists_leftmostSpans rest
  -- an element that starts in the first part is covered by one that ends there
  have hends : ∀ s ∈ spans, s.start < first.length → s.In first := by
    intro s hs hlt
    obtain hstop | hstart := hcut s hs
    · exact (h.holds s hs).of_stop_le hstop
    · exact absurd hlt (Nat.not_lt.2 hstart)
  -- the elements that start in the first part are those of this part
  have hfirst : LeftmostSpans first (spans.filter fun s => s.start < first.length) := by
    constructor
    case holds =>
      intro s hs
      obtain ⟨hmem, hlt⟩ := List.mem_filter.1 hs
      exact hends s hmem (of_decide_eq_true hlt)
    case ordered => exact h.ordered.filter _
    case gaps =>
      intro s hs
      obtain ⟨t, ht, hcovers⟩ := h.gaps s (hs.append_right rest)
      have hlt : t.start < first.length :=
        Nat.lt_of_le_of_lt hcovers.1 (Nat.lt_of_lt_of_le s.start_lt_stop hs.stop_le)
      exact ⟨t, List.mem_filter.2 ⟨ht, decide_eq_true hlt⟩, hcovers⟩
  -- those of the second part come behind them
  have hall : LeftmostSpans (first ++ rest)
      (spans.filter (fun s => s.start < first.length) ++ spans'.map (Span.shift first.length)) := by
    refine .append hfirst.holds hfirst.ordered ?_ hspans'
    intro s hs hlt
    obtain ⟨t, ht, hcovers⟩ := h.gaps s hs
    exact ⟨t, List.mem_filter.2 ⟨ht, decide_eq_true (Nat.lt_of_le_of_lt hcovers.1 hlt)⟩, hcovers⟩
  rw [hall.elements_eq, hfirst.elements_eq, hspans'.elements_eq, List.map_append, List.map_map]
  rfl

/-- An element that is cut has its end, `back`, in front of the second part. -/
theorem Span.In.exists_back {s : Span} {first rest : List Char} (h : s.In (first ++ rest))
    (hstart : s.start < first.length) (hstop : first.length < s.stop) :
    ∃ front back, element s.inner = front ++ back ∧ back ≠ [] ∧ back <+: rest := by
  obtain ⟨behind, hbehind⟩ := h.2
  rw [List.drop_append_of_le_length (Nat.le_of_lt hstart)] at hbehind
  have hlong : (first.drop s.start).length < (element s.inner).length := by
    rw [List.length_drop]
    simp only [stop] at hstop
    omega
  obtain ⟨more, hfirst, -⟩ | ⟨back, hback, hrest⟩ := List.append_eq_append_iff.1 hbehind
  · -- it would end in the first part
    rw [hfirst, List.length_append] at hlong
    omega
  · -- the second part starts with what is left of it
    refine ⟨first.drop s.start, back, hback, ?_, behind, hrest.symm⟩
    rintro rfl
    rw [hback, List.append_nil] at hlong
    exact Nat.lt_irrefl _ hlong

/-- An element has no `'\n'` in it. -/
theorem newline_not_mem_element (inner : List Char) (h : IsInner inner) : '\n' ∉ element inner := by
  have hopening : '\n' ∉ opening := by decide
  simp [element, hopening, h.2]

/-- No element of `first` goes on behind the end of a line. -/
theorem Span.In.cut_at_line {s : Span} {first rest : List Char} (h : s.In (first ++ rest))
    (hrest : rest = [] ∨ ∃ more, rest = '\n' :: more) :
    s.stop ≤ first.length ∨ first.length ≤ s.start := by
  by_contra hcut
  rw [not_or, Nat.not_le, Nat.not_le] at hcut
  obtain ⟨front, back, helement, hne, hleads⟩ := h.exists_back hcut.2 hcut.1
  obtain rfl | ⟨more, rfl⟩ := hrest
  · exact hne (List.prefix_nil.1 hleads)
  · -- what the element has of the second part starts with the end of the line
    obtain ⟨c, back, rfl⟩ := List.exists_cons_of_ne_nil hne
    have hc : c = '\n' := (List.cons_prefix_cons.1 hleads).1
    refine newline_not_mem_element s.inner h.1 ?_
    rw [helement, hc]
    simp

/-- No element of `first` goes on into a text without a quote. -/
theorem Span.In.cut_at_plain {s : Span} {first rest : List Char} (h : s.In (first ++ rest))
    (hrest : '"' ∉ rest) : s.stop ≤ first.length ∨ first.length ≤ s.start := by
  by_contra hcut
  rw [not_or, Nat.not_le, Nat.not_le] at hcut
  obtain ⟨front, back, helement, hne, hleads⟩ := h.exists_back hcut.2 hcut.1
  -- its last character is a quote, which would stand there
  have hlast : (element s.inner).getLast? = some '"' := by
    rw [element, ← List.append_assoc, List.getLast?_concat]
  rw [helement, List.getLast?_append_of_ne_nil _ hne] at hlast
  exact hrest (hleads.subset (List.mem_of_getLast? hlast))

/-- A text without a quote has no `elements`. -/
theorem elements_of_plain (cs : List Char) (h : '"' ∉ cs) : elements cs = [] := by
  have hspans : LeftmostSpans cs [] := by
    refine ⟨by simp, .nil, fun s hs => ?_⟩
    have hquote : '"' ∈ element s.inner := by simp [element]
    exact absurd (List.mem_of_mem_drop (hs.2.subset hquote)) h
  exact hspans.elements_eq

/-- An element that is not closed on its line, the text `broken` behind the opening, has no name, and
takes none from the text around it. -/
theorem elements_of_unclosed (before broken after : List Char) (hbroken : '"' ∉ broken)
    (hafter : after = [] ∨ ∃ more, after = '\n' :: more) :
    elements (before ++ opening ++ broken ++ after) =
      elements (before ++ opening) ++ elements after := by
  obtain ⟨spans, hspans⟩ := exists_leftmostSpans (before ++ opening ++ broken ++ after)
  -- first the text is cut at the end of the line, then behind the opening
  rw [elements_append_of_cut hspans fun s hs => (hspans.holds s hs).cut_at_line hafter]
  obtain ⟨spans, hspans⟩ := exists_leftmostSpans (before ++ opening ++ broken)
  rw [elements_append_of_cut hspans fun s hs => (hspans.holds s hs).cut_at_plain hbroken,
    elements_of_plain broken hbroken, List.append_nil]

/-! ## Names -/

/-- `names` of a header that is cut between elements. -/
theorem names_of_elements (header first rest : String)
    (h : elements header.toList = elements first.toList ++ elements rest.toList) :
    names header = names first ++ names rest := by
  simp only [names, h, List.filter_append, List.map_append]

/-- Where the `names` of a header come from. -/
structure LeftmostScan (header : String) : Prop where
  /-- In exactly one way, stretches can be told that follow one another without overlap, each of them
  an element, with no element starting in a gap. -/
  spans : ∃! spans, LeftmostSpans header.toList spans
  /-- The names are what stands between the quotes there, in order, with the empty ones left out. -/
  names_eq : ∀ spans, LeftmostSpans header.toList spans →
    names header = ((spans.map Span.inner).filter (!·.isEmpty)).map String.ofList
  /-- A name is not empty, has no quote, stays on its line, and is part of the header as it is. -/
  verbatim : ∀ name ∈ names header, name ≠ "" ∧ '"' ∉ name.toList ∧ '\n' ∉ name.toList ∧
    name.toList <:+: header.toList
  /-- An element that is not closed on its line gives no name and hides none: there are the names up to
  its opening quote, and those behind its line. -/
  unclosed : ∀ before broken after : String, header = before ++ "Subject=\"" ++ broken ++ after →
    '"' ∉ broken.toList → (after = "" ∨ ∃ more, after = "\n" ++ more) →
    names header = names (before ++ "Subject=\"") ++ names after
  /-- If it opens in a gap, and not in an earlier element, it might as well not be there. -/
  idle : ∀ before broken after : String, header = before ++ "Subject=\"" ++ broken ++ after →
    '"' ∉ broken.toList → (after = "" ∨ ∃ more, after = "\n" ++ more) →
    (∀ spans, LeftmostSpans header.toList spans → ∀ s ∈ spans, ¬s.Covers before.toList.length) →
    names header = names before ++ names after

/-- The `names` of every header are those of a `LeftmostScan`. -/
theorem leftmostScan_names (header : String) : LeftmostScan header := by
  obtain ⟨spans, hspans⟩ := exists_leftmostSpans header.toList
  -- what stands behind a line is nothing, or starts with a line end
  have hlines : ∀ after : String, (after = "" ∨ ∃ more, after = "\n" ++ more) →
      after.toList = [] ∨ ∃ more, after.toList = '\n' :: more := by
    rintro after (rfl | ⟨more, rfl⟩)
    · exact Or.inl rfl
    · exact Or.inr ⟨more.toList, by rw [String.toList_append]; rfl⟩
  constructor
  case spans => exact ⟨spans, hspans, fun spans' hspans' => hspans'.unique hspans⟩
  case names_eq =>
    intro spans' hspans'
    rw [names, hspans'.elements_eq]
  case verbatim =>
    intro name hname
    rw [names, hspans.elements_eq, List.mem_map] at hname
    obtain ⟨inner, hinner, rfl⟩ := hname
    obtain ⟨hmem, hne⟩ := List.mem_filter.1 hinner
    obtain ⟨s, hs, rfl⟩ := List.mem_map.1 hmem
    obtain ⟨hquote, hline⟩ := (hspans.holds s hs).1
    -- the inner text is part of its element, and that of the header
    have hinfix : s.inner <:+: element s.inner := ⟨opening, ['"'], List.append_assoc ..⟩
    have helement : element s.inner <:+: header.toList :=
      (hspans.holds s hs).2.isInfix.trans (List.drop_suffix s.start _).isInfix
    rw [String.toList_ofList]
    refine ⟨?_, hquote, hline, hinfix.trans helement⟩
    intro hempty
    have hnil : s.inner = [] := String.ofList_injective hempty
    rw [hnil] at hne
    cases hne
  case unclosed =>
    rintro before broken after rfl hbroken hafter
    apply names_of_elements
    simp only [String.toList_append]
    exact elements_of_unclosed before.toList broken.toList after.toList hbroken (hlines after hafter)
  case idle =>
    rintro before broken after rfl hbroken hafter hgap
    apply names_of_elements
    have hopening : "Subject=\"".toList = opening := rfl
    simp only [String.toList_append, hopening, List.append_assoc] at hspans hgap ⊢
    rw [elements_append_of_cut hspans]
    · -- what is behind the gap has no name up to the end of the line
      have hrest := elements_of_unclosed [] broken.toList after.toList hbroken (hlines after hafter)
      have hnone : elements ([] ++ opening) = [] := by decide +kernel
      rw [hnone, List.nil_append, List.append_assoc, List.nil_append] at hrest
      rw [hrest]
    · -- the gap lies between elements, so none reaches across the cut
      intro s hs
      have houtside := hgap spans hspans s hs
      simp only [Span.Covers, not_and, Nat.not_lt] at houtside
      obtain hle | hle := Nat.le_total s.start before.toList.length
      · exact Or.inl (houtside hle)
      · exact Or.inr hle

-- the second start stands in an element, the third one is not closed on its line
example : names "Subject=\"a Subject=\";Subject=\"CN=b\nSubject=\"CN=c\"Subject=\"\"" =
    ["a Subject=", "CN=c"] := by decide +kernel

end CertGate.Subject
