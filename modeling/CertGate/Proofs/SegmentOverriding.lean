import CertGate.Proofs.DistinguishedName

/-!
# Distinguished names that are put together

Segments are joined by commas, and so are whole names. What a name says of an attribute is a list of
values, one for each of its segments for that attribute; joining names joins these lists, and the last
value counts. Hence what is put behind overrides what stands in front, attribute by attribute, and
neither segments that give no value nor the order of segments for different attributes matter.

## Key results

- `valuesOf_intercalate`: joining texts joins their values
- `get_parse_append_of_gives`, `get_parse_append_of_not_gives`: a later name overrides what it gives
- `parse_congr`: names with the same values say the same
- `overriding_parse`: all of it, with segments that stand alone, are left out or change places
-/

namespace CertGate.Subject

/-! ## Segments -/

/-- A segment that has a key: everything before its first `=`. -/
structure Segment where
  key : String
  value : String
  key_plain : ∀ c ∈ key.toList, c ≠ ',' ∧ c ≠ '='
  /-- An equals sign may stand in a value. -/
  value_plain : ',' ∉ value.toList

namespace Segment

/-- The segment as it is written: its key, an `=` and its value. -/
def text (s : Segment) : String :=
  s.key ++ "=" ++ s.value

theorem toList_text (s : Segment) : s.text.toList = s.key.toList ++ '=' :: s.value.toList := by
  rw [text, String.toList_append, String.toList_append, List.append_assoc]
  rfl

/-- The first `=` of a segment is the one behind its key. -/
theorem equals_not_mem_key (s : Segment) : '=' ∉ s.key.toList := by
  intro hmem
  exact (s.key_plain '=' hmem).2 rfl

/-- A segment has no comma in it, so `Text.pieces` takes it for one piece. -/
theorem pieces_text (s : Segment) : Text.pieces ',' s.text.toList = [s.text.toList] := by
  apply Text.pieces_of_not_mem
  rw [toList_text, List.mem_append, List.mem_cons, not_or, not_or]
  have hkey : ',' ∉ s.key.toList := fun hmem => (s.key_plain ',' hmem).1 rfl
  exact ⟨hkey, by decide, s.value_plain⟩

end Segment

/-- `HasKey segment key`: the text before the first `=` of the segment is this key. -/
def HasKey (segment key : List Char) : Prop :=
  '=' ∉ key ∧ key ++ ['='] <+: segment

/-- `Gives name a`: one of the segments that commas part has exactly the key of `a`, be its value empty
or not. -/
def Gives (name : String) (a : Attribute) : Prop :=
  ∃ segment ∈ Text.pieces ',' name.toList, HasKey segment a.key.toList

/-! ## Values -/

/-- The values that the segments of a text give for the attribute `a`, in order. -/
abbrev valuesOf (a : Attribute) (text : List Char) : List (List Char) :=
  valuesIn a (Text.pieces ',' text)

theorem valuesIn_append (a : Attribute) (segments segments' : List (List Char)) :
    valuesIn a (segments ++ segments') = valuesIn a segments ++ valuesIn a segments' :=
  List.filterMap_append

/-- A name `Gives` an attribute exactly if it has a value for it. -/
theorem gives_iff (name : String) (a : Attribute) : Gives name a ↔ valuesOf a name.toList ≠ [] := by
  have hkey : ∀ segment, HasKey segment a.key.toList ↔ Text.after? (lead a) segment ≠ none := by
    intro segment
    simp only [HasKey, a.equals_not_mem_key, not_false_eq_true, true_and, Option.ne_none_iff_exists',
      Text.after?_eq_some_iff, List.IsPrefix, eq_comm (b := segment), lead]
  constructor
  · rintro ⟨segment, hmem, hgives⟩ hnil
    exact (hkey segment).1 hgives (List.filterMap_eq_nil_iff.1 hnil segment hmem)
  · intro hne
    obtain ⟨value, hvalue⟩ := List.exists_mem_of_ne_nil _ hne
    obtain ⟨segment, hmem, hafter⟩ := List.mem_filterMap.1 hvalue
    refine ⟨segment, hmem, (hkey segment).2 ?_⟩
    rw [hafter]
    exact Option.some_ne_none value

/-- An empty text is one segment without a key, so `valuesOf` finds no value in it. -/
theorem valuesOf_nil (a : Attribute) : valuesOf a [] = [] := by
  cases a <;> rfl

/-- The `valuesOf` two texts with a comma between them are those of the first, then those of the
second. -/
theorem valuesOf_append (a : Attribute) (first second : List Char) :
    valuesOf a (first ++ ',' :: second) = valuesOf a first ++ valuesOf a second := by
  rw [valuesOf, Text.pieces_append, valuesIn_append]

/-- The `valuesOf` texts that commas join are those of each text in turn. -/
theorem valuesOf_intercalate (a : Attribute) (texts : List String) :
    valuesOf a (",".intercalate texts).toList = texts.flatMap fun t => valuesOf a t.toList := by
  have hcomma : ",".toList = [','] := rfl
  rw [String.toList_intercalate, hcomma]
  induction texts with
  | nil => exact valuesOf_nil a
  | cons text texts ih =>
    -- the last text has no comma behind it
    rw [List.map_cons, List.flatMap_cons, ← ih]
    cases texts with
    | nil => rw [List.map_nil, List.intercalate_singleton, List.intercalate_nil, valuesOf_nil,
        List.append_nil]
    | cons next texts =>
      rw [List.map_cons, List.intercalate_cons_cons, List.append_assoc, List.singleton_append,
        valuesOf_append]

/-- The `valuesOf` a segment are its value, for the attribute with its key, and none for others. -/
theorem valuesOf_segment (a : Attribute) (s : Segment) :
    valuesOf a s.text.toList = if s.key = a.key then [s.value.toList] else [] := by
  rw [valuesOf, s.pieces_text, valuesIn_cons, s.toList_text,
    after?_lead_of_key a s.key s.value s.equals_not_mem_key]
  split <;> rfl

/-- The `valuesOf` a text without an equals sign are none. -/
theorem valuesOf_of_no_equals (a : Attribute) (text : List Char) (h : '=' ∉ text) :
    valuesOf a text = [] := by
  rw [valuesOf, valuesIn, List.filterMap_eq_nil_iff]
  intro segment hsegment
  rw [Option.eq_none_iff_forall_ne_some]
  intro value hafter
  -- the equals sign of the lead would be a character of the text
  have hmem : '=' ∈ segment := by
    rw [Text.after?_eq_some_iff.1 hafter, lead]
    simp
  exact h (Text.exists_mem_pieces_iff.1 ⟨segment, hsegment, hmem⟩).1

/-! ## What a name says -/

/-- Names that have the same `valuesOf` every attribute are parsed as the same subject. -/
theorem parse_congr (name name' : String)
    (h : ∀ a, valuesOf a name.toList = valuesOf a name'.toList) : parse name = parse name' := by
  apply eq_of_get
  intro a
  rw [get_parse, get_parse, lastValue, lastValue, lastValue?, lastValue?, ← valuesOf, h a]

/-- Of two names that are joined, `second` decides on the last value if it has one. -/
theorem lastValue?_append (a : Attribute) (first second : List Char) :
    lastValue? a (first ++ ',' :: second) = (lastValue? a second).or (lastValue? a first) := by
  rw [lastValue?, ← valuesOf, valuesOf_append, List.getLast?_append]
  rfl

theorem toList_append_comma (first second : String) :
    (first ++ "," ++ second).toList = first.toList ++ ',' :: second.toList := by
  rw [String.toList_append, String.toList_append, List.append_assoc]
  rfl

/-- Behind another name, a name decides over the attributes that it `Gives`. -/
theorem get_parse_append_of_gives (first second : String) (a : Attribute) (h : Gives second a) :
    (parse (first ++ "," ++ second)).get a = (parse second).get a := by
  have hvalues := (gives_iff second a).1 h
  rw [get_parse, get_parse, lastValue, lastValue, toList_append_comma, lastValue?_append]
  -- the last value of the second name is there
  have hsome : lastValue? a second.toList = some ((valuesOf a second.toList).getLast hvalues) :=
    List.getLast?_eq_some_getLast hvalues
  rw [hsome, Option.some_or]

/-- The attributes that `second` does not give stay as the name in front of it says. -/
theorem get_parse_append_of_not_gives (first second : String) (a : Attribute)
    (h : ¬Gives second a) : (parse (first ++ "," ++ second)).get a = (parse first).get a := by
  have hnil : valuesOf a second.toList = [] := Decidable.not_not.1 (mt (gives_iff second a).2 h)
  have hnone : lastValue? a second.toList = none := by
    rw [lastValue?, ← valuesOf, hnil]
    rfl
  rw [get_parse, get_parse, lastValue, lastValue, toList_append_comma, lastValue?_append, hnone,
    Option.none_or]

/-! ## Overriding -/

/-- Names are read by `read` in such a way that segments override earlier ones. -/
structure Overriding (read : String → Subject) : Prop where
  /-- Behind another name, a name decides over the attributes that it gives, even as empty ones. -/
  overridden : ∀ (first second : String) (a : Attribute), Gives second a →
    (read (first ++ "," ++ second)).get a = (read second).get a
  /-- The attributes that the name behind does not give stay as they are. -/
  kept : ∀ (first second : String) (a : Attribute), ¬Gives second a →
    (read (first ++ "," ++ second)).get a = (read first).get a
  /-- A segment sets the attribute whose key it has to all that follows the `=`, and no other one. -/
  single : ∀ (s : Segment) (a : Attribute), (read s.text).get a = if s.key = a.key then s.value else ""
  /-- A segment whose key is no attribute's may stand anywhere or be left out. -/
  unknown : ∀ (before after : List String) (s : Segment), (∀ a : Attribute, s.key ≠ a.key) →
    read (",".intercalate (before ++ s.text :: after)) = read (",".intercalate (before ++ after))
  /-- Text without an equals sign may stand anywhere or be left out. -/
  keyless : ∀ (before after : List String) (text : String), '=' ∉ text.toList →
    read (",".intercalate (before ++ text :: after)) = read (",".intercalate (before ++ after))
  /-- Neighbours with different keys may change places. -/
  swapped : ∀ (before after : List String) (s t : Segment), s.key ≠ t.key →
    read (",".intercalate (before ++ s.text :: t.text :: after)) =
      read (",".intercalate (before ++ t.text :: s.text :: after))

/-- Text in which `valuesOf` finds nothing may stand anywhere or be left out. -/
theorem parse_intercalate_of_idle (before after : List String) (text : String)
    (h : ∀ a, valuesOf a text.toList = []) :
    parse (",".intercalate (before ++ text :: after)) = parse (",".intercalate (before ++ after)) := by
  apply parse_congr
  intro a
  rw [valuesOf_intercalate, valuesOf_intercalate, List.flatMap_append, List.flatMap_append,
    List.flatMap_cons, h a, List.nil_append]

/-- `parse` reads distinguished names in the way that `Overriding` describes. -/
theorem overriding_parse : Overriding parse := by
  constructor
  case overridden => exact get_parse_append_of_gives
  case kept => exact get_parse_append_of_not_gives
  case single =>
    intro s a
    rw [get_parse, lastValue, lastValue?, ← valuesOf, valuesOf_segment]
    split
    · exact String.ofList_toList
    · rfl
  case unknown =>
    intro before after s hkey
    apply parse_intercalate_of_idle
    intro a
    rw [valuesOf_segment, if_neg (hkey a)]
  case keyless =>
    intro before after text htext
    apply parse_intercalate_of_idle
    exact fun a => valuesOf_of_no_equals a text.toList htext
  case swapped =>
    intro before after s t hkeys
    apply parse_congr
    intro a
    -- at most one of them gives the attribute, so both orders give the same
    have hswap : valuesOf a s.text.toList ++ valuesOf a t.text.toList =
        valuesOf a t.text.toList ++ valuesOf a s.text.toList := by
      rw [valuesOf_segment, valuesOf_segment]
      by_cases hs : s.key = a.key
      · have ht : t.key ≠ a.key := fun ht => hkeys (hs.trans ht.symm)
        rw [if_neg ht, List.append_nil, List.nil_append]
      · rw [if_neg hs, List.append_nil, List.nil_append]
    rw [valuesOf_intercalate, valuesOf_intercalate, List.flatMap_append, List.flatMap_append]
    -- the two segments stand next to each other between what is before and what is after them
    simp only [List.flatMap_cons, ← List.append_assoc]
    rw [List.append_assoc _ (valuesOf a s.text.toList), hswap, ← List.append_assoc]

/-- A segment for the common name, with an equals sign in its value. -/
def commonNameSegment : Segment where
  key := "CN"
  value := "a=b"
  key_plain := by simp
  value_plain := by decide

/-- A segment for the organization, which it gives as empty. -/
def emptyOrganizationSegment : Segment where
  key := "O"
  value := ""
  key_plain := by simp
  value_plain := by decide

/-- A segment whose key is padded, and so no attribute's. -/
def paddedSegment : Segment where
  key := " O"
  value := "t2"
  key_plain := by simp
  value_plain := by decide

/-- In `overriding_parse`, an organization that is given as empty overrides the one in front of it and
leaves the common name; a segment sets all that follows its first `=`; padded keys and texts without
`=` say nothing; and segments for different attributes may change places. -/
theorem overriding_parse_segments :
    (parse "CN=app1,O=t1,O=").organization = "" ∧
      (parse "CN=app1,O=t1,O=").commonName = "app1" ∧
      (parse "CN=a=b").commonName = "a=b" ∧
      parse "CN=app1, O=t2,O=" = parse "CN=app1,O=" ∧
      parse "CN=app1,OU,O=" = parse "CN=app1,O=" ∧
      parse "CN=a=b,O=,ST=x" = parse "O=,CN=a=b,ST=x" := by
  have hgives : Gives "O=" .organization := ⟨"O=".toList, by decide, by decide, by decide⟩
  -- a silent name has no value for the attribute
  have hsilent : ¬Gives "O=" .commonName := fun h => (gives_iff "O=" .commonName).1 h (by decide)
  have hpadded : ∀ a : Attribute, paddedSegment.key ≠ a.key := by
    intro a
    cases a <;> decide
  refine ⟨?overridden, ?kept, ?single, ?unknown, ?keyless, ?swapped⟩
  case overridden =>
    exact (overriding_parse.overridden "CN=app1,O=t1" "O=" .organization hgives).trans (by decide +kernel)
  case kept =>
    exact (overriding_parse.kept "CN=app1,O=t1" "O=" .commonName hsilent).trans (by decide +kernel)
  case single => exact overriding_parse.single commonNameSegment .commonName
  case unknown => exact overriding_parse.unknown ["CN=app1"] ["O="] paddedSegment hpadded
  case keyless => exact overriding_parse.keyless ["CN=app1"] ["O="] "OU" (by decide)
  case swapped =>
    exact overriding_parse.swapped [] ["ST=x"] commonNameSegment emptyOrganizationSegment (by decide)

end CertGate.Subject
