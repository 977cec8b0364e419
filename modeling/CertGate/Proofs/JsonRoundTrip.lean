import CertGate.Json.Parser
import CertGate.Proofs.EscapedStrings
import CertGate.Proofs.ValueSpelling

/-!
# Rendering JSON values and reading them back

The text that is written for a value is a JSON text, and it is read as this value: no string in it can
close its own quotes, and nothing can be added to a value by what its strings say.

## Key results

- `exists_spells_render`: what is written is a JSON text that says the value
- `parse_render`: it is read back
- `parse_of_spells`: so is every other text that says it
- `render_injective`: no two values are written alike
-/

namespace CertGate.Json

open Text.Utf8 (encode)

/-- `Canonical j`: every number of the value is the `written` form of some `Number`. -/
inductive Canonical : Json → Prop where
  | null : Canonical .null
  | bool (b : Bool) : Canonical (.bool b)
  | number (n : Number) (h : n.Spells (Text.Utf8.bytes n.written)) : Canonical (.number n.written)
  | text (s : String) : Canonical (.text s)
  | array (items : List Json) (h : ∀ j ∈ items, Canonical j) : Canonical (.array items)
  | object (members : List (String × Json)) (h : ∀ m ∈ members, Canonical m.2) :
    Canonical (.object members)

/-- `IsSaid j`: the characters written for `j` spell a `Draft` that says `j`. -/
def IsSaid (j : Json) : Prop :=
  ∃ d : Draft, d.Spells (encode j.chars) ∧ d.value = .ok j

/-! ## Items and members -/

/-- By `itemChars` the items of an array are written with a comma before each but the first. -/
theorem itemChars_cons (j : Json) (js : List Json) :
    itemChars (j :: js) = j.chars ++ js.flatMap fun k => ',' :: k.chars := by
  induction js generalizing j with
  | nil => rw [itemChars, List.flatMap_nil, List.append_nil]
  | cons k js ih =>
    rw [itemChars, ih, List.flatMap_cons, List.cons_append]
    exact fun h => nomatch h

/-- By `memberChars` the members of an object are written with a comma before each but the first. -/
theorem memberChars_cons (m : String × Json) (ms : List (String × Json)) :
    memberChars (m :: ms) =
      quote m.1 ++ ':' :: (m.2.chars ++ ms.flatMap fun n => ',' :: (quote n.1 ++ ':' :: n.2.chars)) := by
  induction ms generalizing m with
  | nil =>
    obtain ⟨key, j⟩ := m
    rw [memberChars, List.flatMap_nil, List.append_nil]
  | cons n ms ih =>
    obtain ⟨key, j⟩ := m
    rw [memberChars, ih, List.flatMap_cons, List.cons_append, List.append_assoc, List.cons_append]
    exact fun h => nomatch h

/-- `quote s` is written as one text token. -/
theorem written_quote (s : String) : Token.Written [.text (escapedBytes s)] (encode (quote s)) := by
  have hbytes : encode (quote s) = 0x22 :: (escapedBytes s ++ [0x22]) ++ [] := by
    rw [List.append_nil, quote, List.cons_append, encode, List.flatMap_cons, List.flatMap_append]
    -- the opening quote, the inside, and the closing quote as the last byte
    rfl
  rw [hbytes]
  exact .token (.text _ (isBody_escape s)) .nil

/-- The tokens of the items behind the first one, `itemTokens`, up to the bracket that closes the
array. -/
theorem exists_itemTokens (js : List Json) (h : ∀ j ∈ js, IsSaid j) :
    ∃ ds, (∀ d ∈ ds, Draft.Complete d) ∧ Draft.itemValues ds = .ok js ∧
      Token.Written (Draft.itemTokens ds) (encode ((js.flatMap fun j => ',' :: j.chars) ++ [']'])) := by
  induction js with
  | nil => exact ⟨[], List.forall_mem_nil _, rfl, .token .closeArray .nil⟩
  | cons j js ih =>
    obtain ⟨⟨d, hd, hvalue⟩, hjs⟩ := List.forall_mem_cons.1 h
    obtain ⟨ds, hcomplete, hvalues, hwritten⟩ := ih hjs
    refine ⟨d :: ds, List.forall_mem_cons.2 ⟨hd.complete, hcomplete⟩, ?_, ?_⟩
    · simp only [Draft.itemValues, hvalue, hvalues, Except.ok_bind]
      rfl
    · rw [List.flatMap_cons, List.append_assoc, encode, List.flatMap_append]
      -- a comma, the item, and the items behind it
      exact .token .comma (hd.written.append hwritten)

/-- The tokens of one member, `key` and its value, in front of what is written behind it. -/
theorem written_member (key : String) (j : Json) (d : Draft) (hd : d.Spells (encode j.chars))
    (ts : List Token) (cs : List Char) (h : Token.Written ts (encode cs)) :
    Token.Written (.text (escapedBytes key) :: .colon :: (d.tokens ++ ts))
      (encode (quote key ++ ':' :: (j.chars ++ cs))) := by
  rw [encode, List.flatMap_append, List.flatMap_cons, List.flatMap_append]
  exact (written_quote key).append (.token .colon (hd.written.append h))

/-- The tokens of the members behind the first one, `memberTokens`, up to the brace that closes the
object. -/
theorem exists_memberTokens (ms : List (String × Json)) (h : ∀ m ∈ ms, IsSaid m.2) :
    ∃ ds, (∀ d ∈ ds, Draft.Complete d.2) ∧ Draft.memberValues ds = .ok ms ∧
      Token.Written (Draft.memberTokens ds)
        (encode ((ms.flatMap fun m => ',' :: (quote m.1 ++ ':' :: m.2.chars)) ++ ['}'])) := by
  induction ms with
  | nil => exact ⟨[], List.forall_mem_nil _, rfl, .token .closeObject .nil⟩
  | cons m ms ih =>
    obtain ⟨key, j⟩ := m
    obtain ⟨⟨d, hd, hvalue⟩, hms⟩ := List.forall_mem_cons.1 h
    obtain ⟨ds, hcomplete, hvalues, hwritten⟩ := ih hms
    refine ⟨(escapedBytes key, d) :: ds, List.forall_mem_cons.2 ⟨hd.complete, hcomplete⟩, ?_, ?_⟩
    · simp only [Draft.memberValues, textOf_escape, hvalue, hvalues, Except.ok_bind]
      rfl
    · have hmember := written_member key j d hd _ _ hwritten
      simp only [List.flatMap_cons, List.cons_append, List.append_assoc]
      rw [encode, List.flatMap_cons]
      -- a comma, the member, and the members behind it
      exact .token .comma hmember

/-! ## Values -/

/-- For every `Canonical` value, `Json.chars` writes a text that says it. -/
theorem isSaid_of_canonical (j : Json) (h : j.Canonical) : IsSaid j := by
  induction h with
  | null => exact ⟨.null, ⟨.null, .token .null .nil⟩, rfl⟩
  | bool b =>
    refine ⟨.bool b, ⟨.bool b, ?_⟩, rfl⟩
    cases b <;> exact .token (.bool _) .nil
  | number n h =>
    refine ⟨.number n, ⟨.number n, ?_⟩, rfl⟩
    rw [← List.append_nil (encode _)]
    exact .token (.number n _ h) .nil
  | text s =>
    refine ⟨.text (escapedBytes s), ⟨.text _, written_quote s⟩, ?_⟩
    simp only [Draft.value, textOf_escape, Except.ok_bind]
    rfl
  | array items _ ih =>
    -- the brackets of an empty array stand alone; otherwise the first item has no comma before it
    cases items with
    | nil =>
      exact ⟨.array [] none,
        ⟨.array [] (List.forall_mem_nil _), .token .openArray (.token .closeArray .nil)⟩, rfl⟩
    | cons j js =>
      obtain ⟨⟨d, hd, hvalue⟩, hjs⟩ := List.forall_mem_cons.1 ih
      obtain ⟨ds, hcomplete, hvalues, hwritten⟩ := exists_itemTokens js hjs
      refine ⟨.array (d :: ds) none,
        ⟨.array _ (List.forall_mem_cons.2 ⟨hd.complete, hcomplete⟩), ?_⟩, ?_⟩
      · rw [chars, itemChars_cons, List.cons_append, List.append_assoc, encode, List.flatMap_cons,
          List.flatMap_append]
        exact .token .openArray (hd.written.append hwritten)
      · simp only [Draft.value, Draft.itemValues, hvalue, hvalues, Except.ok_bind]
        rfl
  | object members _ ih =>
    -- the same of the braces of an object and its first member
    cases members with
    | nil =>
      exact ⟨.object [] none,
        ⟨.object [] (List.forall_mem_nil _), .token .openObject (.token .closeObject .nil)⟩, rfl⟩
    | cons m ms =>
      obtain ⟨key, j⟩ := m
      obtain ⟨⟨d, hd, hvalue⟩, hms⟩ := List.forall_mem_cons.1 ih
      obtain ⟨ds, hcomplete, hvalues, hwritten⟩ := exists_memberTokens ms hms
      refine ⟨.object ((escapedBytes key, d) :: ds) none,
        ⟨.object _ (List.forall_mem_cons.2 ⟨hd.complete, hcomplete⟩), ?_⟩, ?_⟩
      · have hmember := written_member key j d hd _ _ hwritten
        rw [chars, memberChars_cons]
        simp only [List.cons_append, List.append_assoc]
        rw [encode, List.flatMap_cons]
        exact .token .openObject hmember
      · simp only [Draft.value, Draft.memberValues, textOf_escape, hvalue, hvalues, Except.ok_bind]
        rfl

/-- `Json.render` writes a JSON text for a `Canonical` value, and the text says the value. -/
theorem exists_spells_render (j : Json) (h : j.Canonical) :
    ∃ d : Draft, d.Spells (Text.Utf8.bytes j.render) ∧ d.value = .ok j := by
  rw [Text.Utf8.bytes, render, String.toList_ofList]
  exact isSaid_of_canonical j h

/-- `parse` reads a text that spells the draft `d` as the value of `d`. -/
theorem parse_of_spells (d : Draft) (bs : List UInt8) (h : d.Spells bs) : parse bs = d.value := by
  rw [parse, Document.read_of_spells d bs h, Document.decode]
  cases d.value <;> rfl

/-- `parse` reads what `Json.render` wrote for a `Canonical` value as this value. -/
theorem parse_render (j : Json) (h : j.Canonical) : parse (Text.Utf8.bytes j.render) = .ok j := by
  obtain ⟨d, hd, hvalue⟩ := exists_spells_render j h
  rw [parse_of_spells d _ hd, hvalue]

/-- `Json.render` writes no two `Canonical` values alike. -/
theorem render_injective (j k : Json) (hj : j.Canonical) (hk : k.Canonical)
    (h : Text.Utf8.bytes j.render = Text.Utf8.bytes k.render) : j = k := by
  have hparse := parse_render j hj
  rw [h, parse_render k hk] at hparse
  exact (Except.ok.inj hparse).symm

end CertGate.Json
