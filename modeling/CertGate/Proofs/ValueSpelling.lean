import CertGate.Proofs.TokenSpelling

/-!
# How values are spelled

The grammar of JSON values over tokens: which tokens make up a finished value, and so which texts spell
it. Every text that spells a value is read as this value, wherever there are blanks in it and whatever
escapes its strings are written with.

## Key results

- `run_tokens`: the tokens of a value are taken as this value, whatever is around it
- `apart_tokens`: no two numbers touch in the tokens of a value
- `Document.read_of_spells`: a text that spells a value is read as this value
- `Draft.Spells.unique`: a text spells one value
-/

namespace CertGate.Json

namespace Draft

/-- `d.Complete`: all of a value is there, and nothing in it is broken off. -/
inductive Complete : Draft → Prop where
  | null : Complete .null
  | bool (b : Bool) : Complete (.bool b)
  | number (n : Number) : Complete (.number n)
  | text (raw : List UInt8) : Complete (.text raw)
  | array (items : List Draft) (h : ∀ d ∈ items, Complete d) : Complete (.array items none)
  | object (members : List (List UInt8 × Draft)) (h : ∀ m ∈ members, Complete m.2) :
    Complete (.object members none)

mutual

/-- The tokens of a `Draft`, in the order in which they are written. -/
def tokens : Draft → List Token
  | .null => [.null]
  | .bool b => [.bool b]
  | .number n => [.number n]
  | .text raw => [.text raw]
  | .array items _ =>
    match items with
    | [] => [.openArray, .closeArray]
    | d :: ds => .openArray :: (d.tokens ++ itemTokens ds)
  | .object members _ =>
    match members with
    | [] => [.openObject, .closeObject]
    | (key, d) :: ms => .openObject :: .text key :: .colon :: (d.tokens ++ memberTokens ms)
  | .broken _ => []

/-- The tokens of the items behind another one, and `closeArray` at the end. -/
def itemTokens : List Draft → List Token
  | [] => [.closeArray]
  | d :: ds => .comma :: (d.tokens ++ itemTokens ds)

/-- The tokens of the members behind another one, and `closeObject` at the end. -/
def memberTokens : List (List UInt8 × Draft) → List Token
  | [] => [.closeObject]
  | (key, d) :: ms => .comma :: .text key :: .colon :: (d.tokens ++ memberTokens ms)

end

/-- `d.Spells bs`: the value is complete, and the bytes are a text of its tokens. -/
structure Spells (d : Draft) (bs : List UInt8) : Prop where
  complete : d.Complete
  written : Token.Written d.tokens bs

/-! ## Reading the tokens of a value -/

/-- `IsTaken d`: wherever a value may stand, `run` takes the tokens of this one as the value. -/
def IsTaken (d : Draft) : Prop :=
  ∀ (around : List Frame) (ts : List Token),
    (Awaiting.value around).run (d.tokens ++ ts) = (Awaiting.afterValue d around).run ts

/-- Behind an item, `run` takes the tokens of further items as these items and closes the array. -/
theorem run_itemTokens (items done : List Draft) (around : List Frame) (ts : List Token)
    (h : ∀ d ∈ items, IsTaken d) :
    (Awaiting.itemEnd done around).run (itemTokens items ++ ts) =
      (Awaiting.afterValue (.array (done.reverse ++ items) none) around).run ts := by
  induction items generalizing done with
  | nil => rw [List.append_nil]; rfl
  | cons d items ih =>
    obtain ⟨hd, hitems⟩ := List.forall_mem_cons.1 h
    rw [itemTokens, List.cons_append, List.append_assoc]
    calc (Awaiting.itemEnd done around).run (.comma :: (d.tokens ++ (itemTokens items ++ ts)))
        = (Awaiting.value (.array done :: around)).run (d.tokens ++ (itemTokens items ++ ts)) := rfl
      _ = (Awaiting.itemEnd (d :: done) around).run (itemTokens items ++ ts) := hd _ _
      _ = _ := by rw [ih (d :: done) hitems, List.reverse_cons, List.append_assoc]; rfl

/-- Behind a member, `run` takes the tokens of further members as these members and closes the object. -/
theorem run_memberTokens (members done : List (List UInt8 × Draft)) (around : List Frame)
    (ts : List Token) (h : ∀ m ∈ members, IsTaken m.2) :
    (Awaiting.memberEnd done around).run (memberTokens members ++ ts) =
      (Awaiting.afterValue (.object (done.reverse ++ members) none) around).run ts := by
  induction members generalizing done with
  | nil => rw [List.append_nil]; rfl
  | cons m members ih =>
    obtain ⟨key, d⟩ := m
    obtain ⟨hd, hmembers⟩ := List.forall_mem_cons.1 h
    rw [memberTokens, List.cons_append, List.cons_append, List.cons_append, List.append_assoc]
    calc (Awaiting.memberEnd done around).run
          (.comma :: .text key :: .colon :: (d.tokens ++ (memberTokens members ++ ts)))
        = (Awaiting.value (.object done key :: around)).run
            (d.tokens ++ (memberTokens members ++ ts)) := rfl
      _ = (Awaiting.memberEnd ((key, d) :: done) around).run (memberTokens members ++ ts) := hd _ _
      _ = _ := by rw [ih ((key, d) :: done) hmembers, List.reverse_cons, List.append_assoc]; rfl

/-- The first token of a value closes nothing, so `run` takes a value behind an opening bracket as the
first item. -/
theorem run_firstItem (d : Draft) (hd : IsTaken d) (hcomplete : d.Complete) (around : List Frame)
    (ts : List Token) : (Awaiting.firstItem around).run (d.tokens ++ ts) =
      (Awaiting.itemEnd [d] around).run ts := by
  -- whatever the value starts with, it does not close the array
  have hsame : (Awaiting.firstItem around).run (d.tokens ++ ts) =
      (Awaiting.value (.array [] :: around)).run (d.tokens ++ ts) := by
    cases hcomplete with
    | array items h => cases items <;> rfl
    | object members h => cases members <;> rfl
    | _ => rfl
  rw [hsame, hd]
  rfl

/-- The tokens of a complete value are taken by `run` as this value, whatever is around it. -/
theorem run_tokens (d : Draft) (h : d.Complete) : IsTaken d := by
  induction h with
  | array items hitems ih =>
    intro around ts
    -- an empty array closes at once; otherwise the first item comes without a comma
    cases items with
    | nil => rfl
    | cons d ds =>
      obtain ⟨hd, hds⟩ := List.forall_mem_cons.1 ih
      rw [tokens, List.cons_append, List.append_assoc]
      calc (Awaiting.value around).run (.openArray :: (d.tokens ++ (itemTokens ds ++ ts)))
          = (Awaiting.firstItem around).run (d.tokens ++ (itemTokens ds ++ ts)) := rfl
        _ = (Awaiting.itemEnd [d] around).run (itemTokens ds ++ ts) :=
          run_firstItem d hd (hitems d List.mem_cons_self) around _
        _ = _ := run_itemTokens ds [d] around ts hds
  | object members hmembers ih =>
    intro around ts
    -- the same of an object and its first member
    cases members with
    | nil => rfl
    | cons m ms =>
      obtain ⟨key, d⟩ := m
      obtain ⟨hd, hms⟩ := List.forall_mem_cons.1 ih
      rw [tokens, List.cons_append, List.cons_append, List.cons_append, List.append_assoc]
      calc (Awaiting.value around).run
            (.openObject :: .text key :: .colon :: (d.tokens ++ (memberTokens ms ++ ts)))
          = (Awaiting.value (.object [] key :: around)).run (d.tokens ++ (memberTokens ms ++ ts)) := rfl
        _ = (Awaiting.memberEnd [(key, d)] around).run (memberTokens ms ++ ts) := hd _ _
        _ = _ := run_memberTokens ms [(key, d)] around ts hms
  | _ => exact fun around ts => rfl

/-! ## Numbers stay apart -/

/-- `KeepsApart d`: in front of tokens that start with no number, the tokens of the value leave numbers
apart. -/
def KeepsApart (d : Draft) : Prop :=
  ∀ ts : List Token, Token.Apart ts → (∀ t ∈ ts.head?, t.isNumber = false) → Token.Apart (d.tokens ++ ts)

/-- A token that is no number leaves numbers `Apart`, whatever is behind it. -/
theorem apart_cons {t : Token} {ts : List Token} (ht : t.isNumber = false) (h : Token.Apart ts) :
    Token.Apart (t :: ts) :=
  List.isChain_cons.2 ⟨fun _ _ hboth => by simp [ht] at hboth, h⟩

/-- The tokens of further items leave numbers `Apart`, and start with a comma or a bracket. -/
theorem apart_itemTokens (items : List Draft) (h : ∀ d ∈ items, KeepsApart d) (ts : List Token)
    (hts : Token.Apart ts) :
    Token.Apart (itemTokens items ++ ts) ∧ ∀ t ∈ (itemTokens items ++ ts).head?, t.isNumber = false := by
  induction items with
  | nil => exact ⟨apart_cons rfl hts, by rintro _ ⟨⟩; rfl⟩
  | cons d items ih =>
    obtain ⟨hd, hitems⟩ := List.forall_mem_cons.1 h
    obtain ⟨hrest, hhead⟩ := ih hitems
    rw [itemTokens, List.cons_append, List.append_assoc]
    exact ⟨apart_cons rfl (hd _ hrest hhead), by rintro _ ⟨⟩; rfl⟩

/-- The tokens of further members leave numbers `Apart`, and start with a comma or a brace. -/
theorem apart_memberTokens (members : List (List UInt8 × Draft)) (h : ∀ m ∈ members, KeepsApart m.2)
    (ts : List Token) (hts : Token.Apart ts) :
    Token.Apart (memberTokens members ++ ts) ∧
      ∀ t ∈ (memberTokens members ++ ts).head?, t.isNumber = false := by
  induction members with
  | nil => exact ⟨apart_cons rfl hts, by rintro _ ⟨⟩; rfl⟩
  | cons m members ih =>
    obtain ⟨key, d⟩ := m
    obtain ⟨hd, hmembers⟩ := List.forall_mem_cons.1 h
    obtain ⟨hrest, hhead⟩ := ih hmembers
    rw [memberTokens, List.cons_append, List.cons_append, List.cons_append, List.append_assoc]
    exact ⟨apart_cons rfl (apart_cons rfl (apart_cons rfl (hd _ hrest hhead))), by rintro _ ⟨⟩; rfl⟩

/-- The tokens of every value that is `Complete` leave numbers apart, by induction on the value. -/
theorem keepsApart (d : Draft) (h : d.Complete) : KeepsApart d := by
  induction h with
  | array items _ ih =>
    intro ts hts _
    cases items with
    | nil => exact apart_cons rfl (apart_cons rfl hts)
    | cons d ds =>
      obtain ⟨hd, hds⟩ := List.forall_mem_cons.1 ih
      obtain ⟨hrest, hhead⟩ := apart_itemTokens ds hds ts hts
      rw [tokens, List.cons_append, List.append_assoc]
      exact apart_cons rfl (hd _ hrest hhead)
  | object members _ ih =>
    intro ts hts _
    cases members with
    | nil => exact apart_cons rfl (apart_cons rfl hts)
    | cons m ms =>
      obtain ⟨key, d⟩ := m
      obtain ⟨hd, hms⟩ := List.forall_mem_cons.1 ih
      obtain ⟨hrest, hhead⟩ := apart_memberTokens ms hms ts hts
      rw [tokens, List.cons_append, List.cons_append, List.cons_append, List.append_assoc]
      exact apart_cons rfl (apart_cons rfl (apart_cons rfl (hd _ hrest hhead)))
  | number n =>
    intro ts hts hhead
    -- what stands behind the number is none
    exact List.isChain_cons.2 ⟨fun t ht hboth => by simp [hhead t ht] at hboth, hts⟩
  | _ => exact fun ts hts _ => apart_cons rfl hts

/-- No two numbers stand next to each other in the tokens of a value that is `Complete`. -/
theorem apart_tokens (d : Draft) (h : d.Complete) : Token.Apart d.tokens := by
  have hnil := keepsApart d h [] List.isChain_nil fun t ht => nomatch ht
  rwa [List.append_nil] at hnil

end Draft

/-- `Document.read` reads a text that spells a value as this value, with nothing behind it. -/
theorem Document.read_of_spells (d : Draft) (bs : List UInt8) (h : d.Spells bs) :
    Document.read bs = ⟨d, false⟩ := by
  have hrun := Draft.run_tokens d h.complete [] []
  rw [List.append_nil] at hrun
  rw [Document.read, Token.scan_of_written d.tokens bs h.written (Draft.apart_tokens d h.complete), hrun]
  rfl

/-- A text `Spells` no two values. -/
theorem Draft.Spells.unique {d d' : Draft} {bs : List UInt8} (h : d.Spells bs) (h' : d'.Spells bs) :
    d = d' :=
  congrArg Document.value ((Document.read_of_spells d bs h).symm.trans (Document.read_of_spells d' bs h'))

end CertGate.Json
