import CertGate.Application.Json
import CertGate.Proofs.UnknownMembers
import Mathlib.Data.List.Nodup

/-!
# Application records as JSON

The text that is written for a record is read as this record, and so is every text that has further
members in it, at any place of any object, as long as no reader knows their names there. A text in which
a member that is known comes twice is never read.

## Key results

- `ofDraft_of_says`: a value that says a record is read as this record
- `describes_ofDraft`: which members a record and its parts are read from
- `faithful`: records pass through their text, and through what may be added to it
-/

namespace CertGate

open Json (Draft Outline)

/-! ## What values say -/

namespace Json.Draft

/-- `d.Says j`: the value of `d` is `j`, by what `d` is written as. Unlike `d.value = .ok j` this can
be taken apart by cases. -/
inductive Says : Draft → Json → Prop where
  | null : Says .null .null
  | bool (b : Bool) : Says (.bool b) (.bool b)
  | number (n : Number) : Says (.number n) (.number n.written)
  | text (raw : List UInt8) (s : String) (h : textOf raw = .ok s) : Says (.text raw) (.text s)
  | array (ds : List Draft) (js : List Json) (h : itemValues ds = .ok js) :
    Says (.array ds none) (.array js)
  | object (ms : List (List UInt8 × Draft)) (js : List (String × Json)) (h : memberValues ms = .ok js) :
    Says (.object ms none) (.object js)

/-- `ending` accepts a container only if it ends. -/
theorem ending_eq_ok (unfinished : Option Break) (u : Unit) (h : ending unfinished = .ok u) :
    unfinished = none := by
  cases unfinished with
  | none => rfl
  | some b => cases h

/-- A draft `Says` its value. -/
theorem says_of_value (d : Draft) (j : Json) (h : d.value = .ok j) : d.Says j := by
  cases d with
  | null | bool b | number n =>
    cases h
    constructor
  | text raw =>
    obtain ⟨s, hs, heq⟩ := Except.bind_eq_ok_iff.1 h
    cases heq
    exact .text raw s hs
  | array ds unfinished =>
    -- all items have been read, and the array has come to its end
    obtain ⟨js, hjs, h⟩ := Except.bind_eq_ok_iff.1 h
    obtain ⟨u, hend, heq⟩ := Except.bind_eq_ok_iff.1 h
    cases heq
    cases ending_eq_ok unfinished u hend
    exact .array ds js hjs
  | object ms unfinished =>
    -- the same of the members of an object
    obtain ⟨js, hjs, h⟩ := Except.bind_eq_ok_iff.1 h
    obtain ⟨u, hend, heq⟩ := Except.bind_eq_ok_iff.1 h
    cases heq
    cases ending_eq_ok unfinished u hend
    exact .object ms js hjs
  | broken b => cases h

/-- Only an object without members has no `memberValues`. -/
theorem memberValues_eq_nil (ms : List (List UInt8 × Draft)) (h : memberValues ms = .ok []) :
    ms = [] := by
  cases ms with
  | nil => rfl
  | cons m ms =>
    obtain ⟨name, -, h⟩ := Except.bind_eq_ok_iff.1 h
    obtain ⟨j, -, h⟩ := Except.bind_eq_ok_iff.1 h
    obtain ⟨js, -, h⟩ := Except.bind_eq_ok_iff.1 h
    cases h

/-- The first member of an object is read before the others, in `memberValues`. -/
theorem exists_of_memberValues_eq_cons (ms : List (List UInt8 × Draft)) (name : String) (j : Json)
    (js : List (String × Json)) (h : memberValues ms = .ok ((name, j) :: js)) :
    ∃ key d rest, ms = (key, d) :: rest ∧ textOf key = .ok name ∧ d.Says j ∧
      memberValues rest = .ok js := by
  cases ms with
  | nil => cases h
  | cons m ms =>
    obtain ⟨key, d⟩ := m
    obtain ⟨name', hname, h⟩ := Except.bind_eq_ok_iff.1 h
    obtain ⟨j', hj, h⟩ := Except.bind_eq_ok_iff.1 h
    obtain ⟨js', hjs, h⟩ := Except.bind_eq_ok_iff.1 h
    cases h
    exact ⟨key, d, ms, rfl, hname, says_of_value d j hj, hjs⟩

/-- `asText` gives the text that a draft says. -/
theorem asText_of_says (d : Draft) (s : String) (h : d.Says (.text s)) : d.asText = .ok s := by
  cases h with
  | text raw _ h => exact h

/-- `asList` gives the texts that a draft says, read one by one. -/
theorem asList_of_says (d : Draft) (ss : List String) (h : d.Says (.array (ss.map .text))) :
    d.asList (·.asText) = .ok ss := by
  cases h with
  | array ds _ h =>
    have hitems : ds.mapM (·.asText) = .ok ss := by
      induction ss generalizing ds with
      | nil =>
        -- no texts, so no items
        cases ds with
        | nil => rfl
        | cons d ds =>
          obtain ⟨j, -, h⟩ := Except.bind_eq_ok_iff.1 h
          obtain ⟨js, -, h⟩ := Except.bind_eq_ok_iff.1 h
          cases h
      | cons s ss ih =>
        -- each item says one of the texts
        cases ds with
        | nil => cases h
        | cons d ds =>
          obtain ⟨j, hj, h⟩ := Except.bind_eq_ok_iff.1 h
          obtain ⟨js, hjs, h⟩ := Except.bind_eq_ok_iff.1 h
          cases h
          rw [List.mapM_cons, asText_of_says d s (says_of_value d _ hj), Except.ok_bind, ih ds hjs]
          rfl
    rw [asList, hitems]
    rfl

end Json.Draft

/-! ## Reading what a record says -/

namespace Json.Field

variable {α : Type}

/-- `Complete fields ms x z`: the members `ms`, read in order by the fields for them, lead from `x` to
`z`. -/
inductive Complete (fields : List (Field α)) : List (String × Json) → α → α → Prop where
  | nil (x : α) : Complete fields [] x x
  | cons (f : Field α) (hf : f ∈ fields) (j : Json) (ms : List (String × Json)) (x y z : α)
    (hread : ∀ d : Draft, d.Says j → f.read x d = .ok y) (h : Complete fields ms y z) :
    Complete fields ((f.name, j) :: ms) x z

/-- `readMembers` of members that `Complete` a record, if no name comes twice. -/
theorem readMembers_of_complete (fields : List (Field α)) (hfields : (fields.map (·.name)).Nodup)
    (ms : List (String × Json)) (x z : α) (h : Complete fields ms x z) (hms : (ms.map (·.1)).Nodup)
    (seen : List String) (hseen : ∀ name ∈ ms.map (·.1), name ∉ seen)
    (ds : List (List UInt8 × Draft)) (hds : Draft.memberValues ds = .ok ms) :
    readMembers fields none seen ds x = .ok z := by
  -- the names seen so far are those of members in front, so no name that is still to come
  induction h generalizing seen ds with
  | nil x =>
    cases Draft.memberValues_eq_nil ds hds
    rfl
  | cons f hf j ms x y z hread _ ih =>
    obtain ⟨key, d, rest, rfl, hkey, hd, hrest⟩ := Draft.exists_of_memberValues_eq_cons ds _ j ms hds
    obtain ⟨hnew, hseen⟩ := List.forall_mem_cons.1 hseen
    obtain ⟨hname, hms⟩ := List.nodup_cons.1 hms
    obtain ⟨f', hf', hsame, hcons⟩ := exists_readMembers_cons fields none key f.name hkey
      (List.mem_map.2 ⟨f, hf, rfl⟩)
    cases List.inj_on_of_nodup_map hfields hf' hf hsame
    rw [hcons, if_neg hnew, hread d hd]
    refine ih hms (f.name :: seen) (fun name hmem hin => ?_) rest hrest
    rcases List.mem_cons.1 hin with rfl | hin
    · exact hname hmem
    · exact hseen name hmem hin

/-- `readRecord` of an object whose members `Complete` a record gives this record. -/
theorem readRecord_of_complete (fields : List (Field α)) (hfields : (fields.map (·.name)).Nodup)
    (ms : List (String × Json)) (hms : (ms.map (·.1)).Nodup) (start x : α)
    (h : Complete fields ms start x) (d : Draft) (hd : d.Says (.object ms)) :
    readRecord fields start d = .ok x := by
  cases hd with
  | object ds _ hds =>
    exact readMembers_of_complete fields hfields ms start x h hms [] (fun _ _ => List.not_mem_nil) ds hds

end Json.Field

/-! ### The parts of a record -/

section
open Json.Field

theorem ObjectMeta.ofDraft_of_says (m : ObjectMeta) (d : Draft) (h : d.Says m.toJson) :
    ofDraft d = .ok m := by
  refine readRecord_of_complete _ (by decide) _ (by simp) _ m ?_ d h
  refine .cons _ List.mem_cons_self (.text m.name) [] _ m m (fun d hd => ?_) (.nil m)
  simp only [Draft.asText_of_says d _ hd, Except.ok_bind]
  rfl

theorem Authentication.ofDraft_of_says (a : Authentication) (d : Draft) (h : d.Says a.toJson) :
    ofDraft d = .ok a := by
  refine readRecord_of_complete _ (by decide) _ (by simp) _ a ?_ d h
  refine .cons _ List.mem_cons_self (.array (a.clientIds.map .text)) [] _ a a (fun d hd => ?_) (.nil a)
  simp only [Draft.asList_of_says d _ hd, Except.ok_bind]
  rfl

theorem CompassMetadata.ofDraft_of_says (c : CompassMetadata) (d : Draft) (h : d.Says c.toJson) :
    ofDraft d = .ok c := by
  refine readRecord_of_complete _ (by decide) _ (by simp) _ c ?_ d h
  refine .cons _ List.mem_cons_self c.authentication.toJson [] _ c c (fun d hd => ?_) (.nil c)
  simp only [Authentication.ofDraft_of_says _ d hd, Except.ok_bind]
  rfl

theorem ApplicationSpec.ofDraft_of_says (s : ApplicationSpec) (d : Draft) (h : d.Says s.toJson) :
    ofDraft d = .ok s := by
  obtain ⟨compassMetadata⟩ := s
  cases compassMetadata with
  | none =>
    -- nothing is written for metadata that is absent, and absent it stays
    exact readRecord_of_complete _ (by decide) [] List.nodup_nil _ _ (.nil _) d h
  | some c =>
    refine readRecord_of_complete _ (by decide) _ (by simp) _ _ ?_ d h
    refine .cons _ List.mem_cons_self c.toJson [] _ ⟨some c⟩ _ (fun d hd => ?_) (.nil _)
    -- metadata that is there is never written as null
    have hread : d.asOption CompassMetadata.ofDraft = some <$> CompassMetadata.ofDraft d := by
      cases hd
      rfl
    simp only [hread, CompassMetadata.ofDraft_of_says c d hd]
    rfl

/-- `Application.ofDraft` of a draft that says a record gives this record. -/
theorem Application.ofDraft_of_says (a : Application) (d : Draft) (h : d.Says a.toJson) :
    ofDraft d = .ok a := by
  refine readRecord_of_complete _ (by decide) _ (by simp) _ a ?_ d h
  refine .cons _ List.mem_cons_self a.metadata.toJson _ _ ⟨a.metadata, {}⟩ a (fun d hd => ?_)
    (.cons _ (List.mem_cons_of_mem _ List.mem_cons_self) a.spec.toJson [] _ a a (fun d hd => ?_)
      (.nil a))
  · -- the metadata, then the specification
    simp only [ObjectMeta.ofDraft_of_says _ d hd, Except.ok_bind]
    rfl
  · simp only [ApplicationSpec.ofDraft_of_says _ d hd, Except.ok_bind]
    rfl

end

/-! ## The members that a record is read from -/

section
open Json.Outline

def ObjectMeta.outline : Outline :=
  .record [("name", .leaf)]

def Authentication.outline : Outline :=
  .record [("clientIds", .leaf)]

def CompassMetadata.outline : Outline :=
  .record [("authentication", Authentication.outline)]

def ApplicationSpec.outline : Outline :=
  .record [("compassMetadata", CompassMetadata.outline)]

def Application.outline : Outline :=
  .record [("metadata", ObjectMeta.outline), ("spec", ApplicationSpec.outline)]

theorem ObjectMeta.describes_ofDraft : outline.Describes ofDraft :=
  describes_readRecord_singleton _ _ _ _ rfl fun _ => describes_leaf _

theorem Authentication.describes_ofDraft : outline.Describes ofDraft :=
  describes_readRecord_singleton _ _ _ _ rfl fun _ => describes_leaf _

theorem CompassMetadata.describes_ofDraft : outline.Describes ofDraft :=
  describes_readRecord_singleton _ _ _ _ rfl fun _ => Authentication.describes_ofDraft.map _

theorem ApplicationSpec.describes_ofDraft : outline.Describes ofDraft :=
  describes_readRecord_singleton _ _ _ _ rfl fun _ => CompassMetadata.describes_ofDraft.asOption.map _

theorem Application.describes_ofDraft : outline.Describes ofDraft := by
  refine describes_readRecord _ _ _ rfl
    (List.forall_mem_cons.2 ⟨fun o ho a => ?metadata, List.forall_mem_singleton.2 fun o ho a => ?spec⟩)
  case metadata =>
    have ho : o = ObjectMeta.outline := by simpa using ho
    exact ho ▸ ObjectMeta.describes_ofDraft.map _
  case spec =>
    have ho : o = ApplicationSpec.outline := by simpa using ho
    exact ho ▸ ApplicationSpec.describes_ofDraft.map _

end

/-! ## Texts of records -/

namespace Application

open Text.Utf8 (bytes)

/-- Records pass through their text, which `Application.write` gives, and through what may be added to
it. -/
structure Faithful : Prop where
  /-- What is written for a record is a JSON text, and is read as this record. -/
  read_back : ∀ a : Application, (∃ d : Draft, d.Spells (bytes a.write) ∧ d.value = .ok a.toJson) ∧
    read (bytes a.write) = .ok a
  /-- Further members that no reader knows, in any objects, make no difference to any text. -/
  adds : ∀ (d d' : Draft) (bs bs' : List UInt8), d.Spells bs → d'.Spells bs' →
    Relation.ReflTransGen outline.AddsMember d d' → read bs' = read bs
  /-- A text in which a known member is there twice is not read at all. -/
  repeats : ∀ (d : Draft) (bs : List UInt8), d.Spells bs → outline.Repeats d →
    ∃ fault, read bs = .error fault

/-- `toJson` of a record is `Canonical`: it holds texts, arrays and objects, and no numbers. -/
theorem canonical_toJson (a : Application) : a.toJson.Canonical := by
  have hmetadata : a.metadata.toJson.Canonical :=
    .object _ (List.forall_mem_singleton.2 (.text _))
  have hspec : a.spec.toJson.Canonical := by
    obtain ⟨_, ⟨compassMetadata⟩⟩ := a
    cases compassMetadata with
    | none => exact .object [] (List.forall_mem_nil _)
    | some c =>
      have hids : (Json.array (c.authentication.clientIds.map .text)).Canonical :=
        .array _ (List.forall_mem_map.2 fun s _ => .text s)
      have hauthentication : c.authentication.toJson.Canonical :=
        .object _ (List.forall_mem_singleton.2 hids)
      have hcompass : c.toJson.Canonical := .object _ (List.forall_mem_singleton.2 hauthentication)
      exact .object _ (List.forall_mem_singleton.2 hcompass)
  exact .object _ (List.forall_mem_cons.2 ⟨hmetadata, List.forall_mem_singleton.2 hspec⟩)

/-- `read` of a text that spells a draft is `ofDraft` of the draft. -/
theorem read_of_spells (d : Draft) (bs : List UInt8) (h : d.Spells bs) : read bs = ofDraft d := by
  rw [read, Json.Document.read_of_spells d bs h, Json.Document.decode]
  cases ofDraft d <;> rfl

/-- `read` and `write` are `Faithful`. -/
theorem faithful : Faithful where
  read_back a := by
    obtain ⟨d, hd, hvalue⟩ := Json.exists_spells_render a.toJson a.canonical_toJson
    refine ⟨⟨d, hd, hvalue⟩, ?_⟩
    rw [write, read_of_spells d _ hd, a.ofDraft_of_says d (d.says_of_value _ hvalue)]
  adds d d' bs bs' hd hd' hadds := by
    rw [read_of_spells d bs hd, read_of_spells d' bs' hd']
    clear hd hd'
    induction hadds with
    | refl => rfl
    -- one member at a time
    | tail _ hadds ih => rw [describes_ofDraft.adds _ _ hadds, ih]
  repeats d bs hd hrepeats := by
    rw [read_of_spells d bs hd]
    exact describes_ofDraft.repeats d hrepeats

-- no reader knows the status, and the name in it is not that of the application
example :
    let text (members : List (String × Json)) := bytes (Json.object members).render
    let status := ("status", Json.object [("name", .null)])
    let metadata := ("metadata", Json.object [("name", .text "a")])
    read (text [status, metadata]) = .ok (.ofClientIds "a" none) ∧
      read (text [metadata, metadata]) = .error .mismatch := by
  decide +kernel

end Application

end CertGate
