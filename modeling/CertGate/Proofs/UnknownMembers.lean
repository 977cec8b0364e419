import CertGate.Application.Json
import CertGate.Proofs.JsonRoundTrip
import Mathlib.Logic.Relation

/-!
# Members that a reader does not know

A record is read from the members of an object that it has fields for. Other members make no difference,
wherever they stand and whatever they say; but a field that is given twice is an error. An outline says
which members the objects of a record and of the records in it are read from.

## Key results

- `Outline.describes_readRecord`: a further member that is not known changes nothing about a record, and
  a known one that is there twice is never accepted
-/

namespace CertGate.Json

/-! ## Outlines -/

/-- The members that a value is read from: none of interest, or those of a record by their names, each
with an `Outline` of its own. -/
inductive Outline where
  | leaf
  | record (fields : List (String × Outline))

namespace Outline

/-- `AddsMember o d d'`: an object in a value, the value itself or one that a known member leads to,
has one more member in `d'`, anywhere among the others, whose name the outline does not have there. -/
inductive AddsMember : Outline → Draft → Draft → Prop where
  | here (fields : List (String × Outline)) (before behind : List (List UInt8 × Draft))
    (unfinished : Option Break) (key : List UInt8) (name : String) (d : Draft)
    (hkey : textOf key = .ok name) (hname : name ∉ fields.map (·.1)) (hd : d.Complete) :
    AddsMember (.record fields) (.object (before ++ behind) unfinished)
      (.object (before ++ (key, d) :: behind) unfinished)
  | inside (fields : List (String × Outline)) (before behind : List (List UInt8 × Draft))
    (unfinished : Option Break) (key : List UInt8) (name : String) (o : Outline) (d d' : Draft)
    (hkey : textOf key = .ok name) (hfield : (name, o) ∈ fields) (h : AddsMember o d d') :
    AddsMember (.record fields) (.object (before ++ (key, d) :: behind) unfinished)
      (.object (before ++ (key, d') :: behind) unfinished)

/-- `Repeats o d`: an object in a value, the value itself or one that a known member leads to, has a
member twice that the outline knows. -/
inductive Repeats : Outline → Draft → Prop where
  | here (fields : List (String × Outline)) (before between behind : List (List UInt8 × Draft))
    (unfinished : Option Break) (key key' : List UInt8) (name : String) (d d' : Draft)
    (hkey : textOf key = .ok name) (hkey' : textOf key' = .ok name) (hname : name ∈ fields.map (·.1)) :
    Repeats (.record fields)
      (.object (before ++ (key, d) :: (between ++ (key', d') :: behind)) unfinished)
  | inside (fields : List (String × Outline)) (before behind : List (List UInt8 × Draft))
    (unfinished : Option Break) (key : List UInt8) (name : String) (o : Outline) (d : Draft)
    (hkey : textOf key = .ok name) (hfield : (name, o) ∈ fields) (h : Repeats o d) :
    Repeats (.record fields) (.object (before ++ (key, d) :: behind) unfinished)

/-- `o.Describes read`: the reader knows just the members of the outline. No other member makes a
difference to it, and none of these may be there twice. -/
structure Describes {α : Type} (o : Outline) (read : Draft → Except Fault α) : Prop where
  adds : ∀ d d', o.AddsMember d d' → read d' = read d
  repeats : ∀ d, o.Repeats d → ∃ fault, read d = .error fault

end Outline

/-! ## Members of a record -/

/-- `Draft.skip` passes over every complete value. -/
theorem Draft.skip_of_complete (d : Draft) (h : d.Complete) : d.skip = .ok () := by
  cases h <;> rfl

namespace Field

variable {α : Type} (fields : List (Field α)) (unfinished : Option Break)

/-- `readMembers` passes over a member whose name no field has. -/
theorem readMembers_cons_of_unknown (seen : List String) (key : List UInt8) (name : String) (d : Draft)
    (behind : List (List UInt8 × Draft)) (x : α) (hkey : textOf key = .ok name)
    (hname : name ∉ fields.map (·.name)) (hd : d.Complete) :
    readMembers fields unfinished seen ((key, d) :: behind) x =
      readMembers fields unfinished seen behind x := by
  have hnone : fields.find? (·.name == name) = none := by
    simp only [List.find?_eq_none, beq_iff_eq]
    exact fun f hf heq => hname (List.mem_map.2 ⟨f, hf, heq⟩)
  rw [readMembers, hkey, Except.ok_bind, hnone]
  simp only [Draft.skip_of_complete d hd, Except.ok_bind]

/-- What `readMembers` makes of members behind others depends on these only through the names that were
seen and the record so far. -/
theorem readMembers_append_congr (before behind behind' : List (List UInt8 × Draft))
    (h : ∀ seen x, readMembers fields unfinished seen behind x =
      readMembers fields unfinished seen behind' x) (seen : List String) (x : α) :
    readMembers fields unfinished seen (before ++ behind) x =
      readMembers fields unfinished seen (before ++ behind') x := by
  induction before generalizing seen x with
  | nil => exact h seen x
  | cons m before ih =>
    obtain ⟨key, d⟩ := m
    simp only [List.cons_append, readMembers, ih]

/-- A name that some field has is found by `find?` as the name of a field. -/
theorem exists_find?_of_known (name : String) (h : name ∈ fields.map (·.name)) :
    ∃ f ∈ fields, f.name = name ∧ fields.find? (·.name == name) = some f := by
  cases hfind : fields.find? (·.name == name) with
  | none =>
    obtain ⟨f, hf, hname⟩ := List.mem_map.1 h
    exact absurd (beq_iff_eq.2 hname) (List.find?_eq_none.1 hfind f hf)
  | some f =>
    have hname := List.find?_some hfind
    exact ⟨f, List.mem_of_find?_eq_some hfind, beq_iff_eq.1 hname, rfl⟩

/-- `readMembers` reads a member by the field of its name, unless this name has been seen before. -/
theorem exists_readMembers_cons (key : List UInt8) (name : String) (hkey : textOf key = .ok name)
    (hname : name ∈ fields.map (·.name)) :
    ∃ f ∈ fields, f.name = name ∧ ∀ (seen : List String) (d : Draft) (behind : List (List UInt8 × Draft))
      (x : α), readMembers fields unfinished seen ((key, d) :: behind) x =
        if name ∈ seen then .error .mismatch
        else f.read x d >>= readMembers fields unfinished (name :: seen) behind := by
  obtain ⟨f, hf, rfl, hfind⟩ := exists_find?_of_known fields name hname
  refine ⟨f, hf, rfl, fun seen d behind x => ?_⟩
  rw [readMembers, hkey, Except.ok_bind, hfind]
  simp only [List.contains_iff_mem]

/-- `readMembers` fails if it does so on what comes behind some members, whatever has been seen by
then. -/
theorem exists_error_append (before behind : List (List UInt8 × Draft)) (seen : List String)
    (h : ∀ more x, ∃ fault, readMembers fields unfinished (more ++ seen) behind x = .error fault)
    (x : α) : ∃ fault, readMembers fields unfinished seen (before ++ behind) x = .error fault := by
  induction before generalizing seen x with
  | nil => exact h [] x
  | cons m before ih =>
    obtain ⟨key, d⟩ := m
    rw [List.cons_append, readMembers]
    cases textOf key with
    -- a key that is no text fails at once
    | error fault => exact ⟨fault, rfl⟩
    | ok name =>
      rw [Except.ok_bind]
      cases fields.find? (·.name == name) with
      -- an unknown member is passed over, or fails
      | none =>
        cases d.skip with
        | error fault => exact ⟨fault, rfl⟩
        | ok _ => exact ih seen h x
      -- a known member adds its name to those that were seen
      | some f =>
        dsimp only
        split
        · exact ⟨.mismatch, rfl⟩
        · cases f.read x d with
          | error fault => exact ⟨fault, rfl⟩
          | ok y =>
            refine ih (f.name :: seen) (fun more z => ?_) y
            rw [List.append_cons]
            exact h (more ++ [f.name]) z

end Field

namespace Outline

variable {α β : Type}

/-- The outline `leaf` knows no members, so it describes every reader. -/
theorem describes_leaf (read : Draft → Except Fault α) : leaf.Describes read where
  adds _ _ h := nomatch h
  repeats _ h := nomatch h

/-- An outline that describes a reader describes it with a function applied to what it reads, by `map`. -/
theorem Describes.map {o : Outline} {read : Draft → Except Fault α} (h : o.Describes read) (g : α → β) :
    o.Describes fun d => do return g (← read d) where
  adds d d' hadds := by rw [h.adds d d' hadds]
  repeats d hrepeats := by
    obtain ⟨fault, hfault⟩ := h.repeats d hrepeats
    exact ⟨fault, by rw [hfault]; rfl⟩

/-- An outline of a record describes its reader under `Draft.asOption`, which takes null for no record. -/
theorem Describes.asOption {outlines : List (String × Outline)} {read : Draft → Except Fault α}
    (h : (record outlines).Describes read) : (record outlines).Describes (Draft.asOption read) where
  adds d d' hadds := by
    have heq := h.adds d d' hadds
    cases hadds <;> simp only [Draft.asOption, heq]
  repeats d hrepeats := by
    obtain ⟨fault, hfault⟩ := h.repeats d hrepeats
    refine ⟨fault, ?_⟩
    cases hrepeats <;> simp only [Draft.asOption, hfault] <;> rfl

/-- An outline describes `readRecord` if its names are those of the fields, and its outline for each of
them describes the reader of this field. -/
theorem describes_readRecord (fields : List (Field α)) (start : α) (outlines : List (String × Outline))
    (hnames : fields.map (·.name) = outlines.map (·.1))
    (hfields : ∀ f ∈ fields, ∀ o, (f.name, o) ∈ outlines → ∀ x, o.Describes (f.read x)) :
    (record outlines).Describes (Field.readRecord fields start) where
  adds d d' h := by
    cases h with
    -- the member stands in the record itself and is passed over
    | here _ before behind unfinished key name d hkey hname hd =>
      rw [← hnames] at hname
      exact Field.readMembers_append_congr fields unfinished before _ _ (fun seen x =>
        Field.readMembers_cons_of_unknown fields unfinished seen key name d behind x hkey hname hd)
        [] start
    -- the member stands in a part, which its field reads as it did before
    | inside _ before behind unfinished key name o d d' hkey hfield h =>
      have hname : name ∈ fields.map (·.name) := hnames ▸ List.mem_map.2 ⟨_, hfield, rfl⟩
      obtain ⟨f, hf, rfl, hread⟩ := Field.exists_readMembers_cons fields unfinished key name hkey hname
      refine Field.readMembers_append_congr fields unfinished before _ _ (fun seen x => ?_) [] start
      rw [hread, hread, (hfields f hf o hfield x).adds d d' h]
  repeats d h := by
    cases h with
    -- the second of two equal members is refused, or what stands in front of it has failed
    | here _ before between behind unfinished key key' name d d' hkey hkey' hname =>
      rw [← hnames] at hname
      obtain ⟨f, -, -, hread⟩ := Field.exists_readMembers_cons fields unfinished key name hkey hname
      obtain ⟨_, -, -, hread'⟩ := Field.exists_readMembers_cons fields unfinished key' name hkey' hname
      refine Field.exists_error_append fields unfinished before _ [] (fun more x => ?_) start
      rw [hread]
      split
      · exact ⟨.mismatch, rfl⟩
      cases f.read x d with
      | error fault => exact ⟨fault, rfl⟩
      | ok y =>
        -- now that the first has been read, the second is refused, whatever is between them
        refine Field.exists_error_append fields unfinished between _ _ (fun more' z => ?_) y
        exact ⟨.mismatch, by rw [hread', if_pos (by simp)]⟩
    -- the field of the part with the repetition fails
    | inside _ before behind unfinished key name o d hkey hfield h =>
      have hname : name ∈ fields.map (·.name) := hnames ▸ List.mem_map.2 ⟨_, hfield, rfl⟩
      obtain ⟨f, hf, rfl, hread⟩ := Field.exists_readMembers_cons fields unfinished key name hkey hname
      refine Field.exists_error_append fields unfinished before _ [] (fun more x => ?_) start
      obtain ⟨fault, hfault⟩ := (hfields f hf o hfield x).repeats d h
      rw [hread, hfault]
      split
      · exact ⟨.mismatch, rfl⟩
      · exact ⟨fault, rfl⟩

/-- An outline of one member describes `readRecord` of one field, if it describes the reader of the
field. -/
theorem describes_readRecord_singleton (f : Field α) (start : α) (name : String) (o : Outline)
    (hname : f.name = name) (h : ∀ x, o.Describes (f.read x)) :
    (record [(name, o)]).Describes (Field.readRecord [f] start) := by
  refine describes_readRecord _ _ _ (congrArg (fun s => [s]) hname)
    (List.forall_mem_singleton.2 fun o' ho' x => ?_)
  cases List.mem_singleton.1 ho'
  exact h x

end Outline

end CertGate.Json
