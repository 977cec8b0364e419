import CertGate.Proofs.ValuePaths
import Mathlib.Data.List.Basic

/-!
# Reading records

A record is read field by field, from the members of a dictionary or from the items of a list. Every
field has a part of the record to itself, so this part is what the field's own value says, or what the
record started with if there is no such value. No other field matters.

## Key results

- `readRecord_item`: a part of a record that was read
- `readOr_bind`: a part of a part, when the record in between has a fallback too
- `lookup_asDict`: an entry of a table that was read
-/

namespace CertGate.Value

variable {α β γ : Type}

/-- What a field called `name` has to be read from: the member of a dictionary, or the item of a list
at the field's place. -/
def item? (v : Value) (name : String) (place : Nat) : Option Value :=
  match v with
  | .dict members => members.lookup name
  | .list items => items[place]?
  | _ => none

/-- What `read` makes of a value, or a fallback where there is none. -/
def readOr (fallback : β) (read : Value → Option β) : Option Value → Option β
  | none => some fallback
  | some v => read v

namespace Field

/-- `f.Keeps part`: reading the field leaves this part of the record as it is. -/
def Keeps (f : Field α) (part : α → β) : Prop :=
  ∀ x v y, f.read x v = some y → part y = part x

/-- `f.Sets part read`: reading the field sets this part of the record to what `read` makes of its
value. -/
def Sets (f : Field α) (part : α → β) (read : Value → Option β) : Prop :=
  ∀ x v y, f.read x v = some y → read v = some (part y)

/-- A field that reads a value and puts it into the record by `update` keeps every part that `update`
does. -/
theorem keeps_update {name : String} {read : Value → Option γ} {update : α → γ → α} {part : α → β}
    (h : ∀ x a, part (update x a) = part x) :
    Keeps ⟨name, fun x v => do return update x (← read v)⟩ part := by
  intro x v y hread
  obtain ⟨a, -, hy⟩ := Option.bind_eq_some_iff.1 hread
  rw [← Option.some.inj hy, h]

/-- A field that reads a value and puts it into the record by `update` sets the part where `update`
puts it. -/
theorem sets_update {name : String} {read : Value → Option β} {update : α → β → α} {part : α → β}
    (h : ∀ x a, part (update x a) = a) :
    Sets ⟨name, fun x v => do return update x (← read v)⟩ part read := by
  intro x v y hread
  obtain ⟨a, ha, hy⟩ := Option.bind_eq_some_iff.1 hread
  rw [← Option.some.inj hy, h, ha]

end Field

/-! ## One field among others -/

/-- A field that `Keeps` a part does so too where it may have no value to read. -/
theorem Field.Keeps.readOr {f : Field α} {part : α → β} (h : f.Keeps part) {x y : α}
    {given : Option Value} (hread : readOr x (f.read x) given = some y) : part y = part x := by
  cases given with
  | none => rw [Option.some.inj hread]
  | some v => exact h x v y hread

/-- A field that `Sets` a part does so too where it may have no value to read, and the part stays as it
was. -/
theorem Field.Sets.readOr {f : Field α} {part : α → β} {read : Value → Option β} (h : f.Sets part read)
    {x y : α} {given : Option Value} (hread : readOr x (f.read x) given = some y) :
    readOr (part x) read given = some (part y) := by
  cases given with
  | none => rw [Value.readOr, Option.some.inj hread]
  | some v => exact h x v y hread

/-- `readMembers` reads the first field from the member of its name, then the other fields. -/
theorem readMembers_cons {members : List (String × Value)} {f : Field α} {fields : List (Field α)}
    {x y : α} (h : readMembers members (f :: fields) x = some y) :
    ∃ z, readOr x (f.read x) (members.lookup f.name) = some z ∧
      readMembers members fields z = some y := by
  obtain ⟨z, hz, hrest⟩ := Option.bind_eq_some_iff.1 h
  refine ⟨z, ?_, hrest⟩
  dsimp only at hz
  split at hz
  · next hmember => rw [hmember, readOr, hz]
  · next v hmember => rw [hmember, readOr, hz]

/-- Fields that each keep a part of the record keep it in `readMembers`, whatever members there are. -/
theorem readMembers_keeps (members : List (String × Value)) (fields : List (Field α)) (part : α → β)
    (x y : α) (hkeep : fields.Forall (·.Keeps part)) (h : readMembers members fields x = some y) :
    part y = part x := by
  induction fields generalizing x with
  | nil => rw [Option.some.inj h]
  | cons f fields ih =>
    rw [List.forall_cons] at hkeep
    obtain ⟨z, hz, hrest⟩ := readMembers_cons h
    rw [ih z hkeep.2 hrest, hkeep.1.readOr hz]

/-- Fields that each keep a part of the record keep it in `readItems`, whatever items there are. -/
theorem readItems_keeps (fit : Fit) (items : List Value) (fields : List (Field α)) (part : α → β)
    (x y : α) (hkeep : fields.Forall (·.Keeps part)) (h : readItems fit fields items x = some y) :
    part y = part x := by
  induction fields generalizing items x with
  | nil =>
    cases items with
    -- all fields are read; items that are left over change nothing where they are let through
    | nil => rw [Option.some.inj h]
    | cons v items =>
      rw [readItems, Option.ite_none_right_eq_some] at h
      rw [Option.some.inj h.2]
  | cons f fields ih =>
    rw [List.forall_cons] at hkeep
    cases items with
    | nil => rw [Option.some.inj h]
    | cons v items =>
      obtain ⟨z, hz, hrest⟩ := Option.bind_eq_some_iff.1 h
      rw [ih items z hkeep.2 hrest, hkeep.1 x v z hz]

variable {part : α → β} {read : Value → Option β}

/-- `readMembers` makes a part of the record from the member of the one field that sets this part. -/
theorem readMembers_item (members : List (String × Value)) (fields : List (Field α)) (f : Field α)
    (place : Nat) (x y : α) (hf : fields[place]? = some f) (hsets : f.Sets part read)
    (hkeep : (fields.eraseIdx place).Forall (·.Keeps part))
    (h : readMembers members fields x = some y) :
    readOr (part x) read (members.lookup f.name) = some (part y) := by
  induction fields generalizing place x with
  | nil => cases hf
  | cons g fields ih =>
    obtain ⟨z, hz, hrest⟩ := readMembers_cons h
    cases place with
    -- the field itself: those behind it keep what it sets
    | zero =>
      cases hf
      rw [readMembers_keeps members fields part z y hkeep hrest]
      exact hsets.readOr hz
    | succ place =>
      -- a field in front of it, which keeps the part
      rw [List.eraseIdx_cons_succ, List.forall_cons] at hkeep
      rw [← hkeep.1.readOr hz]
      exact ih place z hf hkeep.2 hrest

/-- `readItems` makes a part of the record from the item at the place of the one field that sets this
part. -/
theorem readItems_item (fit : Fit) (items : List Value) (fields : List (Field α)) (f : Field α)
    (place : Nat) (x y : α) (hf : fields[place]? = some f) (hsets : f.Sets part read)
    (hkeep : (fields.eraseIdx place).Forall (·.Keeps part))
    (h : readItems fit fields items x = some y) :
    readOr (part x) read items[place]? = some (part y) := by
  induction fields generalizing items place x with
  | nil => cases hf
  | cons g fields ih =>
    cases items with
    -- no items are left, for this field or for any behind it
    | nil =>
      rw [List.getElem?_nil, readOr, Option.some.inj h]
    | cons v items =>
      obtain ⟨z, hz, hrest⟩ := Option.bind_eq_some_iff.1 h
      cases place with
      | zero =>
        cases hf
        have hpart := readItems_keeps fit items fields part z y hkeep hrest
        rw [List.getElem?_cons_zero, readOr, hpart, hsets x v z hz]
      | succ place =>
        rw [List.eraseIdx_cons_succ, List.forall_cons] at hkeep
        rw [List.getElem?_cons_succ, ← hkeep.1 x v z hz]
        exact ih items place z hf hkeep.2 hrest

/-- `readRecord` makes a part of the record from the value of the one field that sets it, or leaves it
as the record started. -/
theorem readRecord_item {fit : Fit} {fields : List (Field α)} {start x : α} {v : Value}
    (h : readRecord fit fields start v = some x) (place : Nat) (f : Field α)
    (hf : fields[place]? = some f) (hsets : f.Sets part read)
    (hkeep : (fields.eraseIdx place).Forall (·.Keeps part)) :
    readOr (part start) read (v.item? f.name place) = some (part x) := by
  cases v with
  | dict members => exact readMembers_item members fields f place start x hf hsets hkeep h
  | list items => exact readItems_item fit items fields f place start x hf hsets hkeep h
  | _ => cases h

/-! ## Parts of parts, and tables -/

/-- Where a record within a record falls back as a whole, so do its parts: each is read from the value
`within` the one given. -/
theorem readOr_bind {readWhole : Value → Option α} {start x : α} {given : Option Value}
    (within : Value → Option Value) (hpart : ∀ v y, readWhole v = some y →
      readOr (part start) read (within v) = some (part y))
    (h : readOr start readWhole given = some x) :
    readOr (part start) read (given.bind within) = some (part x) := by
  cases given with
  | none => rw [Option.bind_none, readOr, Option.some.inj h]
  | some v => exact hpart v x h

/-- `asDict` reads the entry of a key from the member of this key. -/
theorem lookup_asDict {readEntry : Value → Option γ} {v : Value} {table : List (String × γ)}
    (key : String) (h : v.asDict readEntry = some table) :
    readOr none (fun w => (readEntry w).map some) (v.get? key) = some (table.lookup key) := by
  cases v with
  | dict members =>
    rw [asDict] at h
    rw [get?]
    -- the table has the keys of the members, in their order
    induction members generalizing table with
    | nil =>
      cases h
      rfl
    | cons member members ih =>
      rw [List.mapM_cons] at h
      obtain ⟨entry, hentry, h⟩ := Option.bind_eq_some_iff.1 h
      obtain ⟨rest, hrest, h⟩ := Option.bind_eq_some_iff.1 h
      obtain ⟨x, hx, rfl⟩ := Option.map_eq_some_iff.1 hentry
      cases h
      rw [List.lookup_cons_ite, List.lookup_cons_ite]
      split
      · rw [readOr, hx, Option.map_some]
      · exact ih hrest
  | _ => cases h

end CertGate.Value
