/-!
# Untyped values

What the sources of a configuration say, before it is known what they mean: scalars, lists and
dictionaries. Dictionaries are kept in the order of their keys. `merge` lays one value over another;
records are read from dictionaries or, by position, from lists.
-/

namespace CertGate

/-- A value of the `Config`, as it was written down. -/
inductive Value where
  | null
  | flag (b : Bool)
  | letter (c : Char)
  | text (s : String)
  | int (n : Int)
  | decimal (written : String)
  | list (items : List Value)
  | dict (members : List (String × Value))
  deriving Repr, Inhabited

namespace Value

/-- Puts a member in its place among sorted ones; one of the same key gives way. -/
def insertMember (key : String) (v : α) : List (String × α) → List (String × α)
  | [] => [(key, v)]
  | (k, w) :: rest =>
    if key < k then (key, v) :: (k, w) :: rest
    else if key = k then (key, v) :: rest
    else (k, w) :: insertMember key v rest

/-- A dictionary of these members, put in order by `insertMember`; of several for one key, the last
counts. -/
def ofMembers (members : List (String × Value)) : Value :=
  .dict (members.foldl (fun ms (k, v) => insertMember k v ms) [])

/-- The member of `key`, if the value is a dictionary that has one. -/
def get? (v : Value) (key : String) : Option Value :=
  match v with
  | .dict members => members.lookup key
  | _ => none

mutual

/-- Lays a value over the one `below`. Dictionaries are merged key by key; anything else gives way. -/
def merge (below : Value) : Value → Value
  | .dict above =>
    match below with
    | .dict members => .dict (mergeMembers members above)
    | _ => .dict above
  | v => v

/-- Lays members over those `below`, one after the other. -/
def mergeMembers (below : List (String × Value)) :
    List (String × Value) → List (String × Value)
  | [] => below
  | (key, v) :: rest =>
    let merged := match below.lookup key with
      | some w => merge w v
      | none => v
    mergeMembers (insertMember key merged below) rest

end

/-- The value `v` under a path of keys, with nothing beside it. -/
def nest (path : List String) (v : Value) : Value :=
  path.foldr (fun key v => .dict [(key, v)]) v

/-! ## Reading -/

/-- How closely a `Value` has to fit the record that is read from it. -/
inductive Fit where
  /-- A list may have more items than a record has fields, and a letter counts as a text. -/
  | loose
  | exact
  deriving DecidableEq, Repr

/-- Reads a text. -/
def asText (fit : Fit) : Value → Option String
  | .text s => some s
  | .letter c => if fit = .loose then some (String.singleton c) else none
  | _ => none

/-- Reads a flag. -/
def asFlag : Value → Option Bool
  | .flag b => some b
  | _ => none

/-- Reads a number of 16 bits. -/
def asUInt16 : Value → Option UInt16
  | .int n => if 0 ≤ n ∧ n < 65536 then some n.toNat.toUInt16 else none
  | _ => none

/-- Reads a value that may be null, otherwise by `read`. -/
def asOption (read : Value → Option α) : Value → Option (Option α)
  | .null => some none
  | v => (read v).map some

/-- Reads a list, each of its items by `read`. -/
def asList (read : Value → Option α) : Value → Option (List α)
  | .list items => items.mapM read
  | _ => none

/-- Reads a dictionary, each of its members by `read`. -/
def asDict (read : Value → Option α) : Value → Option (List (String × α))
  | .dict members => members.mapM fun (key, v) => (read v).map (key, ·)
  | _ => none

/-- A field of a record of type `α`: its name, and how the record is completed by its value. -/
structure Field (α : Type) where
  name : String
  read : α → Value → Option α

/-- Reads the values of `fields` in order; those that are missing at the end leave the record as it is. -/
def readItems (fit : Fit) : List (Field α) → List Value → α → Option α
  | _, [], x => some x
  | [], _ :: _, x => if fit = .loose then some x else none
  | f :: fs, v :: vs, x => do readItems fit fs vs (← f.read x v)

/-- Reads the fields for which the dictionary has `members`, in the order of the fields. -/
def readMembers (members : List (String × Value)) (fields : List (Field α)) (x : α) : Option α :=
  fields.foldlM (fun x f =>
    match members.lookup f.name with
    | none => some x
    | some v => f.read x v) x

/-- Reads a record, with `start` for what it is when no field is given. Members that are no fields are
passed over. -/
def readRecord (fit : Fit) (fields : List (Field α)) (start : α) : Value → Option α
  | .dict members => readMembers members fields start
  | .list items => readItems fit fields items start
  | _ => none

end Value

end CertGate
