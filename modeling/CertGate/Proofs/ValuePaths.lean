import CertGate.Proofs.AssocList
import CertGate.Text.Pieces
import CertGate.Value

/-!
# Paths into values

A path of keys leads through nested dictionaries to a value. What is found at its end is told for values
that are laid over others: what is found in the upper one counts, laid over what is found in the lower
one, as long as nothing but dictionaries stands in the way.

## Key results

- `lookup_mergeMembers`: a member of merged dictionaries
- `find?_merge`: the end of a path in merged values
- `clear_merge`: where nothing stood in the way before, nothing does after merging
- `find?_nest`, `clear_nest`: the same for a single value under a path of its own
-/

namespace CertGate.Value

/-! ## Values over others -/

/-- `isDict v`: the value is a dictionary. -/
def isDict : Value → Bool
  | .dict _ => true
  | _ => false

/-- A value that is no dictionary takes the place of what `merge` lays it over. -/
theorem merge_of_not_dict (a b : Value) (h : b.isDict = false) : a.merge b = b := by
  cases b with
  | dict members => cases h
  | _ => rfl

/-- In `merge`, a dictionary takes the place of a value that is none. -/
theorem merge_dict_of_not_dict (a : Value) (members : List (String × Value))
    (h : a.isDict = false) : a.merge (.dict members) = .dict members := by
  cases a with
  | dict members => cases h
  | _ => rfl

/-- What `merge` makes is a dictionary exactly if the upper value is one. -/
theorem isDict_merge (a b : Value) : (a.merge b).isDict = b.isDict := by
  cases b with
  | dict members => cases a <;> rfl
  | _ => rfl

/-- The value `v`, merged over what was found, if anything was. -/
def laidOver (v : Value) (found : Option Value) : Value :=
  found.elim v (·.merge v)

theorem isDict_laidOver (v : Value) (found : Option Value) :
    (v.laidOver found).isDict = v.isDict := by
  cases found with
  | none => rfl
  | some w => exact w.isDict_merge v

/-- A value that is no dictionary stays as it is, whatever it is `laidOver`. -/
theorem laidOver_of_not_dict (v : Value) (found : Option Value) (h : v.isDict = false) :
    v.laidOver found = v := by
  cases found with
  | none => rfl
  | some w => exact w.merge_of_not_dict v h

/-! ## Members -/

/-- `Ordered members`: the keys are in ascending order, so each one is there once. -/
def Ordered (members : List (String × Value)) : Prop :=
  (members.map (·.1)).Pairwise (· < ·)

theorem Ordered.nodup {members : List (String × Value)} (h : Ordered members) :
    (members.map (·.1)).Nodup := by
  refine List.Pairwise.imp ?_ h
  rintro a _ hlt rfl
  exact String.lt_irrefl a hlt

/-- `insertMember` puts a member where `lookup` finds it, and all others are found as before. -/
theorem lookup_insertMember (key k : String) (v : Value) (members : List (String × Value)) :
    (insertMember key v members).lookup k = if k = key then some v else members.lookup k := by
  induction members with
  | nil => rw [insertMember, List.lookup_cons_ite]
  | cons member rest ih =>
    obtain ⟨j, w⟩ := member
    rw [insertMember]
    split
    · rw [List.lookup_cons_ite]
    · split
      · next hkey =>
        rw [List.lookup_cons_ite, List.lookup_cons_ite, hkey]
        split <;> rfl
      · -- the place is further behind, and the first member is found as before
        next hne =>
        rw [List.lookup_cons_ite, List.lookup_cons_ite, ih]
        by_cases hk : k = j
        · rw [if_pos hk, if_neg (hk ▸ Ne.symm hne), if_pos hk]
        · rw [if_neg hk, if_neg hk]

/-- `insertMember` adds no key but that of the member. -/
theorem mem_insertMember (key k : String) (v : Value) (members : List (String × Value))
    (h : k ∈ (insertMember key v members).map (·.1)) : k = key ∨ k ∈ members.map (·.1) := by
  induction members with
  | nil => exact Or.inl (by simpa [insertMember] using h)
  | cons member rest ih =>
    obtain ⟨j, w⟩ := member
    rw [insertMember] at h
    split at h
    · simpa using h
    · split at h
      · next hkey =>
        subst hkey
        exact Or.inr h
      · rw [List.map_cons, List.mem_cons] at h ⊢
        obtain hj | hrest := h
        · exact Or.inr (Or.inl hj)
        · exact (ih hrest).imp_right Or.inr

/-- `insertMember` keeps members in order. -/
theorem ordered_insertMember (key : String) (v : Value) (members : List (String × Value))
    (h : Ordered members) : Ordered (insertMember key v members) := by
  induction members with
  | nil => simp [insertMember, Ordered]
  | cons member rest ih =>
    obtain ⟨j, w⟩ := member
    obtain ⟨hfirst, hrest⟩ := List.pairwise_cons.1 h
    rw [insertMember]
    split
    · -- in front of all others
      next hlt =>
      refine List.pairwise_cons.2 ⟨fun k hk => ?_, h⟩
      obtain rfl | hk := List.mem_cons.1 hk
      · exact hlt
      · exact String.lt_trans hlt (hfirst k hk)
    · -- in the place of a member with its key, or further behind
      next hlt =>
      split
      · next hkey =>
        subst hkey
        exact h
      · next hne =>
        refine List.pairwise_cons.2 ⟨fun k hk => ?_, ih hrest⟩
        obtain rfl | hk := mem_insertMember key k v rest hk
        · exact Std.lt_of_le_of_ne (String.not_lt.1 hlt) (Ne.symm hne)
        · exact hfirst k hk

/-- `mergeMembers` keeps members in order. -/
theorem ordered_mergeMembers (below above : List (String × Value)) (h : Ordered below) :
    Ordered (mergeMembers below above) := by
  induction above generalizing below with
  | nil => rwa [mergeMembers]
  | cons member above ih =>
    rw [mergeMembers]
    exact ih _ (ordered_insertMember _ _ below h)

/-- `mergeMembers` has under a key the member of the upper dictionary, laid over that of the lower one. -/
theorem lookup_mergeMembers (below above : List (String × Value)) (k : String)
    (h : (above.map (·.1)).Nodup) :
    (mergeMembers below above).lookup k =
      match above.lookup k with
      | none => below.lookup k
      | some v => some (v.laidOver (below.lookup k)) := by
  induction above generalizing below with
  | nil => rw [mergeMembers, List.lookup_nil]
  | cons member above ih =>
    obtain ⟨key, v⟩ := member
    rw [List.map_cons, List.nodup_cons] at h
    rw [mergeMembers, ih _ h.2, lookup_insertMember, List.lookup_cons]
    by_cases hk : k = key
    · -- the key does not come again, so what was merged stays
      rw [if_pos hk, hk, List.lookup_eq_none_of_not_mem above key h.1, beq_self_eq_true]
      cases below.lookup key <;> rfl
    · rw [if_neg hk, beq_false_of_ne hk]

/-! ## Paths -/

/-- The value at the end of a path of keys, by one `get?` after the other, if the path leads to one. -/
def find? (v : Value) : List String → Option Value
  | [] => some v
  | key :: path => (v.get? key).bind (·.find? path)

theorem find?_singleton (v : Value) (key : String) : v.find? [key] = v.get? key :=
  Option.bind_fun_some _

/-- `Clear path v`: along the path, as far as it leads, there is nothing but ordered dictionaries. -/
def Clear : List String → Value → Prop
  | [], _ => True
  | key :: path, v =>
    ∃ members, v = .dict members ∧ Ordered members ∧
      ∀ w, members.lookup key = some w → Clear path w

/-- For a value that is no dictionary, `find?` leads nowhere. -/
theorem find?_of_not_dict (v : Value) (key : String) (path : List String) (h : v.isDict = false) :
    v.find? (key :: path) = none := by
  cases v with
  | dict members => cases h
  | _ => rfl

/-- A path leads through the member of its first key, which is a `lookup`. -/
theorem find?_dict (members : List (String × Value)) (key : String) (path : List String) :
    (dict members).find? (key :: path) = (members.lookup key).bind (·.find? path) :=
  rfl

/-- What `path` leads to in the upper of two merged values, `b`, counts, laid over what it leads to in
the lower one. -/
theorem find?_merge (path : List String) (a b : Value) (h : Clear path b) :
    (a.merge b).find? path =
      match b.find? path with
      | none => a.find? path
      | some v => some (v.laidOver (a.find? path)) := by
  induction path generalizing a b with
  | nil => rfl
  | cons key path ih =>
    obtain ⟨above, rfl, hordered, hclear⟩ := h
    cases ha : a.isDict with
    -- nothing is below: a value that is no dictionary gives way
    | false =>
      rw [merge_dict_of_not_dict a above ha, find?_of_not_dict a key path ha]
      cases (dict above).find? (key :: path) <;> rfl
    -- two dictionaries: their members are merged key by key
    | true =>
      cases a with
      | dict below =>
        rw [merge, find?_dict, find?_dict, find?_dict, lookup_mergeMembers _ _ _ hordered.nodup]
        cases hv : above.lookup key with
        | none => rfl
        | some v =>
          cases below.lookup key with
          | none =>
            simp only [laidOver, Option.elim_none, Option.bind_some, Option.bind_none]
            cases v.find? path <;> rfl
          | some w =>
            simp only [laidOver, Option.elim_some, Option.bind_some]
            exact ih w v (hclear v hv)
      | _ => cases ha

/-- Merging values that are `Clear` along a path puts nothing in its way. -/
theorem clear_merge (path : List String) (a b : Value) (ha : Clear path a) (hb : Clear path b) :
    Clear path (a.merge b) := by
  induction path generalizing a b with
  | nil => trivial
  | cons key path ih =>
    obtain ⟨below, rfl, hbelow, hclear⟩ := ha
    obtain ⟨above, rfl, habove, hclear'⟩ := hb
    refine ⟨_, merge.eq_1 above below, ordered_mergeMembers below above hbelow, fun w hw => ?_⟩
    rw [lookup_mergeMembers below above key habove.nodup] at hw
    -- the member comes from one of the dictionaries, or from both
    cases hv : above.lookup key with
    | none =>
      rw [hv] at hw
      exact hclear w hw
    | some v =>
      rw [hv] at hw
      cases hu : below.lookup key with
      | none =>
        rw [hu] at hw
        cases hw
        exact hclear' v hv
      | some u =>
        rw [hu] at hw
        cases hw
        exact ih u v (hclear u hu) (hclear' v hv)

theorem clear_dict_nil (path : List String) : Clear path (.dict []) := by
  cases path with
  | nil => trivial
  | cons key path => exact ⟨[], rfl, List.Pairwise.nil, fun w hw => nomatch hw⟩

/-! ## Values under paths of their own -/

/-- A value under a path of its own, by `nest`, is not in the way of another path, unless that one
leads beyond the value. -/
theorem clear_nest (path own : List String) (v : Value)
    (h : ∀ key rest, path ≠ own ++ key :: rest) : Clear path (nest own v) := by
  -- the value stands at the top, where only the empty path ends
  induction own generalizing path with
  | nil =>
    cases path with
    | nil => trivial
    | cons key rest => exact absurd rfl (h key rest)
  | cons j own ih =>
    cases path with
    | nil => trivial
    | cons key path =>
      refine ⟨[(j, nest own v)], rfl, List.pairwise_singleton _ _, fun w hw => ?_⟩
      rw [List.lookup_cons] at hw
      -- the paths go on together, or part at this key
      by_cases hkey : key = j
      · rw [beq_iff_eq.2 hkey] at hw
        cases hw
        exact ih path fun k rest heq => h k rest (by rw [hkey, heq, List.cons_append])
      · rw [beq_false_of_ne hkey] at hw
        cases hw

/-- A value under the path `own` is found at the end of that path. Further up there is what remains of
the path around it. -/
theorem find?_nest (path own : List String) (v : Value)
    (h : ∀ key rest, path ≠ own ++ key :: rest) :
    (nest own v).find? path = (Text.after? path own).map (nest · v) := by
  induction path generalizing own with
  | nil => rfl
  | cons key path ih =>
    cases own with
    | nil => exact absurd rfl (h key path)
    | cons j own =>
      show ([(j, nest own v)].lookup key).bind (·.find? path) = _
      rw [List.lookup_cons, Text.after?]
      by_cases hkey : key = j
      · rw [beq_iff_eq.2 hkey, if_pos hkey]
        exact ih own fun k rest heq => h k rest (by rw [hkey, heq, List.cons_append])
      · rw [beq_false_of_ne hkey, if_neg hkey]
        rfl

end CertGate.Value
