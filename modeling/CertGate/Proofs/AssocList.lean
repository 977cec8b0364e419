/-!
# Looking up filtered lists of pairs

General facts about `List.lookup` in a list that was filtered by key or by value. The entries of a
cache and the fields of a header are such lists.
-/

namespace List

variable {α β : Type} [BEq α] [LawfulBEq α]

/-- The first pair is found under its key and hides nothing under others, as `lookup` sees it. -/
theorem lookup_cons_ite [DecidableEq α] (k j : α) (v : β) (l : List (α × β)) :
    ((j, v) :: l).lookup k = if k = j then some v else l.lookup k := by
  rw [lookup_cons]
  by_cases hk : k = j
  · rw [if_pos hk, beq_iff_eq.2 hk]
  · rw [if_neg hk, beq_false_of_ne hk]

/-- `lookup` finds nothing under a key that does not come. -/
theorem lookup_eq_none_of_not_mem (l : List (α × β)) (k : α) (h : k ∉ l.map (·.1)) :
    l.lookup k = none := by
  rw [lookup_eq_none_iff]
  intro p hp
  rw [bne_iff_ne]
  exact fun heq => h (heq ▸ mem_map_of_mem hp)

/-- `lookup` finds nothing under a key whose pairs `filter` has dropped. -/
theorem lookup_filter_ne_self (l : List (α × β)) (k : α) :
    (l.filter (·.1 != k)).lookup k = none := by
  apply lookup_eq_none_of_not_mem
  simp

/-- Filtering by key leaves what `lookup` finds under the keys that are kept. -/
theorem lookup_filter_fst (l : List (α × β)) (q : α → Bool) (k : α) (hk : q k = true) :
    (l.filter fun p => q p.1).lookup k = l.lookup k := by
  induction l with
  | nil => rfl
  | cons p l ih =>
    rw [filter_cons, lookup_cons]
    by_cases hp : k = p.1
    · rw [if_pos (hp ▸ hk), lookup_cons, beq_iff_eq.2 hp]
    · -- a pair of another key is passed over, whether it was kept or not
      rw [beq_false_of_ne hp]
      split
      · rw [lookup_cons, beq_false_of_ne hp, ih]
      · exact ih

/-- Dropping the pairs of one key leaves what `lookup` finds under the others. -/
theorem lookup_filter_ne_of_ne (l : List (α × β)) (k j : α) (h : j ≠ k) :
    (l.filter (·.1 != k)).lookup j = l.lookup j :=
  lookup_filter_fst l (· != k) j (bne_iff_ne.2 h)

/-- If `lookup` finds nothing under a key there is nothing to drop. -/
theorem filter_ne_of_lookup_eq_none (l : List (α × β)) (k : α) (h : l.lookup k = none) :
    l.filter (·.1 != k) = l := by
  rw [filter_eq_self]
  intro p hp
  have hne := lookup_eq_none_iff.1 h p hp
  rw [bne_iff_ne] at hne ⊢
  exact Ne.symm hne

/-- `lookup` finds a pair under its key if no key comes twice. -/
theorem lookup_eq_some_of_mem (l : List (α × β)) (k : α) (v : β) (hnodup : (l.map (·.1)).Nodup)
    (h : (k, v) ∈ l) : l.lookup k = some v := by
  induction l with
  | nil => cases h
  | cons p l ih =>
    rw [map_cons, nodup_cons] at hnodup
    rw [lookup_cons]
    obtain hp | hl := mem_cons.1 h
    · rw [← hp, beq_self_eq_true]
    · -- a pair further back is not hidden, since its key is not that of the first one
      have hne : k ≠ p.1 := fun heq => hnodup.1 (heq ▸ mem_map_of_mem hl)
      rw [beq_false_of_ne hne]
      exact ih hnodup.2 hl

/-- If `lookup` finds a key there is one pair of it to drop, and no second one. -/
theorem length_filter_ne_of_lookup_eq_some (l : List (α × β)) (k : α) (v : β)
    (hnodup : (l.map (·.1)).Nodup) (h : l.lookup k = some v) :
    (l.filter (·.1 != k)).length + 1 = l.length := by
  induction l with
  | nil => cases h
  | cons p l ih =>
    rw [map_cons, nodup_cons] at hnodup
    rw [lookup_cons] at h
    by_cases hk : k = p.1
    · -- the first pair is the one that goes, and no other has its key
      have hl := lookup_eq_none_of_not_mem l k (hk ▸ hnodup.1)
      rw [filter_cons_of_neg (by simp [hk]), filter_ne_of_lookup_eq_none l k hl, length_cons]
    · rw [beq_false_of_ne hk] at h
      rw [filter_cons_of_pos (by simp [Ne.symm hk]), length_cons, length_cons, ih hnodup.2 h]

/-- Filtering by value leaves what `lookup` finds under a key, or takes it away. No key may come twice:
else a second pair could come to light. -/
theorem lookup_filter_snd (l : List (α × β)) (q : β → Bool) (k : α)
    (hnodup : (l.map (·.1)).Nodup) :
    (l.filter fun p => q p.2).lookup k = (l.lookup k).filter q := by
  induction l with
  | nil => rfl
  | cons p l ih =>
    rw [map_cons, nodup_cons] at hnodup
    rw [filter_cons, lookup_cons]
    by_cases hk : k = p.1
    · -- behind the first pair of the key there is no other
      have hl := lookup_eq_none_of_not_mem l k (hk ▸ hnodup.1)
      rw [beq_iff_eq.2 hk]
      by_cases hq : q p.2 = true
      · rw [if_pos hq, lookup_cons, beq_iff_eq.2 hk]
        exact (Option.filter_some_pos hq).symm
      · -- the pair is dropped, and nothing takes its place
        rw [if_neg hq, ih hnodup.2, hl]
        exact (Option.filter_some_neg (Bool.eq_false_iff.2 hq)).symm
    · rw [beq_false_of_ne hk]
      split
      · rw [lookup_cons, beq_false_of_ne hk]
        exact ih hnodup.2
      · exact ih hnodup.2

end List
