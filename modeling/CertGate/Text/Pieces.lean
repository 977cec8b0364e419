/-!
# Cutting a text at a separator

`pieces` cuts at every separator, `cut?` at the first one; `after?` takes a lead off the front.
Joining the pieces again gives the text back, and no piece holds a separator.
-/

namespace CertGate.Text

/-- The stretches of `cs` between the separators: one more than there are separators. -/
def pieces [DecidableEq α] (sep : α) : List α → List (List α)
  | [] => [[]]
  | c :: cs =>
    if c = sep then [] :: pieces sep cs
    else
      match pieces sep cs with
      | [] => [[c]]
      | p :: ps => (c :: p) :: ps

/-- What stands before the first separator and what stands after it; `none` without a separator. -/
def cut? [DecidableEq α] (sep : α) : List α → Option (List α × List α)
  | [] => none
  | c :: cs =>
    if c = sep then some ([], cs) else (cut? sep cs).map fun (before, after) => (c :: before, after)

/-- What follows the lead in a text; `none` if the text does not start with it. -/
def after? [DecidableEq α] : List α → List α → Option (List α)
  | [], cs => some cs
  | _ :: _, [] => none
  | l :: lead, c :: cs => if l = c then after? lead cs else none

variable [DecidableEq α] {sep : α}

theorem after?_eq_some_iff {lead cs rest : List α} :
    after? lead cs = some rest ↔ cs = lead ++ rest := by
  induction lead generalizing cs with
  | nil => simp [after?]
  | cons l lead ih =>
    cases cs with
    | nil => simp [after?]
    | cons c cs =>
      simp only [after?, List.cons_append, List.cons.injEq]
      split
      · next h => simp [ih, h]
      · next h => simp [Ne.symm h]

theorem pieces_ne_nil (cs : List α) : pieces sep cs ≠ [] := by
  cases cs with
  | nil => simp [pieces]
  | cons c cs =>
    simp only [pieces]
    split
    · simp
    · split <;> simp

/-- Joining the `pieces` with the separator gives the text back. -/
theorem intercalate_pieces (cs : List α) : [sep].intercalate (pieces sep cs) = cs := by
  induction cs with
  | nil => simp [pieces]
  | cons c cs ih =>
    simp only [pieces]
    split
    · next h =>
      subst h
      cases hp : pieces c cs with
      | nil => exact absurd hp (pieces_ne_nil cs)
      | cons p ps => rw [hp] at ih; simp [List.intercalate_cons_cons, ih]
    · cases hp : pieces sep cs with
      | nil => exact absurd hp (pieces_ne_nil cs)
      | cons p ps =>
        rw [hp] at ih
        cases ps with
        | nil => simpa using ih
        | cons q qs => simpa [List.intercalate_cons_cons] using ih

/-- The first of the `pieces` ends at the first separator. -/
theorem pieces_append_sep (first rest : List α) (h : sep ∉ first) :
    pieces sep (first ++ sep :: rest) = first :: pieces sep rest := by
  induction first with
  | nil => rw [List.nil_append, pieces, if_pos rfl]
  | cons c first ih =>
    have hc : c ≠ sep := fun heq => h (heq ▸ List.mem_cons_self)
    rw [List.cons_append, pieces, if_neg hc, ih fun hmem => h (List.mem_cons_of_mem c hmem)]

/-- The `pieces` of a text without a separator are the text alone. -/
theorem pieces_of_not_mem (cs : List α) (h : sep ∉ cs) : pieces sep cs = [cs] := by
  induction cs with
  | nil => rfl
  | cons c cs ih =>
    have hc : c ≠ sep := fun heq => h (heq ▸ List.mem_cons_self)
    rw [pieces, if_neg hc, ih fun hmem => h (List.mem_cons_of_mem c hmem)]

/-- Texts without a separator are the `pieces` of what joins them. -/
theorem pieces_intercalate (ps : List (List α)) (hne : ps ≠ []) (h : ∀ p ∈ ps, sep ∉ p) :
    pieces sep ([sep].intercalate ps) = ps := by
  induction ps with
  | nil => exact absurd rfl hne
  | cons p ps ih =>
    have hp : sep ∉ p := h p List.mem_cons_self
    cases ps with
    | nil => rw [List.intercalate_singleton, pieces_of_not_mem p hp]
    | cons q qs =>
      rw [List.intercalate_cons_cons, List.append_assoc, List.singleton_append,
        pieces_append_sep p _ hp,
        ih (List.cons_ne_nil q qs) fun r hr => h r (List.mem_cons_of_mem p hr)]

/-- The `pieces` on both sides of a separator are those of the whole. -/
theorem pieces_append (cs rest : List α) :
    pieces sep (cs ++ sep :: rest) = pieces sep cs ++ pieces sep rest := by
  induction cs with
  | nil =>
    show pieces sep (sep :: rest) = [] :: pieces sep rest
    rw [pieces, if_pos rfl]
  | cons c cs ih =>
    rw [List.cons_append, pieces, pieces]
    by_cases hc : c = sep
    · rw [if_pos hc, if_pos hc, ih, List.cons_append]
    · rw [if_neg hc, if_neg hc, ih]
      -- the character joins the first piece, which is there on both sides
      cases hp : pieces sep cs with
      | nil => exact absurd hp (pieces_ne_nil cs)
      | cons p ps => rfl

/-- A map that takes nothing else to the separator maps the `pieces` of a text to those of its image. -/
theorem pieces_map [DecidableEq β] (f : α → β) (hf : ∀ c, f c = f sep → c = sep) (cs : List α) :
    pieces (f sep) (cs.map f) = (pieces sep cs).map (·.map f) := by
  induction cs with
  | nil => rfl
  | cons c cs ih =>
    rw [List.map_cons, pieces, pieces, ih]
    by_cases hc : c = sep
    · rw [if_pos hc, if_pos (congrArg f hc)]
      rfl
    · rw [if_neg hc, if_neg (mt (hf c) hc)]
      cases pieces sep cs <;> rfl

theorem sep_not_mem_of_mem_pieces {cs p : List α} (h : p ∈ pieces sep cs) : sep ∉ p := by
  induction cs generalizing p with
  | nil => simp_all [pieces]
  | cons c cs ih =>
    simp only [pieces] at h
    split at h
    · rcases List.mem_cons.1 h with rfl | h
      · simp
      · exact ih h
    · next hc =>
      cases hp : pieces sep cs with
      | nil => exact absurd hp (pieces_ne_nil cs)
      | cons q qs =>
        rw [hp] at h ih
        rcases List.mem_cons.1 h with rfl | h
        · simp [Ne.symm hc, ih List.mem_cons_self]
        · exact ih (List.mem_cons_of_mem _ h)

/-- The `pieces` hold every character of the text but the separator. -/
theorem exists_mem_pieces_iff {cs : List α} {c : α} :
    (∃ p ∈ pieces sep cs, c ∈ p) ↔ c ∈ cs ∧ c ≠ sep := by
  induction cs with
  | nil => simp [pieces]
  | cons d cs ih =>
    simp only [pieces, List.mem_cons]
    by_cases hd : d = sep
    · simp only [hd, if_true, List.mem_cons, exists_eq_or_imp, List.not_mem_nil, false_or, ih]
      exact ⟨fun h => ⟨Or.inr h.1, h.2⟩, fun h => ⟨h.1.resolve_left h.2, h.2⟩⟩
    · rw [if_neg hd]
      -- the first piece has one character more than before
      cases hpieces : pieces sep cs with
      | nil => exact absurd hpieces (pieces_ne_nil cs)
      | cons q qs =>
        rw [hpieces] at ih
        simp only [List.mem_cons, exists_eq_or_imp, or_assoc] at ih ⊢
        rw [ih]
        exact ⟨fun h => h.elim (fun hc => ⟨Or.inl hc, hc ▸ hd⟩) fun h => ⟨Or.inr h.1, h.2⟩,
          fun h => h.1.imp_right fun hc => ⟨hc, h.2⟩⟩

theorem cut?_eq_some_iff {cs before after : List α} :
    cut? sep cs = some (before, after) ↔ cs = before ++ sep :: after ∧ sep ∉ before := by
  induction cs generalizing before with
  | nil => simp [cut?]
  | cons c cs ih =>
    simp only [cut?]
    split
    · next h =>
      subst h
      cases before with
      | nil => simp
      | cons b bs => simp; intro h; simp [h]
    · next h =>
      cases before with
      | nil => simp [h]
      | cons b bs => simp [ih]; grind

/-- A text can be written in one way only as what is in front of its first separator and what is
behind. -/
theorem eq_of_append_sep {before before' after after' : List α}
    (h : before ++ sep :: after = before' ++ sep :: after') (hbefore : sep ∉ before)
    (hbefore' : sep ∉ before') : before = before' := by
  have hcut : cut? sep (before ++ sep :: after) = some (before, after) :=
    cut?_eq_some_iff.2 ⟨rfl, hbefore⟩
  have hcut' : cut? sep (before ++ sep :: after) = some (before', after') :=
    cut?_eq_some_iff.2 ⟨h, hbefore'⟩
  rw [hcut] at hcut'
  exact congrArg Prod.fst (Option.some.inj hcut')

theorem cut?_eq_none_iff {cs : List α} : cut? sep cs = none ↔ sep ∉ cs := by
  induction cs with
  | nil => simp [cut?]
  | cons c cs ih =>
    simp only [cut?]
    split
    · next h => simp [h]
    · next h => simp [ih, Ne.symm h]

end CertGate.Text
