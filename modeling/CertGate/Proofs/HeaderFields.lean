import CertGate.Http.Forwarding

/-!
# Fields of a header by name

A header is seen through the values of each name, in their order. Every change is stated by what it
does to them, so that changes one after the other can be read off.

## Key results

- `values_erase`, `values_eraseAll`, `values_insert`: the values of every name after a change
- `head?_values`: the value that is read where only one is looked at
- `mem_listedNames_iff`: which names a value of `Connection` lists
- `values_stripHopByHop_of_isHopByHop`, `values_stripHopByHop_of_not`: fields for one hop go, all others
  keep their values
- `mem_stripHopByHop_iff`: the same of single fields
-/

namespace CertGate.Http

/-- `cs` may be a field name: characters of a token, and not too many. -/
def IsFieldName (cs : List Char) : Prop :=
  isToken cs = true ∧ cs.length < 0x10000

/-- `fieldName?` accepts exactly the texts with `IsFieldName`, and gives them in lower case. -/
theorem fieldName?_eq_some_iff (cs : List Char) (name : String) :
    fieldName? cs = some name ↔ IsFieldName cs ∧ name = String.ofList (cs.map Char.toLower) := by
  unfold fieldName?
  split
  · next hname => simp [IsFieldName, hname, eq_comm]
  · next hname => simp [IsFieldName, hname]

/-- A byte of a visible ASCII character, a space or a tab: one that `visible?` admits. -/
def IsVisibleByte (b : UInt8) : Prop :=
  b = 0x09 ∨ 0x20 ≤ b ∧ b < 0x7F

/-- `visible?` reads a value as a text only if each of its bytes is one of `IsVisibleByte`. -/
theorem FieldValue.visible?_eq_some_iff (v : FieldValue) (text : List Char) :
    v.visible? = some text ↔
      (∀ b ∈ v, IsVisibleByte b) ∧ text = v.map fun b => Char.ofNat b.toNat := by
  have hall : (v.all fun b => b = 0x09 || (0x20 ≤ b && b < 0x7F)) = true ↔
      ∀ b ∈ v, IsVisibleByte b := by
    simp only [List.all_eq_true, Bool.or_eq_true, Bool.and_eq_true, decide_eq_true_eq, IsVisibleByte]
  unfold visible?
  split
  · next hvisible =>
    exact ⟨fun h => ⟨hall.1 hvisible, (Option.some.inj h).symm⟩, fun h => congrArg some h.2.symm⟩
  · next hvisible =>
    exact ⟨nofun, fun h => absurd (hall.2 h.1) hvisible⟩

namespace Headers

/-! ## Values of a name -/

/-- `append` puts one value behind those of its own name. -/
theorem values_append (h : Headers) (name n : String) (value : FieldValue) :
    (h.append name value).values n = h.values n ++ if n = name then [value] else [] := by
  simp only [values, append, List.filter_append, List.map_append]
  by_cases hn : n = name
  · simp [hn]
  · simp [hn, Ne.symm hn]

/-- `erase` leaves the values of all other names. -/
theorem values_erase (h : Headers) (name n : String) :
    (h.erase name).values n = if n = name then [] else h.values n := by
  simp only [values, erase, List.filter_filter]
  by_cases hn : n = name
  · rw [if_pos hn, List.map_eq_nil_iff, List.filter_eq_nil_iff]
    intro field _
    simp [hn]
  · rw [if_neg hn]
    congr 2
    funext field
    -- a field of the one name is none of the other
    by_cases hfield : field.1 = n
    · simp [hfield, hn]
    · simp [hfield]

/-- `eraseAll` leaves the values of all other names. -/
theorem values_eraseAll (h : Headers) (names : List String) (n : String) :
    (h.eraseAll names).values n = if n ∈ names then [] else h.values n := by
  induction names generalizing h with
  | nil => rfl
  -- the first name is dropped, the induction is on the header without it
  | cons name names ih =>
    have hstep := ih (h.erase name)
    rw [values_erase] at hstep
    rw [eraseAll, List.foldl_cons, ← eraseAll, hstep]
    by_cases hmem : n ∈ names
    · simp [hmem]
    · simp [hmem, List.mem_cons]

/-- `insert` makes its value the only one of the name. -/
theorem values_insert (h : Headers) (name n : String) (value : FieldValue) :
    (h.insert name value).values n = if n = name then [value] else h.values n := by
  rw [insert, values_append, values_erase]
  by_cases hn : n = name
  · simp [hn]
  · simp [hn]

/-- `values` of a name has exactly the values of its fields. -/
theorem mem_values_iff (h : Headers) (n : String) (value : FieldValue) :
    value ∈ h.values n ↔ (n, value) ∈ h.fields := by
  simp only [values, List.mem_map, List.mem_filter, beq_iff_eq, Prod.exists]
  constructor
  · rintro ⟨name, value', ⟨hmem, rfl⟩, rfl⟩
    exact hmem
  · intro hmem
    exact ⟨n, value, ⟨hmem, rfl⟩, rfl⟩

/-- `get?` reads the first of the `values`. -/
theorem head?_values (h : Headers) (name : String) : (h.values name).head? = h.get? name := by
  obtain ⟨fields⟩ := h
  induction fields with
  | nil => rfl
  | cons field fields ih =>
    simp only [values, get?] at ih ⊢
    rw [List.lookup_cons, List.filter_cons]
    by_cases hname : field.1 = name
    · simp [hname]
    · rw [beq_false_of_ne hname, beq_false_of_ne (Ne.symm hname)]
      exact ih

/-- `erase` after an `insert` of the same name. -/
theorem erase_insert (h : Headers) (name : String) (value : FieldValue) :
    (h.insert name value).erase name = h.erase name := by
  simp [insert, append, erase, List.filter_filter]

/-- `erase` of a name without values changes nothing. -/
theorem erase_of_values_eq_nil (h : Headers) (name : String) (hnil : h.values name = []) :
    h.erase name = h := by
  rw [values, List.map_eq_nil_iff, List.filter_eq_nil_iff] at hnil
  obtain ⟨fields⟩ := h
  simp only [erase, Headers.mk.injEq, List.filter_eq_self]
  intro field hfield
  exact bne_iff_ne.2 fun heq => hnil field hfield (beq_iff_eq.2 heq)

/-- `eraseAll` of names without values changes nothing. -/
theorem eraseAll_of_values_eq_nil (h : Headers) (names : List String)
    (hnil : ∀ n ∈ names, h.values n = []) : h.eraseAll names = h := by
  induction names with
  | nil => rfl
  | cons name names ih =>
    rw [eraseAll, List.foldl_cons, h.erase_of_values_eq_nil name (hnil name List.mem_cons_self)]
    exact ih fun n hn => hnil n (List.mem_cons_of_mem name hn)

/-! ## Fields for one hop -/

/-- A value lists `name`: all of it is visible, and one of the texts between its commas is the name in
some case, blanks around it aside. -/
def Lists (value : FieldValue) (name : String) : Prop :=
  (∀ b ∈ value, IsVisibleByte b) ∧
    ∃ piece ∈ Text.pieces ',' (value.map fun b => Char.ofNat b.toNat),
      IsFieldName (Text.trim Text.isBlank piece) ∧
        name = String.ofList ((Text.trim Text.isBlank piece).map Char.toLower)

/-- `listedNames` of a value are the names that it lists. -/
theorem mem_listedNames_iff (value : FieldValue) (name : String) :
    name ∈ listedNames value ↔ Lists value name := by
  unfold listedNames
  split
  · next hnone =>
    -- an undecodable value lists nothing
    have hnot : ¬∀ b ∈ value, IsVisibleByte b := fun hall => by
      rw [(value.visible?_eq_some_iff _).2 ⟨hall, rfl⟩] at hnone
      cases hnone
    simp [Lists, hnot]
  · next text hsome =>
    obtain ⟨hall, rfl⟩ := (value.visible?_eq_some_iff text).1 hsome
    simp only [List.mem_filterMap, fieldName?_eq_some_iff]
    exact ⟨fun hpiece => ⟨hall, hpiece⟩, And.right⟩

/-- A field is meant for one hop only: it is one of the eight that always are, or a value of
`Connection` lists it. The eight are named here once more, apart from the list `hopByHopNames` that
`stripHopByHop` works through. -/
def IsHopByHop (h : Headers) (name : String) : Prop :=
  (name = "connection" ∨ name = "keep-alive" ∨ name = "proxy-authenticate" ∨
      name = "proxy-authorization" ∨ name = "te" ∨ name = "trailer" ∨ name = "transfer-encoding" ∨
      name = "upgrade") ∨
    ∃ value ∈ h.values "connection", Lists value name

/-- `hopByHopNames` lists the eight fields that are always meant for one hop only, and no others. -/
theorem mem_hopByHopNames_iff (name : String) :
    name ∈ hopByHopNames ↔
      name = "connection" ∨ name = "keep-alive" ∨ name = "proxy-authenticate" ∨
        name = "proxy-authorization" ∨ name = "te" ∨ name = "trailer" ∨ name = "transfer-encoding" ∨
        name = "upgrade" := by
  simp only [hopByHopNames, List.mem_cons, List.not_mem_nil, or_false]

/-- The names that `stripHopByHop` takes off a header are those with `IsHopByHop`. -/
theorem mem_names_stripHopByHop (h : Headers) (name : String) :
    name ∈ (h.values "connection").flatMap listedNames ++ hopByHopNames ↔ h.IsHopByHop name := by
  simp only [List.mem_append, List.mem_flatMap, mem_listedNames_iff, mem_hopByHopNames_iff, IsHopByHop]
  exact Or.comm

/-- `stripHopByHop` leaves no value of a field that `IsHopByHop`. -/
theorem values_stripHopByHop_of_isHopByHop (h : Headers) (n : String) (hn : h.IsHopByHop n) :
    h.stripHopByHop.values n = [] := by
  rw [stripHopByHop, values_eraseAll, if_pos ((mem_names_stripHopByHop h n).2 hn)]

/-- `stripHopByHop` leaves the values of all other fields. -/
theorem values_stripHopByHop_of_not (h : Headers) (n : String) (hn : ¬h.IsHopByHop n) :
    h.stripHopByHop.values n = h.values n := by
  rw [stripHopByHop, values_eraseAll, if_neg (mt (mem_names_stripHopByHop h n).1 hn)]

/-- `stripHopByHop` leaves exactly the fields that are not for one hop only. -/
theorem mem_stripHopByHop_iff (h : Headers) (field : String × FieldValue) :
    field ∈ h.stripHopByHop.fields ↔ field ∈ h.fields ∧ ¬h.IsHopByHop field.1 := by
  rw [← mem_values_iff h.stripHopByHop field.1 field.2, ← mem_values_iff h field.1 field.2]
  by_cases hhop : h.IsHopByHop field.1
  · -- compared by the values of its name, of which none or all are left
    rw [h.values_stripHopByHop_of_isHopByHop _ hhop]
    exact iff_of_false List.not_mem_nil fun hmem => hmem.2 hhop
  · rw [h.values_stripHopByHop_of_not _ hhop, and_iff_left hhop]

end Headers

end CertGate.Http
