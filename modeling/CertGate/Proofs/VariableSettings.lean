import CertGate.Proofs.ValuePaths
import CertGate.Proofs.VariableAgreement

/-!
# Settings in an environment

Every variable that is a setting puts its value under the path that its name gives, over what earlier
variables have put there. At the end of a path only those variables count whose own path leads there or
beyond it, as long as no variable sets as a whole what the path leads through.

## Key results

- `find?_settings`: what is found at the end of a path, from one variable to the next
- `find?_settings_of_said`: a setting is what its variable says
- `AgreeOff.find?_settings`: variables for other settings make no difference
- `get?_settings_isSome`: a section is set if some variable sets something in it
-/

namespace CertGate.Environment

/-- `means path name`: the variable stands for the setting at this path. -/
def means (path : List String) (name : String) : Bool :=
  settingPath? name == some path

/-- The settings, with what one more variable sets merged over them: its value at the end of its
`settingPath?`. -/
def addSetting (settings : Value) (e : String × String) : Value :=
  match settingPath? e.1 with
  | some path => settings.merge (Value.nest path (valueOf e.2))
  | none => settings

/-- `settings` adds the variables of an environment one after the other. -/
theorem settings_eq (env : Environment) : settings env = env.foldl addSetting (.dict []) :=
  rfl

/-- The rest of a variable's path behind the end of `path`, if it leads through or up to this end. -/
def beyond? (path : List String) (name : String) : Option (List String) :=
  (settingPath? name).bind (Text.after? path)

/-- What is found at the end of `path`, with what one more variable puts there laid over it. -/
def overlay (path : List String) (found : Option Value) (e : String × String) : Option Value :=
  match beyond? path e.1 with
  | none => found
  | some rest => some ((Value.nest rest (valueOf e.2)).laidOver found)

/-- `Unobstructed env path`: no variable sets as a whole what the path leads through. -/
def Unobstructed (env : Environment) (path : List String) : Prop :=
  ∀ e ∈ env, ∀ own ∈ settingPath? e.1, ∀ rest ∈ Text.after? own path, rest = []

instance (env : Environment) (path : List String) : Decidable (Unobstructed env path) :=
  inferInstanceAs
    (Decidable (∀ e ∈ env, ∀ own ∈ settingPath? e.1, ∀ rest ∈ Text.after? own path, rest = []))

/-- The `settingPath?` of a variable has at least one key. -/
theorem settingPath?_ne_nil (name : String) : settingPath? name ≠ some [] := by
  intro h
  simp only [settingPath?, bind, Option.bind_eq_some_iff] at h
  obtain ⟨rest, -, h⟩ := h
  split at h
  · cases h
  · have hnil := Option.some.inj h
    exact Text.pieces_ne_nil _ (List.map_eq_nil_iff.1 hnil)

/-- A path of one key leads through nothing, so every environment is `Unobstructed` along it. -/
theorem unobstructed_singleton (env : Environment) (key : String) : Unobstructed env [key] := by
  intro e _ own hown rest hrest
  cases own with
  | nil => exact absurd hown (settingPath?_ne_nil e.1)
  | cons j own =>
    have heq := (List.cons.inj (Text.after?_eq_some_iff.1 hrest)).2
    exact (List.append_eq_nil_iff.1 heq.symm).2

/-! ## One variable after the other -/

/-- `addSetting` puts nothing in the way of a path that the variable does not obstruct, and lays what
the variable puts at its end over what was found there. -/
theorem find?_addSetting (path : List String) (settings : Value) (e : String × String)
    (hclear : Value.Clear path settings)
    (hopen : ∀ own ∈ settingPath? e.1, ∀ rest ∈ Text.after? own path, rest = []) :
    Value.Clear path (addSetting settings e) ∧
      (addSetting settings e).find? path = overlay path (settings.find? path) e := by
  rw [addSetting, overlay, beyond?]
  cases hown : settingPath? e.1 with
  | none => exact ⟨hclear, rfl⟩
  | some own =>
    -- the variable's path does not end in front of the end of this one
    have hbeyond : ∀ key rest, path ≠ own ++ key :: rest := fun key rest heq =>
      List.cons_ne_nil key rest (hopen own hown _ (Text.after?_eq_some_iff.2 heq))
    have hnest := Value.clear_nest path own (valueOf e.2) hbeyond
    refine ⟨Value.clear_merge path settings _ hclear hnest, ?_⟩
    rw [Value.find?_merge path settings _ hnest, Value.find?_nest path own (valueOf e.2) hbeyond,
      Option.bind_some]
    cases Text.after? path own <;> rfl

/-- Variables that leave `path` unobstructed put nothing in its way, and are laid over each other at
its end. -/
theorem find?_foldl_addSetting (path : List String) (env : Environment) (settings : Value)
    (hclear : Value.Clear path settings) (hopen : Unobstructed env path) :
    Value.Clear path (env.foldl addSetting settings) ∧
      (env.foldl addSetting settings).find? path =
        env.foldl (overlay path) (settings.find? path) := by
  induction env generalizing settings with
  | nil => exact ⟨hclear, rfl⟩
  | cons e env ih =>
    obtain ⟨hclear', hfind⟩ := find?_addSetting path settings e hclear
      (hopen e List.mem_cons_self)
    rw [List.foldl_cons, List.foldl_cons, ← hfind]
    exact ih _ hclear' fun e' he' => hopen e' (List.mem_cons_of_mem e he')

/-- `settings` puts nothing in the way of a path that no variable obstructs. -/
theorem clear_settings (path : List String) (env : Environment) (hopen : Unobstructed env path) :
    Value.Clear path (settings env) := by
  rw [settings_eq]
  exact (find?_foldl_addSetting path env _ (Value.clear_dict_nil path) hopen).1

/-- What is found in `settings` at the end of a path comes from one variable after the other. -/
theorem find?_settings (key : String) (path : List String) (env : Environment)
    (hopen : Unobstructed env (key :: path)) :
    (settings env).find? (key :: path) = env.foldl (overlay (key :: path)) none := by
  rw [settings_eq]
  exact (find?_foldl_addSetting _ env _ (Value.clear_dict_nil _) hopen).2

/-! ## The variable of a setting -/

/-- There is nothing `beyond?` a path in the path of a variable exactly if the variable stands for the
setting there. -/
theorem beyond?_eq_nil_iff (path : List String) (name : String) :
    beyond? path name = some [] ↔ means path name = true := by
  rw [beyond?, means, beq_iff_eq, Option.bind_eq_some_iff]
  constructor
  · rintro ⟨own, hown, hrest⟩
    rw [hown, Text.after?_eq_some_iff.1 hrest, List.append_nil]
  · intro hown
    exact ⟨path, hown, Text.after?_eq_some_iff.2 (List.append_nil path).symm⟩

/-- `Origin path env found`: where what is found at the end of a path comes from. If it is nothing, no
variable stands for the setting there; else it is a dictionary, or what one of these variables says. -/
def Origin (path : List String) (env : Environment) : Option Value → Prop
  | none => ∀ e ∈ env, means path e.1 = false
  | some v => v.isDict = true ∨ ∃ e ∈ env, means path e.1 = true ∧ v = valueOf e.2

/-- One more variable leaves what is found with an `Origin`. -/
theorem Origin.overlay {path : List String} {env : Environment} {found : Option Value}
    (h : Origin path env found) (e : String × String) :
    Origin path (env ++ [e]) (overlay path found e) := by
  rw [Environment.overlay]
  cases hbeyond : beyond? path e.1 with
  -- the variable leads elsewhere
  | none =>
    have hmeans : means path e.1 = false := by
      rw [← Bool.not_eq_true, ← beyond?_eq_nil_iff, hbeyond]
      exact fun hsome => nomatch hsome
    cases found with
    | none => exact List.forall_mem_append.2 ⟨h, List.forall_mem_singleton.2 hmeans⟩
    | some v =>
      exact h.imp_right fun ⟨e', he', hvalue⟩ => ⟨e', List.mem_append_left _ he', hvalue⟩
  -- the variable leads beyond the end and makes a dictionary there, or it leads to the end
  | some rest =>
    have hmerged := Value.isDict_laidOver (Value.nest rest (valueOf e.2)) found
    cases rest with
    | cons key rest => exact Or.inl hmerged
    | nil =>
      cases hdict : (valueOf e.2).isDict with
      | true => exact Or.inl (hmerged.trans hdict)
      | false =>
        exact Or.inr ⟨e, List.mem_append_right env List.mem_cons_self,
          (beyond?_eq_nil_iff path e.1).1 hbeyond, Value.laidOver_of_not_dict _ found hdict⟩

/-- Further variables leave what is found with an `Origin`. -/
theorem Origin.foldl_overlay {path : List String} {seen : Environment} {found : Option Value}
    (h : Origin path seen found) (env : Environment) :
    Origin path (seen ++ env) (env.foldl (Environment.overlay path) found) := by
  induction env generalizing seen found with
  | nil => rwa [List.append_nil]
  | cons e env ih =>
    rw [List.foldl_cons, ← List.singleton_append, ← List.append_assoc]
    exact ih (h.overlay e)

/-- `SpelledOnce env path`: all variables for the setting at this path are spelled alike. -/
def SpelledOnce (env : Environment) (path : List String) : Prop :=
  ∀ e ∈ env, ∀ e' ∈ env, means path e.1 = true → means path e'.1 = true → e.1 = e'.1

instance (env : Environment) (path : List String) : Decidable (SpelledOnce env path) :=
  inferInstanceAs
    (Decidable (∀ e ∈ env, ∀ e' ∈ env, means path e.1 = true → means path e'.1 = true → e.1 = e'.1))

/-- Where the variables for a setting are spelled alike, `said?` gives what any of them says. -/
theorem said?_of_mem (env : Environment) (path : List String) (e : String × String) (he : e ∈ env)
    (hmeans : means path e.1 = true) (hspelled : SpelledOnce env path)
    (hnodup : (env.map (·.1)).Nodup) : env.said? (means path) = some e.2 := by
  obtain ⟨e', hfind⟩ := Option.isSome_iff_exists.1
    (List.find?_isSome.2 ⟨e, he, hmeans⟩ : (env.find? fun e => means path e.1).isSome)
  have hmem := List.mem_of_find?_eq_some hfind
  have hmeans' : means path e'.1 = true := by simpa using List.find?_some hfind
  have hname := hspelled e' hmem e he hmeans' hmeans
  -- of one name there is one variable
  have hvalue := List.lookup_eq_some_of_mem env e.1 e.2 hnodup he
  have hvalue' := List.lookup_eq_some_of_mem env e'.1 e'.2 hnodup hmem
  rw [hname, hvalue] at hvalue'
  rw [said?, hfind, Option.map_some, Option.some.inj hvalue']

/-- What is found in `settings` at a path is what is said by the variable for it, unless it is a
dictionary. -/
theorem find?_settings_of_said (key : String) (path : List String) (env : Environment)
    (hopen : Unobstructed env (key :: path)) (hspelled : SpelledOnce env (key :: path))
    (hnodup : (env.map (·.1)).Nodup)
    (hvalue : ∀ v, (settings env).find? (key :: path) = some v → v.isDict = false) :
    (settings env).find? (key :: path) = (env.said? (means (key :: path))).map valueOf := by
  rw [find?_settings key path env hopen] at hvalue ⊢
  have horigin : Origin (key :: path) [] none := fun e he => nomatch he
  have horigin := horigin.foldl_overlay env
  cases hfound : env.foldl (overlay (key :: path)) none with
  -- no variable stands for the setting
  | none =>
    rw [hfound] at horigin
    have hsaid : env.find? (fun e => means (key :: path) e.1) = none :=
      List.find?_eq_none.2 fun e he => by rw [horigin e he]; exact Bool.false_ne_true
    rw [said?, hsaid]
    rfl
  -- what is found is what one of the variables for the setting says, and this is the one that is said
  | some v =>
    rw [hfound] at horigin
    obtain hdict | ⟨e, he, hmeans, rfl⟩ := horigin
    · rw [hvalue v hfound] at hdict
      cases hdict
    · rw [said?_of_mem env _ e he hmeans hspelled hnodup]
      rfl

/-! ## Variables for other settings -/

/-- Variables that lead nowhere `beyond?` a path make no difference to what is found at its end. -/
theorem foldl_overlay_filter (path : List String) (off : String → Bool) (env : Environment)
    (found : Option Value) (hoff : ∀ name, off name = true → beyond? path name = none) :
    (env.filter (!off ·.1)).foldl (overlay path) found = env.foldl (overlay path) found := by
  induction env generalizing found with
  | nil => rfl
  | cons e env ih =>
    cases hname : off e.1 with
    | false => rw [List.filter_cons_of_pos (by simp [hname]), List.foldl_cons, List.foldl_cons, ih]
    | true =>
      have hsame : overlay path found e = found := by rw [overlay, hoff e.1 hname]
      rw [List.filter_cons_of_neg (by simp [hname]), List.foldl_cons, hsame, ih]

/-- In environments that agree but for variables which lead nowhere `beyond?` a path, the settings have
the same at its end. -/
theorem AgreeOff.find?_settings {off : String → Bool} {env env' : Environment}
    (h : AgreeOff off env env') (key : String) (path : List String)
    (hoff : ∀ name, off name = true → beyond? (key :: path) name = none)
    (hopen : Unobstructed env (key :: path)) (hopen' : Unobstructed env' (key :: path)) :
    (settings env).find? (key :: path) = (settings env').find? (key :: path) := by
  rw [Environment.find?_settings key path env hopen, Environment.find?_settings key path env' hopen',
    ← foldl_overlay_filter _ off env none hoff, ← foldl_overlay_filter _ off env' none hoff, h]

/-- In environments that `AgreeOff` variables which do not obstruct a path, it is as unobstructed. -/
theorem AgreeOff.unobstructed {off : String → Bool} {env env' : Environment}
    (h : AgreeOff off env env') (path : List String) (hoff : ∀ name, off name = true →
      ∀ own ∈ settingPath? name, ∀ rest ∈ Text.after? own path, rest = [])
    (hopen : Unobstructed env path) : Unobstructed env' path := by
  intro e he
  cases hname : off e.1 with
  | true => exact hoff e.1 hname
  | false =>
    have hkept : e ∈ env'.filter (!off ·.1) := List.mem_filter.2 ⟨he, by rw [hname]; rfl⟩
    rw [← h] at hkept
    exact hopen e (List.mem_filter.1 hkept).1

/-! ## Sections -/

/-- `env.touches area`: some variable sets something in the section, or the section as a whole. -/
def touches (env : Environment) (area : String) : Bool :=
  env.any fun e => (beyond? [area] e.1).isSome

/-- Something is found at the end of `path` if it was there before, or if a variable leads there or
beyond. -/
theorem isSome_foldl_overlay (path : List String) (env : Environment) (found : Option Value) :
    (env.foldl (overlay path) found).isSome =
      (found.isSome || env.any fun e => (beyond? path e.1).isSome) := by
  induction env generalizing found with
  | nil => simp
  | cons e env ih =>
    rw [List.foldl_cons, ih, List.any_cons, ← Bool.or_assoc]
    congr 1
    rw [overlay]
    cases beyond? path e.1 with
    | none => simp
    | some rest => simp

/-- The settings have a section exactly if the environment `touches` it. -/
theorem get?_settings_isSome (env : Environment) (area : String) :
    ((settings env).get? area).isSome = env.touches area := by
  have hfind := find?_settings area [] env (unobstructed_singleton env area)
  rw [← Value.find?_singleton, hfind, isSome_foldl_overlay, touches, Option.isSome_none, Bool.false_or]

/-- In environments that `AgreeOff` variables of other sections, the same sections are touched. -/
theorem AgreeOff.touches {off : String → Bool} {env env' : Environment} (h : AgreeOff off env env')
    (area : String) (hoff : ∀ name, off name = true → beyond? [area] name = none) :
    env.touches area = env'.touches area := by
  rw [← get?_settings_isSome, ← get?_settings_isSome, ← Value.find?_singleton,
    ← Value.find?_singleton, h.find?_settings area [] hoff (unobstructed_singleton env area)
      (unobstructed_singleton env' area)]

/-- `settings` makes a dictionary of every environment. -/
theorem exists_settings_eq_dict (env : Environment) : ∃ members, settings env = .dict members := by
  obtain ⟨members, hdict, -⟩ := clear_settings [""] env (unobstructed_singleton env "")
  exact ⟨members, hdict⟩

end CertGate.Environment
