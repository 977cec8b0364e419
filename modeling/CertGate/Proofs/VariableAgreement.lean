import CertGate.Proofs.VariableFiles

/-!
# Environments that agree off some variables

Two environments may have the same variables but for some. They still do after files of variables were
loaded into both, if the files have the same lines but for those that set one of these variables. The
other lines must not refer to these variables, and none does that has no dollar sign.

## Key results

- `AgreeOff.get?`, `AgreeOff.setNew`: one variable
- `AgreeOff.loadLines`: the lines of a file
- `agreeOff_foldl_loadEnvFile`: several files
- `File.ignores_of_not_mem`: which lines refer to no variable
-/

namespace CertGate

namespace Environment

/-- `AgreeOff off env env'`: the environments have the same variables in the same order, but for those
that are `off`. -/
def AgreeOff (off : String → Bool) (env env' : Environment) : Prop :=
  env.filter (!off ·.1) = env'.filter (!off ·.1)

variable {off : String → Bool} {env env' : Environment}

/-- Environments that agree have the same value for a variable that is not `off`. -/
theorem AgreeOff.get? (h : AgreeOff off env env') (name : String) (hname : off name = false) :
    env.get? name = env'.get? name := by
  have hkept : (!off name) = true := by rw [hname, Bool.not_false]
  have hfilter := List.lookup_filter_fst env (!off ·) name hkept
  rw [h, List.lookup_filter_fst env' (!off ·) name hkept] at hfilter
  exact hfilter.symm

/-- `setNew` changes nothing of the other variables if it sets one that is `off`. -/
theorem filter_setNew_of_off (env : Environment) (name value : String) (hname : off name = true) :
    (env.setNew name value).filter (!off ·.1) = env.filter (!off ·.1) := by
  rw [Environment.setNew]
  split
  · rfl
  · rw [List.filter_append, List.filter_cons_of_neg (by simp [hname]), List.filter_nil,
      List.append_nil]

/-- `setNew` sets the same variable in environments that agree, or in none. -/
theorem AgreeOff.setNew (h : AgreeOff off env env') (name value : String) :
    AgreeOff off (env.setNew name value) (env'.setNew name value) := by
  cases hname : off name with
  | true => rwa [AgreeOff, filter_setNew_of_off env name value hname,
      filter_setNew_of_off env' name value hname]
  | false =>
    -- a variable that counts is there in both, or in neither
    rw [Environment.setNew, Environment.setNew, h.get? name hname]
    split
    · exact h
    · rw [AgreeOff, List.filter_append, List.filter_append, h]

namespace File

/-- `Sets off line`: the line sets a variable that is `off`, in whatever environment. -/
def Sets (off : String → Bool) (line : List Char) : Prop :=
  ∀ env, ∃ name value, readLine? env line = some (some (name, value)) ∧ off name = true

/-- `Ignores off line`: what the line says does not depend on variables that are `off`. -/
def Ignores (off : String → Bool) (line : List Char) : Prop :=
  ∀ env env', AgreeOff off env env' → readLine? env line = readLine? env' line

/-- `SameLines off lines lines'`: two files have the same lines, but for lines that set variables which
are `off`. Of bad lines there is no rest to compare. -/
inductive SameLines (off : String → Bool) :
    List (Option (List Char)) → List (Option (List Char)) → Prop
  | nil : SameLines off [] []
  | bad (rest rest' : List (Option (List Char))) : SameLines off (none :: rest) (none :: rest')
  | both {line : List Char} {lines lines' : List (Option (List Char))} :
    Ignores off line → SameLines off lines lines' →
      SameLines off (some line :: lines) (some line :: lines')
  | left {line : List Char} {lines lines' : List (Option (List Char))} :
    Sets off line → SameLines off lines lines' → SameLines off (some line :: lines) lines'
  | right {line : List Char} {lines lines' : List (Option (List Char))} :
    Sets off line → SameLines off lines lines' → SameLines off lines (some line :: lines')

/-- Loading a line that `Sets` a variable which is `off` comes to loading the lines behind it. -/
theorem loadLines_of_sets {line : List Char} (hline : Sets off line) (env : Environment) :
    ∃ next : Environment, next.filter (!off ·.1) = env.filter (!off ·.1) ∧
      ∀ lines, loadLines env (some line :: lines) = loadLines next lines := by
  obtain ⟨name, value, hread, hname⟩ := hline env
  refine ⟨env.setNew name value, filter_setNew_of_off env name value hname, fun lines => ?_⟩
  rw [loadLines, hread]

end File

/-- Loading the `SameLines` into environments that agree keeps them in agreement. -/
theorem AgreeOff.loadLines {lines lines' : List (Option (List Char))}
    (hlines : File.SameLines off lines lines') (h : AgreeOff off env env') :
    AgreeOff off (File.loadLines env lines) (File.loadLines env' lines') := by
  induction hlines generalizing env env' with
  | nil => exact h
  | bad rest rest' => exact h
  | both hline hlines ih =>
    -- the line says the same in both environments
    rw [File.loadLines, File.loadLines, hline env env' h]
    split
    · next name value hread => exact ih (h.setNew name value)
    · exact ih h
    · exact h
  | left hline hlines ih =>
    -- the line is there in one file only, and what it sets does not count
    obtain ⟨next, hnext, hload⟩ := File.loadLines_of_sets hline env
    rw [hload]
    exact ih (hnext.trans h)
  | right hline hlines ih =>
    obtain ⟨next, hnext, hload⟩ := File.loadLines_of_sets hline env'
    rw [hload]
    exact ih (h.trans hnext.symm)

/-! ## Lines without a dollar sign -/

namespace File

/-- `state.isNaming`: the name of a variable is being read. -/
def ValueState.isNaming : ValueState → Bool
  | .name .. | .braced .. => true
  | _ => false

/-- Without a dollar sign `readValue?` looks up no variable, unless it is reading a name already. -/
theorem readValue?_congr (env env' : Environment) (state : ValueState) (done cs : List Char)
    (hstate : state.isNaming = false) (hcs : '$' ∉ cs) :
    readValue? env state done cs = readValue? env' state done cs := by
  induction cs generalizing state done with
  | nil =>
    cases state with
    | name | braced => cases hstate
    | hidden inDouble => cases inDouble <;> rfl
    | _ => rfl
  | cons c cs ih =>
    rw [List.mem_cons, not_or] at hcs
    have hc : (c == '$') = false := beq_false_of_ne (Ne.symm hcs.1)
    have hrest : ∀ state done, ValueState.isNaming state = false →
        readValue? env state done cs = readValue? env' state done cs :=
      fun state done hstate => ih state done hstate hcs.2
    cases state with
    | name | braced => cases hstate
    | hidden inDouble =>
      rw [readValue?, readValue?]
      cases hiddenChar? c with
      | none => rfl
      | some d => exact hrest _ _ (by cases inDouble <;> rfl)
    -- only a dollar sign would start a name
    | plain =>
      rw [readValue?, readValue?, hc, if_neg Bool.false_ne_true, if_neg Bool.false_ne_true,
        hrest .single done rfl, hrest .double done rfl, hrest (.hidden false) done rfl,
        hrest .behind done rfl, hrest .plain (c :: done) rfl]
    | single =>
      rw [readValue?, readValue?, hrest .plain done rfl, hrest .single (c :: done) rfl]
    | double =>
      rw [readValue?, readValue?, hc, if_neg Bool.false_ne_true, if_neg Bool.false_ne_true,
        hrest .plain done rfl, hrest (.hidden true) done rfl, hrest .double (c :: done) rfl]
    | behind => rw [readValue?, readValue?, hrest .behind done rfl]

/-- What `readName?` leaves of a text was there before. -/
theorem mem_of_readName? {cs name rest : List Char} (h : readName? cs = some (name, rest)) {c : Char}
    (hc : c ∈ rest) : c ∈ cs := by
  rw [readName?] at h
  split at h
  · cases h
    exact List.dropWhile_subset _ (List.dropWhile_subset _ hc)
  · cases h

/-- What `readTarget?` leaves behind the equals sign was there before. -/
theorem mem_of_readTarget? {cs rest : List Char} {name : String}
    (h : readTarget? cs = some (name, rest)) {c : Char} (hc : c ∈ rest) : c ∈ cs := by
  rw [readTarget?] at h
  obtain ⟨⟨first, behind⟩, hfirst, h⟩ := Option.bind_eq_some_iff.1 h
  refine mem_of_readName? hfirst ?_
  dsimp only at h
  split at h
  · -- the first name is the one that is set, or it is `export` in front of another
    cases h
    exact List.mem_cons_of_mem _ hc
  · split at h
    · cases h
    · obtain ⟨⟨second, behind'⟩, hsecond, h⟩ := Option.bind_eq_some_iff.1 h
      dsimp only at h
      split at h
      · cases h
        exact mem_of_readName? hsecond (List.mem_cons_of_mem _ hc)
      · cases h

/-- A line without a dollar sign refers to no variable, so `readLine?` reads it alike in all
environments. -/
theorem ignores_of_not_mem (off : String → Bool) (line : List Char) (h : '$' ∉ line) :
    Ignores off line := by
  intro env env' _
  have htrim : '$' ∉ Text.trim Text.isBlank line := fun hmem => h (Text.mem_of_mem_trim hmem)
  rw [readLine?, readLine?]
  split
  · rfl
  · cases htarget : readTarget? (Text.trim Text.isBlank line) with
    | none => rfl
    | some target =>
      obtain ⟨name, rest⟩ := target
      have hrest : '$' ∉ rest.dropWhile Text.isBlank := fun hmem =>
        htrim (mem_of_readTarget? htarget (List.dropWhile_subset _ hmem))
      simp only [Option.bind_eq_bind, Option.bind_some,
        readValue?_congr env env' .plain [] _ rfl hrest]

end File

end Environment

namespace Config

open Environment (AgreeOff)

/-- Loading files of the `SameLines` one after the other keeps environments in agreement. -/
theorem agreeOff_foldl_loadEnvFile {off : String → Bool} (s s' : Surroundings) (paths : List String)
    (hlines : ∀ path ∈ paths, Environment.File.SameLines off (envLines s path) (envLines s' path))
    {env env' : Environment} (h : AgreeOff off env env') :
    AgreeOff off (paths.foldl (loadEnvFile s) env) (paths.foldl (loadEnvFile s') env') := by
  induction paths generalizing env env' with
  | nil => exact h
  | cons path paths ih =>
    rw [List.foldl_cons, List.foldl_cons, loadEnvFile_eq, loadEnvFile_eq]
    exact ih (fun other hmem => hlines other (List.mem_cons_of_mem path hmem))
      (h.loadLines (hlines path List.mem_cons_self))

end Config

end CertGate
