import CertGate.Config.Layers
import CertGate.Proofs.AssocList

/-!
# The order of files of variables

Files of variables are loaded one after the other into an environment that leaves alone what is set
already. So what a variable says is said by the environment of the process, or else by the first line of
the first file that sets it, read as of the variables set by then. Files that come later do not count,
whatever they say.

## Key results

- `said?_setNew`: one more variable, of which only those that say nothing yet take notice
- `said?_loadLines`: the lines of a file count from the first one on
- `said?_settled`: so do files
-/

namespace CertGate

namespace Environment

/-- What the first variable says whose name is `meant`. -/
def said? (env : Environment) (meant : String → Bool) : Option String :=
  (env.find? fun e => meant e.1).map (·.2)

/-- What a variable is set to is what `said?` has of its name. -/
theorem get?_eq_said? (env : Environment) (name : String) :
    env.get? name = env.said? (· == name) := by
  induction env with
  | nil => rfl
  | cons e env ih =>
    rw [get?, List.lookup_cons, said?, List.find?_cons]
    by_cases he : e.1 = name
    · rw [beq_iff_eq.2 he, beq_iff_eq.2 he.symm]
      rfl
    · rw [beq_false_of_ne he, beq_false_of_ne (Ne.symm he)]
      exact ih

/-- Of two environments the first one counts in `said?`, if it says anything. -/
theorem said?_append (env more : Environment) (meant : String → Bool) :
    (env ++ more).said? meant = (env.said? meant).or (more.said? meant) := by
  rw [said?, List.find?_append, said?, said?]
  cases env.find? fun e => meant e.1 <;> rfl

/-- A variable that is `meant` and set says something. -/
theorem isSome_said?_of_get? (env : Environment) (meant : String → Bool) (name : String)
    (hset : (env.get? name).isSome) (hmeant : meant name) : (env.said? meant).isSome := by
  obtain ⟨e, he, hname⟩ := List.lookup_isSome_iff.1 hset
  rw [said?, Option.isSome_map, List.find?_isSome]
  exact ⟨e, he, beq_iff_eq.1 hname ▸ hmeant⟩

/-- After `setNew`, what was said already is still said; else the new variable says it. -/
theorem said?_setNew (env : Environment) (meant : String → Bool) (name value : String) :
    (env.setNew name value).said? meant =
      (env.said? meant).or (if meant name then some value else none) := by
  rw [setNew]
  split
  · -- a variable of this name is there, so what it says was said before
    next hset =>
    split
    · next hmeant =>
      obtain ⟨said, hsaid⟩ := Option.isSome_iff_exists.1
        (env.isSome_said?_of_get? meant name hset hmeant)
      rw [hsaid]
      rfl
    · rw [Option.or_none]
  · rw [said?_append]
    congr 1
    cases hmeant : meant name <;> simp [said?, hmeant]

/-- `setNew` sets no variable twice. -/
theorem nodup_setNew (env : Environment) (name value : String) (h : (env.map (·.1)).Nodup) :
    ((env.setNew name value).map (·.1)).Nodup := by
  rw [setNew]
  split
  · exact h
  · next hset =>
    have hnone : env.lookup name = none := Option.not_isSome_iff_eq_none.1 hset
    rw [List.map_append, List.nodup_append]
    refine ⟨h, by simp, ?_⟩
    rintro a ha b hb rfl
    obtain ⟨e, he, rfl⟩ := List.mem_map.1 ha
    have hname : e.1 = name := by simpa using hb
    have hne := List.lookup_eq_none_iff.1 hnone e he
    exact (bne_iff_ne.1 hne) hname.symm

namespace File

/-- What lines have to say of the variables that are `meant`: the value in the first line that sets one
of them, read as of the variables set by then. -/
def assigned? (meant : String → Bool) (env : Environment) :
    List (Option (List Char)) → Option String
  | some line :: rest =>
    match readLine? env line with
    | some (some (name, value)) =>
      if meant name then some value else assigned? meant (env.setNew name value) rest
    | some none => assigned? meant env rest
    | none => none
  | _ => none

/-- After `loadLines`, what was said already is still said; else it is what the lines have `assigned?`. -/
theorem said?_loadLines (env : Environment) (meant : String → Bool)
    (lines : List (Option (List Char))) :
    (loadLines env lines).said? meant = (env.said? meant).or (assigned? meant env lines) := by
  induction lines generalizing env with
  | nil => rw [assigned?.eq_def, Option.or_none]; rfl
  | cons line rest ih =>
    cases line with
    | none => rw [assigned?.eq_def, Option.or_none]; rfl
    | some line =>
      rw [loadLines, assigned?]
      cases readLine? env line with
      | none => rw [Option.or_none]
      | some set? =>
        cases set? with
        | none => exact ih env
        | some entry =>
          show said? (loadLines (env.setNew entry.1 entry.2) rest) meant = _
          rw [ih, said?_setNew, Option.or_assoc]
          congr 1
          -- the line itself counts, or it is passed over
          cases hmeant : meant entry.1 <;> simp [hmeant]

/-- `loadLines` sets no variable twice. -/
theorem nodup_loadLines (env : Environment) (lines : List (Option (List Char)))
    (h : (env.map (·.1)).Nodup) : ((loadLines env lines).map (·.1)).Nodup := by
  fun_induction loadLines env lines with
  | case1 env line rest name value hline ih => exact ih (env.nodup_setNew name value h)
  | case2 env line rest hline ih => exact ih h
  | case3 => exact h
  | case4 => exact h

end File

end Environment

namespace Config

open Environment (said?)

/-- The lines of the file of variables at `path`; none if it cannot be read. -/
def envLines (s : Surroundings) (path : String) : List (Option (List Char)) :=
  match s.files.read (expandHome s.home path) with
  | .ok content => Environment.File.lines content
  | .error _ => []

/-- `loadEnvFile` loads the lines of its file. -/
theorem loadEnvFile_eq (s : Surroundings) (env : Environment) (path : String) :
    loadEnvFile s env path = Environment.File.loadLines env (envLines s path) := by
  rw [loadEnvFile, envLines]
  cases s.files.read (expandHome s.home path) with
  | ok content => rfl
  | error e => rfl

/-- What files have to say of the variables that are `meant`, each in its turn. Files that do not set
one of them are passed over. -/
def assignments (s : Surroundings) (meant : String → Bool) (env : Environment) :
    List String → List String
  | [] => []
  | path :: paths =>
    (Environment.File.assigned? meant env (envLines s path)).toList
      ++ assignments s meant (loadEnvFile s env path) paths

/-- After files were loaded, what was said already is still said; else it is what the first of their
`assignments` says. -/
theorem said?_foldl_loadEnvFile (s : Surroundings) (meant : String → Bool) (paths : List String)
    (env : Environment) : said? (paths.foldl (loadEnvFile s) env) meant =
      (said? env meant).or (assignments s meant env paths).head? := by
  induction paths generalizing env with
  | nil => rw [List.foldl_nil, assignments, List.head?_nil, Option.or_none]
  | cons path paths ih =>
    rw [List.foldl_cons, ih, assignments, loadEnvFile_eq, Environment.File.said?_loadLines,
      Option.or_assoc, List.head?_append]
    congr 1
    cases Environment.File.assigned? meant env (envLines s path) <;> rfl

/-- The environment that `settings` of a configuration are read from: that of the process, with the
files of variables that it and the configuration file name. -/
def settled (s : Surroundings) (file : Value) : Environment :=
  loadEnvFiles s (envFilesNamed s file)

/-- The settings of `settled`, the whole environment, are laid over the file. -/
theorem layers_eq (s : Surroundings) (file : Value) :
    layers s file = file.merge (Environment.settings (settled s file)) :=
  rfl

/-- What `settled` says is said by the environment of the process, or else by the first file. -/
theorem said?_settled (s : Surroundings) (file : Value) (meant : String → Bool) :
    said? (settled s file) meant =
      (said? s.env meant).or (assignments s meant s.env (envFilesNamed s file)).head? :=
  said?_foldl_loadEnvFile s meant _ s.env

/-- In the environment `settled` no variable is set twice. -/
theorem nodup_settled (s : Surroundings) (file : Value) (h : (s.env.map (·.1)).Nodup) :
    ((settled s file).map (·.1)).Nodup := by
  rw [settled, loadEnvFiles]
  generalize s.env = env at h
  induction envFilesNamed s file generalizing env with
  | nil => exact h
  | cons path paths ih =>
    rw [List.foldl_cons, loadEnvFile_eq]
    exact ih _ (Environment.File.nodup_loadLines env _ h)

end Config

end CertGate
