/-!
# Environment variables

An environment is a list of variables in the order in which they were set. A variable that is set
already is left alone by `setNew`.
-/

namespace CertGate

/-- Variables and their values, in the order in which they were set. -/
abbrev Environment := List (String × String)

namespace Environment

/-- The value of the variable `name`, if it is set. -/
def get? (env : Environment) (name : String) : Option String :=
  env.lookup name

/-- Sets the variable `name` unless it is set already. -/
def setNew (env : Environment) (name value : String) : Environment :=
  if (env.get? name).isSome then env else env ++ [(name, value)]

theorem get?_append (env more : Environment) (name : String) :
    (env ++ more).get? name = (env.get? name).or (more.get? name) := by
  simp only [get?]
  induction env with
  | nil => simp
  | cons e env ih =>
    obtain ⟨n, v⟩ := e
    simp only [List.cons_append, List.lookup_cons, ih]
    cases name == n <;> rfl

/-- What is set already stays as it is after `setNew`. -/
theorem get?_setNew_of_isSome {env : Environment} {name : String} (n value : String)
    (h : (env.get? name).isSome) : (env.setNew n value).get? name = env.get? name := by
  simp only [setNew]
  split
  · rfl
  · obtain ⟨v, hv⟩ := Option.isSome_iff_exists.1 h
    rw [get?_append, hv]
    rfl

end Environment

end CertGate
