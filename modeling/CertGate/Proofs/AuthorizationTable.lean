import CertGate.Policy
import CertGate.Proofs.DistinguishedName
import CertGate.Proofs.ElementScan

/-!
# The authorization table over header text

Header text is authorized when one of its elements meets the row of the table that the client IDs and
the scope select. Everything that is asked is asked of one and the same element: attributes of
different certificates do not add up.

## Key results

- `permits_select_iff`: the four policies as one row of the table
- `authorizes_select_chain_iff`: the table over the elements of a header
- `authorizes_select_mono`: more subjects never revoke, and order and repetition do not matter
- `authorizationTable_select`: all of it, for every list of client IDs, application, group and tenant
-/

namespace CertGate

/-- `Scope.ofParts?` asks that a subject carry the group and the tenant if both are given, and nothing
if not. No part of a scope is empty, so none matches an absent attribute. -/
theorem Scope.all_admits_iff (group tenant : String) (s : Subject) :
    (ofParts? group tenant).all (·.admits s) = true ↔
      (group ≠ "" → tenant ≠ "" → s.organization = tenant ∧ s.organizationalUnit = group) := by
  have hmatches : ∀ value expected : String, expected ≠ "" →
      (matchesValue value expected = true ↔ value = expected) := by
    intro value expected hexpected
    simp only [matchesValue, Bool.and_eq_true, decide_eq_true_eq, beq_iff_eq, ne_eq]
    exact ⟨And.right, fun heq => ⟨heq ▸ hexpected, heq⟩⟩
  by_cases hparts : group ≠ "" ∧ tenant ≠ ""
  · rw [ofParts?, if_pos hparts, Option.all_some, admits, Bool.and_eq_true,
      hmatches _ _ hparts.2, hmatches _ _ hparts.1]
    exact ⟨fun hadmits _ _ => hadmits, fun hadmits => hadmits hparts.1 hparts.2⟩
  · rw [ofParts?, if_neg hparts, Option.all_none]
    exact ⟨fun _ hgroup htenant => absurd ⟨hgroup, htenant⟩ hparts, fun _ => rfl⟩

namespace Policy

/-- A common name, an organization and a unit meet the row of the table for `ids`, application, group
and tenant. -/
structure Meets (ids : List String) (application group tenant : String)
    (commonName organization unit : String) : Prop where
  /-- With client IDs, the common name is one of them. -/
  listed : ids ≠ [] → commonName ∈ ids
  /-- Without, it is the application. -/
  named : ids = [] → commonName = application
  /-- With a group and a tenant, these are the unit and the organization. -/
  inScope : group ≠ "" → tenant ≠ "" → organization = tenant ∧ unit = group

/-- `select` asks two questions apart from each other: what the common name has to be, and what the
scope admits. -/
theorem permits_select (ids : List String) (application group tenant : String) (s : Subject) :
    (select ids application group tenant).permits s =
      ((if ids.isEmpty then s.commonName == application else ids.contains s.commonName) &&
        (Scope.ofParts? group tenant).all (·.admits s)) := by
  simp only [select]
  cases ids.isEmpty <;> cases Scope.ofParts? group tenant <;> simp [permits]

/-- `permits` of the selected policy is `Meets`. -/
theorem permits_select_iff (ids : List String) (application group tenant : String) (s : Subject) :
    (select ids application group tenant).permits s = true ↔
      Meets ids application group tenant s.commonName s.organization s.organizationalUnit := by
  rw [permits_select, Bool.and_eq_true, Scope.all_admits_iff]
  cases ids with
  -- no client IDs: the common name is the application's
  | nil =>
    rw [List.isEmpty_nil, if_pos rfl, beq_iff_eq]
    exact ⟨fun h => ⟨fun hne => absurd rfl hne, fun _ => h.1, h.2⟩, fun h => ⟨h.named rfl, h.inScope⟩⟩
  -- the common name is one of the client IDs
  | cons id ids =>
    rw [List.isEmpty_cons, if_neg Bool.false_ne_true, List.contains_iff_mem]
    exact ⟨fun h => ⟨fun _ => h.1, nofun, h.2⟩,
      fun h => ⟨h.listed (List.cons_ne_nil id ids), h.inScope⟩⟩

/-- `authorizes` of the selected policy: some subject `Meets` the row. -/
theorem authorizes_select_iff (ids : List String) (application group tenant : String)
    (subjects : List Subject) :
    (select ids application group tenant).authorizes subjects = true ↔
      ∃ s ∈ subjects,
        Meets ids application group tenant s.commonName s.organization s.organizationalUnit := by
  simp only [authorizes, List.any_eq_true, permits_select_iff]

/-- Header text is authorized when one of its elements `Meets` the row of the table. -/
theorem authorizes_select_chain_iff (ids : List String) (application group tenant : String)
    (header : String) :
    (select ids application group tenant).authorizes (Subject.chain header) = true ↔
      ∃ inner, Subject.HasElement header inner ∧ inner ≠ [] ∧
        Meets ids application group tenant (Subject.lastValue .commonName inner)
          (Subject.lastValue .organization inner) (Subject.lastValue .organizationalUnit inner) := by
  have hget : ∀ inner a, (Subject.parse (String.ofList inner)).get a = Subject.lastValue a inner := by
    intro inner a
    rw [Subject.get_parse, String.toList_ofList]
  rw [authorizes_select_iff]
  constructor
  · rintro ⟨s, hs, hmeets⟩
    obtain ⟨inner, helement, hne, rfl⟩ := (Subject.mem_chain_iff header s).1 hs
    refine ⟨inner, helement, hne, ?_⟩
    rw [← hget inner, ← hget inner, ← hget inner]
    exact hmeets
  · rintro ⟨inner, helement, hne, hmeets⟩
    refine ⟨_, (Subject.mem_chain_iff header _).2 ⟨inner, helement, hne, rfl⟩, ?_⟩
    rw [← hget inner, ← hget inner, ← hget inner] at hmeets
    exact hmeets

/-! ## What does not matter -/

/-- `Meets` depends on the client IDs as a set. -/
theorem Meets.of_same_ids {ids ids' : List String} {application group tenant cn o ou : String}
    (h : Meets ids application group tenant cn o ou) (hids : ∀ id, id ∈ ids ↔ id ∈ ids') :
    Meets ids' application group tenant cn o ou := by
  -- one list is empty exactly when the other one is
  have hempty : ids = [] ↔ ids' = [] := by
    simp only [List.eq_nil_iff_forall_not_mem, hids]
  exact ⟨fun hne => (hids cn).1 (h.listed (mt hempty.1 hne)), fun hnil => h.named (hempty.2 hnil),
    h.inScope⟩

/-- More subjects never revoke: `authorizes` is monotone in the subjects as a set, and depends on the
client IDs as a set. -/
theorem authorizes_select_mono {ids ids' : List String} (application group tenant : String)
    {subjects subjects' : List Subject} (hsubjects : ∀ s ∈ subjects, s ∈ subjects')
    (hids : ∀ id, id ∈ ids ↔ id ∈ ids')
    (h : (select ids application group tenant).authorizes subjects = true) :
    (select ids' application group tenant).authorizes subjects' = true := by
  rw [authorizes_select_iff] at h ⊢
  obtain ⟨s, hs, hmeets⟩ := h
  exact ⟨s, hsubjects s hs, hmeets.of_same_ids hids⟩

/-- What `Meets` a row with some scope meets the row without one. -/
theorem Meets.unscope {ids : List String} {application group tenant cn o ou : String}
    (h : Meets ids application group tenant cn o ou) (group' tenant' : String)
    (hpart : group' = "" ∨ tenant' = "") : Meets ids application group' tenant' cn o ou := by
  refine ⟨h.listed, h.named, fun hgroup htenant => ?_⟩
  cases hpart with
  | inl hempty => exact absurd hempty hgroup
  | inr hempty => exact absurd hempty htenant

/-! ## The table -/

/-- How `ids`, application, group and tenant decide over certificates. -/
structure AuthorizationTable (ids : List String) (application group tenant : String) : Prop where
  /-- Header text is authorized exactly when the last values for common name, organization and unit in
  one of its elements meet the row of the table. -/
  authorized_iff : ∀ header,
    (select ids application group tenant).authorizes (Subject.chain header) = true ↔
      ∃ inner, Subject.HasElement header inner ∧ inner ≠ [] ∧
        Meets ids application group tenant (Subject.lastValue .commonName inner)
          (Subject.lastValue .organization inner) (Subject.lastValue .organizationalUnit inner)
  /-- Order and multiplicity of subjects and of client IDs make no difference. -/
  unordered : ∀ (subjects subjects' : List Subject) (ids' : List String),
    (∀ s, s ∈ subjects ↔ s ∈ subjects') → (∀ id, id ∈ ids ↔ id ∈ ids') →
      (select ids application group tenant).authorizes subjects =
        (select ids' application group tenant).authorizes subjects'
  /-- Subjects that are added never revoke, wherever they are put. -/
  added : ∀ subjects subjects' : List Subject, (∀ s ∈ subjects, s ∈ subjects') →
    (select ids application group tenant).authorizes subjects = true →
      (select ids application group tenant).authorizes subjects' = true
  /-- A scope never authorizes a header that is refused without one. -/
  narrowed : ∀ header group' tenant', group' = "" ∨ tenant' = "" →
    (select ids application group tenant).authorizes (Subject.chain header) = true →
      (select ids application group' tenant').authorizes (Subject.chain header) = true

/-- The policy that `select` gives follows the `AuthorizationTable`, for all client IDs, applications,
groups and tenants. -/
theorem authorizationTable_select (ids : List String) (application group tenant : String) :
    AuthorizationTable ids application group tenant := by
  constructor
  case authorized_iff => exact authorizes_select_chain_iff ids application group tenant
  case unordered =>
    intro subjects subjects' ids' hsubjects hids
    rw [Bool.eq_iff_iff]
    constructor
    · exact authorizes_select_mono application group tenant (fun s => (hsubjects s).1) hids
    · exact authorizes_select_mono application group tenant (fun s => (hsubjects s).2)
        fun id => (hids id).symm
  case added =>
    intro subjects subjects' hsubjects
    exact authorizes_select_mono application group tenant hsubjects fun _ => Iff.rfl
  case narrowed =>
    intro header group' tenant' hpart h
    rw [authorizes_select_iff] at h ⊢
    obtain ⟨s, hs, hmeets⟩ := h
    exact ⟨s, hs, hmeets.unscope group' tenant' hpart⟩

-- the scope is not met by two certificates together, and the last common name counts
example : (select ["id1"] "app1" "g1" "t1").authorizes
      (Subject.chain "Subject=\"CN=id1,O=t1\";Subject=\"CN=id1,OU=g1\"") = false ∧
    (select ["id1"] "app1" "g1" "t1").authorizes
      (Subject.chain "Subject=\"CN=app1,O=t1,OU=g1,CN=id1\"") = true := by decide +kernel

end Policy

end CertGate
