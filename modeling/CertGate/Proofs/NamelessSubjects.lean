import CertGate.Proofs.AuthorizationTable
import CertGate.Proofs.GatewayMediation

/-!
# Subjects without a common name

Organization and unit are only compared if they are given, but a common name is compared as it is. A
subject without one is therefore left to the client IDs: it counts for nothing exactly if the empty
text is none of them.

## Key results

- `permits_select_of_nameless`: what is asked of such a subject
- `authorizes_select_filter_named`: when such subjects may be left out of a chain
- `Pipeline.judge_eq_forbidden_iff`: who is not authorized is forbidden, and nobody else
- `namelessTable_select`: all of it, with header text and the pipeline in front of it
-/

namespace CertGate

namespace Subject

/-- No element of the header gives a common name: the last segment for one is empty, if there is any. -/
def Nameless (header : String) : Prop :=
  ∀ inner, HasElement header inner → ∀ value, lastValue? .commonName inner = some value → value = []

/-- `Nameless` asks something of finitely many elements. -/
theorem nameless_iff (header : String) : Nameless header ↔
    ∀ inner ∈ elements header.toList, (lastValue? .commonName inner).getD [] = [] := by
  refine forall_congr' fun inner => ?_
  rw [hasElement_iff]
  cases lastValue? .commonName inner <;> simp

instance (header : String) : Decidable (Nameless header) :=
  decidable_of_iff _ (nameless_iff header).symm

/-- All subjects in the `chain` of a `Nameless` header are without a common name. -/
theorem commonName_of_nameless (header : String) (h : Nameless header) (s : Subject)
    (hs : s ∈ chain header) : s.commonName = "" := by
  obtain ⟨inner, helement, -, rfl⟩ := (mem_chain_iff header s).1 hs
  have hvalue := get_parse (String.ofList inner) .commonName
  rw [String.toList_ofList, lastValue] at hvalue
  refine hvalue.trans ?_
  cases hlast : lastValue? .commonName inner with
  | none => rfl
  | some value =>
    rw [h inner helement value hlast]
    rfl

/-- With both a `group` and a `tenant`, organization and unit of the subject are these. -/
def InScope (group tenant : String) (s : Subject) : Prop :=
  group ≠ "" → tenant ≠ "" → s.organization = tenant ∧ s.organizationalUnit = group

end Subject

/-- `judge` forbids who is not authorized, and nobody else. -/
theorem Pipeline.judge_eq_forbidden_iff (p : Pipeline) (certificate application path : String)
    (ids : Identity) : p.judge certificate application path ids = .reject .forbidden ↔
      (Policy.select ids application p.validation.group p.validation.tenant).authorizes
        (Subject.chain certificate) = false := by
  simp only [judge]
  split
  · next hauthorized =>
    rw [hauthorized]
    refine iff_of_false (fun h => ?_) Bool.true_eq_false.mp
    split at h <;> cases h
  · next hrefused => exact iff_of_true rfl (Bool.eq_false_iff.2 hrefused)

namespace Policy

/-! ## Single subjects and chains -/

section
variable (ids : List String) (application group tenant : String) (happlication : application ≠ "")
include happlication

/-- A subject without a common name is permitted under `select` if the empty text is a client ID and
the scope is met, and not otherwise. -/
theorem permits_select_of_nameless (s : Subject) (hs : s.commonName = "") :
    (select ids application group tenant).permits s = true ↔ "" ∈ ids ∧ s.InScope group tenant := by
  rw [permits_select_iff, hs]
  constructor
  · intro h
    -- without client IDs the name would have to be the application's, which is not empty
    exact ⟨h.listed fun hnil => happlication (h.named hnil).symm, h.inScope⟩
  · rintro ⟨hmem, hscope⟩
    exact ⟨fun _ => hmem, fun hnil => absurd (hnil ▸ hmem) List.not_mem_nil, hscope⟩

/-- `permits_select_of_nameless` for a chain of such subjects. -/
theorem authorizes_select_of_nameless (subjects : List Subject)
    (h : ∀ s ∈ subjects, s.commonName = "") :
    (select ids application group tenant).authorizes subjects = true ↔
      "" ∈ ids ∧ ∃ s ∈ subjects, s.InScope group tenant := by
  have hpermits := permits_select_of_nameless ids application group tenant happlication
  rw [authorizes, List.any_eq_true]
  constructor
  · rintro ⟨s, hs, hpermitted⟩
    obtain ⟨hmem, hscope⟩ := (hpermits s (h s hs)).1 hpermitted
    exact ⟨hmem, s, hs, hscope⟩
  · rintro ⟨hmem, s, hs, hscope⟩
    exact ⟨s, hs, (hpermits s (h s hs)).2 ⟨hmem, hscope⟩⟩

/-- `permits_select_of_nameless` for a `Nameless` header. -/
theorem authorizes_select_chain_of_nameless (header : String) (h : Subject.Nameless header) :
    (select ids application group tenant).authorizes (Subject.chain header) = true ↔
      "" ∈ ids ∧ ∃ s ∈ Subject.chain header, s.InScope group tenant :=
  authorizes_select_of_nameless ids application group tenant happlication (Subject.chain header)
    (Subject.commonName_of_nameless header h)

/-- Unless the empty text is in `ids`, subjects without a common name may be left out of a chain. -/
theorem authorizes_select_filter_named (hnone : "" ∉ ids) (subjects : List Subject) :
    (select ids application group tenant).authorizes (subjects.filter (·.commonName ≠ "")) =
      (select ids application group tenant).authorizes subjects := by
  rw [Bool.eq_iff_iff, authorizes, authorizes, List.any_eq_true, List.any_eq_true]
  constructor
  · -- the filter drops subjects only
    rintro ⟨s, hs, hpermitted⟩
    exact ⟨s, (List.mem_filter.1 hs).1, hpermitted⟩
  · -- a subject that is permitted has a common name, so it is not dropped
    rintro ⟨s, hs, hpermitted⟩
    refine ⟨s, List.mem_filter.2 ⟨hs, decide_eq_true fun hname => hnone ?_⟩, hpermitted⟩
    exact ((permits_select_of_nameless ids application group tenant happlication s hname).1
      hpermitted).1

end

/-! ## The table -/

/-- How `ids`, application, group and tenant decide over subjects without a common name. -/
structure NamelessTable (ids : List String) (application group tenant : String) : Prop where
  /-- One is permitted exactly if the empty text is a client ID and the scope is met. -/
  permits_iff : ∀ s : Subject, s.commonName = "" →
    ((select ids application group tenant).permits s = true ↔ "" ∈ ids ∧ s.InScope group tenant)
  /-- None is permitted exactly if the empty text is no client ID. -/
  refused_iff : (∀ s : Subject, s.commonName = "" →
    (select ids application group tenant).permits s = false) ↔ "" ∉ ids
  /-- It is then, and only then, that they may be left out of every chain. -/
  ignored_iff : (∀ subjects : List Subject,
    (select ids application group tenant).authorizes (subjects.filter (·.commonName ≠ "")) =
      (select ids application group tenant).authorizes subjects) ↔ "" ∉ ids
  /-- A header without common names is authorized through a client ID that is empty, if at all. -/
  header_iff : ∀ header, Subject.Nameless header →
    ((select ids application group tenant).authorizes (Subject.chain header) = true ↔
      "" ∈ ids ∧ ∃ s ∈ Subject.chain header, s.InScope group tenant)
  /-- In all other cases a request with such a header is forbidden. -/
  forbidden_iff : ∀ (p : Pipeline) lookup cache (r : Http.Request) value,
    p.validation.group = group → p.validation.tenant = tenant →
    Pipeline.Certified r value → Subject.Nameless (Pipeline.certificateText value) →
    (Identity.resolve lookup cache application).1.answer = .ok ids →
      ((p.decide lookup cache (some application) r).1 = .reject .forbidden ↔
        ¬("" ∈ ids ∧ ∃ s ∈ Subject.chain (Pipeline.certificateText value), s.InScope group tenant))

/-- A subject without a common name is permitted through an empty text in `ids`, and in no other way. -/
theorem namelessTable_select (ids : List String) (application group tenant : String)
    (happlication : application ≠ "") : NamelessTable ids application group tenant := by
  have hpermits := permits_select_of_nameless ids application group tenant happlication
  have hheader := authorizes_select_chain_of_nameless ids application group tenant happlication
  -- a subject that has nothing but what a scope may ask for
  let bare : Subject := { organization := tenant, organizationalUnit := group }
  have hbare : "" ∈ ids → (select ids application group tenant).permits bare = true := fun hmem =>
    (hpermits bare rfl).2 ⟨hmem, fun _ _ => ⟨rfl, rfl⟩⟩
  constructor
  case permits_iff => exact hpermits
  case refused_iff =>
    constructor
    · exact fun h hmem => Bool.false_ne_true ((h bare rfl).symm.trans (hbare hmem))
    · exact fun hnone s hs => Bool.eq_false_iff.2 fun h => hnone ((hpermits s hs).1 h).1
  case ignored_iff =>
    constructor
    · intro h hmem
      -- of this chain nothing is left
      have hchain : (select ids application group tenant).authorizes [bare] = true :=
        List.any_eq_true.2 ⟨bare, List.mem_singleton_self bare, hbare hmem⟩
      exact Bool.false_ne_true ((h [bare]).trans hchain)
    · exact authorizes_select_filter_named ids application group tenant happlication
  case header_iff => exact hheader
  case forbidden_iff =>
    intro p lookup cache r value hgroup htenant hcert hnameless hids
    rw [Pipeline.decide_of_resolved p lookup cache (some application) r value application ids hcert
      ⟨rfl, happlication⟩ hids, Pipeline.judge_eq_forbidden_iff, hgroup, htenant,
      ← hheader _ hnameless, Bool.not_eq_true]

/-- An application whose client IDs all have a name, in a gateway with a scope. -/
theorem namelessTable_select_managed : "app1" ≠ "" ∧ NamelessTable ["id1", "id2"] "app1" "g1" "t1" ∧
    Subject.Nameless "Subject=\"O=t1,OU=g1\";Subject=\"CN=id1,O=t1,OU=g1,CN=\"" ∧
    (select ["id1", "id2"] "app1" "g1" "t1").authorizes
      (Subject.chain "Subject=\"O=t1,OU=g1\";Subject=\"CN=id1,O=t1,OU=g1,CN=\"") = false :=
  ⟨by decide, namelessTable_select ["id1", "id2"] "app1" "g1" "t1" (by decide), by decide +kernel,
    by decide +kernel⟩

end Policy

namespace Gateway

/-- `eventRequest` with a certificate that gives an organization and nothing else. -/
def namelessRequest : Http.Request :=
  { eventRequest with headers := ⟨[(clientCertificateField, Text.Utf8.bytes "Subject=\"O=t1\"")]⟩ }

/-- With an empty client ID in the directory, `namelessRequest` is accepted. -/
theorem decide_namelessRequest_forwards :
    Subject.Nameless "Subject=\"O=t1\"" ∧
    (Policy.select [""] "app1" "" "").permits (Subject.parse "O=t1") = true ∧
    (defaultPipeline.decide (StaticDirectory.ofClientIds [("app1", some [""])]).get
      { cache := { ttl := .ofSeconds 60 } } (some "app1") namelessRequest).1 =
        .forward .eventServiceV1 :=
  ⟨by decide +kernel, by decide +kernel, by decide +kernel⟩

end Gateway

end CertGate
