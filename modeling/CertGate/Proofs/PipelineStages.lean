import CertGate.Gateway.Pipeline
import CertGate.Proofs.Outcomes
import CertGate.Proofs.ResolverStaleness

/-!
# The stages of the pipeline

A request is *admitted* if it passes every stage and *refused* by the first one that it does not pass.
Both are stated stage by stage in terms of the configuration, and `Pipeline.decide` is shown to decide
by them.

## Key results

- `decide_of_admitted`: an admitted request is forwarded to its destination
- `decide_of_refused`: a refused request is rejected with the error of the stage
- `admitted_or_refused`: every request is one or the other
- `decide_eq_forward_iff`: only admitted requests are forwarded
-/

namespace CertGate

/-- `decodeLossy` gives no characters only for no bytes: even invalid bytes become a replacement
character. -/
theorem Text.Utf8.decodeLossy_eq_nil_iff (bs : List UInt8) : decodeLossy bs = [] ↔ bs = [] := by
  constructor
  · intro h
    cases bs with
    | nil => rfl
    | cons b bs =>
      rw [decodeLossy, scan] at h
      split at h
      · cases h
      · split at h <;> cases h
  · intro h
    rw [h, decodeLossy, scan, List.map_nil]

namespace Pipeline

/-! ## The stages -/

/-- The text that `Subject.chain` reads out of a certificate field. -/
def certificateText (value : Http.FieldValue) : String :=
  String.ofList (Text.Utf8.decodeLossy value)

/-- The first certificate field of `r` is `value`, which is not empty. -/
def Certified (r : Http.Request) (value : Http.FieldValue) : Prop :=
  r.headers.get? clientCertificateField = some value ∧ value ≠ []

/-- The request is for the application `name`, which is not empty. -/
def Named (application : Option String) (name : String) : Prop :=
  application = some name ∧ name ≠ ""

/-- Some subject in `value`, the certificate field, satisfies the policy of the application. -/
def Permitted (c : Config) (value : Http.FieldValue) (name : String) (ids : Identity) : Prop :=
  ∃ subject ∈ Subject.chain (certificateText value),
    (Policy.select ids name c.validation.group c.validation.tenant).permits subject = true

/-- Where the route table of `c` leads the request. -/
def routed (c : Config) (r : Http.Request) (name : String) : Except RouteError Destination :=
  (RouteTable.ofLeads c.routes).route r.target.path name c.backends.isMeshEnabled

section
variable (c : Config) (lookup : Lookup) (cache : TendedCache Identity)
  (application : Option String) (r : Http.Request)

/-- `r` passes every stage: with the certificate `value`, for the application `name` with these client
IDs, on its way to `d`. -/
structure Admitted (value : Http.FieldValue) (name : String) (ids : Identity) (d : Destination) :
    Prop where
  certified : Certified r value
  named : Named application name
  resolved : (Identity.resolve lookup cache name).1.answer = .ok ids
  permitted : Permitted c value name ids
  route_eq : routed c r name = .ok d

/-- The first stage that `r` does not pass answers with this status and reports this error. Each
constructor has what the stages before it found. -/
inductive Refused : Nat → GateError → Prop where
  | uncertified (h : ∀ value, ¬Certified r value) :
    Refused 500 (.missingCertificateHeader "X-Forwarded-Client-Cert")
  | unnamed (value : Http.FieldValue) (hcert : Certified r value)
      (h : ∀ name, ¬Named application name) :
    Refused 400 .missingApplication
  | unresolved (value : Http.FieldValue) (name : String) (source : DirectoryError)
      (hcert : Certified r value) (hname : Named application name)
      (h : (Identity.resolve lookup cache name).1.answer = .error (.lookup name source)) :
    Refused 500 (.identity name source)
  | forbidden (value : Http.FieldValue) (name : String) (ids : Identity)
      (hcert : Certified r value) (hname : Named application name)
      (hids : (Identity.resolve lookup cache name).1.answer = .ok ids)
      (h : ¬Permitted c value name ids) :
    Refused 403 .forbidden
  | unrouted (value : Http.FieldValue) (name : String) (ids : Identity) (error : RouteError)
      (hcert : Certified r value) (hname : Named application name)
      (hids : (Identity.resolve lookup cache name).1.answer = .ok ids)
      (hpermitted : Permitted c value name ids) (h : routed c r name = .error error) :
    Refused 404 (.route error)

end

/-! ## The stages as they are carried out -/

/-- `certificate?` finds the text of a `Certified` field and nothing else. -/
theorem certificate?_eq_some_iff (r : Http.Request) (text : String) :
    certificate? r.headers = some text ↔
      ∃ value, Certified r value ∧ text = certificateText value := by
  have hempty : ∀ value, certificateText value = "" ↔ value = [] := fun value => by
    rw [certificateText, ← String.toList_inj, String.toList_ofList]
    exact Text.Utf8.decodeLossy_eq_nil_iff value
  simp only [certificate?, bind]
  constructor
  · intro h
    -- a field was found, and its text is not empty
    obtain ⟨value, hget, hvalue⟩ := Option.bind_eq_some_iff.1 h
    split at hvalue
    · cases hvalue
    · next hne =>
      cases hvalue
      exact ⟨value, ⟨hget, fun hnil => hne ((hempty value).2 hnil)⟩, rfl⟩
  · rintro ⟨value, ⟨hget, hne⟩, rfl⟩
    rw [hget]
    exact if_neg (mt (hempty value).1 hne)

/-- `certificate?` of a `Certified` request. -/
theorem certificate?_of_certified (r : Http.Request) (value : Http.FieldValue)
    (h : Certified r value) : certificate? r.headers = some (certificateText value) :=
  (certificate?_eq_some_iff r _).2 ⟨value, h, rfl⟩

/-- The stage's filter lets a `Named` application through. -/
theorem filter_of_named (application : Option String) (name : String)
    (h : Named application name) : application.filter (· ≠ "") = some name := by
  rw [h.1, Option.filter_some, if_pos (decide_eq_true h.2)]

/-- What the stage's filter lets through is `Named`. -/
theorem named_of_filter (application : Option String) (name : String)
    (h : application.filter (· ≠ "") = some name) : Named application name := by
  obtain ⟨hname, hne⟩ := Option.filter_eq_some_iff.1 h
  exact ⟨hname, of_decide_eq_true hne⟩

/-- What `Pipeline.ofConfig` takes from the configuration. -/
theorem ofConfig_eq_ok (c : Config) (p : Pipeline) (h : ofConfig c = .ok p) :
    Dispatcher.ofBackends c.backends = .ok p.dispatcher ∧ p.routes = .ofLeads c.routes ∧
      p.validation = c.validation ∧ p.meshEnabled = c.backends.isMeshEnabled := by
  obtain ⟨dispatcher, hdispatcher, h⟩ := Except.bind_eq_ok_iff.1 h
  cases h
  exact ⟨hdispatcher, rfl, rfl, rfl⟩

section
variable (c : Config) (p : Pipeline) (lookup : Lookup) (cache : TendedCache Identity)
  (application : Option String) (r : Http.Request)

/-- `Policy.authorizes` on the whole chain is `Permitted`. -/
theorem authorizes_iff (value : Http.FieldValue) (name : String) (ids : Identity) :
    (Policy.select ids name c.validation.group c.validation.tenant).authorizes
      (Subject.chain (certificateText value)) = true ↔ Permitted c value name ids :=
  List.any_eq_true

/-- `judge` forwards who is `Permitted` and `routed`. -/
theorem judge_of_permitted (hp : ofConfig c = .ok p) (value : Http.FieldValue) (name : String)
    (ids : Identity) (d : Destination) (h : Permitted c value name ids) (hd : routed c r name = .ok d) :
    p.judge (certificateText value) name r.target.path ids = .forward d := by
  obtain ⟨-, hroutes, hvalidation, hmesh⟩ := ofConfig_eq_ok c p hp
  simp only [judge, hroutes, hvalidation, hmesh]
  rw [if_pos ((authorizes_iff c value name ids).2 h)]
  simp only [routed] at hd
  rw [hd]

/-- `judge` rejects who is `Permitted` but not `routed`. -/
theorem judge_of_unrouted (hp : ofConfig c = .ok p) (value : Http.FieldValue) (name : String)
    (ids : Identity) (e : RouteError) (h : Permitted c value name ids) (he : routed c r name = .error e) :
    p.judge (certificateText value) name r.target.path ids = .reject (.route e) := by
  obtain ⟨-, hroutes, hvalidation, hmesh⟩ := ofConfig_eq_ok c p hp
  simp only [judge, hroutes, hvalidation, hmesh]
  rw [if_pos ((authorizes_iff c value name ids).2 h)]
  simp only [routed] at he
  rw [he]

/-- `judge` rejects who is not `Permitted`, whatever the route. -/
theorem judge_of_forbidden (hp : ofConfig c = .ok p) (value : Http.FieldValue) (name : String)
    (ids : Identity) (h : ¬Permitted c value name ids) :
    p.judge (certificateText value) name r.target.path ids = .reject .forbidden := by
  obtain ⟨-, -, hvalidation, -⟩ := ofConfig_eq_ok c p hp
  simp only [judge, hvalidation]
  exact if_neg (mt (authorizes_iff c value name ids).1 h)

/-- Without a certificate `decide` looks nobody up, and leaves the cache. -/
theorem decide_of_uncertified (h : ∀ value, ¬Certified r value) :
    p.decide lookup cache application r =
      (.reject (.missingCertificateHeader "X-Forwarded-Client-Cert"), [], cache) := by
  have hnone : certificate? r.headers = none := by
    rw [Option.eq_none_iff_forall_ne_some]
    intro text htext
    obtain ⟨value, hcert, -⟩ := (certificate?_eq_some_iff r text).1 htext
    exact h value hcert
  simp only [decide]
  rw [hnone]

/-- Without an application `decide` looks nobody up, and leaves the cache. -/
theorem decide_of_unnamed (value : Http.FieldValue) (hcert : Certified r value)
    (h : ∀ name, ¬Named application name) :
    p.decide lookup cache application r = (.reject .missingApplication, [], cache) := by
  have hnone : application.filter (· ≠ "") = none := by
    rw [Option.eq_none_iff_forall_ne_some]
    exact fun name hname => h name (named_of_filter application name hname)
  simp only [decide]
  rw [certificate?_of_certified r value hcert, hnone]

/-- `decide` after a failed lookup. -/
theorem decide_of_unresolved (value : Http.FieldValue) (name : String) (source : DirectoryError)
    (hcert : Certified r value) (hname : Named application name)
    (h : (Identity.resolve lookup cache name).1.answer = .error (.lookup name source)) :
    p.decide lookup cache application r =
      (.reject (.identity name source), (Identity.resolve lookup cache name).1.lookups,
        (Identity.resolve lookup cache name).2) := by
  simp only [decide]
  rw [certificate?_of_certified r value hcert, filter_of_named application name hname]
  simp only [h]

/-- `decide` once the identity is known: what is left is up to `judge`. -/
theorem decide_of_resolved (value : Http.FieldValue) (name : String) (ids : Identity)
    (hcert : Certified r value) (hname : Named application name)
    (h : (Identity.resolve lookup cache name).1.answer = .ok ids) :
    p.decide lookup cache application r =
      (p.judge (certificateText value) name r.target.path ids,
        (Identity.resolve lookup cache name).1.lookups, (Identity.resolve lookup cache name).2) := by
  simp only [decide]
  rw [certificate?_of_certified r value hcert, filter_of_named application name hname]
  simp only [h]

/-! ## Deciding by the stages -/

/-- `decide` forwards an `Admitted` request, after a lookup for its application alone. -/
theorem decide_of_admitted (hp : ofConfig c = .ok p) (value : Http.FieldValue) (name : String)
    (ids : Identity) (d : Destination)
    (h : Admitted c lookup cache application r value name ids d) :
    p.decide lookup cache application r =
      (.forward d, (Identity.resolve lookup cache name).1.lookups,
        (Identity.resolve lookup cache name).2) := by
  rw [decide_of_resolved p lookup cache application r value name ids h.certified h.named h.resolved,
    judge_of_permitted c p r hp value name ids d h.permitted h.route_eq]

/-- `decide` rejects a `Refused` request with the error of its stage. -/
theorem decide_of_refused (hp : ofConfig c = .ok p) (status : Nat) (e : GateError)
    (h : Refused c lookup cache application r status e) :
    (p.decide lookup cache application r).1 = .reject e := by
  cases h with
  | uncertified h => rw [decide_of_uncertified p lookup cache application r h]
  | unnamed value hcert h => rw [decide_of_unnamed p lookup cache application r value hcert h]
  | unresolved value name source hcert hname h =>
    rw [decide_of_unresolved p lookup cache application r value name source hcert hname h]
  | forbidden value name ids hcert hname hids h =>
    rw [decide_of_resolved p lookup cache application r value name ids hcert hname hids]
    exact judge_of_forbidden c p r hp value name ids h
  | unrouted value name ids error hcert hname hids hpermitted h =>
    rw [decide_of_resolved p lookup cache application r value name ids hcert hname hids]
    exact judge_of_unrouted c p r hp value name ids error hpermitted h

/-- If the identity cannot be stored, `decide` crashes. -/
theorem decide_of_overflow (value : Http.FieldValue) (name : String) (e : CacheError)
    (hcert : Certified r value) (hname : Named application name)
    (h : (Identity.resolve lookup cache name).1.answer = .error (.cache e)) :
    (p.decide lookup cache application r).1 = .crash e := by
  simp only [decide]
  rw [certificate?_of_certified r value hcert, filter_of_named application name hname]
  simp only [h]

/-- Every request is `Admitted` or `Refused`, or crashes because its deadline cannot be represented. -/
theorem stage_cases :
    (∃ value name ids d, Admitted c lookup cache application r value name ids d) ∨
      (∃ status e, Refused c lookup cache application r status e) ∨
      ¬cache.CanStore ∧ ∃ value name e, Certified r value ∧ Named application name ∧
        (Identity.resolve lookup cache name).1.answer = .error (.cache e) := by
  -- stage by stage: the first one that fails gives a constructor of `Refused`
  by_cases hcert : ∃ value, Certified r value
  case neg => exact Or.inr (Or.inl ⟨_, _, .uncertified fun value h => hcert ⟨value, h⟩⟩)
  obtain ⟨value, hcert⟩ := hcert
  by_cases hname : ∃ name, Named application name
  case neg => exact Or.inr (Or.inl ⟨_, _, .unnamed value hcert fun name h => hname ⟨name, h⟩⟩)
  obtain ⟨name, hname⟩ := hname
  obtain ⟨ids, hids⟩ | ⟨source, hanswer⟩ | ⟨hfit, e, hanswer⟩ := Identity.answer_cases lookup cache name
  case inr.inl => exact Or.inr (Or.inl ⟨_, _, .unresolved value name source hcert hname hanswer⟩)
  case inr.inr => exact Or.inr (Or.inr ⟨hfit, value, name, e, hcert, hname, hanswer⟩)
  by_cases hpermitted : Permitted c value name ids
  case neg => exact Or.inr (Or.inl ⟨_, _, .forbidden value name ids hcert hname hids hpermitted⟩)
  cases hroute : routed c r name with
  | error error =>
    exact Or.inr (Or.inl ⟨_, _, .unrouted value name ids error hcert hname hids hpermitted hroute⟩)
  | ok d => exact Or.inl ⟨value, name, ids, d, ⟨hcert, hname, hids, hpermitted, hroute⟩⟩

/-- `decide` forwards none but `Admitted` requests. -/
theorem decide_eq_forward_iff (hp : ofConfig c = .ok p) (d : Destination) :
    (p.decide lookup cache application r).1 = .forward d ↔
      ∃ value name ids, Admitted c lookup cache application r value name ids d := by
  constructor
  · intro hd
    obtain ⟨value, name, ids, d', h⟩ | ⟨status, e, h⟩ | ⟨-, value, name, e, hcert, hname, h⟩ :=
      stage_cases c lookup cache application r
    · -- admitted, and `decide` is a function: `d` is the admitted destination
      rw [decide_of_admitted c p lookup cache application r hp value name ids d' h] at hd
      cases hd
      exact ⟨value, name, ids, h⟩
    · -- refused or crashed: not forwarded
      rw [decide_of_refused c p lookup cache application r hp status e h] at hd
      cases hd
    · rw [decide_of_overflow p lookup cache application r value name e hcert hname h] at hd
      cases hd
  · rintro ⟨value, name, ids, h⟩
    rw [decide_of_admitted c p lookup cache application r hp value name ids d h]

end

end Pipeline

end CertGate
