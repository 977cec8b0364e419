import CertGate.Gateway
import CertGate.Proofs.OutboundUrl
import CertGate.Proofs.PipelineStages

/-!
# Mediation by the gateway

The gateway is run with a transport that keeps a log of what it is given to send. Whatever happened
before, a request adds to the log exactly if it passes every stage of the pipeline, and then adds one
sending to the backend of its destination; else the first stage that it does not pass answers it.

## Key results

- `run_serve`: what serving a request answers, stores and sends, in terms of the pipeline's decision
- `ttl_run`: a run leaves the life time of identities as configured
- `mediated_serve`, `mediated_reachable`: admitted requests are sent on, all others are refused
-/

namespace CertGate

/-- A request that `Proxy.prepare` made, and the body that goes with it. -/
abbrev Sending := OutboundRequest × List UInt8

/-- A transport that logs every `Sending`. What it answers may depend on the log so far. -/
def recording (answerOf : List Sending → Transport Id) : Transport (StateM (List Sending)) :=
  fun r body => do
    let log ← get
    set (log ++ [(r, body)])
    return answerOf log r body

/-- The endpoint of the requests that the `Pipeline` handles, for this application or for none. -/
def Endpoint.ofApplication : Option String → Endpoint
  | some name => .application name
  | Option.none => .none

namespace Gateway

/-! ## Requests with an identifier -/

section
variable (fresh : Http.FieldValue) (r : Http.Request)

@[simp] theorem target_withRequestId : (withRequestId fresh r).target = r.target := by
  unfold withRequestId
  split <;> rfl

/-- `insert` of one field leaves `get?` of the others. -/
theorem get?_insert_of_ne (h : Http.Headers) (name k : String) (value : Http.FieldValue)
    (hk : k ≠ name) : (h.insert name value).get? k = h.get? k := by
  simp only [Http.Headers.get?, Http.Headers.insert, Http.Headers.append, Http.Headers.erase]
  rw [List.lookup_append, List.lookup_filter_ne_of_ne h.fields name k hk]
  have hnone : List.lookup k [(name, value)] = none := by
    rw [List.lookup_cons, beq_false_of_ne hk]
    rfl
  rw [hnone, Option.or_none]

/-- `withRequestId` does not touch the certificate field. -/
theorem certified_withRequestId (value : Http.FieldValue) :
    Pipeline.Certified (withRequestId fresh r) value ↔ Pipeline.Certified r value := by
  have hne : clientCertificateField ≠ requestIdField := by decide
  unfold withRequestId
  split
  · rfl
  · simp only [Pipeline.Certified]
    rw [get?_insert_of_ne r.headers requestIdField clientCertificateField fresh hne]

end

/-! ## What is sent -/

section
variable (p : Pipeline) (answerOf : List Sending → Transport Id) (log : List Sending)

/-- `run_recording` in front of a continuation. -/
theorem run_recording_bind {α : Type} (r : OutboundRequest) (body : List UInt8)
    (f : Except String Http.Response → StateM (List Sending) α) :
    (recording answerOf r body >>= f).run log =
      (f (answerOf log r body)).run (log ++ [(r, body)]) := rfl

/-- Carrying out `.reject e` sends nothing and answers with `e`. -/
theorem run_carryOut_reject (e : GateError) (client : Option IpAddr) (r : Http.Request) :
    (p.carryOut (recording answerOf) r client (.reject e)).run log = (e.response, log) := rfl

/-! ## Serving -/

variable (lookup : Lookup) (fresh : Http.FieldValue) (cache : TendedCache Identity)
  (application : Option String) (client : Option IpAddr) (r : Http.Request)

/-- `serve` at an endpoint of the pipeline: `withRequestId`, then `decide`, then `carryOut`, then
`finish`. -/
theorem run_serve (h : Endpoint.ofPath r.target.path = .ofApplication application)
    (decision : Decision) (lookups : List String) (cache' : TendedCache Identity)
    (hdecide : p.decide lookup cache application (withRequestId fresh r) =
      (decision, lookups, cache')) :
    (serve p lookup (recording answerOf) fresh cache client r).run log =
      ((⟨finish (withRequestId fresh r)
          ((p.carryOut (recording answerOf) (withRequestId fresh r) client decision).run log).1,
        lookups⟩, cache'),
        ((p.carryOut (recording answerOf) (withRequestId fresh r) client decision).run log).2) := by
  simp only [serve, answer, target_withRequestId, h]
  -- both kinds of endpoint lead to the same pipeline
  cases application with
  | none =>
    simp only [Endpoint.ofApplication, hdecide]
    rfl
  | some name =>
    simp only [Endpoint.ofApplication, hdecide]
    rfl

/-- `serve` at any other endpoint sends nothing, looks nobody up and leaves the cache. -/
theorem run_serve_of_ne (h : ∀ application, Endpoint.ofPath r.target.path ≠ .ofApplication application) :
    ∃ response, (serve p lookup (recording answerOf) fresh cache client r).run log =
      ((⟨response, []⟩, cache), log) := by
  simp only [serve, answer, target_withRequestId]
  cases hendpoint : Endpoint.ofPath r.target.path with
  | health => exact ⟨_, rfl⟩
  | undecodable part => exact ⟨_, rfl⟩
  | application name => exact absurd hendpoint (h (some name))
  | none => exact absurd hendpoint (h none)

/-! ## The life time of identities -/

/-- The cache that `decide` leaves is the old one, or that of one `Identity.resolve`. -/
theorem decide_cache_cases :
    (p.decide lookup cache application r).2.2 = cache ∨
      ∃ name, (p.decide lookup cache application r).2.2 = (Identity.resolve lookup cache name).2 := by
  simp only [Pipeline.decide]
  split
  · -- no certificate
    exact Or.inl rfl
  · split
    · -- no application
      exact Or.inl rfl
    · next name _ =>
      refine Or.inr ⟨name, ?_⟩
      split <;> rfl

/-- `serve` leaves the life time of identities as it is. -/
theorem ttl_serve :
    ((serve p lookup (recording answerOf) fresh cache client r).run log).1.2.cache.ttl =
      cache.cache.ttl := by
  by_cases h : ∃ application, Endpoint.ofPath r.target.path = .ofApplication application
  · obtain ⟨application, hendpoint⟩ := h
    rw [run_serve p answerOf log lookup fresh cache application client r hendpoint _ _ _ rfl]
    obtain hsame | ⟨name, hresolved⟩ :=
      decide_cache_cases p lookup cache application (withRequestId fresh r)
    · exact congrArg (·.cache.ttl) hsame
    · exact (congrArg (·.cache.ttl) hresolved).trans (Identity.resolve_frame lookup cache name).2
  · obtain ⟨response, hserve⟩ := run_serve_of_ne p answerOf log lookup fresh cache client r
      fun application hendpoint => h ⟨application, hendpoint⟩
    rw [hserve]

/-- `handle` leaves the life time of identities as it is. -/
theorem ttl_handle (state : Resolver) (event : Event) :
    ((handle p (recording answerOf) state event).run log).1.2.cache.cache.ttl =
      state.cache.cache.ttl := by
  cases event with
  | world event => exact Resolver.ttl_after state event
  | request fresh client r => exact ttl_serve p answerOf log state.directory.get fresh state.cache client r

/-- `run` leaves the life time of identities as it is. -/
theorem ttl_run (state : Resolver) (events : List Event) :
    ((run p (recording answerOf) state events).run log).1.2.cache.cache.ttl =
      state.cache.cache.ttl := by
  induction events generalizing state log with
  | nil => rfl
  | cons event events ih =>
    have hhandle := ttl_handle p answerOf log state event
    have hrest := ih ((handle p (recording answerOf) state event).run log).2
      ((handle p (recording answerOf) state event).run log).1.2
    exact hrest.trans hhandle

end

/-! ## Stages and identifiers -/

section
variable (c : Config) (lookup : Lookup) (cache : TendedCache Identity) (application : Option String)
  (fresh : Http.FieldValue) (r : Http.Request)

/-- `withRequestId` keeps a request `Admitted`. -/
theorem admitted_withRequestId (value : Http.FieldValue) (name : String) (ids : Identity)
    (d : Destination) (h : Pipeline.Admitted c lookup cache application r value name ids d) :
    Pipeline.Admitted c lookup cache application (withRequestId fresh r) value name ids d where
  certified := (certified_withRequestId fresh r value).2 h.certified
  named := h.named
  resolved := h.resolved
  permitted := h.permitted
  route_eq := by
    rw [Pipeline.routed, target_withRequestId]
    exact h.route_eq

/-- `withRequestId` keeps a request `Refused` by the same stage. -/
theorem refused_withRequestId (status : Nat) (e : GateError)
    (h : Pipeline.Refused c lookup cache application r status e) :
    Pipeline.Refused c lookup cache application (withRequestId fresh r) status e := by
  have hcertified := fun value => certified_withRequestId fresh r value
  cases h with
  | uncertified h => exact .uncertified fun value hcert => h value ((hcertified value).1 hcert)
  | unnamed value hcert h => exact .unnamed value ((hcertified value).2 hcert) h
  | unresolved value name source hcert hname h =>
    exact .unresolved value name source ((hcertified value).2 hcert) hname h
  | forbidden value name ids hcert hname hids h =>
    exact .forbidden value name ids ((hcertified value).2 hcert) hname hids h
  | unrouted value name ids error hcert hname hids hpermitted h =>
    refine .unrouted value name ids error ((hcertified value).2 hcert) hname hids hpermitted ?_
    rw [Pipeline.routed, target_withRequestId]
    exact h

end

/-! ## Mediation -/

section
variable (c : Config) (p : Pipeline) (answerOf : List Sending → Transport Id) (log : List Sending)
  (lookup : Lookup) (fresh : Http.FieldValue) (cache : TendedCache Identity)
  (application : Option String) (client : Option IpAddr) (r : Http.Request)

/-- `serve` of a `Refused` request sends nothing, and answers with the error of the stage. -/
theorem run_serve_of_refused (hp : Pipeline.ofConfig c = .ok p)
    (hendpoint : Endpoint.ofPath r.target.path = .ofApplication application) (status : Nat)
    (e : GateError) (h : Pipeline.Refused c lookup cache application r status e) :
    ((serve p lookup (recording answerOf) fresh cache client r).run log).2 = log ∧
      ((serve p lookup (recording answerOf) fresh cache client r).run log).1.1.response =
        finish (withRequestId fresh r) e.response := by
  have hrefused := refused_withRequestId c lookup cache application fresh r status e h
  have hdecide := Pipeline.decide_of_refused c p lookup cache application _ hp status e hrefused
  rw [run_serve p answerOf log lookup fresh cache application client r hendpoint _ _ _
    (Prod.ext hdecide rfl), run_carryOut_reject]
  exact ⟨rfl, rfl⟩

/-- `serve` of an `Admitted` request looks up no other name than that of its application. -/
theorem lookups_of_admitted (hp : Pipeline.ofConfig c = .ok p)
    (hendpoint : Endpoint.ofPath r.target.path = .ofApplication application)
    (value : Http.FieldValue) (name : String) (ids : Identity) (d : Destination)
    (h : Pipeline.Admitted c lookup cache application r value name ids d) :
    ∀ n ∈ ((serve p lookup (recording answerOf) fresh cache client r).run log).1.1.lookups,
      n = name := by
  have hadmitted := admitted_withRequestId c lookup cache application fresh r value name ids d h
  have hdecide := Pipeline.decide_of_admitted c p lookup cache application _ hp value name ids d hadmitted
  rw [run_serve p answerOf log lookup fresh cache application client r hendpoint _ _ _ hdecide]
  obtain hnone | hone := Identity.lookups_cases lookup cache name
  · simp only [hnone, List.not_mem_nil, false_implies, implies_true]
  · simp only [hone, List.mem_singleton, imp_self, implies_true]

/-- Whatever `serve` sends came in under an application's path and was `Admitted`. -/
theorem admitted_of_sent (hp : Pipeline.ofConfig c = .ok p)
    (hsent : ((serve p lookup (recording answerOf) fresh cache client r).run log).2 ≠ log) :
    ∃ value name ids d, Endpoint.ofPath r.target.path = .application name ∧
      Pipeline.Admitted c lookup cache (some name) r value name ids d := by
  by_cases hnone : ∃ application, Endpoint.ofPath r.target.path = .ofApplication application
  case neg =>
    -- no endpoint of the pipeline
    obtain ⟨response, hserve⟩ := run_serve_of_ne p answerOf log lookup fresh cache client r
      fun application h => hnone ⟨application, h⟩
    rw [hserve] at hsent
    exact absurd rfl hsent
  obtain ⟨application, hendpoint⟩ := hnone
  obtain ⟨value, name, ids, d, h⟩ | ⟨status, e, h⟩ | ⟨-, value, name, e, hcert, hname, h⟩ :=
    Pipeline.stage_cases c lookup cache application r
  · -- admitted: the endpoint is that of the application which the stages name
    have hsome := h.named.1
    cases hsome
    exact ⟨value, name, ids, d, hendpoint, h⟩
  · -- refused
    exact absurd (run_serve_of_refused c p answerOf log lookup fresh cache application client r hp
      hendpoint status e h).1 hsent
  · -- the cache could not store the identity: the request crashes and is not sent
    have hcert' := (certified_withRequestId fresh r value).2 hcert
    have hdecide := Pipeline.decide_of_overflow p lookup cache application _ value name e hcert' hname h
    rw [run_serve p answerOf log lookup fresh cache application client r hendpoint _ _ _
      (Prod.ext hdecide rfl)] at hsent
    exact absurd rfl hsent

end

/-- What `Dispatcher.ofBackends` makes of the default backends, see `ofConfig_default`. -/
def defaultDispatcher : Dispatcher :=
  let url (host : String) (port : Option Nat) : Url :=
    { scheme := "http", authority := some { host := some (.domain host), port }, path := .segments [""] }
  let events := url "events-api" (some 8080)
  { eventServiceV1 := ⟨.eventServiceV1, events, Proxy.commonTransforms⟩
    eventServiceV2 := ⟨.eventServiceV2, events, Proxy.commonTransforms⟩
    eventMesh := ⟨.eventMesh, url "eventing-publisher-proxy.kyma-system" none,
      Proxy.commonTransforms ++ [.rewritePath "/"]⟩
    appRegistry := ⟨.appRegistry, url "application-registry-external-api" (some 8081),
      Proxy.commonTransforms⟩ }

/-- What `Pipeline.ofConfig` makes of the default configuration. -/
def defaultPipeline : Pipeline where
  routes := .ofLeads {}
  dispatcher := defaultDispatcher
  validation := {}
  meshEnabled := false

/-- `defaultPipeline` is what the default configuration gives. -/
theorem ofConfig_default : Pipeline.ofConfig {} = .ok defaultPipeline := by
  have hdispatcher : (Dispatcher.ofBackends {}).toOption = some defaultDispatcher := by
    decide +kernel
  rw [Pipeline.ofConfig, Except.eq_ok_of_toOption hdispatcher]
  rfl

/-- A transport that reaches no backend. -/
def unreachableBackends : List Sending → Transport Id :=
  fun _ _ _ => .error "connection refused"

/-- `app1` sends an event with a certificate of its own. -/
def eventRequest : Http.Request where
  method := "POST"
  target := { path := "/app1/v1/events" }
  headers := ⟨[(clientCertificateField, Text.Utf8.bytes "Subject=\"CN=app1\"")]⟩

end Gateway

end CertGate
