import CertGate.Proofs.GatewayMediation
import CertGate.Proofs.HeaderFields

/-!
# Answers of backends

Whatever a backend answers to a request that was sent on, the caller gets it: its status, its body, and
all values of all fields that are not meant for one hop only. An answer that leads elsewhere is no
exception, since the caller is to follow it. The gateway answers in place of a backend only if there is
no answer.

## Key results

- `relayed_relay`: what is left of an answer
- `relays_forward`: what a proxy gives and sends
- `relays_of_admitted`: the same for a request that passes every stage
-/

namespace CertGate

/-- What a caller is `given` of an answer. -/
structure Relayed (answer given : Http.Response) : Prop where
  status : given.status = answer.status
  body : given.body = answer.body
  /-- Other fields keep all their values, in order. -/
  kept : ∀ name, ¬answer.headers.IsHopByHop name → given.headers.values name = answer.headers.values name
  /-- Fields that are meant for one hop only are gone. -/
  dropped : ∀ name, answer.headers.IsHopByHop name → given.headers.values name = []

/-- What `Proxy.forward` gives and sends for `r`. -/
structure Relays (proxy : Proxy) (answerOf : List Sending → Transport Id) (log : List Sending)
    (client : Option IpAddr) (r : Http.Request)
    (outcome : Except GateError Http.Response × List Sending) : Prop where
  /-- The request is sent once, with the body of the caller, whatever is answered. -/
  sent : outcome.2 = log ++ [(proxy.prepare r.method r.target r.headers client, r.body)]
  /-- An answer is `Relayed`. -/
  relayed : ∀ answer,
    answerOf log (proxy.prepare r.method r.target r.headers client) r.body = .ok answer →
      ∃ given, outcome.1 = .ok given ∧ Relayed answer given
  /-- No answer is reported as a bad gateway. -/
  unanswered : ∀ message,
    answerOf log (proxy.prepare r.method r.target r.headers client) r.body = .error message →
      ∃ e, outcome.1 = .error e ∧ e.kind = .badGateway
  /-- Nothing else is ever reported. -/
  reported : ∀ e, outcome.1 = .error e → ∃ message,
    answerOf log (proxy.prepare r.method r.target r.headers client) r.body = .error message

namespace Proxy

/-- `Proxy.relay` gives what is `Relayed` of every answer. -/
theorem relayed_relay (answer : Http.Response) : Relayed answer (relay answer) where
  status := rfl
  body := rfl
  kept := answer.headers.values_stripHopByHop_of_not
  dropped := answer.headers.values_stripHopByHop_of_isHopByHop

section
variable (proxy : Proxy) (answerOf : List Sending → Transport Id) (log : List Sending)
  (client : Option IpAddr) (r : Http.Request)

/-- What `forward` makes of the answer, or of none. -/
def conclude : Except String Http.Response → Except GateError Http.Response
  | .ok answer => .ok (relay answer)
  | .error message => .error (.upstream proxy.destination.name message)

/-- `forward` sends once, and then concludes: a redirect is not followed. -/
theorem run_forward_recording :
    (proxy.forward (recording answerOf) r.method r.target r.headers r.body client).run log =
      (proxy.conclude (answerOf log (proxy.prepare r.method r.target r.headers client) r.body),
        log ++ [(proxy.prepare r.method r.target r.headers client, r.body)]) := by
  rw [forward, send_redirects, Gateway.run_recording_bind]
  cases answerOf log (proxy.prepare r.method r.target r.headers client) r.body <;> rfl

/-- `forward` relays, whatever the transport answers. -/
theorem relays_forward : Relays proxy answerOf log client r
    ((proxy.forward (recording answerOf) r.method r.target r.headers r.body client).run log) := by
  rw [run_forward_recording]
  constructor
  case sent => rfl
  case relayed =>
    intro answer h
    exact ⟨relay answer, by rw [h, conclude], relayed_relay answer⟩
  case unanswered =>
    intro message h
    exact ⟨_, by rw [h, conclude], rfl⟩
  case reported =>
    intro e h
    cases hanswer : answerOf log (proxy.prepare r.method r.target r.headers client) r.body with
    | error message => exact ⟨message, rfl⟩
    | ok answer =>
      rw [hanswer] at h
      cases h

end

end Proxy

/-- What the caller gets in the end: an answer, or the `GateError.response` that reports a failure. -/
def GateError.answerOrReport : Except GateError Http.Response → Http.Response
  | .ok given => given
  | .error e => e.response

/-- An `Admitted` request is forwarded by the proxy of its destination, and the caller gets what that
relays. -/
theorem Pipeline.relays_of_admitted (c : Config) (p : Pipeline) (hp : Pipeline.ofConfig c = .ok p)
    (lookup : Lookup) (cache : TendedCache Identity) (application : Option String) (r : Http.Request)
    (value : Http.FieldValue) (name : String) (ids : Identity) (d : Destination)
    (h : Admitted c lookup cache application r value name ids d)
    (answerOf : List Sending → Transport Id) (log : List Sending) (client : Option IpAddr) :
    let outcome := ((p.dispatcher.proxy d).forward (recording answerOf) r.method r.target r.headers
      r.body client).run log
    Relays (p.dispatcher.proxy d) answerOf log client r outcome ∧
      (p.carryOut (recording answerOf) r client (p.decide lookup cache application r).1).run log =
        (GateError.answerOrReport outcome.1, outcome.2) := by
  refine ⟨Proxy.relays_forward (p.dispatcher.proxy d) answerOf log client r, ?_⟩
  rw [decide_of_admitted c p lookup cache application r hp value name ids d h]
  simp only [carryOut, StateT.run_bind, Proxy.run_forward_recording]
  cases (p.dispatcher.proxy d).conclude _ <;> rfl

/-- A backend leads callers elsewhere and sets two cookies. It lists a field of its own for one hop,
and sends every field that is always meant for one. -/
def leadingBackend : List Sending → Transport Id := fun _ _ _ =>
  .ok {
    status := 302
    headers := ⟨[("location", Text.Utf8.bytes "/login"), ("set-cookie", Text.Utf8.bytes "a=1"),
      ("connection", Text.Utf8.bytes "close, X-Internal"), ("x-internal", [0xFF]),
      ("keep-alive", Text.Utf8.bytes "timeout=5"), ("proxy-authenticate", Text.Utf8.bytes "Basic"),
      ("proxy-authorization", Text.Utf8.bytes "Basic YTpi"), ("te", Text.Utf8.bytes "trailers"),
      ("trailer", Text.Utf8.bytes "expires"), ("transfer-encoding", Text.Utf8.bytes "chunked"),
      ("upgrade", Text.Utf8.bytes "h2c"), ("set-cookie", Text.Utf8.bytes "b=2")]⟩
    body := [0x00, 0xFF] }

/-- An event with a body. -/
def bodyRequest : Http.Request :=
  { Gateway.eventRequest with body := Text.Utf8.bytes "event" }

/-- Of the answer of `leadingBackend` the caller gets the status, the body, where to go and both
cookies. -/
theorem Pipeline.relays_of_admitted_leading :
    let lookup := (StaticDirectory.ofClientIds [("app1", none)]).get
    let cache : TendedCache Identity := { cache := { ttl := .ofSeconds 60 } }
    let proxy := Gateway.defaultPipeline.dispatcher.proxy .eventServiceV1
    let outcome := (proxy.forward (recording leadingBackend) bodyRequest.method bodyRequest.target
      bodyRequest.headers bodyRequest.body none).run []
    let decision := (Gateway.defaultPipeline.decide lookup cache (some "app1") bodyRequest).1
    let carried := (Gateway.defaultPipeline.carryOut (recording leadingBackend) bodyRequest none
      decision).run []
    (∃ value name ids,
        Admitted {} lookup cache (some "app1") bodyRequest value name ids .eventServiceV1) ∧
      (Relays proxy leadingBackend [] none bodyRequest outcome ∧
        carried = (GateError.answerOrReport outcome.1, outcome.2)) ∧
      carried.1 = {
        status := 302
        headers := ⟨[("location", Text.Utf8.bytes "/login"), ("set-cookie", Text.Utf8.bytes "a=1"),
          ("set-cookie", Text.Utf8.bytes "b=2")]⟩
        body := [0x00, 0xFF] } ∧
      carried.2.map (·.2) = [Text.Utf8.bytes "event"] := by
  intro lookup cache proxy outcome decision carried
  -- the request is admitted because `decide` forwards it
  have hadmitted : ∃ value name ids,
      Admitted {} lookup cache (some "app1") bodyRequest value name ids .eventServiceV1 :=
    (decide_eq_forward_iff {} Gateway.defaultPipeline lookup cache (some "app1") bodyRequest
      Gateway.ofConfig_default .eventServiceV1).1 (by decide +kernel)
  refine ⟨hadmitted, ?_, by decide +kernel, by decide +kernel⟩
  obtain ⟨value, name, ids, h⟩ := hadmitted
  exact relays_of_admitted {} Gateway.defaultPipeline Gateway.ofConfig_default lookup cache (some "app1")
    bodyRequest value name ids .eventServiceV1 h leadingBackend [] none

end CertGate
