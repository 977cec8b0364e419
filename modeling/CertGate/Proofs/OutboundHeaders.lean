import CertGate.Proofs.ForwardedFor
import CertGate.Proofs.GatewayMediation
import CertGate.Proofs.OutboundUrl

/-!
# The header of an outbound request

What a backend gets of a caller's header, name by name: nothing of what is withheld, everything else
exactly as it came, and the caller's address. A caller may list any names in `Connection`, also those
that other steps are about, so the steps are stated by the names they take off and not by their order.

## Key results

- `isHopByHop_erase`: taking off other fields does not change what `Connection` lists
- `headers_prepare`: what is sent is the stripped header, with a note of the caller if known
- `sanitized_prepare`: the header of every outbound request, for every name
-/

namespace CertGate

namespace Http.Headers

/-- A field that no backend gets: the caller's `Host`, its certificate, and what `IsHopByHop`. -/
def Withheld (h : Headers) (name : String) : Prop :=
  name = "host" ∨ name = "x-forwarded-client-cert" ∨ h.IsHopByHop name

/-- `IsHopByHop` depends on the values of `connection` alone. -/
theorem isHopByHop_congr (h h' : Headers) (heq : h.values "connection" = h'.values "connection")
    (name : String) : h.IsHopByHop name ↔ h'.IsHopByHop name := by
  rw [IsHopByHop, IsHopByHop, heq]

/-- `erase` of another field than `connection` does not change what `IsHopByHop`. -/
theorem isHopByHop_erase (h : Headers) (name n : String) (hname : name ≠ "connection") :
    (h.erase name).IsHopByHop n ↔ h.IsHopByHop n :=
  isHopByHop_congr _ _ (by rw [values_erase, if_neg (Ne.symm hname)]) n

/-- `h` without the fields that are `Withheld`. -/
def passedOn (h : Headers) : Headers :=
  ((h.erase "host").erase "x-forwarded-client-cert").stripHopByHop

/-- Dropping `host` and the certificate does not change what `IsHopByHop`. -/
theorem isHopByHop_erase_erase (h : Headers) (n : String) :
    ((h.erase "host").erase "x-forwarded-client-cert").IsHopByHop n ↔ h.IsHopByHop n := by
  rw [isHopByHop_erase _ _ _ (by decide), isHopByHop_erase _ _ _ (by decide)]

/-- No value of a `Withheld` field is `passedOn`. -/
theorem values_passedOn_of_withheld (h : Headers) (n : String) (hn : h.Withheld n) :
    h.passedOn.values n = [] := by
  by_cases hhop : h.IsHopByHop n
  · exact values_stripHopByHop_of_isHopByHop _ n ((isHopByHop_erase_erase h n).2 hhop)
  · -- not for one hop, so it is dropped by its own name
    rw [passedOn, values_stripHopByHop_of_not _ n (mt (isHopByHop_erase_erase h n).1 hhop),
      values_erase, values_erase]
    obtain hhost | hcert | hhop' := hn
    · rw [if_pos hhost, ite_self]
    · rw [if_pos hcert]
    · exact absurd hhop' hhop

/-- The values of all other fields are `passedOn`. -/
theorem values_passedOn_of_not (h : Headers) (n : String) (hn : ¬h.Withheld n) :
    h.passedOn.values n = h.values n := by
  obtain ⟨hhost, hrest⟩ := not_or.1 hn
  obtain ⟨hcert, hhop⟩ := not_or.1 hrest
  rw [passedOn, values_stripHopByHop_of_not _ n (mt (isHopByHop_erase_erase h n).1 hhop),
    values_erase, if_neg hcert, values_erase, if_neg hhost]

end Http.Headers

/-! ## Prepared requests -/

/-- The transforms of every destination drop `host` and the certificate, and no more of a header. -/
theorem Proxy.headers_foldl_transformsOf (b : Backends) (d : Destination) (r : OutboundRequest) :
    ((transformsOf b d).foldl Transform.apply r).headers =
      (r.headers.erase "host").erase "x-forwarded-client-cert" := by
  cases d <;> rfl

/-- The header that `prepare` gives is the one `passedOn`, with a note of the caller if its address is
known. -/
theorem Proxy.headers_prepare (b : Backends) (d : Destination) (p : Proxy)
    (hp : ofBackends b d = .ok p) (method : String) (target : Http.Target) (headers : Http.Headers)
    (client : Option IpAddr) : (p.prepare method target headers client).headers =
      (client.map headers.passedOn.appendForwardedFor).getD headers.passedOn := by
  obtain ⟨url, -, rfl⟩ := ofBackends_eq_ok b d p hp
  simp only [prepare, headers_foldl_transformsOf]
  rfl

/-- How the `outbound` header comes from the `inbound` one, name by name. -/
structure Sanitized (inbound outbound : Http.Headers) (client : Option IpAddr) : Prop where
  /-- Nothing that is withheld is sent. -/
  withheld : ∀ n, inbound.Withheld n → n ≠ "x-forwarded-for" → outbound.values n = []
  /-- Everything else is sent as it came. -/
  kept : ∀ n, ¬inbound.Withheld n → n ≠ "x-forwarded-for" → outbound.values n = inbound.values n
  /-- Without an address of the caller the list of addresses is a field like any other. -/
  unattributed : client = none →
    (inbound.Withheld "x-forwarded-for" → outbound.values "x-forwarded-for" = []) ∧
      (¬inbound.Withheld "x-forwarded-for" →
        outbound.values "x-forwarded-for" = inbound.values "x-forwarded-for")
  /-- With one, there is one list that can be read, and it ends with the address. -/
  attributed : ∀ ip, client = some ip →
    ∃ v text, outbound.values "x-forwarded-for" = [v] ∧ Http.FieldValue.visible? v = some text ∧
      Http.Headers.lastElement? text = some ip.render.toList
  /-- No field is added but the list of addresses. -/
  added : ∀ field ∈ outbound.fields,
    field ∈ inbound.fields ∨ field.1 = "x-forwarded-for" ∧ client ≠ none

/-- Without an address of the caller, the header that is `passedOn` is `Sanitized`. -/
theorem sanitized_passedOn (h : Http.Headers) : Sanitized h h.passedOn none where
  withheld n hn _ := h.values_passedOn_of_withheld n hn
  kept n hn _ := h.values_passedOn_of_not n hn
  unattributed _ := ⟨h.values_passedOn_of_withheld _, h.values_passedOn_of_not _⟩
  attributed _ hip := nomatch hip
  added field hfield := by
    refine Or.inl ?_
    -- a field that is left is one value of its name, which was there before
    have hvalue := (h.passedOn.mem_values_iff field.1 field.2).2 hfield
    by_cases hn : h.Withheld field.1
    · rw [h.values_passedOn_of_withheld _ hn] at hvalue
      cases hvalue
    · rw [h.values_passedOn_of_not _ hn] at hvalue
      exact (h.mem_values_iff field.1 field.2).1 hvalue

/-- `Sanitized` is kept by the note of the caller, which touches one field only. -/
theorem Sanitized.note (inbound outbound : Http.Headers) (client : IpAddr)
    (h : Sanitized inbound outbound none) :
    Sanitized inbound (outbound.appendForwardedFor client) (some client) := by
  have hother := outbound.values_appendForwardedFor_of_ne client
  constructor
  case withheld => exact fun n hn hne => (hother n hne).trans (h.withheld n hn hne)
  case kept => exact fun n hn hne => (hother n hne).trans (h.kept n hn hne)
  case unattributed => exact fun hnone => nomatch hnone
  case attributed =>
    rintro ip ⟨⟩
    exact outbound.exists_values_appendForwardedFor client
  case added =>
    intro field hfield
    by_cases hn : field.1 = "x-forwarded-for"
    · exact Or.inr ⟨hn, nofun⟩
    · -- a field of another name was there before the note
      rw [← (outbound.appendForwardedFor client).mem_values_iff field.1 field.2, hother _ hn,
        outbound.mem_values_iff] at hfield
      obtain hin | ⟨-, hnone⟩ := h.added field hfield
      · exact Or.inl hin
      · exact absurd rfl hnone

/-- The header of every outbound request is `Sanitized`, whatever the caller sent. -/
theorem sanitized_prepare (b : Backends) (dispatcher : Dispatcher)
    (hdispatcher : Dispatcher.ofBackends b = .ok dispatcher) (d : Destination) (method : String)
    (target : Http.Target) (headers : Http.Headers) (client : Option IpAddr) :
    Sanitized headers ((dispatcher.proxy d).prepare method target headers client).headers client := by
  have hproxy := Dispatcher.ofBackends_eq_ok b dispatcher hdispatcher d
  rw [Proxy.headers_prepare b d _ hproxy]
  cases client with
  | none => exact sanitized_passedOn headers
  | some ip => exact (sanitized_passedOn headers).note _ _ ip

/-- The header of a caller that wants its tracks covered: it lists `x-forwarded-for` for removal, in
two values of which one cannot be read, next to a field of its own. It also sends every field that is
always meant for one hop only. -/
def coveringHeaders : Http.Headers where
  fields := [("host", Text.Utf8.bytes "gate"), ("cookie", Text.Utf8.bytes "a=1"),
    ("connection", Text.Utf8.bytes "X-Forwarded-For , bad name,X-Own"), ("connection", [0x78, 0xFF]),
    ("keep-alive", Text.Utf8.bytes "timeout=5"), ("proxy-authenticate", Text.Utf8.bytes "Basic"),
    ("proxy-authorization", Text.Utf8.bytes "Basic YTpi"), ("te", Text.Utf8.bytes "trailers"),
    ("te", []), ("trailer", Text.Utf8.bytes "expires"),
    ("transfer-encoding", Text.Utf8.bytes "chunked"), ("upgrade", Text.Utf8.bytes "h2c"),
    ("x-own", Text.Utf8.bytes "1"), ("x-forwarded-for", [0xFF]), ("cookie", Text.Utf8.bytes "b=2"),
    ("x-forwarded-client-cert", Text.Utf8.bytes "Subject=\"CN=app1\"")]

/-- The caller of `coveringHeaders` is noted all the same, and of its fields only the cookies are sent. -/
theorem sanitized_prepare_covering :
    let sent := ((Gateway.defaultDispatcher.proxy .eventMesh).prepare "POST"
      { path := "/app1/v2/events" } coveringHeaders (some (.v4 ⟨10, 0, 0, 7⟩))).headers
    Sanitized coveringHeaders sent (some (.v4 ⟨10, 0, 0, 7⟩)) ∧
      sent.fields = [("cookie", Text.Utf8.bytes "a=1"), ("cookie", Text.Utf8.bytes "b=2"),
        ("x-forwarded-for", Text.Utf8.bytes "10.0.0.7")] := by
  refine ⟨?_, by decide +kernel⟩
  exact sanitized_prepare {} Gateway.defaultDispatcher
    (Pipeline.ofConfig_eq_ok {} _ Gateway.ofConfig_default).1 .eventMesh "POST"
    { path := "/app1/v2/events" } coveringHeaders (some (.v4 ⟨10, 0, 0, 7⟩))

end CertGate
