import CertGate.Proofs.Outcomes
import CertGate.Proxy

/-!
# The URL of an outbound request

What the changes on the way to a backend do to host and path of a URL. The host is the backend's in
the end, and the path is read from the inbound one once; only a transform that is meant to do so
replaces it.

## Key results

- `host?_prepare`: requests are sent to the host of the proxy's target
- `segments_prepare`: the path is the inbound one as it is read under the scheme of the target
- `targetUrl_eq_ok`: a target has a host and a hierarchical path
-/

namespace CertGate

namespace Url

/-! ## Host -/

@[simp] theorem host?_setPath (u : Url) (text : String) : (u.setPath text).host? = u.host? := by
  unfold setPath
  split <;> rfl

@[simp] theorem host?_setQuery (u : Url) (query : Option String) :
    (u.setQuery query).host? = u.host? := by
  unfold setQuery
  split <;> rfl

/-- `dropDefaultPort` drops at most the port. -/
theorem Authority.host_dropDefaultPort (scheme : String) (a : Authority) :
    (a.dropDefaultPort scheme).host = a.host := by
  unfold dropDefaultPort
  split <;> rfl

@[simp] theorem host?_setScheme (u : Url) (text : String) : (u.setScheme text).host? = u.host? := by
  simp only [setScheme]
  -- the scheme may be malformed, or the change refused
  split
  · split
    · cases hauthority : u.authority with
      | none => simp [host?, hauthority]
      | some a => simp [host?, hauthority, Authority.host_dropDefaultPort]
    · rfl
  · rfl

/-! ## Path -/

@[simp] theorem path_setScheme (u : Url) (text : String) : (u.setScheme text).path = u.path := by
  simp only [setScheme]
  split
  · split <;> rfl
  · rfl

/-- `setPath` of a hierarchical URL reads the text by `readPath`, under the scheme of the URL. -/
theorem path_setPath (u : Url) (text : String) (h : u.cannotBeABase = false) :
    (u.setPath text).path = .segments (readPath u.scheme text.toList) := by
  unfold cannotBeABase at h
  unfold setPath
  split at h
  · cases h
  · next ss hpath => simp only [hpath]

/-- `setQuery` keeps a hierarchical path. -/
theorem path_setQuery (u : Url) (query : Option String) (ss : List String)
    (h : u.path = .segments ss) : (u.setQuery query).path = .segments ss := by
  unfold setQuery
  split
  · exact h
  · simp only [h]
    split <;> rfl

end Url

/-- A `part` of the request that no single transform changes is kept by all of them together. -/
theorem Transform.foldl_apply_of_kept {β : Type} (part : OutboundRequest → β)
    (hkept : ∀ r t, part (apply r t) = part r) (ts : List Transform) (r : OutboundRequest) :
    part (ts.foldl apply r) = part r := by
  induction ts generalizing r with
  | nil => rfl
  | cons t ts ih => rw [List.foldl_cons, ih, hkept]

namespace Proxy

/-! ## Requests as they are sent -/

/-- The URL of `prepare` is what the transforms make of the inbound one. -/
theorem url_prepare (p : Proxy) (method : String) (target : Http.Target) (headers : Http.Headers)
    (client : Option IpAddr) : (p.prepare method target headers client).url =
      (p.transforms.foldl Transform.apply (.ofInbound p.target method target headers)).url := rfl

/-- No `Transform` changes the host. -/
theorem host?_apply (r : OutboundRequest) (t : Transform) : (t.apply r).url.host? = r.url.host? := by
  cases t with
  | clearHost => rfl
  | forceScheme scheme => exact r.url.host?_setScheme scheme
  | stripHeader name => rfl
  | rewritePath path => exact r.url.host?_setPath path

theorem host?_foldl_apply (r : OutboundRequest) (ts : List Transform) :
    (ts.foldl Transform.apply r).url.host? = r.url.host? :=
  Transform.foldl_apply_of_kept (·.url.host?) host?_apply ts r

/-- `prepare` sends to the host of the proxy's target. -/
theorem host?_prepare (p : Proxy) (method : String) (target : Http.Target) (headers : Http.Headers)
    (client : Option IpAddr) :
    (p.prepare method target headers client).url.host? = p.target.host? := by
  rw [url_prepare, host?_foldl_apply]
  simp only [OutboundRequest.ofInbound, Url.host?_setQuery, Url.host?_setPath]

/-- `transformsOf` is `commonTransforms` for all destinations but the event mesh. -/
theorem transformsOf_of_ne (b : Backends) (d : Destination) (h : d ≠ .eventMesh) :
    transformsOf b d = commonTransforms := by
  cases d with
  | eventMesh => exact absurd rfl h
  | eventServiceV1 => rfl
  | eventServiceV2 => rfl
  | appRegistry => rfl

/-- Under `commonTransforms` the outbound path is the inbound one, as `readPath` reads it under the
scheme of the target. -/
theorem segments_prepare (p : Proxy) (htransforms : p.transforms = commonTransforms)
    (hbase : p.target.cannotBeABase = false) (method : String) (target : Http.Target)
    (headers : Http.Headers) (client : Option IpAddr) :
    (p.prepare method target headers client).url.segments =
      Url.readPath p.target.scheme target.path.toList := by
  -- the path is read once; neither the query nor a change of scheme touches it again
  have hread := p.target.path_setPath target.path hbase
  have hquery := (p.target.setPath target.path).path_setQuery target.query _ hread
  have hpath : (p.prepare method target headers client).url.path =
      .segments (Url.readPath p.target.scheme target.path.toList) := by
    rw [url_prepare, htransforms]
    simp only [commonTransforms, List.foldl_cons, List.foldl_nil, Transform.apply,
      OutboundRequest.ofInbound, Url.path_setScheme]
    exact hquery
  rw [Url.segments, hpath]

/-- `targetUrl` gives only URLs with a host and a hierarchical path. -/
theorem targetUrl_eq_ok (host : String) (url : Url) (h : targetUrl host = .ok url) :
    url.cannotBeABase = false ∧ url.host?.isSome = true := by
  simp only [targetUrl] at h
  split at h
  · cases h
  · split at h
    · cases h
    · next hok =>
      cases h
      rw [Bool.or_eq_true, not_or, Bool.not_eq_true, Option.isNone_iff_eq_none] at hok
      exact ⟨hok.1, Option.isSome_iff_ne_none.2 hok.2⟩

/-- `Proxy.ofBackends` binds a destination to the host that is configured for it. -/
theorem ofBackends_eq_ok (b : Backends) (d : Destination) (p : Proxy) (h : ofBackends b d = .ok p) :
    ∃ url, targetUrl (b.host d) = .ok url ∧ p = ⟨d, url, transformsOf b d⟩ := by
  obtain ⟨url, hurl, hp⟩ := Except.bind_eq_ok_iff.1 h
  cases hp
  exact ⟨url, hurl, rfl⟩

end Proxy

/-- `Dispatcher.ofBackends` holds, for each destination, what `Proxy.ofBackends` gives. -/
theorem Dispatcher.ofBackends_eq_ok (b : Backends) (dispatcher : Dispatcher)
    (h : ofBackends b = .ok dispatcher) (d : Destination) :
    Proxy.ofBackends b d = .ok (dispatcher.proxy d) := by
  -- four proxies are built one after the other, and each must succeed
  obtain ⟨v1, hv1, h⟩ := Except.bind_eq_ok_iff.1 h
  obtain ⟨v2, hv2, h⟩ := Except.bind_eq_ok_iff.1 h
  obtain ⟨mesh, hmesh, h⟩ := Except.bind_eq_ok_iff.1 h
  obtain ⟨registry, hregistry, h⟩ := Except.bind_eq_ok_iff.1 h
  cases h
  cases d with
  | eventServiceV1 => exact hv1
  | eventServiceV2 => exact hv2
  | eventMesh => exact hmesh
  | appRegistry => exact hregistry

end CertGate
