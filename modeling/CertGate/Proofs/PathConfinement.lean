import CertGate.Proofs.AuthorizedName
import CertGate.Proofs.PathWalk

/-!
# The application that a backend sees

A request is authorized and routed by its path as it was sent, but the path that a backend gets is
read anew: steps are taken, and under most schemes a backslash parts segments. So the first segment of
the outbound path need not be the application that the caller was authorized for. It is exactly if the
walk along the path ends below a segment that stands for this application.

## Key results

- `readPath_of_slash`: how a path is read that starts with a slash
- `outbound_application_iff`: when the outbound path is still one of the application
- `Gateway.belongsTo_of_staysBelow`: paths that do not come out above their application stay with it
- `outbound_application_escapes`: an application gets at the path of another one
-/

namespace CertGate

/-- `readPath` reads a path with a leading slash from behind it. -/
theorem Url.readPath_of_slash (scheme : String) (cs : List Char) :
    readPath scheme ('/' :: cs) = readSegments scheme (cs.filter (!isDropped ·)) := by
  have hkept : ('/' :: cs).filter (!isDropped ·) = '/' :: cs.filter (!isDropped ·) := by
    rw [List.filter_cons, if_pos (by decide)]
  rw [readPath, hkept]
  rfl

/-- The walk along the path of `t` as it was sent, with the characters that `readPath` drops left out. -/
def Http.Target.walk (scheme : String) (t : Http.Target) : Url.Walk :=
  Url.walk scheme ((t.path.toList.drop 1).filter (!Url.isDropped ·))

/-- The first segment of the URL decodes to `name`. -/
def Url.BelongsTo (u : Url) (name : String) : Prop :=
  ∃ s, u.segments.head? = some s ∧ decode s = Text.Utf8.bytes name

/-- The first segment that is left at the end of the walk decodes to `name`. -/
def Url.Walk.EndsBelow (w : Walk) (name : String) : Prop :=
  ∃ first, w.first = some first ∧ decodeBytes (Text.Utf8.encode first) = Text.Utf8.bytes name

/-- Under `commonTransforms` the outbound URL `BelongsTo` an application exactly if the walk along the
inbound path `EndsBelow` it. -/
theorem Proxy.belongsTo_prepare_iff (p : Proxy) (htransforms : p.transforms = commonTransforms)
    (hbase : p.target.cannotBeABase = false) (method : String) (target : Http.Target)
    (headers : Http.Headers) (client : Option IpAddr) (cs : List Char)
    (hpath : target.path.toList = '/' :: cs) (name : String) (hname : name ≠ "") :
    (p.prepare method target headers client).url.BelongsTo name ↔
      (target.walk p.target.scheme).EndsBelow name := by
  rw [Url.BelongsTo, p.segments_prepare htransforms hbase, hpath, Url.readPath_of_slash,
    Url.decode_first_segment_iff _ _ _ (Text.Utf8.bytes_ne_nil name hname), Http.Target.walk, hpath]
  rfl

/-- The proxy of a destination other than the event mesh has `commonTransforms` and a hierarchical
target. -/
theorem Pipeline.proxy_of_ne_eventMesh (c : Config) (p : Pipeline) (hp : ofConfig c = .ok p)
    (d : Destination) (hmesh : d ≠ .eventMesh) :
    (p.dispatcher.proxy d).transforms = Proxy.commonTransforms ∧
      (p.dispatcher.proxy d).target.cannotBeABase = false := by
  obtain ⟨hdispatcher, -⟩ := ofConfig_eq_ok c p hp
  obtain ⟨url, hurl, hproxy⟩ := Proxy.ofBackends_eq_ok c.backends d _
    (Dispatcher.ofBackends_eq_ok c.backends p.dispatcher hdispatcher d)
  rw [hproxy]
  exact ⟨Proxy.transformsOf_of_ne c.backends d hmesh, (Proxy.targetUrl_eq_ok _ url hurl).1⟩

/-- When a request is forwarded, other than to the event mesh, its outbound URL `BelongsTo` the
application that was authorized exactly if the walk along its inbound path `EndsBelow` that name. Every
lead must start with a segment for the name. -/
theorem outbound_application_iff (c : Config) (p : Pipeline) (hp : Pipeline.ofConfig c = .ok p)
    (hled : c.routes.LedByApplication) (lookup : Lookup) (cache : TendedCache Identity)
    (name : String) (client : Option IpAddr) (r : Http.Request) (d : Destination)
    (hmesh : d ≠ .eventMesh) (hforward : (p.decide lookup cache (some name) r).1 = .forward d) :
    ((p.dispatcher.proxy d).prepare r.method r.target r.headers client).url.BelongsTo name ↔
      (r.target.walk (p.dispatcher.proxy d).target.scheme).EndsBelow name := by
  obtain ⟨value, name', ids, h⟩ :=
    (Pipeline.decide_eq_forward_iff c p lookup cache (some name) r hp d).1 hforward
  obtain ⟨hname, hne⟩ := h.named
  cases hname
  obtain ⟨rest, hpath⟩ := Pipeline.path_of_routed c r name d hled h.route_eq
  obtain ⟨htransforms, hbase⟩ := Pipeline.proxy_of_ne_eventMesh c p hp d hmesh
  exact (p.dispatcher.proxy d).belongsTo_prepare_iff htransforms hbase r.method r.target r.headers
    client _ hpath name hne

/-- `eventRequest` with another path. -/
def Gateway.requestAt (path : String) : Http.Request :=
  { eventRequest with target := { path } }

/-- Two applications without Compass metadata. -/
def twoApplications : StaticDirectory :=
  .ofClientIds [("app1", none), ("app2", none)]

/-- A path that leaves `app1` and comes back to it still belongs to it. -/
theorem outbound_application_iff_return :
    let r := Gateway.requestAt "/app1/v1/events/../../../app1/%2E/x"
    let p := Gateway.defaultPipeline
    (((p.dispatcher.proxy .eventServiceV1).prepare r.method r.target r.headers none).url.BelongsTo
        "app1" ↔
      (r.target.walk (p.dispatcher.proxy .eventServiceV1).target.scheme).EndsBelow "app1") ∧
      (r.target.walk (p.dispatcher.proxy .eventServiceV1).target.scheme).EndsBelow "app1" := by
  -- the witness of `EndsBelow` is the segment itself
  refine ⟨?_, "app1".toList, by decide +kernel, by decide +kernel⟩
  exact outbound_application_iff {} Gateway.defaultPipeline Gateway.ofConfig_default (by decide)
    twoApplications.get { cache := { ttl := .ofSeconds 60 } } "app1" none
    (Gateway.requestAt "/app1/v1/events/../../../app1/%2E/x") .eventServiceV1 (by decide)
    (by decide +kernel)

/-- A request that is authorized for `app1`, and routed as one of it, gets at the path of `app2`. -/
theorem outbound_application_escapes :
    let r := Gateway.requestAt "/app1/v1/events/../../../app2/v1/events"
    let p := Gateway.defaultPipeline
    let sent := (p.dispatcher.proxy .eventServiceV1).prepare r.method r.target r.headers none
    Pipeline.ofConfig {} = .ok p ∧ ({} : Config).routes.LedByApplication ∧
      Endpoint.ofPath r.target.path = .application "app1" ∧
      (p.decide twoApplications.get { cache := { ttl := .ofSeconds 60 } } (some "app1") r).1 =
        .forward .eventServiceV1 ∧
      sent.url.render = "http://events-api:8080/app2/v1/events" ∧
      ¬sent.url.BelongsTo "app1" := by
  refine ⟨Gateway.ofConfig_default, by decide, by decide +kernel, by decide +kernel,
    by decide +kernel, ?_⟩
  rintro ⟨s, hs, hdecode⟩
  -- the three steps up lead out of the application and into the other one
  have hhead : ((Gateway.defaultPipeline.dispatcher.proxy .eventServiceV1).prepare "POST"
      { path := "/app1/v1/events/../../../app2/v1/events" } Gateway.eventRequest.headers
      none).url.segments.head? = some "app2" := by decide +kernel
  have heq : s = "app2" := Option.some.inj (hs.symm.trans hhead)
  rw [heq] at hdecode
  exact absurd hdecode (by decide +kernel)

/-! ## Paths that stay -/

/-- Such a URL `BelongsTo` the application if the inbound path `StaysBelow` its first segment and has
neither backslashes nor characters that `readPath` drops. -/
theorem Gateway.belongsTo_of_staysBelow (c : Config) (p : Pipeline) (hp : Pipeline.ofConfig c = .ok p)
    (lookup : Lookup) (cache : TendedCache Identity) (name : String) (client : Option IpAddr)
    (r : Http.Request) (d : Destination) (hmesh : d ≠ .eventMesh)
    (hendpoint : Endpoint.ofPath r.target.path = .application name)
    (hforward : (p.decide lookup cache (some name) r).1 = .forward d) (rest : List Char)
    (hpath : r.target.path.toList = '/' :: (name.toList ++ '/' :: rest))
    (hfile : ((p.dispatcher.proxy d).target.scheme == "file") = false)
    (hwritten : ∀ ch ∈ r.target.path.toList, ch ≠ '\\' ∧ Url.isDropped ch = false)
    (hstep : Url.isStep name.toList = false) (hstays : Url.StaysBelow 0 (Text.pieces '/' rest)) :
    ((p.dispatcher.proxy d).prepare r.method r.target r.headers client).url.BelongsTo name := by
  obtain ⟨value, name', ids, h⟩ :=
    (Pipeline.decide_eq_forward_iff c p lookup cache (some name) r hp d).1 hforward
  obtain ⟨hname, hne⟩ := h.named
  cases hname
  obtain ⟨htransforms, hbase⟩ := Pipeline.proxy_of_ne_eventMesh c p hp d hmesh
  obtain ⟨hslash, hdecode⟩ := name_of_ofPath r.target.path name rest hendpoint hpath
  rw [(p.dispatcher.proxy d).belongsTo_prepare_iff htransforms hbase r.method r.target r.headers
    client _ hpath name hne]
  -- the name is the first segment of the path as it was sent, and decodes to itself
  refine ⟨name.toList, ?_, hdecode.symm⟩
  rw [hpath] at hwritten
  -- nothing is dropped, so the walk sees the path as it is written
  have hkept : (name.toList ++ '/' :: rest).filter (!Url.isDropped ·) = name.toList ++ '/' :: rest := by
    rw [List.filter_eq_self]
    intro ch hch
    rw [(hwritten ch (List.mem_cons_of_mem _ hch)).2]
    rfl
  -- without backslashes the path is cut where the endpoint is cut
  have hcut : Url.cutAtSlashes (Url.isSpecialScheme (p.dispatcher.proxy d).target.scheme)
      (name.toList ++ '/' :: rest) = name.toList :: Text.pieces '/' rest := by
    rw [Url.cutAtSlashes_of_no_backslash, Text.pieces_append_sep name.toList rest hslash]
    exact fun hmem => (hwritten _ (List.mem_cons_of_mem _ hmem)).1 rfl
  rw [Http.Target.walk, hpath, List.drop_one, List.tail_cons, hkept]
  exact Url.walk_first_of_staysBelow _ hfile _ _ _ (Text.pieces_ne_nil rest) hcut hstep hstays

end CertGate
