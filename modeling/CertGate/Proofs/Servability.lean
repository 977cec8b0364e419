import CertGate.Proofs.GatewayMediation
import CertGate.Proofs.PercentDecoding
import CertGate.Proofs.Utf8RoundTrip

/-!
# Configurations that a gateway can serve with

A configuration is checked for settings that are blank and for the path of the event mesh, and for
nothing else. What a gateway with fixed records needs besides is that its backends' hosts are read as
URLs, that its own host is an address, and that identities can be stored: when a deadline lies beyond
the end of the clock, a request for a known application makes the handler panic.

## Key results

- `Dispatcher.exists_ofBackends_iff`: when the proxies can be built
- `Endpoint.ofPath_escaped`: every application has a path
- `Gateway.panics_iff`, `serve_of_panics`: which requests make the handler panic, and what is answered
- `Gateway.serves_iff`: the configurations that a gateway can serve with
-/

namespace CertGate

/-! ## Setting up -/

/-- `ofBackends` builds the proxies exactly if `targetUrl` reads the host of every destination. -/
theorem Dispatcher.exists_ofBackends_iff (b : Backends) :
    (∃ dispatcher, ofBackends b = .ok dispatcher) ↔ ∀ d, ∃ url, Proxy.targetUrl (b.host d) = .ok url := by
  constructor
  · rintro ⟨dispatcher, h⟩ d
    have hproxy := ofBackends_eq_ok b dispatcher h d
    obtain ⟨url, hurl, -⟩ := Proxy.ofBackends_eq_ok b d _ hproxy
    exact ⟨url, hurl⟩
  · intro h
    have hproxy (d : Destination) : ∃ proxy, Proxy.ofBackends b d = .ok proxy := by
      obtain ⟨url, hurl⟩ := h d
      exact ⟨_, Except.bind_eq_ok_iff.2 ⟨url, hurl, rfl⟩⟩
    obtain ⟨v1, hv1⟩ := hproxy .eventServiceV1
    obtain ⟨v2, hv2⟩ := hproxy .eventServiceV2
    obtain ⟨mesh, hmesh⟩ := hproxy .eventMesh
    obtain ⟨registry, hregistry⟩ := hproxy .appRegistry
    refine ⟨⟨v1, v2, mesh, registry⟩, ?_⟩
    rw [ofBackends, hv1, hv2, hmesh, hregistry]
    rfl

/-! ## Fixed records -/

namespace StaticDirectory

/-- After `insert` of one more record, its name is found as this record and others as before. -/
theorem get_insert (d : StaticDirectory) (a : Application) (name : String) :
    (d.insert a).get name = if name = a.metadata.name then .ok a else d.get name := by
  simp only [get, insert, List.lookup_cons_ite]
  by_cases h : name = a.metadata.name
  · rw [if_pos h, if_pos h]
  · rw [if_neg h, if_neg h, List.lookup_filter_ne_of_ne _ _ _ h]

/-- The directory with the record that `ofClientIds` makes of one more entry. -/
def addClientIds (d : StaticDirectory) (entry : String × Option (List String)) : StaticDirectory :=
  d.insert (.ofClientIds entry.1 entry.2)

/-- The records of a configuration are added one after the other, by `insert`, to none. -/
theorem ofClientIds_eq (applications : List (String × Option (List String))) :
    ofClientIds applications = applications.foldl addClientIds {} := rfl

/-- `get` finds an application exactly if the configuration has an entry of its name. -/
theorem exists_get_ofClientIds_iff (applications : List (String × Option (List String)))
    (name : String) :
    (∃ record, (ofClientIds applications).get name = .ok record) ↔ ∃ ids, (name, ids) ∈ applications := by
  -- a record is there from an entry, or was there before
  have hfold (d : StaticDirectory) :
      (∃ record, (applications.foldl addClientIds d).get name = .ok record) ↔
        (∃ ids, (name, ids) ∈ applications) ∨ ∃ record, d.get name = .ok record := by
    induction applications generalizing d with
    | nil => simp
    | cons entry applications ih =>
      obtain ⟨other, ids⟩ := entry
      rw [List.foldl_cons, ih, addClientIds, get_insert]
      by_cases h : name = other
      · subst h
        simp [Application.ofClientIds]
      · simp [Application.ofClientIds, h]
  rw [ofClientIds_eq, hfold]
  simp [get]

end StaticDirectory

/-! ## Paths of applications -/

/-- The escape that `encodeByte` writes has no slash in it. -/
theorem Url.slash_not_mem_encodeByte (b : UInt8) : '/' ∉ encodeByte b := by
  have hall : ∀ n : Fin 16, '/' ≠ Text.hexDigit 'A' n := by decide
  have hb : b.toNat < 256 := b.toNat_lt
  have hfirst : '/' ≠ Text.hexDigit 'A' (b.toNat / 16) := hall ⟨b.toNat / 16, by omega⟩
  have hlast : '/' ≠ Text.hexDigit 'A' (b.toNat % 16) := hall ⟨b.toNat % 16, by omega⟩
  simp [encodeByte, hfirst, hlast]

namespace Endpoint

/-- A name with all its bytes written as escapes by `encodeByte`. -/
def escaped (name : String) : List Char :=
  (Text.Utf8.bytes name).flatMap Url.encodeByte

theorem slash_not_mem_escaped (name : String) : '/' ∉ escaped name := by
  intro hmem
  obtain ⟨b, -, hb⟩ := List.mem_flatMap.1 hmem
  exact Url.slash_not_mem_encodeByte b hb

/-- What `escaped` writes for a name starts with a percent sign, so it is not the health check's path. -/
theorem exists_escaped_eq_cons (name : String) (hne : name ≠ "") :
    ∃ cs, escaped name = '%' :: cs := by
  obtain ⟨b, bs, hbytes⟩ := List.exists_cons_of_ne_nil (Text.Utf8.bytes_ne_nil name hne)
  rw [escaped, hbytes]
  exact ⟨_, rfl⟩

/-- A part that stands for the bytes of a text is decoded to this text by `decodePart`. -/
theorem decodePart_eq_ok (part : String) (written : List Char) (s : String)
    (h : Url.decodeBytes (Text.Utf8.encode written) = Text.Utf8.bytes s) :
    decodePart part written = .ok s := by
  rw [decodePart, h, Text.Utf8.text?_bytes]

/-- The path that `escaped` writes for a name leads to the application of this name. -/
theorem ofPath_escaped (name : String) (hne : name ≠ "") :
    ofPath (String.ofList ('/' :: escaped name)) = .application name := by
  obtain ⟨cs, hcs⟩ := exists_escaped_eq_cons name hne
  have hname : decodePart "application" (escaped name) = .ok name := by
    have hdecoded := Url.decodeBytes_encodeBytes (Text.Utf8.bytes name) []
    rw [List.append_nil, Url.decodeBytes, List.append_nil] at hdecoded
    exact decodePart_eq_ok _ _ _ hdecoded
  have hrest : decodePart "rest" [] = .ok "" := decodePart_eq_ok _ _ _ rfl
  -- an escape is not the first letter of the health check's path
  have hhealth : String.ofList ('/' :: escaped name) ≠ healthPath := by
    intro hpath
    have htexts := congrArg String.toList hpath
    rw [String.toList_ofList, hcs] at htexts
    cases htexts
  have hparts : ofParts (escaped name) [] = .application name := by
    rw [ofParts, hname, hrest]
    rfl
  rw [ofPath, if_neg hhealth, String.toList_ofList]
  simp only [Text.cut?_eq_none_iff.2 (slash_not_mem_escaped name), hparts]
  rw [if_neg (by simp [hcs])]

end Endpoint

/-! ## Panics -/

namespace Identity

variable (lookup : Lookup) (t : TendedCache Identity) (n : String)

/-- `resolve` fails to store if its lookup has found something at a time when deadlines cannot be
represented. -/
theorem answer_eq_cache_iff (e : CacheError) :
    (resolve lookup t n).1.answer = .error (.cache e) ↔
      t.live? n = none ∧ (∃ record, lookup n = .ok record) ∧ ¬t.CanStore := by
  constructor
  · intro h
    cases hlive : t.live? n with
    -- an identity that is remembered is not stored again
    | some entry =>
      rw [resolve_of_live lookup t n entry hlive] at h
      cases h
    | none =>
      -- nothing is stored where the lookup fails
      cases hlookup : lookup n with
      | error source =>
        rw [resolve_of_error lookup t n source hlive hlookup] at h
        cases h
      | ok record =>
        -- and where it finds something, the cache fails only on a deadline
        refine ⟨rfl, ⟨record, rfl⟩, fun hfit => ?_⟩
        obtain ⟨t', -, hresolve⟩ := resolve_of_ok lookup t n record hlive hlookup hfit
        rw [hresolve] at h
        cases h
  · rintro ⟨hlive, ⟨record, hlookup⟩, hfit⟩
    rw [resolve_of_overflow lookup t n record hlive hlookup hfit]

end Identity

/-- `judge` never answers with a crash. -/
theorem Pipeline.judge_ne_crash (p : Pipeline) (certificate application path : String) (ids : Identity)
    (e : CacheError) : p.judge certificate application path ids ≠ .crash e := by
  intro h
  simp only [judge] at h
  split at h
  · split at h <;> cases h
  · cases h

/-- `decide` answers with a crash exactly if the request is certified and named, and the identity of
the name could not be stored. -/
theorem Pipeline.decide_eq_crash_iff (p : Pipeline) (lookup : Lookup) (cache : TendedCache Identity)
    (application : Option String) (r : Http.Request) (e : CacheError) :
    (p.decide lookup cache application r).1 = .crash e ↔
      ∃ value name, Certified r value ∧ Named application name ∧
        (Identity.resolve lookup cache name).1.answer = .error (.cache e) := by
  constructor
  · intro h
    -- every stage before the lookup answers in its own way, and so does every other outcome of it
    by_cases hcert : ∃ value, Certified r value
    case neg =>
      rw [decide_of_uncertified p lookup cache application r fun value hvalue => hcert ⟨value, hvalue⟩] at h
      cases h
    obtain ⟨value, hcert⟩ := hcert
    by_cases hname : ∃ name, Named application name
    case neg =>
      rw [decide_of_unnamed p lookup cache application r value hcert fun name hn => hname ⟨name, hn⟩] at h
      cases h
    obtain ⟨name, hname⟩ := hname
    refine ⟨value, name, hcert, hname, ?_⟩
    obtain ⟨ids, hids⟩ | ⟨source, hanswer⟩ | ⟨-, e', hanswer⟩ := Identity.answer_cases lookup cache name
    · rw [decide_of_resolved p lookup cache application r value name ids hcert hname hids] at h
      exact absurd h (p.judge_ne_crash _ _ _ _ _)
    · rw [decide_of_unresolved p lookup cache application r value name source hcert hname hanswer] at h
      cases h
    · rw [decide_of_overflow p lookup cache application r value name e' hcert hname hanswer] at h
      cases h
      exact hanswer
  · rintro ⟨value, name, hcert, hname, hanswer⟩
    exact decide_of_overflow p lookup cache application r value name e hcert hname hanswer

namespace Gateway

/-- `Panics p state r`: the request `r` makes the handler panic in this state. -/
def Panics (p : Pipeline) (state : Resolver) (r : Http.Request) : Prop :=
  ∃ application e, Endpoint.ofPath r.target.path = .ofApplication application ∧
    (p.decide state.directory.get state.cache application r).1 = .crash e

section
variable (p : Pipeline) (state : Resolver) (r : Http.Request)

/-- A request `Panics` exactly if deadlines cannot be represented, it has a certificate, and it is for
a known application whose identity is not remembered. -/
theorem panics_iff :
    Panics p state r ↔ ¬state.cache.CanStore ∧ ∃ value name, Pipeline.Certified r value ∧ name ≠ "" ∧
      Endpoint.ofPath r.target.path = .application name ∧ state.cache.live? name = none ∧
      ∃ record, state.directory.get name = .ok record := by
  simp only [Panics, Pipeline.decide_eq_crash_iff, Identity.answer_eq_cache_iff]
  constructor
  · rintro ⟨application, -, hendpoint, value, name, hcert, ⟨rfl, hne⟩, hlive, hknown, hfull⟩
    exact ⟨hfull, value, name, hcert, hne, hendpoint, hlive, hknown⟩
  · rintro ⟨hfull, value, name, hcert, hne, hendpoint, hlive, hknown⟩
    exact ⟨some name, .deadlineOverflow, hendpoint, value, name, hcert, ⟨rfl, hne⟩, hlive, hknown, hfull⟩

/-- The identifier that `withRequestId` puts on a request makes no difference to whether it `Panics`. -/
theorem panics_withRequestId (fresh : Http.FieldValue) :
    Panics p state (withRequestId fresh r) ↔ Panics p state r := by
  simp only [panics_iff, certified_withRequestId, target_withRequestId]

/-- A request that `Panics` is answered with status 500 in the handler's place, and nothing is sent. -/
theorem serve_of_panics (answerOf : List Sending → Transport Id) (log : List Sending)
    (fresh : Http.FieldValue) (client : Option IpAddr) (h : Panics p state r) :
    ((serve p state.directory.get (recording answerOf) fresh state.cache client r).run log).2 = log ∧
      ((serve p state.directory.get (recording answerOf) fresh state.cache client r).run log).1.1.response =
        finish (withRequestId fresh r) (.plain 500 "Service panicked") := by
  obtain ⟨application, e, hendpoint, hdecide⟩ := (panics_withRequestId p state r fresh).2 h
  rw [target_withRequestId] at hendpoint
  rw [run_serve p answerOf log state.directory.get fresh state.cache application client r hendpoint _ _ _
    (Prod.ext hdecide rfl)]
  exact ⟨rfl, rfl⟩

end

/-! ## Runs with fixed records -/

/-- An event is `Ordinary` if it is time that passes or a request that comes in: the records stay. -/
inductive Event.Ordinary : Event → Prop where
  | advance (span : Duration) : Ordinary (.world (.advance span))
  | request (fresh : Http.FieldValue) (client : Option IpAddr) (r : Http.Request) :
    Ordinary (.request fresh client r)

/-- A run of `Ordinary` events leaves the directory as it is. -/
theorem directory_run (p : Pipeline) (answerOf : List Sending → Transport Id) (log : List Sending)
    (state : Resolver) (events : List Event) (h : ∀ event ∈ events, event.Ordinary) :
    ((run p (recording answerOf) state events).run log).1.2.directory = state.directory := by
  induction events generalizing state log with
  | nil => rfl
  | cons event events ih =>
    have hevent : ((handle p (recording answerOf) state event).run log).1.2.directory =
        state.directory := by
      cases h event List.mem_cons_self with
      | advance span => rfl
      | request fresh client r => rfl
    exact (ih _ _ fun other hmem => h other (List.mem_cons_of_mem event hmem)).trans hevent

/-- `g.Occurs records state`: a gateway with these records gets into the state by `Ordinary` events,
from any time on and with any janitors. -/
def Occurs (g : Gateway) (records : StaticDirectory) (state : Resolver) : Prop :=
  ∃ answerOf now janitors events answers log, (∀ event ∈ events, Event.Ordinary event) ∧
    (run g.pipeline (recording answerOf) (.start g.config.cache.expiration { records } now janitors)
      events).run [] = ((answers, state), log)

/-- In a state that `Occurs`, the records are as they were, and identities live as long as configured. -/
theorem frame_of_occurs (g : Gateway) (records : StaticDirectory) (state : Resolver)
    (h : g.Occurs records state) :
    state.directory = { records } ∧ state.cache.cache.ttl = g.config.cache.expiration := by
  obtain ⟨answerOf, now, janitors, events, answers, log, hordinary, hrun⟩ := h
  have hdirectory := directory_run g.pipeline answerOf []
    (.start g.config.cache.expiration { records } now janitors) events hordinary
  have httl := ttl_run g.pipeline answerOf []
    (.start g.config.cache.expiration { records } now janitors) events
  rw [hrun] at hdirectory httl
  exact ⟨hdirectory, httl⟩

/-! ## Serving -/

/-- `ofConfig` sets up a gateway exactly if its configuration is accepted, its source can be set up,
and its pipeline can be built. -/
theorem ofConfig_eq_ok_iff (trust : KubernetesDirectory.Trust) (files : Files) (c : Config)
    (g : Gateway) :
    ofConfig trust files c = .ok g ↔ c.validate = .ok () ∧ sourceOf trust files c = .ok g.source ∧
      Pipeline.ofConfig c = .ok g.pipeline ∧ g.config = c := by
  constructor
  · intro h
    obtain ⟨_, hvalid, h⟩ := Except.bind_eq_ok_iff.1 h
    obtain ⟨source, hsource, h⟩ := Except.bind_eq_ok_iff.1 h
    obtain ⟨pipeline, hpipeline, h⟩ := Except.bind_eq_ok_iff.1 h
    cases h
    exact ⟨hvalid, hsource, hpipeline, rfl⟩
  · rintro ⟨hvalid, hsource, hpipeline, rfl⟩
    rw [ofConfig, hvalid, hsource, hpipeline]
    rfl

/-- `Serves trust files c last`: a gateway with fixed records can serve with the configuration until
the time `last`. It can be set up, there is an address for it to listen on, and no request that comes
in until then makes its handler panic. -/
structure Serves (trust : KubernetesDirectory.Trust) (files : Files) (c : Config) (last : Instant) :
    Prop where
  setUp : ∃ g records, ofConfig trust files c = .ok g ∧ g.source = .fixed records ∧
    ∀ state, g.Occurs records state → state.cache.now ≤ last → ∀ r, ¬Panics g.pipeline state r
  listens : ∃ ip, address c = .ok ip

/-- `address` finds an address to listen on exactly if the configured host is one. -/
theorem exists_address_iff (c : Config) :
    (∃ ip, address c = .ok ip) ↔ ∃ ip, IpAddr.parse? c.server.host = some ip := by
  rw [address]
  cases IpAddr.parse? c.server.host with
  | none => exact iff_of_false (fun ⟨_, h⟩ => nomatch h) fun ⟨_, h⟩ => nomatch h
  | some ip => exact iff_of_true ⟨ip, rfl⟩ ⟨ip, rfl⟩

/-- The pipeline of a configuration can be built exactly if `targetUrl` reads the hosts of its
backends. -/
theorem exists_ofConfig_iff (c : Config) :
    (∃ p, Pipeline.ofConfig c = .ok p) ↔ ∀ d, ∃ url, Proxy.targetUrl (c.backends.host d) = .ok url := by
  rw [← Dispatcher.exists_ofBackends_iff]
  constructor
  · rintro ⟨p, hp⟩
    exact ⟨p.dispatcher, (Pipeline.ofConfig_eq_ok c p hp).1⟩
  · rintro ⟨dispatcher, hdispatcher⟩
    exact ⟨_, Except.bind_eq_ok_iff.2 ⟨dispatcher, hdispatcher, rfl⟩⟩

section
variable (g : Gateway) (applications : List (String × Option (List String))) (last : Instant)

/-- Where all deadlines up to `last` can be represented, or no application has a name, no request
`Panics` in a state that `Occurs`. -/
theorem not_panics_of_occurs (state : Resolver) (hoccurs : g.Occurs (.ofClientIds applications) state)
    (hlast : state.cache.now ≤ last)
    (h : last + g.config.cache.expiration.nanos < Instant.horizon ∨
      ∀ name ids, (name, ids) ∈ applications → name = "") (r : Http.Request) :
    ¬Panics g.pipeline state r := by
  obtain ⟨hdirectory, httl⟩ := frame_of_occurs g _ state hoccurs
  intro hpanics
  obtain ⟨hfull, value, name, -, hne, -, -, hknown⟩ := (panics_iff _ _ _).1 hpanics
  -- an identity that the handler could not store would have a deadline beyond the horizon
  obtain hfits | hnobody := h
  · refine hfull ?_
    rw [TendedCache.CanStore, httl]
    exact Nat.lt_of_le_of_lt (Nat.add_le_add_right hlast _) hfits
  · -- a known application is one of the configuration, and has a name
    rw [hdirectory] at hknown
    obtain ⟨ids, hmem⟩ := (StaticDirectory.exists_get_ofClientIds_iff applications name).1 hknown
    exact hne (hnobody name ids hmem)

/-- Where the deadlines at `last` cannot be represented, the first request for a known application
`Panics`. -/
theorem exists_panics (name : String) (ids : Option (List String)) (hmem : (name, ids) ∈ applications)
    (hne : name ≠ "") (hfull : Instant.horizon ≤ last + g.config.cache.expiration.nanos) :
    ∃ state r, g.Occurs (.ofClientIds applications) state ∧ state.cache.now ≤ last ∧
      Panics g.pipeline state r := by
  let state : Resolver := .start g.config.cache.expiration { records := .ofClientIds applications } last
  let r : Http.Request := {
    method := "GET"
    target := { path := String.ofList ('/' :: Endpoint.escaped name) }
    headers := ⟨[(clientCertificateField, [0x20])]⟩ }
  have hknown := (StaticDirectory.exists_get_ofClientIds_iff applications name).2 ⟨ids, hmem⟩
  have hcert : Pipeline.Certified r [0x20] := ⟨rfl, List.cons_ne_nil _ _⟩
  refine ⟨state, r, ?_, Nat.le_refl last, (panics_iff _ _ _).2 ?_⟩
  · -- the state in which such a gateway starts at the last of these times
    exact ⟨unreachableBackends, last, [], [], [], [], nofun, rfl⟩
  · exact ⟨Nat.not_lt.2 hfull, [0x20], name, hcert, hne, Endpoint.ofPath_escaped name hne, rfl, hknown⟩

end

/-- Out of the configurations with fixed records that `validate` accepts, a gateway `Serves` exactly
with those whose backend hosts are URLs, whose host is an address, and whose deadlines can be
represented, unless no application has a name. -/
theorem serves_iff (trust : KubernetesDirectory.Trust) (files : Files) (c : Config) (last : Instant)
    (applications : List (String × Option (List String))) (hvalid : c.validate = .ok ())
    (hfixed : c.directory = .fixed applications) :
    Serves trust files c last ↔
      (∀ d, ∃ url, Proxy.targetUrl (c.backends.host d) = .ok url) ∧
        (∃ ip, IpAddr.parse? c.server.host = some ip) ∧
        (last + c.cache.expiration.nanos < Instant.horizon ∨
          ∀ name ids, (name, ids) ∈ applications → name = "") := by
  have hsource : sourceOf trust files c = .ok (.fixed (.ofClientIds applications)) := by
    rw [sourceOf, hfixed]
  rw [← exists_ofConfig_iff, ← exists_address_iff]
  constructor
  · rintro ⟨⟨g, records, hg, hrecords, hcalm⟩, haddress⟩
    obtain ⟨-, hgsource, hpipeline, rfl⟩ := (ofConfig_eq_ok_iff trust files c g).1 hg
    rw [hsource, hrecords] at hgsource
    cases hgsource
    refine ⟨⟨g.pipeline, hpipeline⟩, haddress, ?_⟩
    -- a request for an application shows that deadlines can be represented
    refine Classical.or_iff_not_imp_left.2 fun hfull name ids hmem => Classical.byContradiction fun hne => ?_
    obtain ⟨state, r, hoccurs, hlast, hpanics⟩ :=
      exists_panics g applications last name ids hmem hne (Nat.not_lt.1 hfull)
    exact hcalm state hoccurs hlast r hpanics
  · rintro ⟨⟨p, hp⟩, haddress, hclock⟩
    have hg := (ofConfig_eq_ok_iff trust files c ⟨c, .fixed (.ofClientIds applications), p⟩).2
      ⟨hvalid, hsource, hp, rfl⟩
    refine ⟨⟨_, _, hg, rfl, fun state hoccurs hlast => ?_⟩, haddress⟩
    exact not_panics_of_occurs _ applications last state hoccurs hlast hclock

/-- The default settings, with the fixed record of one unmanaged application. -/
def fixedConfig : Config where
  directory := .fixed [("app1", none)]

/-- A gateway `Serves` with `fixedConfig` for an hour. -/
theorem serves_iff_fixedConfig :
    fixedConfig.validate = .ok () ∧ fixedConfig.directory = .fixed [("app1", none)] ∧
      Serves (fun _ => .ok ()) {} fixedConfig (3600 * 1000000000) := by
  have hvalid : fixedConfig.validate = .ok () := Except.eq_ok_of_toOption (by decide +kernel)
  have hhosts : ∀ d, ∃ url, Proxy.targetUrl (fixedConfig.backends.host d) = .ok url :=
    (exists_ofConfig_iff fixedConfig).1 ⟨defaultPipeline, ofConfig_default⟩
  have haddress : IpAddr.parse? fixedConfig.server.host = some (.v4 ⟨0, 0, 0, 0⟩) := by decide +kernel
  have hclock : 3600 * 1000000000 + fixedConfig.cache.expiration.nanos < Instant.horizon := by decide
  exact ⟨hvalid, rfl,
    (serves_iff _ {} fixedConfig _ _ hvalid rfl).2 ⟨hhosts, ⟨_, haddress⟩, Or.inl hclock⟩⟩

/-- A configuration in which the host of a backend has a space in it. -/
def spacedBackend : Config :=
  { fixedConfig with backends := { eventServiceHost := "a b" } }

/-- A configuration in which the host to listen on is a name in the place of an address. -/
def namedHost : Config :=
  { fixedConfig with server := { host := "localhost" } }

/-- A configuration in which identities live for as many seconds as can be written. -/
def longLived : Config :=
  { fixedConfig with cache := { expiration := .ofSeconds 0xFFFFFFFFFFFFFFFF } }

/-- `validate` accepts all three of `spacedBackend`, `namedHost` and `longLived`, but no gateway can be
set up with the first, there is no address to listen on with the second, and with the third the first
request of an application makes the handler panic. -/
theorem validate_accepts_unservable :
    (spacedBackend.validate = .ok () ∧ ∀ trust g, ofConfig trust {} spacedBackend ≠ .ok g) ∧
      (namedHost.validate = .ok () ∧ ∀ ip, address namedHost ≠ .ok ip) ∧
      (longLived.validate = .ok () ∧ ∃ g state, (∀ trust, ofConfig trust {} longLived = .ok g) ∧
        g.Occurs (.ofClientIds [("app1", none)]) state ∧ Panics g.pipeline state eventRequest) := by
  have hvalid : ∀ c ∈ [spacedBackend, namedHost, longLived], c.validate = .ok () := by
    have hall : ∀ c ∈ [spacedBackend, namedHost, longLived], c.validate.toOption = some () := by
      decide +kernel
    exact fun c hc => Except.eq_ok_of_toOption (hall c hc)
  have hspaced : ∀ trust g, ofConfig trust {} spacedBackend ≠ .ok g := by
    have hnone : (Pipeline.ofConfig spacedBackend).toOption.isNone = true := by decide +kernel
    intro trust g hg
    rw [((ofConfig_eq_ok_iff trust {} spacedBackend g).1 hg).2.2.1] at hnone
    cases hnone
  have hnamed : ∀ ip, address namedHost ≠ .ok ip := by
    have hnone : (address namedHost).toOption = none := by decide +kernel
    intro ip hip
    rw [hip] at hnone
    cases hnone
  let g : Gateway := ⟨longLived, .fixed (.ofClientIds [("app1", none)]), defaultPipeline⟩
  let state : Resolver := .start longLived.cache.expiration { records := .ofClientIds [("app1", none)] }
  have hg (trust : KubernetesDirectory.Trust) : ofConfig trust {} longLived = .ok g :=
    (ofConfig_eq_ok_iff trust {} longLived g).2
      ⟨hvalid longLived (by simp), rfl, ofConfig_default, rfl⟩
  have hoccurs : g.Occurs (.ofClientIds [("app1", none)]) state :=
    ⟨unreachableBackends, 0, [], [], [], [], nofun, rfl⟩
  -- no identity is remembered at the start, and its deadline would lie beyond the horizon
  have hpanics : Panics g.pipeline state eventRequest := by
    have hendpoint : Endpoint.ofPath eventRequest.target.path = .ofApplication (some "app1") := by
      decide +kernel
    exact ⟨some "app1", .deadlineOverflow, hendpoint, by decide +kernel⟩
  exact ⟨⟨hvalid spacedBackend (by simp), hspaced⟩, ⟨hvalid namedHost (by simp), hnamed⟩,
    hvalid longLived (by simp), g, state, hg, hoccurs, hpanics⟩

end Gateway

end CertGate
