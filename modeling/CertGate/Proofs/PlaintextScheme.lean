import CertGate.Proofs.BackendAuthority

/-!
# Which requests are sent in the clear

The internal scheme is put into every URL, and is taken on only by a URL whose scheme has rules of its
own. Backends are accepted under others too, so the two sets are compared here, over the texts that
configure a host.

## Key results

- `Url.namesScheme_iff_of_parse`: the scheme of a URL is the one its text names
- `Proxy.configuredScheme_iff`: the scheme of a backend is the one its host is configured with
- `Dispatcher.scheme_sent_eq_http_iff`: whose requests are sent in the clear
- `sendsUnder_ofBackends`: hosts and schemes of all that is sent
-/

namespace CertGate

namespace Url

/-! ## Schemes in front of a text -/

/-- A character that `readScheme?` takes as part of a scheme. -/
def isSchemeChar (c : Char) : Bool :=
  c.isAlphanum || c == '+' || c == '-' || c == '.'

/-- A text starts with `scheme`, in either case, and a colon. -/
def NamesScheme (cs : List Char) (scheme : String) : Prop :=
  ∃ first name rest, cs = first :: name ++ ':' :: rest ∧ first.isAlpha = true ∧
    (∀ c ∈ first :: name, isSchemeChar c = true) ∧
      scheme = String.ofList ((first :: name).map Char.toLower)

/-- `readScheme?` reads a scheme off a text that `NamesScheme`, and off no other one. -/
theorem exists_readScheme?_iff (cs : List Char) (scheme : String) :
    (∃ rest, readScheme? cs = some (scheme, some rest)) ↔ NamesScheme cs scheme := by
  constructor
  · rintro ⟨rest, h⟩
    -- what is taken and what is left make up the text, and only a colon may come next
    have hcut := List.prefix_iff_eq_append.1 (List.takeWhile_prefix isSchemeChar (l := cs))
    have hname : ∀ c ∈ cs.takeWhile isSchemeChar, isSchemeChar c = true :=
      fun c hc => List.all_eq_true.1 List.all_takeWhile c hc
    unfold isSchemeChar at hcut hname
    simp only [readScheme?] at h
    split at h
    · cases h
    · next first name hfirst =>
      split at h
      · cases h
      · next halpha =>
        split at h
        · cases h
        · next hrest =>
          cases h
          rw [hrest, hfirst] at hcut
          rw [hfirst] at hname ⊢
          exact ⟨first, name, _, hcut.symm, by simpa using halpha, hname, rfl⟩
        · cases h
  · rintro ⟨first, name, rest, rfl, hfirst, hname, rfl⟩
    refine ⟨rest, ?_⟩
    -- the colon is no character of a scheme, so the name ends there
    have htake : (first :: name ++ ':' :: rest).takeWhile isSchemeChar = first :: name := by
      rw [List.takeWhile_append_of_pos hname, List.takeWhile_cons_of_neg (by decide),
        List.append_nil]
    have hdrop : (first :: name ++ ':' :: rest).drop (first :: name).length = ':' :: rest :=
      List.drop_left
    unfold isSchemeChar at htake
    simp only [readScheme?, htake, hdrop, hfirst]
    rfl

/-! ## The scheme of a URL -/

/-- `readFile` gives URLs under `file`. -/
theorem scheme_readFile (cs : List Char) (u : Url) (h : readFile cs = .ok u) :
    u.scheme = "file" := by
  unfold readFile at h
  split at h
  · -- behind a slash there may be a host
    split at h
    · obtain ⟨⟨host, path⟩, -, hu⟩ := Except.bind_eq_ok_iff.1 h
      cases hu
      rfl
    · cases h
      rfl
  · cases h
    rfl

/-- `readHierarchy` gives URLs under the scheme it was told. -/
theorem scheme_readHierarchy (scheme : String) (followed : Bool) (cs : List Char) (u : Url)
    (h : readHierarchy scheme followed cs = .ok u) : u.scheme = scheme := by
  simp only [readHierarchy] at h
  split at h
  · next hfile => exact (scheme_readFile cs u h).trans hfile.symm
  -- an authority is looked for in two ways and read in one
  · split at h
    · obtain ⟨⟨authority, before⟩, -, hu⟩ := Except.bind_eq_ok_iff.1 h
      cases hu
      rfl
    · split at h
      · obtain ⟨⟨authority, before⟩, -, hu⟩ := Except.bind_eq_ok_iff.1 h
        cases hu
        rfl
      · cases h
        rfl
      · cases h
        rfl

/-- The characters of a text that `parse` looks at. -/
def seen (s : String) : List Char :=
  (Text.trim isEdge s.toList).filter (!isDropped ·)

/-- The scheme of a URL that `parse` gives is the one its text names. -/
theorem namesScheme_iff_of_parse (s : String) (u : Url) (h : parse s = .ok u) (scheme : String) :
    NamesScheme (seen s) scheme ↔ scheme = u.scheme := by
  have hread : ∃ rest, readScheme? (seen s) = some (u.scheme, some rest) := by
    simp only [parse] at h
    split at h
    · next scheme' rest hread =>
      obtain ⟨u', hu', hu⟩ := Except.bind_eq_ok_iff.1 h
      cases hu
      refine ⟨rest, ?_⟩
      rw [seen, hread, ← scheme_readHierarchy _ _ _ u' hu']
    · cases h
  rw [← exists_readScheme?_iff]
  -- a text is read in one way only
  constructor
  · rintro ⟨rest, hrest⟩
    obtain ⟨rest', hrest'⟩ := hread
    rw [hrest'] at hrest
    cases hrest
    rfl
  · rintro rfl
    exact hread

/-- Behind `http://` nothing is trimmed off the front of a host. -/
theorem seen_append_http (host : String) : seen ("http://" ++ host) =
    "http://".toList ++ (Text.trimEnd isEdge host.toList).filter (!isDropped ·) := by
  have hkept : ∀ c ∈ "http://".toList, isEdge c = false := by simp [isEdge]
  rw [seen, String.toList_append, Text.trim_append_of_forall_not (by decide) hkept,
    List.filter_append]
  rfl

end Url

namespace Proxy

/-! ## The scheme of a backend -/

/-- `occursIn` finds a part wherever it stands. -/
theorem occursIn_iff (part cs : List Char) : occursIn part cs = true ↔ part <:+: cs := by
  induction cs with
  | nil => rw [occursIn, List.isEmpty_iff, List.infix_nil]
  | cons c cs ih =>
    rw [occursIn, Bool.or_eq_true, List.isPrefixOf_iff_prefix, ih, List.infix_cons_iff]

/-- The scheme that a backend is configured with: the one its text names or, without `://`, the
internal one. -/
inductive ConfiguredScheme (host : String) : String → Prop where
  | written {scheme : String} (hmarks : "://".toList <:+: host.toList)
      (hnames : Url.NamesScheme (Url.seen host) scheme) : ConfiguredScheme host scheme
  | implied (hmarks : ¬ "://".toList <:+: host.toList) : ConfiguredScheme host "http"

/-- The scheme of `targetUrl` is the configured one. -/
theorem configuredScheme_iff (host : String) (url : Url) (h : targetUrl host = .ok url)
    (scheme : String) : ConfiguredScheme host scheme ↔ scheme = url.scheme := by
  -- `targetUrl` parses the host as it is written, or behind the internal scheme
  have hparse : Url.parse (if occursIn "://".toList host.toList then host else "http://" ++ host) =
      .ok url := by
    simp only [targetUrl] at h
    split at h
    · cases h
    · next url' hurl =>
      split at h
      · cases h
      · cases h
        exact hurl
  have hnames := Url.namesScheme_iff_of_parse _ url hparse
  by_cases hmarks : "://".toList <:+: host.toList
  · rw [if_pos ((occursIn_iff _ _).2 hmarks)] at hnames
    rw [← hnames]
    constructor
    · rintro (⟨-, hscheme⟩ | hnone)
      · exact hscheme
      · exact absurd hmarks hnone
    · exact .written hmarks
  · rw [if_neg fun hoccurs => hmarks ((occursIn_iff _ _).1 hoccurs)] at hnames
    -- the host follows the internal scheme, whatever else it holds
    have hhttp : Url.NamesScheme (Url.seen ("http://" ++ host)) "http" := by
      rw [Url.seen_append_http]
      exact ⟨'h', "ttp".toList, _, rfl, by decide, by simp [Url.isSchemeChar], by decide⟩
    rw [← (hnames "http").1 hhttp]
    constructor
    · rintro (⟨hmarks', -⟩ | -)
      · exact absurd hmarks' hmarks
      · rfl
    · rintro rfl
      exact .implied hmarks

/-- The scheme of the configured `host` has rules of its own, so it gives way to the internal one. -/
def TakesInternal (host : String) : Prop :=
  ∀ scheme, ConfiguredScheme host scheme → Url.isSpecialScheme scheme = true

/-- `TakesInternal` hosts are those whose `targetUrl` is special. -/
theorem takesInternal_iff (host : String) (url : Url) (h : targetUrl host = .ok url) :
    TakesInternal host ↔ url.isSpecial = true := by
  have hscheme := configuredScheme_iff host url h
  constructor
  · exact fun htakes => htakes url.scheme ((hscheme _).2 rfl)
  · intro hspecial scheme hconfigured
    rw [(hscheme scheme).1 hconfigured]
    exact hspecial

end Proxy

/-! ## The schemes of all requests -/

/-- A URL with a host under `http` is written so. -/
theorem Url.http_prefix_render (u : Url) (hscheme : u.scheme = "http")
    (hhost : u.host?.isSome = true) : "http://".toList <+: u.render.toList := by
  cases hauthority : u.authority with
  | none => simp [host?, hauthority] at hhost
  | some a =>
    rw [render, hscheme, hauthority]
    simp only [Option.map_some, Option.getD_some, Authority.render, String.toList_append,
      List.append_assoc]
    exact List.prefix_append "http://".toList _

namespace Dispatcher

section
variable (b : Backends) (dispatcher : Dispatcher) (hdispatcher : ofBackends b = .ok dispatcher)
include hdispatcher

/-- The target of each destination in a dispatcher, which `targetUrl` reads from its host. -/
theorem exists_targetUrl (d : Destination) : ∃ url, Proxy.targetUrl (b.host d) = .ok url ∧
    dispatcher.proxy d = ⟨d, url, Proxy.transformsOf b d⟩ :=
  Proxy.ofBackends_eq_ok b d _ (ofBackends_eq_ok b dispatcher hdispatcher d)

/-- Everything is `sent` to a host. -/
theorem isSome_host?_sent (d : Destination) (r : Http.Request) (client : Option IpAddr) :
    (dispatcher.sent d r client).url.host?.isSome = true := by
  obtain ⟨url, hurl, hproxy⟩ := exists_targetUrl b dispatcher hdispatcher d
  rw [sent, Proxy.host?_prepare, hproxy]
  exact (Proxy.targetUrl_eq_ok _ url hurl).2

/-- Everything is `sent` under the internal scheme, if the configured one has rules of its own, and
under the configured one if not. -/
theorem scheme_sent (d : Destination) (url : Url) (hurl : Proxy.targetUrl (b.host d) = .ok url)
    (r : Http.Request) (client : Option IpAddr) :
    (dispatcher.sent d r client).url.scheme = if url.isSpecial then "http" else url.scheme := by
  have horigin := origin_sent b dispatcher hdispatcher d url hurl r client
  rw [url.origin_setScheme_http (Proxy.targetUrl_eq_ok _ url hurl).2] at horigin
  refine (congrArg Url.Origin.scheme horigin).trans ?_
  split <;> rfl

/-- Requests are `sent` in the clear exactly if the text of the host `TakesInternal`. -/
theorem scheme_sent_eq_http_iff (d : Destination) (r : Http.Request) (client : Option IpAddr) :
    (dispatcher.sent d r client).url.scheme = "http" ↔ Proxy.TakesInternal (b.host d) := by
  obtain ⟨url, hurl, -⟩ := exists_targetUrl b dispatcher hdispatcher d
  rw [scheme_sent b dispatcher hdispatcher d url hurl, Proxy.takesInternal_iff _ url hurl]
  split
  · next hspecial => exact iff_of_true rfl hspecial
  · next hspecial =>
    -- the internal scheme has rules of its own, so a URL without them is under another one
    refine iff_of_false (fun hhttp => hspecial ?_) hspecial
    rw [Url.isSpecial, hhttp]
    decide

end

end Dispatcher

/-- What the dispatcher of `b` sends, as the hosts are configured. -/
structure SendsUnder (b : Backends) (dispatcher : Dispatcher) : Prop where
  /-- Each host is configured with one scheme. -/
  configured : ∀ d, ∃ scheme, ∀ scheme',
    Proxy.ConfiguredScheme (b.host d) scheme' ↔ scheme' = scheme
  /-- Everything is sent to a host. -/
  host : ∀ d r client, (dispatcher.sent d r client).url.host?.isSome = true
  /-- A scheme with rules of its own gives way to the internal one, and all others stay. -/
  scheme : ∀ d scheme, Proxy.ConfiguredScheme (b.host d) scheme → ∀ r client,
    (dispatcher.sent d r client).url.scheme = if Url.isSpecialScheme scheme then "http" else scheme
  /-- The text of the host decides which requests are sent in the clear. -/
  plaintext : ∀ d r client,
    (dispatcher.sent d r client).url.scheme = "http" ↔ Proxy.TakesInternal (b.host d)
  /-- The URL of these says so. -/
  written : ∀ d, Proxy.TakesInternal (b.host d) → ∀ r client,
    "http://".toList <+: (dispatcher.sent d r client).url.render.toList

/-- What `Dispatcher.ofBackends` gives `SendsUnder` the schemes that are configured. -/
theorem sendsUnder_ofBackends (b : Backends) (dispatcher : Dispatcher)
    (hdispatcher : Dispatcher.ofBackends b = .ok dispatcher) : SendsUnder b dispatcher := by
  have htarget := Dispatcher.exists_targetUrl b dispatcher hdispatcher
  have hhost := Dispatcher.isSome_host?_sent b dispatcher hdispatcher
  have hplaintext := Dispatcher.scheme_sent_eq_http_iff b dispatcher hdispatcher
  constructor
  case configured =>
    intro d
    obtain ⟨url, hurl, -⟩ := htarget d
    exact ⟨url.scheme, Proxy.configuredScheme_iff _ url hurl⟩
  case host => exact hhost
  case scheme =>
    intro d scheme hconfigured r client
    obtain ⟨url, hurl, -⟩ := htarget d
    obtain rfl := (Proxy.configuredScheme_iff _ url hurl scheme).1 hconfigured
    exact Dispatcher.scheme_sent b dispatcher hdispatcher d url hurl r client
  case plaintext => exact hplaintext
  case written =>
    intro d htakes r client
    exact Url.http_prefix_render _ ((hplaintext d r client).2 htakes) (hhost d r client)

/-- Of `mixedBackends` only the registry is asked under a scheme of its own. -/
theorem sendsUnder_mixedBackends : ∃ dispatcher,
    Dispatcher.ofBackends mixedBackends = .ok dispatcher ∧ SendsUnder mixedBackends dispatcher ∧
      Proxy.ConfiguredScheme mixedBackends.eventServiceHost "http" ∧
      Proxy.ConfiguredScheme mixedBackends.eventMeshHost "https" ∧
      Proxy.ConfiguredScheme mixedBackends.appRegistryHost "tcp" ∧
      (Destination.all.map fun d => (dispatcher.sent d strayRequest none).url.scheme) =
        ["http", "http", "http", "tcp"] := by
  have hsent : ((Dispatcher.ofBackends mixedBackends).toOption.map fun dispatcher =>
      Destination.all.map fun d => (dispatcher.sent d strayRequest none).url.scheme) =
        some ["http", "http", "http", "tcp"] := by decide +kernel
  obtain ⟨dispatcher, hdispatcher, hschemes⟩ := Option.map_eq_some_iff.1 hsent
  have hok := Except.eq_ok_of_toOption hdispatcher
  have hmesh : Proxy.occursIn "://".toList mixedBackends.eventMeshHost.toList = true := by
    decide +kernel
  have hregistry : Proxy.occursIn "://".toList mixedBackends.appRegistryHost.toList = true := by
    decide +kernel
  exact ⟨dispatcher, hok, sendsUnder_ofBackends mixedBackends dispatcher hok,
    .implied fun h => absurd ((Proxy.occursIn_iff _ _).2 h) (by decide +kernel),
    .written ((Proxy.occursIn_iff _ _).1 hmesh) ((Url.exists_readScheme?_iff _ _).1 ⟨_, rfl⟩),
    .written ((Proxy.occursIn_iff _ _).1 hregistry) ((Url.exists_readScheme?_iff _ _).1 ⟨_, rfl⟩),
    hschemes⟩

/-- A registry under a scheme without rules. -/
def tcpRegistry : Backends where
  appRegistryHost := "tcp://registry:9000"

/-- A request for what an application has registered. -/
def metadataRequest : Http.Request where
  method := "POST"
  target := { path := "/app1/v1/metadata" }

/-- The registry of `tcpRegistry` is accepted, and asked under its own scheme. -/
theorem sent_tcpRegistry_not_http : ∃ dispatcher, Dispatcher.ofBackends tcpRegistry = .ok dispatcher ∧
    (dispatcher.sent .appRegistry metadataRequest none).url.render =
      "tcp://registry:9000/app1/v1/metadata" ∧
    (dispatcher.sent .appRegistry metadataRequest none).url.scheme ≠ "http" := by
  have hsent : ((Dispatcher.ofBackends tcpRegistry).toOption.map fun dispatcher =>
      let url := (dispatcher.sent .appRegistry metadataRequest none).url
      (url.render, url.scheme)) = some ("tcp://registry:9000/app1/v1/metadata", "tcp") := by
    decide +kernel
  obtain ⟨dispatcher, hdispatcher, hurl⟩ := Option.map_eq_some_iff.1 hsent
  obtain ⟨hrender, hscheme⟩ := Prod.mk.inj hurl
  refine ⟨dispatcher, Except.eq_ok_of_toOption hdispatcher, hrender, ?_⟩
  rw [hscheme]
  decide

end CertGate
