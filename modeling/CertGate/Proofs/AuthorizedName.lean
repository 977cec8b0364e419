import CertGate.Proofs.GatewayMediation
import CertGate.Proofs.PercentDecoding
import CertGate.Proofs.Utf8RoundTrip

/-!
# The name that is authorized

The application that a request is authorized for is percent-decoded from its path, but the route
table compares the path as it was sent. If every lead starts with the application's segment, both can
only agree when the segment is the name itself: decoding never makes a text longer, so a name that
spans more than one segment of the path cannot have been decoded from the first one.

## Key results

- `path_of_routed`: a routed path starts with the name, literally, between two slashes
- `ofPath_eq_application`: the name is decoded from what stands before the second slash
- `name_of_ofPath`: a name that is both is the segment
- `sent_name_eq_segment`: a request is only sent for the application that its path spells out
-/

namespace CertGate

/-! ## Leads -/

/-- Every lead starts with a segment for the application's name, a `placeholder` between two slashes. -/
def PathLeads.LedByApplication (leads : PathLeads) : Prop :=
  ∀ written ∈ [leads.eventServiceV1, leads.eventServiceV2, leads.eventMesh, leads.appRegistry],
    "/\x7bapplication\x7d/".toList <+: written.toList

instance (leads : PathLeads) : Decidable leads.LedByApplication :=
  inferInstanceAs (Decidable (∀ written ∈ _, _))

/-- How `PathLead.read` reads a lead that starts with a segment for the name. -/
theorem PathLead.read_of_led (written : String) (h : "/\x7bapplication\x7d/".toList <+: written.toList) :
    ∃ more, read written = .literal '/' :: .application :: .literal '/' :: more := by
  obtain ⟨rest, hrest⟩ := h
  refine ⟨readFrom 0 rest, ?_⟩
  rw [read, ← hrest]
  rfl

/-- A path that fits such a lead, `written`, starts with the name, literally, between two slashes. -/
theorem PathLead.path_of_matches (written path name : String)
    (hled : "/\x7bapplication\x7d/".toList <+: written.toList)
    (h : (read written).matchesPath path name = true) :
    ∃ rest, path.toList = '/' :: (name.toList ++ '/' :: rest) := by
  obtain ⟨more, hread⟩ := read_of_led written hled
  rw [matchesPath, hread, List.isPrefixOf_iff_prefix] at h
  obtain ⟨rest, hrest⟩ := h
  refine ⟨fill more name ++ rest, ?_⟩
  rw [← hrest]
  simp only [fill, List.flatMap_cons, List.cons_append, List.nil_append, List.append_assoc]

/-- A path that is `routed` starts with the name, literally, between two slashes. -/
theorem Pipeline.path_of_routed (c : Config) (r : Http.Request) (name : String) (d : Destination)
    (hled : c.routes.LedByApplication) (h : routed c r name = .ok d) :
    ∃ rest, r.target.path.toList = '/' :: (name.toList ++ '/' :: rest) := by
  simp only [routed, RouteTable.route] at h
  split at h
  · next rule hfind =>
    have hmatches := List.find?_some hfind
    have hmem := List.mem_of_find?_eq_some hfind
    simp only [RouteTable.ofLeads, List.mem_cons, List.not_mem_nil, or_false] at hmem
    -- the rule is one of the four, and each has a lead
    obtain rfl | rfl | rfl | rfl := hmem
    · exact PathLead.path_of_matches _ _ _ (hled _ (by simp)) hmatches
    · exact PathLead.path_of_matches _ _ _ (hled _ (by simp)) hmatches
    · exact PathLead.path_of_matches _ _ _ (hled _ (by simp)) hmatches
    · exact PathLead.path_of_matches _ _ _ (hled _ (by simp)) hmatches
  · cases h

/-! ## Endpoints -/

namespace Endpoint

/-- `decodePart` gives the text of the bytes that the part stands for, or reports that they are no
text. -/
theorem decodePart_cases (part : String) (written : List Char) :
    (∃ name, decodePart part written = .ok name ∧
      Text.Utf8.bytes name = Url.decodeBytes (Text.Utf8.encode written)) ∨
      decodePart part written = .error (.undecodable part) := by
  unfold decodePart
  cases htext : Text.Utf8.text? (Url.decodeBytes (Text.Utf8.encode written)) with
  | some name => exact Or.inl ⟨name, rfl, Text.Utf8.bytes_of_text? _ _ htext⟩
  | none => exact Or.inr rfl

/-- The name in `.application name` is decoded from the first part; the rest must only be decodable. -/
theorem ofParts_eq_application (first rest : List Char) (name : String)
    (h : ofParts first rest = .application name) :
    Text.Utf8.bytes name = Url.decodeBytes (Text.Utf8.encode first) := by
  obtain ⟨s, hfirst, hbytes⟩ | hfirst := decodePart_cases "application" first
  · obtain ⟨t, hrest, -⟩ | hrest := decodePart_cases "rest" rest
    · -- both parts can be decoded
      simp only [ofParts, hfirst, hrest, bind, Except.bind, pure, Except.pure] at h
      cases h
      exact hbytes
    · simp only [ofParts, hfirst, hrest, bind, Except.bind] at h
      cases h
  · simp only [ofParts, hfirst, bind, Except.bind] at h
    cases h

/-- The name in `.application name` is decoded from what stands between the first slash and the second
one, or the end. -/
theorem ofPath_eq_application (path name : String) (h : ofPath path = .application name) :
    ∃ first after, path.toList = '/' :: (first ++ after) ∧ '/' ∉ first ∧
      (after = [] ∨ ∃ rest, after = '/' :: rest) ∧
      Text.Utf8.bytes name = Url.decodeBytes (Text.Utf8.encode first) := by
  unfold ofPath at h
  split at h
  · cases h
  · split at h
    · next cs hpath =>
      split at h
      · -- one part alone
        next hcut =>
        split at h
        · cases h
        · refine ⟨cs, [], ?_, Text.cut?_eq_none_iff.1 hcut, Or.inl rfl,
            ofParts_eq_application cs [] name h⟩
          rw [hpath, List.append_nil]
      · -- a part and a rest
        next first rest hcut =>
        obtain ⟨hcs, hslash⟩ := Text.cut?_eq_some_iff.1 hcut
        split at h
        · cases h
        · refine ⟨first, '/' :: rest, ?_, hslash, Or.inr ⟨rest, rfl⟩,
            ofParts_eq_application first rest name h⟩
          rw [hpath, hcs]
    · cases h

end Endpoint

/-! ## The name and the segment -/

/-- Two texts start at the same place: `first` runs to the next slash or the end, `name` stands before
a slash and takes no more bytes. Then they are the same. -/
theorem eq_of_append_slash (first after name rest : List Char) (hslash : '/' ∉ first)
    (h : first ++ after = name ++ '/' :: rest)
    (hlength : (Text.Utf8.encode name).length ≤ (Text.Utf8.encode first).length) : first = name := by
  obtain ⟨extra, hname, -⟩ | ⟨extra, hfirst, hextra⟩ := List.append_eq_append_iff.1 h
  · -- the name goes beyond the segment, so it takes more bytes
    cases extra with
    | nil => rw [hname, List.append_nil]
    | cons c cs =>
      rw [hname, Text.Utf8.encode, List.flatMap_append, List.flatMap_cons, List.length_append,
        List.length_append, ← Text.Utf8.encode] at hlength
      have hpos : 0 < (String.utf8EncodeChar c).length :=
        List.length_pos_iff.2 String.utf8EncodeChar_ne_nil
      omega
  · -- the segment goes beyond the name, so it holds the slash behind the name
    cases extra with
    | nil => rw [hfirst, List.append_nil]
    | cons c cs =>
      obtain ⟨rfl, -⟩ := List.cons.inj hextra
      exact absurd (by rw [hfirst]; simp) hslash

/-- A name that `ofPath` decodes from the first segment and that stands literally in its place is that
segment. -/
theorem name_of_ofPath (path name : String) (rest : List Char)
    (hendpoint : Endpoint.ofPath path = .application name)
    (hpath : path.toList = '/' :: (name.toList ++ '/' :: rest)) :
    '/' ∉ name.toList ∧
      Text.Utf8.bytes name = Url.decodeBytes (Text.Utf8.encode name.toList) := by
  obtain ⟨first, after, hfirst, hslash, -, hbytes⟩ :=
    Endpoint.ofPath_eq_application path name hendpoint
  rw [hpath] at hfirst
  -- decoding makes nothing longer, so the name takes no more bytes than the segment
  have hlength : (Text.Utf8.encode name.toList).length ≤ (Text.Utf8.encode first).length := by
    have hname : Text.Utf8.encode name.toList = Url.decodeBytes (Text.Utf8.encode first) := hbytes
    rw [hname]
    exact Url.length_decodeBytes_le _
  have heq := eq_of_append_slash first after name.toList rest hslash
    (List.cons.inj hfirst).2.symm hlength
  rw [← heq]
  exact ⟨hslash, hbytes⟩

/-! ## Requests that are sent -/

namespace Gateway

/-- A request is sent only for the application that its path spells out: the name that is looked up,
and that the policy is chosen for, is literally the first segment. Every lead must start with a segment
for the name, by `LedByApplication`. -/
theorem sent_name_eq_segment (c : Config) (p : Pipeline) (hp : Pipeline.ofConfig c = .ok p)
    (hled : c.routes.LedByApplication) (answerOf : List Sending → Transport Id) (log : List Sending)
    (lookup : Lookup) (fresh : Http.FieldValue) (cache : TendedCache Identity)
    (client : Option IpAddr) (r : Http.Request)
    (hsent : ((serve p lookup (recording answerOf) fresh cache client r).run log).2 ≠ log) :
    ∃ value name ids d,
      Endpoint.ofPath r.target.path = .application name ∧
      Pipeline.Admitted c lookup cache (some name) r value name ids d ∧
      (∀ n ∈ ((serve p lookup (recording answerOf) fresh cache client r).run log).1.1.lookups,
        n = name) ∧
      ∃ rest, r.target.path.toList = '/' :: (name.toList ++ '/' :: rest) ∧ '/' ∉ name.toList := by
  obtain ⟨value, name, ids, d, hendpoint, h⟩ :=
    admitted_of_sent c p answerOf log lookup fresh cache client r hp hsent
  obtain ⟨rest, hpath⟩ := Pipeline.path_of_routed c r name d hled h.route_eq
  refine ⟨value, name, ids, d, hendpoint, h, ?_, rest, hpath, ?_⟩
  · exact lookups_of_admitted c p answerOf log lookup fresh cache (some name) client r hp hendpoint
      value name ids d h
  · exact (name_of_ofPath r.target.path name rest hendpoint hpath).1

/-- An application whose name looks like the start of an escape sends an event. -/
def percentRequest : Http.Request where
  method := "POST"
  target := { path := "/50%/v1/events" }
  headers := ⟨[(clientCertificateField, Text.Utf8.bytes "Subject=\"CN=50%\"")]⟩

/-- `percentRequest` is authorized under the name `50%`, as its path spells it. -/
theorem sent_name_eq_segment_percent :
    ∃ value name ids d,
      Endpoint.ofPath percentRequest.target.path = .application name ∧
      Pipeline.Admitted {} (StaticDirectory.ofClientIds [("50%", none)]).get
        { cache := { ttl := .ofSeconds 60 } } (some name) percentRequest value name ids d ∧
      (∀ n ∈ ((serve defaultPipeline (StaticDirectory.ofClientIds [("50%", none)]).get
        (recording unreachableBackends) [] { cache := { ttl := .ofSeconds 60 } } none
        percentRequest).run []).1.1.lookups, n = name) ∧
      ∃ rest, percentRequest.target.path.toList = '/' :: (name.toList ++ '/' :: rest) ∧
        '/' ∉ name.toList :=
  sent_name_eq_segment {} defaultPipeline ofConfig_default (by decide) unreachableBackends []
    (StaticDirectory.ofClientIds [("50%", none)]).get [] { cache := { ttl := .ofSeconds 60 } } none
    percentRequest (by decide +kernel)

end Gateway

end CertGate
