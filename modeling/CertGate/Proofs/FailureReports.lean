import CertGate.Error.Response
import CertGate.Proofs.JsonRoundTrip

/-!
# How failures are reported

The answer to a failed request says what kind of failure it is, and its text, whatever is quoted in this
text: paths and names that callers chose, what a server answered, what a library says. Nothing of it can
end the string that it stands in, so the body is always one object of one shape.

## Key results

- `ErrorKind.name_injective`: a kind is known by its name
- `GateError.canonical_toJson`: what is reported can be read back
- `GateError.reports_response`: how every failure is reported
-/

namespace CertGate

/-- `ErrorKind.name` tells kinds apart. -/
theorem ErrorKind.name_injective {k k' : ErrorKind} (h : k.name = k'.name) : k = k' := by
  cases k <;> cases k' <;> first | rfl | exact absurd h (by decide)

/-- The body of `Response.json` is the text, in UTF-8. -/
theorem Http.Response.body_json (status : Nat) (text : String) :
    (Http.Response.json status text).body = Text.Utf8.bytes text := rfl

namespace GateError

theorem response_eq (e : GateError) : e.response = .json e.kind.status e.toJson.render := rfl

/-- `e.Reports answer`: the answer says which failure `e` is, and nothing else. -/
structure Reports (e : GateError) (answer : Http.Response) : Prop where
  /-- Its status is that of the kind of the failure. -/
  status : answer.status = e.kind.status
  /-- Its body is a JSON text. -/
  written : ∃ d : Json.Draft, d.Spells answer.body
  /-- The text gives the kind and the text of the failure, and nothing else. -/
  parsed : Json.parse answer.body =
    .ok (.object [("error", .object [("kind", .text e.kind.name), ("message", .text e.message)])])
  /-- The text of a failed lookup holds all of what went wrong with it. -/
  nested : ∀ application source, e = .identity application source →
    e.message = "failed to resolve identity for application " ++ application ++ ": " ++ source.message
  /-- No failure of another kind or with another text has this body. -/
  distinct : ∀ e' : GateError, e'.response.body = answer.body → e'.kind = e.kind ∧ e'.message = e.message

/-- `toJson` of a failure is `Canonical`: there are no numbers in it. -/
theorem canonical_toJson (e : GateError) : e.toJson.Canonical := by
  have hparts : ∀ m ∈ [("kind", Json.text e.kind.name), ("message", .text e.message)],
      m.2.Canonical := by
    simp only [List.forall_mem_cons]
    exact ⟨.text _, .text _, List.forall_mem_nil _⟩
  exact .object _ (List.forall_mem_singleton.2 (.object _ hparts))

/-- `toJson` tells failures of different kinds or with different texts apart. -/
theorem eq_of_toJson_eq (e e' : GateError) (h : e.toJson = e'.toJson) :
    e.kind = e'.kind ∧ e.message = e'.message := by
  simp only [toJson, Json.object.injEq, List.cons.injEq, Prod.mk.injEq, Json.text.injEq, true_and,
    and_true] at h
  exact ⟨ErrorKind.name_injective h.1, h.2⟩

/-- The body of a `response` is `toJson`, written out. -/
theorem body_response (e : GateError) : e.response.body = Text.Utf8.bytes e.toJson.render := by
  rw [response_eq, Http.Response.body_json]

/-- The text of a failed lookup is that of its `source`, behind the application. -/
theorem message_identity (application : String) (source : DirectoryError) :
    (identity application source).message =
      "failed to resolve identity for application " ++ application ++ ": " ++ source.message := by
  dsimp only [message, toString]

/-- The `response` to a failure `Reports` it. -/
theorem reports_response (e : GateError) : e.Reports e.response where
  status := rfl
  written := by
    obtain ⟨d, hd, -⟩ := Json.exists_spells_render e.toJson e.canonical_toJson
    rw [body_response]
    exact ⟨d, hd⟩
  parsed := by
    -- what `render` wrote, `parse` reads back
    rw [body_response, Json.parse_render e.toJson e.canonical_toJson, toJson]
  nested := by
    rintro application source rfl
    exact message_identity application source
  distinct e' h := by
    rw [body_response, body_response] at h
    exact eq_of_toJson_eq e' e (Json.render_injective _ _ e'.canonical_toJson e.canonical_toJson h)

end GateError

end CertGate
