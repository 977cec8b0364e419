import CertGate.Proofs.FieldElements

/-!
# Fields that a header lists for removal

`Connection` names fields that are meant for one hop, in any number of values. A value is honoured
element by element, so what is no name does not keep others from being dropped. But a value of which a
single byte cannot be seen is not read at all. So all listed fields are dropped exactly if such a value
lists none that is not dropped anyway.

## Key results

- `stripHopByHop_eq_self_iff`: the headers that nothing is taken off
- `stripHopByHop_stripHopByHop`: what was stripped is one of them
- `honours_stripHopByHop_iff`: when all fields that are listed are dropped
- `stripsListed_stripHopByHop`: what stripping a header comes to
-/

namespace CertGate.Http.Headers

/-! ## Stripping twice -/

/-- `stripHopByHop` takes nothing off a header exactly if no field of it `IsHopByHop`. -/
theorem stripHopByHop_eq_self_iff (h : Headers) :
    h.stripHopByHop = h ↔ ∀ n, h.IsHopByHop n → h.values n = [] := by
  constructor
  · intro hself n hn
    rw [← hself]
    exact h.values_stripHopByHop_of_isHopByHop n hn
  · intro hnil
    exact h.eraseAll_of_values_eq_nil _ fun n hn => hnil n ((h.mem_names_stripHopByHop n).1 hn)

/-- `stripHopByHop` is idempotent: a stripped header lists nothing any more. -/
theorem stripHopByHop_stripHopByHop (h : Headers) :
    h.stripHopByHop.stripHopByHop = h.stripHopByHop := by
  have hconnection : h.stripHopByHop.values "connection" = [] :=
    h.values_stripHopByHop_of_isHopByHop _ (Or.inl (by decide))
  -- what is left has no value that could list a name, so only the fixed names are for one hop
  rw [stripHopByHop_eq_self_iff]
  rintro n (hfixed | ⟨v, hv, -⟩)
  · exact h.values_stripHopByHop_of_isHopByHop n (Or.inl hfixed)
  · rw [hconnection] at hv
    cases hv

/-! ## Honouring what is listed -/

/-- No field of `after` has a name that some `Connection` value of `before` announces. -/
def Honours (before after : Headers) : Prop :=
  ∀ field ∈ after.fields, ∀ v ∈ before.values "connection", ¬Announces v field.1

/-- A `Connection` value that cannot be read lists no field of the header but those that are for one
hop anyway, always or because another value lists them. -/
def Unshielded (h : Headers) : Prop :=
  ∀ v ∈ h.values "connection", ¬IsVisible v → ∀ field ∈ h.fields, Announces v field.1 →
    h.IsHopByHop field.1

/-- What a visible value announces `IsHopByHop`. -/
theorem isHopByHop_of_announces (h : Headers) (v : FieldValue) (hv : v ∈ h.values "connection")
    (hvisible : IsVisible v) (name : String) (hname : Announces v name) : h.IsHopByHop name :=
  Or.inr ⟨v, hv, (lists_iff v name).2 ⟨hvisible, hname⟩⟩

/-- `stripHopByHop` honours all that is listed exactly if no value shields a field. -/
theorem honours_stripHopByHop_iff (h : Headers) : Honours h h.stripHopByHop ↔ h.Unshielded := by
  constructor
  · -- a shielded field would be left
    intro hhonours v hv _ field hfield hname
    refine Classical.byContradiction fun hhop => ?_
    exact hhonours field ((h.mem_stripHopByHop_iff field).2 ⟨hfield, hhop⟩) v hv hname
  · intro hunshielded field hfield v hv hname
    obtain ⟨hmem, hhop⟩ := (h.mem_stripHopByHop_iff field).1 hfield
    -- only a value that cannot be seen could have kept the field
    by_cases hvisible : IsVisible v
    · exact hhop (h.isHopByHop_of_announces v hv hvisible _ hname)
    · exact hhop (hunshielded v hv hvisible field hmem hname)

/-- What stripping `before` does with the fields that it lists. -/
structure StripsListed (before after : Headers) : Prop where
  /-- What a value lists that can be seen is dropped, whatever else it lists. -/
  seen : ∀ v ∈ before.values "connection", IsVisible v → ∀ n, Announces v n → after.values n = []
  /-- What any value lists is dropped exactly if none that cannot be seen shields a field. -/
  honours_iff : Honours before after ↔ before.Unshielded
  /-- Stripping again changes nothing. -/
  again : after.stripHopByHop = after

/-- What `stripHopByHop` leaves is stripped of the fields that the header lists, those apart that only
an unreadable value lists. -/
theorem stripsListed_stripHopByHop (h : Headers) : StripsListed h h.stripHopByHop where
  seen v hv hvisible n hn :=
    h.values_stripHopByHop_of_isHopByHop n (h.isHopByHop_of_announces v hv hvisible n hn)
  honours_iff := h.honours_stripHopByHop_iff
  again := h.stripHopByHop_stripHopByHop

/-- One byte that is not visible shields a field that is listed in front of it. -/
theorem stripHopByHop_keeps_shielded :
    let h : Headers := ⟨[("connection", Text.Utf8.bytes "X-Private, " ++ [0xFF]),
      ("x-private", Text.Utf8.bytes "secret")]⟩
    h.stripHopByHop.fields = [("x-private", Text.Utf8.bytes "secret")] ∧
      ¬Honours h h.stripHopByHop := by
  have hkept : ("x-private", Text.Utf8.bytes "secret") ∈ (stripHopByHop
      ⟨[("connection", Text.Utf8.bytes "X-Private, " ++ [0xFF]),
        ("x-private", Text.Utf8.bytes "secret")]⟩).fields := by decide +kernel
  refine ⟨by decide +kernel, fun hhonours => ?_⟩
  refine hhonours _ hkept (Text.Utf8.bytes "X-Private, " ++ [0xFF]) (by decide +kernel) ?_
  exact ⟨Text.Utf8.bytes "X-Private", by decide +kernel, by decide +kernel⟩

end CertGate.Http.Headers
