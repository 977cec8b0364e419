import CertGate.Proofs.LeadSubstitution
import Mathlib.Logic.ExistsUnique

/-!
# The first route that fits

A row of the route table is told by where it leads without the mesh, since no two rows lead to the same
place then. A row fits a path that starts with its lead, the name filled in. The first one that fits
wins, and nothing else is looked at: not the rows behind it, nor what follows its lead in the path. The
mesh has a say only after that, and only over the second row.

## Key results

- `matchesPath_read_iff`: when a row fits
- `find?_all_eq_some_iff`: the first destination in the order of the table
- `exists_wins`: where a row fits, that row or an earlier one wins
- `route_eq_ok_iff`, `route_eq_error_iff`: the row that wins decides
- `firstMatch_ofLeads`: all of it, with longer paths and the mesh
-/

namespace CertGate

/-! ## Rows -/

/-- The lead of a row, as it is written in `leads`. -/
def PathLeads.written (leads : PathLeads) : Destination → String
  | .eventServiceV1 => leads.eventServiceV1
  | .eventServiceV2 => leads.eventServiceV2
  | .eventMesh => leads.eventMesh
  | .appRegistry => leads.appRegistry

/-- The path starts with the row's lead, in which the name takes the place of every `placeholder`. -/
def PathLeads.Fits (leads : PathLeads) (row : Destination) (path application : String) : Prop :=
  ∃ text, PathLead.Replaced (leads.written row).toList application.toList text ∧ text <+: path.toList

/-- The row is the first one that `Fits`, in the order of the table. -/
structure PathLeads.Wins (leads : PathLeads) (row : Destination) (path application : String) :
    Prop where
  fits : leads.Fits row path application
  first : ∀ earlier : Destination, earlier.index < row.index → ¬leads.Fits earlier path application

/-- Where a row leads. Only `eventServiceV2` gives way to the mesh. -/
def Destination.orMesh (row : Destination) (meshEnabled : Bool) : Destination :=
  if row = eventServiceV2 ∧ meshEnabled = true then eventMesh else row

/-- The rule that `RouteTable.ofLeads` makes of a row. -/
def PathLeads.rule (leads : PathLeads) (row : Destination) : RouteRule :=
  ⟨.read (leads.written row), row, row.orMesh true⟩

/-- `RouteTable.ofLeads` has one rule for each row, in the order of `Destination.all`. -/
theorem RouteTable.ofLeads_eq (leads : PathLeads) :
    ofLeads leads = Destination.all.map leads.rule := rfl

/-- The rule of a row leads where `orMesh` says. -/
theorem PathLeads.destination_rule (leads : PathLeads) (row : Destination) (meshEnabled : Bool) :
    (leads.rule row).destination meshEnabled = row.orMesh meshEnabled := by
  cases row <;> cases meshEnabled <;> rfl

/-! ## Order -/

namespace Destination

theorem index_lt (d : Destination) : d.index < all.length := by
  cases d <;> decide

theorem getElem?_all (d : Destination) : all[d.index]? = some d := by
  cases d <;> rfl

theorem index_getElem_all (i : Nat) (h : i < all.length) : all[i].index = i := by
  obtain rfl | rfl | rfl | rfl : i = 0 ∨ i = 1 ∨ i = 2 ∨ i = 3 := by
    have hlength : all.length = 4 := rfl
    omega
  all_goals rfl

theorem mem_all (d : Destination) : d ∈ all := by
  cases d <;> decide

/-- `find?` in the order of the table: the row has the property, and none before it has. -/
theorem find?_all_eq_some_iff (p : Destination → Bool) (row : Destination) :
    all.find? p = some row ↔
      p row = true ∧ ∀ earlier : Destination, earlier.index < row.index → p earlier = false := by
  rw [List.find?_eq_some_iff_getElem]
  constructor
  · rintro ⟨hrow, i, hi, heq, hearlier⟩
    refine ⟨hrow, fun earlier hlt => ?_⟩
    -- the row stands at its index, and the earlier one at a smaller one
    rw [← heq, index_getElem_all] at hlt
    have hhere : all[earlier.index] = earlier := (List.getElem_eq_iff _).2 (getElem?_all earlier)
    have hno := hearlier earlier.index hlt
    rwa [hhere, Bool.not_eq_true'] at hno
  · -- the other way around, what stands at a smaller index is an earlier row
    rintro ⟨hrow, hearlier⟩
    have hhere : all[row.index]? = some row := getElem?_all row
    refine ⟨hrow, row.index, row.index_lt, (List.getElem_eq_iff _).2 hhere, fun i hi => ?_⟩
    rw [Bool.not_eq_true']
    exact hearlier _ (by rwa [index_getElem_all])

end Destination

/-! ## Fitting and winning -/

namespace PathLeads

variable (leads : PathLeads) (path application : String)

/-- `matchesPath` of the rule of a row is `Fits`. -/
theorem matchesPath_read_iff (row : Destination) :
    (leads.rule row).lead.matchesPath path application = true ↔ leads.Fits row path application := by
  simp only [Fits, PathLead.replaced_iff, exists_eq_left]
  exact List.isPrefixOf_iff_prefix

/-- The row that `Wins` is the one that `find?` finds. -/
theorem wins_iff (row : Destination) : leads.Wins row path application ↔
    Destination.all.find? (fun row => (leads.rule row).lead.matchesPath path application) =
      some row := by
  simp only [Destination.find?_all_eq_some_iff, ← Bool.not_eq_true, matchesPath_read_iff]
  exact ⟨fun h => ⟨h.fits, h.first⟩, fun h => ⟨h.1, h.2⟩⟩

/-- Where a row `Fits`, that row or an earlier one `Wins`. -/
theorem exists_wins (row : Destination) (h : leads.Fits row path application) :
    ∃ winner : Destination, winner.index ≤ row.index ∧ leads.Wins winner path application := by
  cases hfind : Destination.all.find?
      (fun row => (leads.rule row).lead.matchesPath path application) with
  | none =>
    have hno := List.find?_eq_none.1 hfind row row.mem_all
    exact absurd ((leads.matchesPath_read_iff path application row).2 h) hno
  | some winner =>
    have hwins := (leads.wins_iff path application winner).2 hfind
    -- a row in front of the winner does not fit
    exact ⟨winner, Nat.le_of_not_lt fun hlt => hwins.first row hlt h, hwins⟩

/-- No two rows win: `Wins` holds of one row at most. -/
theorem Wins.unique {leads : PathLeads} {path application : String} {row row' : Destination}
    (h : leads.Wins row path application) (h' : leads.Wins row' path application) : row = row' := by
  rw [wins_iff] at h h'
  exact Option.some.inj (h.symm.trans h')

/-- What `Fits` a path fits every longer one. -/
theorem Fits.append {leads : PathLeads} {row : Destination} {path application : String}
    (h : leads.Fits row path application) (suffix : String) :
    leads.Fits row (path ++ suffix) application := by
  obtain ⟨text, hreplaced, hleads⟩ := h
  refine ⟨text, hreplaced, ?_⟩
  rw [String.toList_append]
  exact hleads.trans (List.prefix_append _ _)

end PathLeads

/-! ## Routing -/

namespace RouteTable

variable (leads : PathLeads) (path application : String)

/-- The rule that is found is the one of the row that `Wins`. -/
theorem find?_ofLeads :
    (ofLeads leads).find? (·.lead.matchesPath path application) =
      (Destination.all.find? fun row => (leads.rule row).lead.matchesPath path application).map
        leads.rule := by
  rw [ofLeads_eq, List.find?_map]
  rfl

/-- `route` where a row wins. -/
theorem route_of_wins (row : Destination) (h : leads.Wins row path application)
    (meshEnabled : Bool) :
    (ofLeads leads).route path application meshEnabled = .ok (row.orMesh meshEnabled) := by
  rw [PathLeads.wins_iff] at h
  simp only [route, find?_ofLeads, h, Option.map_some, PathLeads.destination_rule]

/-- `route` where no row fits. -/
theorem route_of_not_fits (h : ∀ row, ¬leads.Fits row path application) (meshEnabled : Bool) :
    (ofLeads leads).route path application meshEnabled = .error (.notFound path) := by
  have hnone : Destination.all.find?
      (fun row => (leads.rule row).lead.matchesPath path application) = none := by
    rw [List.find?_eq_none]
    intro row _ hmatches
    exact h row ((leads.matchesPath_read_iff path application row).1 hmatches)
  simp only [route, find?_ofLeads, hnone, Option.map_none]

/-- Either no row `Fits` a path, or one `Wins`. -/
theorem fits_cases : (∀ row, ¬leads.Fits row path application) ∨
    ∃ row, leads.Wins row path application := by
  by_cases h : ∃ row, leads.Fits row path application
  · obtain ⟨row, hfits⟩ := h
    obtain ⟨winner, -, hwins⟩ := leads.exists_wins path application row hfits
    exact Or.inr ⟨winner, hwins⟩
  · exact Or.inl fun row hfits => h ⟨row, hfits⟩

/-- `route` sends a path where the row leads that wins. -/
theorem route_eq_ok_iff (meshEnabled : Bool) (d : Destination) :
    (ofLeads leads).route path application meshEnabled = .ok d ↔
      ∃ row, leads.Wins row path application ∧ d = row.orMesh meshEnabled := by
  obtain hnone | ⟨row, hwins⟩ := fits_cases leads path application
  · rw [route_of_not_fits leads path application hnone]
    exact iff_of_false (fun h => by cases h) fun ⟨row, hwins, _⟩ => hnone row hwins.fits
  · rw [route_of_wins leads path application row hwins]
    constructor
    · intro h
      exact ⟨row, hwins, (Except.ok.inj h).symm⟩
    · rintro ⟨row', hwins', rfl⟩
      rw [hwins.unique hwins']

/-- `route` refuses a path that no row fits, and names it in the error. -/
theorem route_eq_error_iff (meshEnabled : Bool) (e : RouteError) :
    (ofLeads leads).route path application meshEnabled = .error e ↔
      (∀ row, ¬leads.Fits row path application) ∧ e = .notFound path := by
  obtain hnone | ⟨row, hwins⟩ := fits_cases leads path application
  · rw [route_of_not_fits leads path application hnone]
    constructor
    · intro h
      exact ⟨hnone, (Except.error.inj h).symm⟩
    · rintro ⟨-, rfl⟩
      rfl
  · rw [route_of_wins leads path application row hwins]
    exact iff_of_false (fun h => by cases h) fun h => h.1 row hwins.fits

/-- `orMesh` makes a difference to the second row only. -/
theorem orMesh_ne_iff (row : Destination) :
    row.orMesh true ≠ row.orMesh false ↔ row = .eventServiceV2 := by
  cases row <;> decide

end RouteTable

/-- How a table of `leads` routes a path for an application. -/
structure FirstMatch (leads : PathLeads) (path application : String) : Prop where
  /-- For every row it is determined what its lead becomes with the name in it. -/
  replaced : ∀ row, ∃! text,
    PathLead.Replaced (leads.written row).toList application.toList text
  /-- A path is sent where the first row leads that fits. -/
  routed : ∀ meshEnabled d, (RouteTable.ofLeads leads).route path application meshEnabled = .ok d ↔
    ∃ row, leads.Wins row path application ∧ d = row.orMesh meshEnabled
  /-- A path is refused exactly if no row fits, with an error that carries it. -/
  refused : ∀ meshEnabled e,
    (RouteTable.ofLeads leads).route path application meshEnabled = .error e ↔
      (∀ row, ¬leads.Fits row path application) ∧ e = .notFound path
  /-- A longer path is sent by the same row, or by an earlier one. -/
  extended : ∀ suffix row, leads.Wins row path application →
    ∃ winner : Destination, winner.index ≤ row.index ∧
      leads.Wins winner (path ++ suffix) application
  /-- The mesh makes a difference exactly if the second row wins. -/
  meshed : (RouteTable.ofLeads leads).route path application true ≠
    (RouteTable.ofLeads leads).route path application false ↔
      leads.Wins .eventServiceV2 path application

/-- `RouteTable.ofLeads` routes by the `FirstMatch`, whatever the leads, the path and the name. -/
theorem firstMatch_ofLeads (leads : PathLeads) (path application : String) :
    FirstMatch leads path application := by
  constructor
  case replaced =>
    intro row
    simp only [PathLead.replaced_iff]
    exact ⟨_, rfl, fun _ h => h⟩
  case routed => exact RouteTable.route_eq_ok_iff leads path application
  case refused => exact RouteTable.route_eq_error_iff leads path application
  case extended =>
    intro suffix row hwins
    exact leads.exists_wins (path ++ suffix) application row (hwins.fits.append suffix)
  case meshed =>
    obtain hnone | ⟨row, hwins⟩ := RouteTable.fits_cases leads path application
    · -- no row fits, with the mesh or without
      rw [RouteTable.route_of_not_fits leads path application hnone,
        RouteTable.route_of_not_fits leads path application hnone]
      exact iff_of_false (fun h => h rfl) fun h => hnone _ h.fits
    · -- the row that wins does so with the mesh and without
      rw [RouteTable.route_of_wins leads path application row hwins,
        RouteTable.route_of_wins leads path application row hwins, ne_eq, Except.ok.injEq, ← ne_eq,
        RouteTable.orMesh_ne_iff]
      constructor
      · rintro rfl
        exact hwins
      · intro hsecond
        exact hwins.unique hsecond

-- the lead of the first row starts that of the second one, and hides it
example : (RouteTable.ofLeads
    { eventServiceV1 := "/a/events", eventServiceV2 := "/a/events/v2" }).route "/a/events/v2" "a" true =
      .ok .eventServiceV1 := rfl

end CertGate
