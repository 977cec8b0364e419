import CertGate.Text.Digits

/-!
# Durations

A duration is a number of nanoseconds. Its text is a whole number of one unit: `250ms`, `30s`,
`5m`, `2h`, or seconds when no unit is given. Only seconds and milliseconds are written.

Minutes and hours that do not fit wrap around, as they do in an optimized build. In a build with overflow
checks `Unit.times` would panic there.
-/

namespace CertGate

/-- A span of time, in whole nanoseconds. -/
structure Duration where
  nanos : Nat
  deriving DecidableEq, Repr, Inhabited

namespace Duration

def zero : Duration := ⟨0⟩

def ofMillis (n : Nat) : Duration := ⟨n * 1000000⟩

def ofSeconds (n : Nat) : Duration := ⟨n * 1000000000⟩

/-- The whole seconds of a duration. -/
def seconds (d : Duration) : Nat := d.nanos / 1000000000

/-- The nanoseconds of a duration beyond its whole `seconds`. -/
def subsecNanos (d : Duration) : Nat := d.nanos % 1000000000

/-- The whole milliseconds of a duration. -/
def millis (d : Duration) : Nat := d.nanos / 1000000

/-- The units that a written duration may end in. -/
inductive Unit where
  | milliseconds
  | seconds
  | minutes
  | hours
  deriving DecidableEq, Repr

/-- The bound that the number in a written duration stays below: 2^64. -/
def bound : Nat := 0x10000000000000000

/-- The duration of `n` units. Minutes and hours are counted in seconds of 64 bits, which wrap around. -/
def Unit.times : Unit → Nat → Duration
  | .milliseconds, n => ofMillis n
  | .seconds, n => ofSeconds n
  | .minutes, n => ofSeconds (n * 60 % bound)
  | .hours, n => ofSeconds (n * 3600 % bound)

/-- Splits the unit off the end of a written duration. The text comes reversed, so that `ms` is seen
before `s` and `m`. -/
def splitUnit : List Char → List Char × Unit
  | 's' :: 'm' :: cs => (cs.reverse, .milliseconds)
  | 's' :: cs => (cs.reverse, .seconds)
  | 'm' :: cs => (cs.reverse, .minutes)
  | 'h' :: cs => (cs.reverse, .hours)
  | cs => (cs.reverse, .seconds)

/-- Reads a written duration: a number below `bound` and a unit. -/
def parse (s : String) : Except Text.NumberError Duration := do
  let (number, unit) := splitUnit s.toList.reverse
  return unit.times (← Text.readNat bound number)

/-- Writes a duration: in seconds when it is a whole number of them, else in `millis`, rounded down. -/
def render (d : Duration) : String :=
  if d.subsecNanos = 0 then s!"{d.seconds}s" else s!"{d.millis}ms"

end Duration

end CertGate
