import SchemaSeed.Decimal.Shortest

/-! A clock that is read one time after another, and the time between two readings. -/

namespace SchemaSeed

structure Clock where
  reading : Nat → Float
  taken : Nat := 0

namespace Clock

def still : Clock := ⟨fun _ => 0, 0⟩

/-- Readings at even distances. -/
def regular (first step : Float) : Clock :=
  ⟨fun index => first + Float.ofNat index * step, 0⟩

def read (clock : Clock) : Float × Clock :=
  (clock.reading clock.taken, { clock with taken := clock.taken + 1 })

end Clock

/-- The time that a piece of work took, in seconds. -/
structure Timing where
  started : Float
  ended : Float

namespace Timing

def duration (timing : Timing) : Float :=
  timing.ended - timing.started

def text (timing : Timing) : Text :=
  Decimal.fixed 6 timing.duration ++ " sec"

end Timing

end SchemaSeed
