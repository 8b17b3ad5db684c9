import JobWatch.Time.Timestamp

/-!
# Virtual time

A simulation has a clock of its own: the milliseconds since it began, which only move forward,
and a wall clock that follows them and can be set.
-/

set_option autoImplicit false

namespace JobWatch.Simulation

/-- The clock of a simulation: the time since it began, and by how much the wall clock was set,
both in milliseconds. -/
structure Clock where
  elapsed : Nat
  skew : Int
  deriving DecidableEq, Repr

namespace Clock

def initial : Clock := ⟨0, 0⟩

/-- What the wall clock shows at the beginning, in milliseconds since 1970: the first moment of
the year 2024. -/
def epoch : Int := 1704067200000

def wallAt (skew : Int) (time : Nat) : Timestamp := .ofMillis (epoch + time + skew)

def wall (clock : Clock) : Timestamp := wallAt clock.skew clock.elapsed

def advance (clock : Clock) (millis : Nat) : Clock :=
  { clock with elapsed := clock.elapsed + millis }

def adjust (clock : Clock) (millis : Int) : Clock := { clock with skew := clock.skew + millis }

end Clock

end JobWatch.Simulation
