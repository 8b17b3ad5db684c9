/-!
# The cadence of polls

A poll loop has a period. Its first tick is due when the loop first runs. A tick taken on time
is followed by the next one a period after it was due; a tick taken late is followed by the next
one a period after it was taken. Five milliseconds still count as on time.
-/

set_option autoImplicit false

namespace JobWatch.Cadence

/-- How late a tick may be taken and still count as on time, in milliseconds. -/
def tolerance : Nat := 5

/-- When the next tick is due, after a tick that was due at one time and taken at another. -/
def next (period due taken : Nat) : Nat :=
  if taken ≤ due + tolerance then due + period else taken + period

theorem next_le_taken_add_period (period due taken : Nat) (arrived : due ≤ taken) :
    next period due taken ≤ taken + period := by
  unfold next
  split <;> omega

end JobWatch.Cadence
