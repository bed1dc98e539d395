/-!
# The simulated clock

Times are in milliseconds since the start. A timer goes off when its time has passed, but none runs
longer than thirty years.
-/

namespace PolicySync.Simulation

/-- The longest time that a timer runs: thirty years of 365 days. -/
def longestTimer : Nat := 30 * 365 * 24 * 60 * 60 * 1000

/-- When a timer goes off that is set at a time for a while. -/
def alarm (now wait : Nat) : Nat := now + min wait longestTimer

end PolicySync.Simulation
