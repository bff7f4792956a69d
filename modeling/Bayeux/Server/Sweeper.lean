namespace Bayeux

/-!
# The sweeper

A task that sweeps at time zero and then once in every period, until it is stopped.
-/

structure Sweeper where
  /-- In milliseconds. -/
  period : Nat
  /-- The time of the next sweep. -/
  next : Nat := 0
  stopped : Bool := false
deriving DecidableEq, Repr

namespace Sweeper

/-- A period is no shorter than one millisecond. -/
def ofPeriod (period : Nat) : Sweeper :=
  { period := max period 1 }

def stop (s : Sweeper) : Sweeper :=
  { s with stopped := true }

/-- How many sweeps are due up to a time. -/
def due (s : Sweeper) (time : Nat) : Nat :=
  if s.stopped ∨ time < s.next then 0 else (time - s.next) / s.period + 1

/-- Makes the sweeps that are due up to a time. -/
def runTo (s : Sweeper) (time : Nat) : Nat × Sweeper :=
  (s.due time, { s with next := s.next + s.due time * s.period })

end Sweeper

end Bayeux
