import Bayeux.Admission

namespace Bayeux

/-!
# Permits

A connection that is let in holds a permit until it ends.  The holder may
give the permit back or just drop it, and either way it is taken back once.
-/

structure Permits where
  admission : Admission
  /-- The browsers of the permits that are held, by the names of the holders. -/
  held : Table String BrowserId := ∅
  metrics : Metrics := ∅
deriving Repr

namespace Permits

/-- Counts a connection without a permit. -/
def acquire (p : Permits) (browser : BrowserId) : Bool × Permits :=
  let (granted, admission) := p.admission.acquire browser
  (granted, { p with admission, metrics := p.metrics.acquired admission.limit granted })

/-- Takes a connection back; returns the fault, if there is one. -/
def release (p : Permits) (browser : BrowserId) : Option Admission.Underflow × Permits :=
  let outcome := p.admission.release browser
  let noted := { p with metrics := p.metrics.released outcome }
  match outcome with
  | .ok admission => (none, { noted with admission })
  | .error fault => (some fault, noted)

/-- Takes the permit of a holder back, if the holder has one. -/
def giveBack (p : Permits) (holder : String) : Option (Option Admission.Underflow) × Permits :=
  match p.held.get? holder with
  | none => (none, p)
  | some browser =>
    let (fault, released) := { p with held := p.held.erase holder }.release browser
    (some fault, released)

/-- Asks for a permit.  One that the holder has already is dropped when the new one
is there; the answer tells whether it was. -/
def issue (p : Permits) (browser : BrowserId) (holder : String) : Option Bool × Permits :=
  let (granted, asked) := p.acquire browser
  if granted then
    let (old, freed) := asked.giveBack holder
    (some old.isSome, { freed with held := freed.held.insert holder browser })
  else (none, asked)

/-- Sweeps; returns the number of browsers evicted. -/
def sweep (p : Permits) (now : Timestamp) : Nat × Permits :=
  let (evicted, admission) := p.admission.sweep now
  (evicted, { p with
    admission
    metrics := p.metrics.swept (p.admission.elapsed? now) evicted })

/-- Takes every permit back. -/
def giveBackAll (p : Permits) : Permits :=
  p.held.keys.foldl (fun p holder => (p.giveBack holder).2) p

end Permits

end Bayeux
