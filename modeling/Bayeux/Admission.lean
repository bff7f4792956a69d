import Bayeux.Browser
import Bayeux.Metrics
import Bayeux.SessionLimit
import Bayeux.Timestamp

namespace Bayeux

/-!
# Admission

A table counts the connections that each browser holds and decides whether one more may
be let in.  A counter that falls to zero is kept for a while, because the browser
usually comes back; it is registered for sweeping, and every sweep strikes it once
until it is evicted.
-/

structure Admission where
  limit : SessionLimit
  /-- The longest pause of a well-behaved client, in milliseconds. -/
  maxInterval : Nat
  counts : Table BrowserId Nat := ∅
  /-- The strikes of each registered browser, a number of 32 bits. -/
  strikes : Table BrowserId Nat := ∅
  /-- The time of the last sweep; zero until the first one. -/
  lastSweep : Timestamp := ⟨0⟩
deriving Repr

namespace Admission

def count? (a : Admission) (browser : BrowserId) : Option Nat :=
  a.counts.get? browser

/-- Whether the browser is registered for sweeping. -/
def isSweeping (a : Admission) (browser : BrowserId) : Bool :=
  a.strikes.contains browser

/-- The number of browsers with a counter. -/
def size (a : Admission) : Nat :=
  a.counts.size

/-! ## Acquiring and releasing -/

/-- Registers a browser with no strikes. -/
def register (a : Admission) (browser : BrowserId) : Admission :=
  { a with strikes := a.strikes.insert browser 0 }

/-- Counts one more connection of a browser, if the limit allows it.  Without a
numeric limit nothing is counted. -/
def acquire (a : Admission) (browser : BrowserId) : Bool × Admission :=
  match a.limit with
  | .unlimited => (true, a)
  | .deny => (false, a)
  | .atMost max =>
    let held := a.counts.getD browser 0
    let strikes := if held = 0 then a.strikes.erase browser else a.strikes
    if held + 1 ≤ max then
      (true, { a with counts := a.counts.insert browser (held + 1), strikes })
    else
      let refused := { a with counts := a.counts.insert browser held, strikes }
      (false, if held = 0 then refused.register browser else refused)

/-- A release without a matching acquisition. -/
structure Underflow where
  browser : BrowserId
deriving DecidableEq, Repr

def Underflow.message (fault : Underflow) : String :=
  "admission counter underflow for browser " ++ fault.browser.text

/-- Takes back one connection.  A browser without a counter is ignored, and a
counter at zero stays there. -/
def release (a : Admission) (browser : BrowserId) : Except Underflow Admission :=
  match a.counts.get? browser with
  | none => .ok a
  | some 0 => .error ⟨browser⟩
  | some (held + 1) =>
    let lowered := { a with counts := a.counts.insert browser held }
    .ok (if held = 0 then lowered.register browser else lowered)

/-- Takes back one connection and disregards a fault. -/
def releaseQuietly (a : Admission) (browser : BrowserId) : Admission :=
  match a.release browser with
  | .ok released => released
  | .error _ => a

/-! ## Sweeping -/

/-- The time since the last sweep; `none` before the first sweep and when the
clock has not advanced. -/
def elapsed? (a : Admission) (now : Timestamp) : Option Nat :=
  let distance := now.since a.lastSweep
  if a.lastSweep.millis = 0 ∨ distance ≤ 0 then none else some distance.toNat

/-- The strikes that a browser survives: as many sweeps as fit into twice the
longest pause. -/
def threshold (a : Admission) (elapsed : Nat) : Nat :=
  min (2 * min a.maxInterval (UInt64.size - 1)) (UInt64.size - 1) / elapsed

/-- Strikes after one more, which do not exceed 32 bits. -/
def struck (strikes : Nat) : Nat :=
  min (strikes + 1) (UInt32.size - 1)

/-- Strikes every registered browser once and evicts those that exceed the
threshold; returns the number of counters removed. -/
def sweepAfter (a : Admission) (elapsed : Nat) : Nat × Admission :=
  let expired (entry : BrowserId × Nat) : Bool := a.threshold elapsed < struck entry.2
  let leaving := (a.strikes.entries.filter expired).map (·.1)
  let kept := a.strikes.entries.filter fun entry => !expired entry
  let evicted := leaving.filter fun browser => a.counts.get? browser == some 0
  (evicted.length,
    { a with
      counts := ⟨a.counts.entries.filter fun entry => !evicted.contains entry.1⟩
      strikes := ⟨kept.map fun entry => (entry.1, (entry.2 + 1) % UInt32.size)⟩ })

/-- Sweeps at a time; the first sweep only records it. -/
def sweep (a : Admission) (now : Timestamp) : Nat × Admission :=
  match a.elapsed? now with
  | none => (0, { a with lastSweep := now })
  | some elapsed => { a with lastSweep := now }.sweepAfter elapsed

end Admission

/-! ## What is recorded -/

namespace Metrics

/-- Records the outcome of an acquisition; without a numeric limit there is
nothing to record. -/
def acquired (metrics : Metrics) (limit : SessionLimit) (granted : Bool) : Metrics :=
  match limit with
  | .atMost _ => metrics.add (if granted then .admissionsGranted else .admissionsRejected) 1
  | _ => metrics

def released {α : Type} (metrics : Metrics) (outcome : Except Admission.Underflow α) :
    Metrics :=
  match outcome with
  | .ok _ => metrics
  | .error _ => metrics.add .admissionUnderflows 1

/-- Records a sweep; one that only took the time is not counted. -/
def swept (metrics : Metrics) (elapsed : Option Nat) (evicted : Nat) : Metrics :=
  match elapsed with
  | some _ => (metrics.add .sweeps 1).add .browsersSwept evicted
  | none => metrics

end Metrics

end Bayeux
