import Bayeux.Server.Basic

namespace Bayeux

/-!
# The schedule

Every task runs until it waits, and only then does the clock move,
from one deadline to the next.
-/

namespace Server

/-- Lets every request that was woken look at its session. -/
def settle (s : Server) : Server :=
  s.engine.woken.foldl
    (fun s waiting =>
      match s.heldBy? waiting.2 with
      | some held => s.resume held
      | none => s)
    s

/-- Answers every held request whose time is up. -/
def expire (s : Server) : Server :=
  (s.held.filter fun held => held.deadline ≤ s.now).foldl complete s

/-- The deadlines up to a time, in order. -/
def deadlines (s : Server) (time : Nat) : List Nat :=
  ((s.held.map HeldRequest.deadline).filter (· ≤ time)).mergeSort

/-- Moves the clock to a time, if it is later; on the way every deadline is met. -/
def advanceTo (s : Server) (time : Nat) : Server :=
  let met := (s.deadlines time).foldl
    (fun s deadline => { s with now := max s.now deadline }.expire.settle) s
  { met with now := max met.now time }

/-- Lets some milliseconds pass. -/
def advance (s : Server) (span : Nat) : Server :=
  s.advanceTo (s.now + span)

/-- Whether a request is held or stalled. -/
def isPending (s : Server) (ticket : Nat) : Bool :=
  (s.heldBy? ticket).isSome || s.stalled.any fun stalled => stalled.ticket == ticket

/-- Lets time pass until a request is answered; one that is still pending after
`patience` milliseconds is dropped. -/
def awaitAnswer (s : Server) (ticket : Nat) (patience : Nat) : Server :=
  let latest := s.now + patience
  match s.heldBy? ticket with
  | some held =>
    if held.deadline ≤ latest then s.advanceTo held.deadline
    else ((s.advanceTo latest).drop ticket).settle
  | none => if s.isPending ticket then ((s.advanceTo latest).drop ticket).settle else s

end Server

end Bayeux
