import Bayeux.Message.Basic

namespace Bayeux

/-!
# Sessions

A session queues what is published for its client until a request takes the queue.
Tasks may wait for it to become ready: to have something in its queue, or to be
disconnected.  A wake-up marks the tasks that are waiting and is not kept for later
ones; a marked task looks again, and either leaves or goes back to sleep without its
mark.
-/

/-- A task that waits for a session to become ready. -/
structure Waiter where
  ticket : Nat
  /-- Whether a wake-up has reached the task since it last went to sleep. -/
  woken : Bool := false
deriving DecidableEq, Repr

structure Session where
  id : ClientId
  queue : Batch := []
  /-- Whether the client has connected since its handshake and not left. -/
  connected : Bool := false
  disconnected : Bool := false
  /-- How many batches are open.  While one is, nobody is woken by a delivery.  The number has no
  bound: a counter of 64 bits would be back at zero after `2 ^ 64` batches that nobody closed. -/
  batchDepth : Nat := 0
  waiters : List Waiter := []
deriving Repr

namespace Session

def ready (s : Session) : Bool :=
  s.disconnected || !s.queue.isEmpty

def wake (s : Session) : Session :=
  { s with waiters := s.waiters.map fun w => { w with woken := true } }

/-! ## Changes -/

def deliver (s : Session) (m : Message) : Session :=
  let fuller := { s with queue := s.queue ++ [m] }
  if s.batchDepth = 0 then fuller.wake else fuller

def connect (s : Session) : Session :=
  { s with connected := true }

/-- Ends the session for good and wakes everyone. -/
def disconnect (s : Session) : Session :=
  { s with connected := false, disconnected := true }.wake

/-- Empties the queue. -/
def drained (s : Session) : Session :=
  { s with queue := [] }

def startBatch (s : Session) : Session :=
  { s with batchDepth := s.batchDepth + 1 }

/-- Closes a batch; closing the last open one wakes everyone.  Without an open
batch there is nothing to close. -/
def endBatch (s : Session) : Session :=
  match s.batchDepth with
  | 0 => s
  | 1 => { s with batchDepth := 0 }.wake
  | depth + 2 => { s with batchDepth := depth + 1 }

/-! ## Waiting -/

/-- A task arrives: it goes to sleep unless the session is ready. -/
def await (s : Session) (ticket : Nat) : Session :=
  if s.ready then s else { s with waiters := s.waiters ++ [{ ticket }] }

def leave (s : Session) (ticket : Nat) : Session :=
  { s with waiters := s.waiters.filter fun w => w.ticket != ticket }

/-- A woken task looks again: it leaves if the session is ready, and else goes
back to sleep. -/
def resume (s : Session) (ticket : Nat) : Session :=
  if s.ready then s.leave ticket
  else
    { s with waiters := s.waiters.map fun w => if w.ticket = ticket then { ticket } else w }

def isWaiting (s : Session) (ticket : Nat) : Bool :=
  s.waiters.any fun w => w.ticket == ticket

/-- The tasks that a wake-up has reached, in the order of their arrival. -/
def woken (s : Session) : List Nat :=
  (s.waiters.filter Waiter.woken).map Waiter.ticket

end Session

end Bayeux
