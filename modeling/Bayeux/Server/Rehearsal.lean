import Bayeux.Server.Endpoint
import Bayeux.Server.Schedule

namespace Bayeux

/-!
# Rehearsals

A server runs on a clock of its own, which moves only when every task
waits.  Requests are handed in one by one; those that have a name are left to
themselves, and the others are waited for.
-/

/-- How a request came to its end. -/
inductive Ending where
  | replied (time : Nat) (reply : Reply)
  /-- Without the endpoint, what was exchanged is the answer. -/
  | exchanged (time : Nat) (exchange : Exchange)
  | malformed (fault : Json.Fault)
  /-- It was given up after a very long time. -/
  | hung

structure Rehearsal where
  around : Surroundings
  server : Server
  /-- Whether requests go to the transport itself, and not through the endpoint. -/
  isBare : Bool := false
  /-- The named requests that have not come to an end, with their tickets. -/
  running : List (String × Nat) := []
  /-- The named requests that ended as soon as they were handed in. -/
  ended : List (String × Ending) := []
  tickets : Nat := 0
  /-- How many notices have been given out. -/
  noticed : Nat := 0

namespace Rehearsal

/-- How long an answer is waited for, in milliseconds. -/
def patience : Nat := 400000000000

/-- Changes the server. -/
def onServer (r : Rehearsal) {α : Type} (act : Server → α × Server) : α × Rehearsal :=
  let (result, server) := act r.server
  (result, { r with server })

/-- How an answered request ended. -/
def ending? (r : Rehearsal) (ticket : Nat) : Option Ending :=
  (r.server.answered.find? fun a => a.ticket == ticket).map fun a =>
    if r.isBare then .exchanged a.time a.exchange else .replied a.time (r.server.replyTo a)

/-- Hands a request in; the ending is that of a request that is refused. -/
def submit (r : Rehearsal) (request : Request) (fresh : BrowserId) :
    Option Ending × Rehearsal :=
  let arrival : Arrival := { ticket := r.tickets, request, freshBrowser := fresh }
  let r := { r with tickets := r.tickets + 1 }
  if r.isBare then
    let route : Route := { type := .longPolling }
    let text := String.ofList (Text.Utf8.decodeLossy request.body)
    match r.server.decode route [text] with
    | .error fault => (some (.malformed fault), { r with server := r.server.noteMalformed })
    | .ok batch => (none, { r with server := r.server.process r.around arrival route batch })
  else
    let (reply, server) := r.server.receive r.around arrival
    (reply.map (.replied server.now), { r with server })

/-- Hands a request in and waits for its end. -/
def ask (r : Rehearsal) (request : Request) (fresh : BrowserId) : Ending × Rehearsal :=
  let ticket := r.tickets
  match r.submit request fresh with
  | (some ending, r) => (ending, r)
  | (none, r) =>
    let waited := { r with server := r.server.settle.awaitAnswer ticket patience }
    ((waited.ending? ticket).getD .hung, waited)

/-- Hands a request in under a name. -/
def begin (r : Rehearsal) (name : String) (request : Request) (fresh : BrowserId) :
    Rehearsal :=
  let ticket := r.tickets
  match r.submit request fresh with
  | (some ending, r) => { r with ended := r.ended ++ [(name, ending)] }
  | (none, r) => { r with running := r.running ++ [(name, ticket)] }

/-- Drops a named request; returns whether it was still running. -/
def abort (r : Rehearsal) (name : String) : Bool × Rehearsal :=
  match r.running.find? fun task => task.1 == name with
  | none => (false, r)
  | some (_, ticket) =>
    (true, { r with
      server := r.server.drop ticket
      running := r.running.filter fun task => task.1 != name })

/-- Lets all tasks run, and gives out which named requests have ended since the last
time and what was noticed, by client. -/
def settle (r : Rehearsal) : List (String × Ending) × List Notice × Rehearsal :=
  let r := { r with server := r.server.settle }
  let ended := r.running.filterMap fun task =>
    (r.ending? task.2).map fun ending => (task.1, ending)
  let notices := (r.server.notices.drop r.noticed).mergeSort fun a b =>
    !(b.held.client.text < a.held.client.text)
  (r.ended ++ ended, notices, { r with
    running := r.running.filter fun task => (r.ending? task.2).isNone
    ended := []
    noticed := r.server.notices.length })

end Rehearsal

end Bayeux
