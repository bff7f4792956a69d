import Bayeux.Transport.Basic
import Bayeux.Transport.Exchange

namespace Bayeux

/-!
# Servers

The state of a server, and what each event does to it.  A request is answered at
once, or held until its session is ready, its time is up or its client drops it.
All changes are made by one event at a time; a held request whose session wakes up
is resumed by an event of its own.
-/

/-- A connect that is held back. -/
structure HeldRequest where
  ticket : Nat
  route : Route
  client : ClientId
  /-- Known if the connection is counted. -/
  browser : Option BrowserId
  timeout : Nat
  deadline : Nat
  replies : Batch
  cookies : List Cookie
deriving Repr

/-- A request with a message that is never answered. -/
structure StalledRequest where
  ticket : Nat
  /-- The session on which the request has opened a batch. -/
  batchOn : Option ClientId
deriving Repr

/-- A request that was answered, and when. -/
structure AnsweredRequest where
  ticket : Nat
  time : Nat
  route : Route
  exchange : Exchange
deriving Repr

/-- What is told to whoever observes the transports. -/
inductive Notice where
  | suspended (held : HeldRequest) (connected : Bool)
  | resumed (held : HeldRequest) (connected : Bool)
deriving Repr

namespace Notice

def held : Notice → HeldRequest
  | suspended held _ => held
  | resumed held _ => held

/-- The notice as a line: what happened, the client, the browser if it is known, the
timeout and whether the session was connected. -/
def line (notice : Notice) : String :=
  let (what, connected) := match notice with
    | suspended _ connected => ("suspend", connected)
    | resumed _ connected => ("resume", connected)
  " ".intercalate [what, notice.held.client.text,
    (notice.held.browser.map BrowserId.text).getD "-", toString notice.held.timeout,
    if connected then "true" else "false"]

end Notice

structure Server where
  /-- The path that is served, or a pattern for such paths. -/
  path : String := "/cometd"
  endpoint : EndpointContext := {}
  transports : Table ConnectionType Transport := ∅
  engine : Engine := {}
  held : List HeldRequest := []
  stalled : List StalledRequest := []
  /-- The clock, in milliseconds. -/
  now : Nat := 0
  metrics : Metrics := ∅
  /-- All notices so far, the latest last. -/
  notices : List Notice := []
  /-- All requests answered so far, the latest last. -/
  answered : List AnsweredRequest := []
deriving Repr

/-- A request as it reaches the server. -/
structure Arrival where
  ticket : Nat
  request : Request
  /-- The id that the browser gets if the request does not name one. -/
  freshBrowser : BrowserId
deriving Repr

namespace Server

/-! ## Ending a request -/

def isConnected (s : Server) (client : ClientId) : Bool :=
  (s.engine.known? client).any Session.connected

/-- Puts an answer on record. -/
def conclude (s : Server) (ticket : Nat) (route : Route) (exchange : Exchange) : Server :=
  { s with
    answered := s.answered ++ [{ ticket, time := s.now, route, exchange }]
    metrics := s.metrics.add (.requests exchange.outcome.label route.type.name) 1 }

/-- Takes the whole queue of a session into an exchange. -/
def drain (s : Server) (client : ClientId) (exchange : Exchange) : Exchange × Server :=
  let queue := ((s.engine.known? client).map Session.queue).getD []
  ({ exchange with session := some client, queued := queue },
    { s with engine := s.engine.change client Session.drained })

/-- Gives the counted connection of a held request back. -/
def releaseHold (s : Server) (held : HeldRequest) : Server :=
  match held.browser, s.transports.get? held.route.type with
  | some browser, some t =>
    let admission := t.admission.releaseQuietly browser
    { s with
      transports := s.transports.insert held.route.type { t with admission }
      metrics := s.metrics.released (t.admission.release browser) }
  | _, _ => s

/-- Ends a hold, whatever ended it. -/
def unhold (s : Server) (held : HeldRequest) : Server :=
  let freed := { s with
    held := s.held.filter fun other => other.ticket != held.ticket
    engine := s.engine.change held.client (·.leave held.ticket)
    notices := s.notices ++ [Notice.resumed held (s.isConnected held.client)]
    metrics := s.metrics.add .heldConnections (-1) }
  freed.releaseHold held

/-- Answers a held request with what its session has queued by now. -/
def complete (s : Server) (held : HeldRequest) : Server :=
  let (exchange, drained) := (s.unhold held).drain held.client
    { replies := held.replies, cookies := held.cookies }
  drained.conclude held.ticket held.route exchange

def heldBy? (s : Server) (ticket : Nat) : Option HeldRequest :=
  s.held.find? fun held => held.ticket == ticket

/-! ## Processing a batch -/

/-- Holds a request, unless its session is ready already. -/
def hold (s : Server) (held : HeldRequest) : Server :=
  let waiting := { s with
    held := s.held ++ [held]
    engine := s.engine.change held.client (·.await held.ticket)
    notices := s.notices ++ [Notice.suspended held (s.isConnected held.client)]
    metrics := s.metrics.add .heldConnections 1 }
  if waiting.engine.isWaiting held.client held.ticket then waiting else waiting.complete held

/-- The session on which the replies to a batch are gathered: that of the first
message. -/
def batchOn (s : Server) (o : TransportOptions) (batch : Batch) : Option ClientId :=
  if o.autoBatch then
    (batch.head?.bind Message.clientId).filter fun id => (s.engine.session? id).isSome
  else none

def endBatch (s : Server) (session : Option ClientId) : Server :=
  match session with
  | some id => { s with engine := s.engine.change id Session.endBatch }
  | none => s

/-- Holds or turns away a connect that finds nothing to deliver. -/
def consider (s : Server) (t : Transport) (a : Arrival) (route : Route) (client : ClientId)
    (index : Nat) (exchange : Exchange) : Server :=
  let o := t.options
  let browser := a.request.browser? o.identity
  let (granted, t) := t.grant a.request browser
  let asked := { s with
    transports := s.transports.insert route.type t
    metrics := if browser.isSome then s.metrics.acquired o.limit granted else s.metrics }
  if granted then
    asked.hold
      { ticket := a.ticket, route, client, browser
        timeout := o.timeout
        deadline := s.now + o.timeout
        replies := exchange.replies
        cookies := exchange.cookies }
  else
    let (exchange, drained) := asked.drain client { exchange with
      outcome := .rejected
      replies := exchange.replies.modify index (o.adviseRejected browser.isSome) }
    drained.conclude a.ticket route exchange

/-- Answers a batch, or holds its request.  The queue that is delivered is that of
the session of the last connect, if it is still live. -/
def process (around : Surroundings) (s : Server) (a : Arrival) (route : Route)
    (batch : Batch) : Server :=
  match s.transports.get? route.type with
  | none => s
  | some t =>
    let identity := t.options.identity
    let cookies :=
      if (a.request.browser? identity).isSome then [] else [identity.cookie a.freshBrowser]
    let batchOn := s.batchOn t.options batch
    let opened := match batchOn with
      | some id => s.engine.change id Session.startBatch
      | none => s.engine
    match around.answers? t.options a.request opened batch with
    | (none, engine) =>
      { s with engine, stalled := s.stalled ++ [{ ticket := a.ticket, batchOn }] }
    | (some answers, engine) =>
      let s := { s with engine }.endBatch batchOn
      let exchange : Exchange := { replies := answers.map Answer.reply, cookies }
      let connect := (lastConnect? answers).bind fun (index, wasConnected) =>
        exchange.replies[index]?.bind fun reply =>
          (s.engine.sender? reply).map fun session => (index, wasConnected, reply, session)
      match connect with
      | none => s.conclude a.ticket route exchange
      | some (index, wasConnected, reply, session) =>
        if t.options.mayHold session reply wasConnected then
          s.consider t a route session.id index exchange
        else
          let (exchange, drained) := s.drain session.id exchange
          drained.conclude a.ticket route exchange

/-! ## Other events -/

/-- A held request that was woken looks at its session again: if that is ready the
request is answered, and else it goes on waiting. -/
def resume (s : Server) (held : HeldRequest) : Server :=
  let looked := { s with engine := s.engine.change held.client (·.resume held.ticket) }
  if looked.engine.isWaiting held.client held.ticket then looked else looked.complete held

/-- The client of a request goes away. -/
def drop (s : Server) (ticket : Nat) : Server :=
  let kept := match s.heldBy? ticket with
    | some held => s.unhold held
    | none => s
  match kept.stalled.find? fun stalled => stalled.ticket == ticket with
  | some stalled =>
    { kept with stalled := kept.stalled.filter fun other => other.ticket != ticket }.endBatch
      stalled.batchOn
  | none => kept

def publish (s : Server) (channel : String) (data : Json.Value) : Nat × Server :=
  let (delivered, engine) := s.engine.publish channel data
  (delivered, { s with engine })

/-- Sweeps one transport; returns the number of browsers evicted. -/
def sweepTransport (s : Server) (now : Timestamp) (type : ConnectionType) : Nat × Server :=
  match s.transports.get? type with
  | none => (0, s)
  | some t =>
    let (evicted, admission) := t.admission.sweep now
    (evicted, { s with
      transports := s.transports.insert type { t with admission }
      metrics := s.metrics.swept (t.admission.elapsed? now) evicted })

/-- Sweeps every transport. -/
def sweep (s : Server) (now : Timestamp) : Nat × Server :=
  ConnectionType.all.foldl
    (fun (total, s) type =>
      let (evicted, s) := s.sweepTransport now type
      (total + evicted, s))
    (0, s)

/-- Sets an attribute that all requests see; returns its value before. -/
def setAttribute (s : Server) (name : String) (value : Json.Value) :
    Option Json.Value × Server :=
  let context := s.endpoint
  (context.attributes.get? name,
    { s with endpoint := { context with attributes := context.attributes.insert name value } })

end Server

end Bayeux
