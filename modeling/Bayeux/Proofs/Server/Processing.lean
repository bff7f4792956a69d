import Bayeux.Proofs.Server.Run

namespace Bayeux

/-!
# What becomes of a batch

Processing a batch has few outcomes: its connection type is not served, it is never
answered, it is answered at once, or its connect is considered for a hold.  The
inductive `Processed` has one constructor for each, with all that is known there, so
that what is true of every outcome is proved by cases.
-/

namespace Server

/-- The engine when the messages of a batch begin to be answered. -/
def opened (s : Server) (t : Transport) (batch : Batch) : Engine :=
  match s.batchOn t.options batch with
  | some id => s.engine.change id Session.startBatch
  | none => s.engine

/-- The server when the messages of a batch have been answered. -/
def dispatched (s : Server) (t : Transport) (batch : Batch) (engine : Engine) : Server :=
  { s with engine }.endBatch (s.batchOn t.options batch)

/-- The exchange of an answered batch before any queue is taken. -/
def bareExchange (t : Transport) (a : Arrival) (answers : List Answer) : Exchange :=
  { replies := answers.map Answer.reply
    cookies :=
      if (a.request.browser? t.options.identity).isSome then []
      else [t.options.identity.cookie a.freshBrowser] }

/-- The last connect of an answered batch, if its session is live by now: its position,
whether the session was connected before it, the reply to it, and the session. -/
def liveConnect? (s : Server) (answers : List Answer) :
    Option (Nat × Bool × Message × Session) :=
  (lastConnect? answers).bind fun (index, wasConnected) =>
    (answers.map Answer.reply)[index]?.bind fun reply =>
      (s.engine.sender? reply).map fun session => (index, wasConnected, reply, session)

/-- What a server can be after it was handed a batch. -/
inductive Processed (around : Surroundings) (s : Server) (a : Arrival) (route : Route)
    (batch : Batch) : Server → Prop where
  | unserved (absent : s.transports.get? route.type = none) :
    Processed around s a route batch s
  | stalled {t : Transport} {engine : Engine} (found : s.transports.get? route.type = some t)
    (dispatch : around.answers? t.options a.request (s.opened t batch) batch = (none, engine)) :
    Processed around s a route batch
      { s with
        engine
        stalled := s.stalled ++ [{ ticket := a.ticket, batchOn := s.batchOn t.options batch }] }
  | unconnected {t : Transport} {engine : Engine} {answers : List Answer}
    (found : s.transports.get? route.type = some t)
    (dispatch : around.answers? t.options a.request (s.opened t batch) batch =
      (some answers, engine))
    (connect : (s.dispatched t batch engine).liveConnect? answers = none) :
    Processed around s a route batch
      ((s.dispatched t batch engine).conclude a.ticket route (bareExchange t a answers))
  | considered {t : Transport} {engine : Engine} {answers : List Answer} {index : Nat}
    {wasConnected : Bool} {reply : Message} {session : Session}
    (found : s.transports.get? route.type = some t)
    (dispatch : around.answers? t.options a.request (s.opened t batch) batch =
      (some answers, engine))
    (connect : (s.dispatched t batch engine).liveConnect? answers =
      some (index, wasConnected, reply, session))
    (idle : t.options.mayHold session reply wasConnected = true) :
    Processed around s a route batch
      ((s.dispatched t batch engine).consider t a route session.id index
        (bareExchange t a answers))
  | ready {t : Transport} {engine : Engine} {answers : List Answer} {index : Nat}
    {wasConnected : Bool} {reply : Message} {session : Session}
    (found : s.transports.get? route.type = some t)
    (dispatch : around.answers? t.options a.request (s.opened t batch) batch =
      (some answers, engine))
    (connect : (s.dispatched t batch engine).liveConnect? answers =
      some (index, wasConnected, reply, session))
    (busy : t.options.mayHold session reply wasConnected = false) :
    Processed around s a route batch
      (((s.dispatched t batch engine).drain session.id (bareExchange t a answers)).2.conclude
        a.ticket route
        ((s.dispatched t batch engine).drain session.id (bareExchange t a answers)).1)

/-! ## Considering a hold -/

/-- The server when a request has begun to wait. -/
def waiting (s : Server) (held : HeldRequest) : Server :=
  { s with
    held := s.held ++ [held]
    engine := s.engine.change held.client (·.await held.ticket)
    notices := s.notices ++ [Notice.suspended held (s.isConnected held.client)]
    metrics := s.metrics.add .heldConnections 1 }

theorem hold_eq (s : Server) (held : HeldRequest) :
    s.hold held =
      if (s.waiting held).engine.isWaiting held.client held.ticket then s.waiting held
      else (s.waiting held).complete held :=
  rfl

theorem mem_held_waiting (s : Server) (held : HeldRequest) : held ∈ (s.waiting held).held :=
  List.mem_append_right _ List.mem_cons_self

/-- The request that is held if its connection is let in. -/
def heldRequest (s : Server) (t : Transport) (a : Arrival) (route : Route) (client : ClientId)
    (exchange : Exchange) : HeldRequest :=
  { ticket := a.ticket
    route
    client
    browser := a.request.browser? t.options.identity
    timeout := t.options.timeout
    deadline := s.now + t.options.timeout
    replies := exchange.replies
    cookies := exchange.cookies }

/-- The server when a transport has been asked for a hold. -/
def asked (s : Server) (t : Transport) (a : Arrival) (route : Route) : Server :=
  let browser := a.request.browser? t.options.identity
  { s with
    transports := s.transports.insert route.type (t.grant a.request browser).2
    metrics :=
      if browser.isSome then
        s.metrics.acquired t.options.limit (t.grant a.request browser).1
      else s.metrics }

/-- The exchange of a batch whose connect is turned away. -/
def rejection (t : Transport) (a : Arrival) (index : Nat) (exchange : Exchange) : Exchange :=
  { exchange with
    outcome := .rejected
    replies := exchange.replies.modify index
      (t.options.adviseRejected (a.request.browser? t.options.identity).isSome) }

theorem consider_eq (s : Server) (t : Transport) (a : Arrival) (route : Route)
    (client : ClientId) (index : Nat) (exchange : Exchange) :
    s.consider t a route client index exchange =
      if (t.grant a.request (a.request.browser? t.options.identity)).1 then
        (s.asked t a route).hold (s.heldRequest t a route client exchange)
      else
        ((s.asked t a route).drain client (rejection t a index exchange)).2.conclude a.ticket
          route ((s.asked t a route).drain client (rejection t a index exchange)).1 := by
  rfl

/-! ## Processing a batch -/

theorem process_eq {around : Surroundings} {s : Server} {a : Arrival} {route : Route}
    {batch : Batch} {t : Transport} (found : s.transports.get? route.type = some t) :
    s.process around a route batch =
      match around.answers? t.options a.request (s.opened t batch) batch with
      | (none, engine) =>
        { s with
          engine
          stalled := s.stalled ++
            [{ ticket := a.ticket, batchOn := s.batchOn t.options batch }] }
      | (some answers, engine) =>
        let s := s.dispatched t batch engine
        match s.liveConnect? answers with
        | none => s.conclude a.ticket route (bareExchange t a answers)
        | some (index, wasConnected, reply, session) =>
          if t.options.mayHold session reply wasConnected then
            s.consider t a route session.id index (bareExchange t a answers)
          else
            (s.drain session.id (bareExchange t a answers)).2.conclude a.ticket route
              (s.drain session.id (bareExchange t a answers)).1 := by
  unfold process
  rw [found]
  rfl

theorem process_processed (around : Surroundings) (s : Server) (a : Arrival) (route : Route)
    (batch : Batch) : Processed around s a route batch (s.process around a route batch) := by
  cases found : s.transports.get? route.type with
  | none =>
      have unchanged : s.process around a route batch = s := by
        unfold process
        rw [found]
      rw [unchanged]
      exact .unserved found
  | some t =>
      rw [process_eq found]
      rcases dispatch : around.answers? t.options a.request (s.opened t batch) batch with
        ⟨_ | answers, engine⟩
      · exact .stalled found dispatch
      · simp only []
        rcases connect : (s.dispatched t batch engine).liveConnect? answers with
          _ | ⟨index, wasConnected, reply, session⟩
        · exact .unconnected found dispatch connect
        · simp only []
          cases idle : t.options.mayHold session reply wasConnected with
          | true => exact .considered found dispatch connect idle
          | false => exact .ready found dispatch connect idle

end Server
end Bayeux
