import Bayeux.Proofs.Server.Dealing
import Bayeux.Proofs.Server.Scheduling

namespace Bayeux

/-!
# Held requests and the lists of sessions

A request that is held is a task that waits for a session.  The server lists it among its held
requests, and the session lists it among those that it wakes.  The predicate `Attends` says that
the two lists agree, for every session, live or departed.  So a request is held as long as
its session lists it, and a wake-up of the session reaches every request that is held for it.
-/

namespace HeldRequest

/-- The tickets of the requests that are held for a client. -/
def ticketsFor (requests : List HeldRequest) (client : ClientId) : List Nat :=
  (requests.filter fun held => held.client = client).map ticket

theorem ticketsFor_append (first second : List HeldRequest) (client : ClientId) :
    ticketsFor (first ++ second) client = ticketsFor first client ++ ticketsFor second client := by
  simp [ticketsFor]

theorem mem_ticketsFor {requests : List HeldRequest} {client : ClientId} {ticket : Nat} :
    ticket ∈ ticketsFor requests client ↔
      ∃ held ∈ requests, held.client = client ∧ held.ticket = ticket := by
  simp [ticketsFor, and_assoc]

theorem ticketsFor_filter (requests : List HeldRequest) (client : ClientId) (left : Nat) :
    ticketsFor (requests.filter fun other => other.ticket != left) client =
      (ticketsFor requests client).filter (· != left) := by
  unfold ticketsFor
  rw [List.filter_map, List.filter_filter, List.filter_filter]
  congr 2
  funext held
  exact Bool.and_comm _ _

/-- Where no ticket is used twice, a request that leaves was listed for its own client only. -/
theorem ticketsFor_leave {requests : List HeldRequest} {held : HeldRequest}
    (member : held ∈ requests) (distinct : (requests.map ticket).Nodup) (client : ClientId) :
    ticketsFor (requests.filter fun other => other.ticket != held.ticket) client =
      if client = held.client then (ticketsFor requests client).filter (· != held.ticket)
      else ticketsFor requests client := by
  rw [ticketsFor_filter]
  split
  · rfl
  next other =>
    apply List.filter_eq_self.mpr
    intro ticket listed
    rcases mem_ticketsFor.mp listed with ⟨request, inside, own, rfl⟩
    apply bne_iff_ne.mpr
    intro same
    rw [List.inj_on_of_nodup_map distinct inside member same] at own
    exact other own.symm

end HeldRequest

open HeldRequest (ticketsFor)

namespace Server

theorem engine_releaseHold (s : Server) (held : HeldRequest) :
    (s.releaseHold held).engine = s.engine := by
  unfold releaseHold
  split <;> rfl

theorem engine_unhold (s : Server) (held : HeldRequest) :
    (s.unhold held).engine = s.engine.change held.client (·.leave held.ticket) :=
  engine_releaseHold _ held

theorem engine_complete (s : Server) (held : HeldRequest) :
    (s.complete held).engine =
      (s.engine.change held.client (·.leave held.ticket)).change held.client Session.drained := by
  rw [← engine_unhold]
  rfl

/-- The engine is one that a server can come to, and each of its sessions lists the requests
that are held for it, in the order of their arrival. -/
structure Attends (s : Server) (mint : Nat → ClientId) : Prop where
  reachable : s.engine.Reachable mint
  lists : ∀ client, s.engine.waitingOn client = ticketsFor s.held client

namespace Attends

variable {s : Server} {mint : Nat → ClientId}

/-- Only the held requests and the engine matter. -/
theorem of_same (attends : s.Attends mint) {other : Server} (held : other.held = s.held)
    (reachable : other.engine.Reachable mint)
    (lists : ∀ client, other.engine.waitingOn client = s.engine.waitingOn client) :
    other.Attends mint where
  reachable := reachable
  lists client := by rw [lists, held, attends.lists]

theorem of_act (attends : s.Attends mint) {other : Server} (held : other.held = s.held)
    (act : SessionAct) (keeps : Session.KeepsTickets act.apply) {client : ClientId}
    (engine : other.engine = s.engine.change client act.apply) : other.Attends mint :=
  attends.of_same held (engine ▸ attends.reachable.act client act) fun id => by
    rw [engine]
    exact s.engine.waitingOn_change_of_keepsTickets keeps client id

/-- The session of a request that is held is known, live or departed. -/
theorem exists_session (attends : s.Attends mint) {held : HeldRequest} (member : held ∈ s.held) :
    ∃ session, s.engine.known? held.client = some session := by
  have listed : held.ticket ∈ s.engine.waitingOn held.client := by
    rw [attends.lists]
    exact HeldRequest.mem_ticketsFor.mpr ⟨held, member, rfl, rfl⟩
  unfold Engine.waitingOn at listed
  cases known : s.engine.known? held.client with
  | some session => exact ⟨session, rfl⟩
  | none =>
      rw [known] at listed
      cases listed

/-! ## Beginning and end of a hold -/

theorem waiting (attends : s.Attends mint) {held : HeldRequest} {session : Session}
    (known : s.engine.known? held.client = some session) (idle : session.ready = false) :
    (s.waiting held).Attends mint where
  reachable := attends.reachable.act held.client (.await held.ticket)
  lists client := by
    change (s.engine.change held.client (·.await held.ticket)).waitingOn client =
      ticketsFor (s.held ++ [held]) client
    rw [Engine.waitingOn_change_await known, HeldRequest.ticketsFor_append, attends.lists,
      attends.lists]
    by_cases own : client = held.client
    · simp [own, idle, ticketsFor]
    · simp [own, Ne.symm own, ticketsFor]

theorem unhold (attends : s.Attends mint) (distinct : s.TicketsDistinct) {held : HeldRequest}
    (member : held ∈ s.held) : (s.unhold held).Attends mint where
  reachable := by
    rw [engine_unhold]
    exact attends.reachable.act held.client (.leave held.ticket)
  lists client := by
    have remaining : (s.unhold held).held =
        s.held.filter fun other => other.ticket != held.ticket := held_releaseHold _ held
    rw [engine_unhold, Engine.waitingOn_change_leave, remaining,
      HeldRequest.ticketsFor_leave member distinct, attends.lists, attends.lists]
    split
    next own => rw [own]
    next => rfl

theorem complete (attends : s.Attends mint) (distinct : s.TicketsDistinct) {held : HeldRequest}
    (member : held ∈ s.held) : (s.complete held).Attends mint :=
  (attends.unhold distinct member).of_act rfl .takeQueue Session.keepsTickets_drained rfl

/-- A request that looks at its session again is held on if that is not ready, and else it is
answered as if it had not looked. -/
theorem resume_eq (attends : s.Attends mint) {held : HeldRequest}
    (member : held ∈ s.held) {session : Session}
    (known : s.engine.known? held.client = some session) :
    let looked : Server :=
      { s with engine := s.engine.change held.client (·.resume held.ticket) }
    s.resume held = if session.ready then looked.complete held else looked := by
  intro looked
  have listed : held.ticket ∈ s.engine.waitingOn held.client := by
    rw [attends.lists]
    exact HeldRequest.mem_ticketsFor.mpr ⟨held, member, rfl, rfl⟩
  have waits : looked.engine.isWaiting held.client held.ticket = !session.ready := by
    apply Bool.eq_iff_iff.mpr
    rw [Engine.isWaiting_iff, Engine.waitingOn_change_resume known]
    cases session.ready with
    | true => simp
    | false => simpa using listed
  change (if looked.engine.isWaiting held.client held.ticket then looked
    else looked.complete held) = _
  rw [waits]
  cases session.ready <;> rfl

theorem resume (attends : s.Attends mint) (distinct : s.TicketsDistinct) {held : HeldRequest}
    (member : held ∈ s.held) : (s.resume held).Attends mint := by
  rcases attends.exists_session member with ⟨session, known⟩
  have looked := attends.reachable.act held.client (.resume held.ticket)
  rw [attends.resume_eq member known]
  split
  next ready =>
    -- To leave the list twice is to leave it once.
    refine (attends.complete distinct member).of_same ?_ ?_ fun client => ?_
    · rw [held_complete, held_complete]
    · rw [engine_complete]
      exact (looked.act held.client (.leave held.ticket)).act held.client .takeQueue
    · rw [engine_complete, engine_complete,
        Engine.waitingOn_change_of_keepsTickets _ Session.keepsTickets_drained,
        Engine.waitingOn_change_of_keepsTickets _ Session.keepsTickets_drained,
        Engine.waitingOn_change_leave, Engine.waitingOn_change_leave]
      simp only [Engine.waitingOn_change_resume known, ready, and_true, if_true]
      split
      · rw [List.filter_filter]
        simp
      · rfl
  next idle =>
    refine attends.of_same rfl looked fun client => ?_
    rw [Engine.waitingOn_change_resume known, if_neg (fun both => idle both.2)]

/-! ## Events -/

theorem endBatch (attends : s.Attends mint) (session : Option ClientId) :
    (s.endBatch session).Attends mint := by
  cases session with
  | none => exact attends
  | some id => exact attends.of_act rfl .endBatch Session.keepsTickets_endBatch rfl

theorem served (attends : s.Attends mint) (distinct : Function.Injective mint) (t : Transport)
    (batch : Batch) : (s.served mint t batch).Attends mint := by
  have opened : ∀ id, (s.opened t batch).waitingOn id = s.engine.waitingOn id := by
    intro id
    unfold Server.opened
    split
    · exact Engine.waitingOn_change_of_keepsTickets _ Session.keepsTickets_startBatch _ id
    · rfl
  have reachable := reachable_opened attends.reachable t batch
  have answered : Attends
      { s with engine := (Engine.answerAll mint (s.opened t batch) batch).2 } mint := by
    refine attends.of_same rfl (reachable.answerAll batch) fun id => ?_
    rw [← opened]
    exact Engine.waitingOn_answerAll (reachable.minted distinct) distinct batch id
  exact answered.endBatch _

theorem concludeFrom (attends : s.Attends mint) (client : ClientId) (a : Arrival) (route : Route)
    (exchange : Exchange) : (s.concludeFrom client a route exchange).Attends mint :=
  attends.of_act rfl .takeQueue Session.keepsTickets_drained rfl

theorem process (attends : s.Attends mint) (distinct : Function.Injective mint) (a : Arrival)
    (route : Route) (batch : Batch) : (s.process { mint } a route batch).Attends mint := by
  have dealt := process_dealt attends.reachable distinct a route batch
  generalize s.process { mint } a route batch = next at dealt
  have asked : ∀ t, ((s.served mint t batch).asked t a route).Attends mint := fun t =>
    (attends.served distinct t batch).of_same rfl (attends.served distinct t batch).reachable
      fun _ => rfl
  cases dealt with
  | unserved absent => exact attends
  | suspended found timed idles known connected asleep granted =>
      exact (asked _).waiting known asleep
  | rejected found timed idles refused => exact (asked _).concludeFrom _ a route _
  | @delivered t found busy nobody =>
      have served := attends.served distinct t batch
      exact served.of_same rfl served.reachable fun _ => rfl
  | taken found busy taker => exact (attends.served distinct _ batch).concludeFrom _ a route _

theorem publish (attends : s.Attends mint) (channel : String) (data : Json.Value) :
    (s.publish channel data).2.Attends mint :=
  attends.of_same rfl (attends.reachable.publish channel data) fun id =>
    s.engine.waitingOn_broadcast { channel, data := some data } id

theorem drop (attends : s.Attends mint) (distinct : s.TicketsDistinct) (ticket : Nat) :
    (s.drop ticket).Attends mint := by
  refine Server.drop_induction (fun s => s.Attends mint)
    (fun held member _ => attends.unhold distinct member) ?_ attends
  intro s stalled batchOn kept
  have fewer : Attends { s with stalled } mint := kept.of_same rfl kept.reachable fun _ => rfl
  exact fewer.endBatch batchOn

theorem sweepTransport (attends : s.Attends mint) (now : Timestamp) (type : ConnectionType) :
    (s.sweepTransport now type).2.Attends mint := by
  unfold Server.sweepTransport
  split
  · exact attends
  · exact attends.of_same rfl attends.reachable fun _ => rfl

end Attends
end Server

namespace History

/-- The accounts of a server are in order, and sessions list the requests that are held. -/
structure InOrder (h : History) (mint : Nat → ClientId)
    (settings : ConnectionType → Option TransportOptions) : Prop where
  accounts : h.server.Accounts settings h.intakes []
  attends : h.server.Attends mint

namespace InOrder

variable {h : History} {mint : Nat → ClientId}
  {settings : ConnectionType → Option TransportOptions}

theorem ticketsDistinct (inOrder : h.InOrder mint settings) : h.server.TicketsDistinct :=
  inOrder.accounts.held_distinct

theorem step (inOrder : h.InOrder mint settings) (distinct : Function.Injective mint)
    (event : ServerEvent) : (h.step { mint } event).InOrder mint settings := by
  refine ⟨step_accounts h event inOrder.accounts, ?_⟩
  have attends := inOrder.attends
  have once := inOrder.ticketsDistinct
  cases event with
  | request request freshBrowser =>
      simp only [History.step, next]
      rw [Server.receive_eq]
      split
      · exact attends.process distinct _ _ _
      · split
        · exact attends.of_same rfl attends.reachable fun _ => rfl
        · exact attends
  | batch intake freshBrowser => exact attends.process distinct _ _ _
  | publish channel data => exact attends.publish channel data
  | look ticket =>
      simp only [History.step, next]
      split
      next held found => exact attends.resume once (List.mem_of_find?_eq_some found)
      next => exact attends
  | expire ticket =>
      simp only [History.step, next]
      split
      next held found =>
        split
        · exact attends.complete once (List.mem_of_find?_eq_some found)
        · exact attends
      next => exact attends
  | drop ticket => exact attends.drop once ticket
  | sweep now =>
      exact Server.sweep_induction (fun s => s.Attends mint)
        (fun kept type => kept.sweepTransport now type) attends
  | pass span => exact attends.of_same rfl attends.reachable fun _ => rfl

theorem run (inOrder : h.InOrder mint settings) (distinct : Function.Injective mint)
    (events : List ServerEvent) : (h.run { mint } events).InOrder mint settings := by
  induction events generalizing h with
  | nil => exact inOrder
  | cons event rest inductionHypothesis => exact inductionHypothesis (inOrder.step distinct event)

theorem start {path : String} {endpoint : EndpointContext} {codec : CodecChoice}
    {settings : List (ConnectionType × Except ConfigError TransportOptions)} {start : Server}
    (assembled : Server.assemble path endpoint codec settings = .ok start)
    (mint : Nat → ClientId) :
    InOrder { server := start } mint start.optionsOf? := by
  refine ⟨start_accounts assembled, ?_⟩
  rcases Server.assemble_spec assembled with ⟨transports, made, _⟩
  subst made
  exact ⟨.start, fun _ => rfl⟩

end InOrder
end History
end Bayeux
