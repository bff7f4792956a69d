import Bayeux.Proofs.Engine.Queue
import Bayeux.Proofs.Server.Processing

namespace Bayeux

/-!
# Exactly one delivery

Whatever is queued for a client is taken by one request of that client, and the requests
take it in the order in which it was queued.  The record of deliveries is made from the
events of a run and from who subscribes to what when they occur; it does not look at
any queue.  The predicate `Mail` compares it with what requests have taken so far
and what is still queued.
-/

open Delivery (inbox)

/-! ## The client of a request -/

/-- The last connect of a batch. -/
def Batch.connect? (batch : Batch) : Option Message :=
  batch.reverse.find? Message.isConnect

/-- The client that the last connect of a request is for. -/
def Intake.client? (intakes : List Intake) (ticket : Nat) : Option ClientId :=
  intakes[ticket]?.bind fun intake => intake.batch.connect?.bind Message.clientId

theorem Batch.connect?_cons (m : Message) (rest : Batch) :
    Batch.connect? (m :: rest) =
      (Batch.connect? rest).or (if m.isConnect then some m else none) := by
  unfold Batch.connect?
  rw [List.reverse_cons, List.find?_append, List.find?_singleton]

theorem Intake.client?_append {intakes : List Intake} {ticket : Nat} {client : ClientId}
    (found : client? intakes ticket = some client) (more : List Intake) :
    client? (intakes ++ more) ticket = some client := by
  rcases Option.bind_eq_some_iff.mp found with ⟨intake, position, connecting⟩
  have bound : ticket < intakes.length := (List.getElem?_eq_some_iff.mp position).1
  unfold client?
  rw [List.getElem?_append_left bound]
  exact found

/-! ## Answers of a server without extensions -/

namespace Surroundings

/-- An answer to a message says whether that was a connect, and if so for whom. -/
def Answers (m : Message) (answer : Answer) : Prop :=
  answer.wasConnected.isSome = m.isConnect ∧
    (m.isConnect = true → answer.reply.clientId = m.clientId)

theorem adviseConnect_clientId (o : TransportOptions) (reply : Message) :
    (o.adviseConnect reply).clientId = reply.clientId := by
  unfold TransportOptions.adviseConnect
  split <;> rfl

theorem connect_clientId (e : Engine) (m : Message) :
    (e.connect m).1.clientId = m.clientId := by
  unfold Engine.connect
  split <;> rfl

theorem answer?_plain (mint : Nat → ClientId) (o : TransportOptions) (r : Request) (e : Engine)
    (m : Message) :
    ∃ answer, answer? { mint } o r e m = (some answer, (e.answer mint m).2) ∧
      Answers m answer := by
  unfold answer? reply?
  cases connecting : m.isConnect with
  | false =>
      refine ⟨{ reply := (e.answer mint m).1 }, rfl, ?_⟩
      exact ⟨connecting.symm, fun connects => by rw [connecting] at connects; cases connects⟩
  | true =>
      refine ⟨{ reply := o.adviseConnect (e.answer mint m).1,
                wasConnected := some ((e.sender? m).any Session.connected) }, rfl, ?_⟩
      refine ⟨connecting.symm, fun _ => ?_⟩
      have channel : m.channel = Channel.connect := eq_of_beq connecting
      have connected : e.answer mint m = e.connect m := by
        unfold Engine.answer
        rw [channel, if_neg (by decide), if_pos rfl]
      rw [adviseConnect_clientId, connected, connect_clientId]

/-- Without extensions every message is answered, by the engine. -/
theorem answers?_plain (mint : Nat → ClientId) (o : TransportOptions) (r : Request) (e : Engine)
    (batch : Batch) :
    ∃ answers, answers? { mint } o r e batch =
        (some answers, (Engine.answerAll mint e batch).2) ∧
      List.Forall₂ Answers batch answers := by
  induction batch generalizing e with
  | nil => exact ⟨[], rfl, .nil⟩
  | cons m rest inductionHypothesis =>
      rcases answer?_plain mint o r e m with ⟨answer, first, answered⟩
      rcases inductionHypothesis (e.answer mint m).2 with ⟨answers, others, all⟩
      refine ⟨answer :: answers, ?_, .cons answered all⟩
      unfold answers?
      rw [first]
      simp only [others]
      rfl

/-- The last connect among the answers is the reply to the last connect of the
batch. -/
theorem lastConnect?_spec {batch : Batch} {answers : List Answer}
    (answered : List.Forall₂ Answers batch answers) :
    (lastConnect? answers = none ∧ batch.connect? = none) ∨
      ∃ index wasConnected reply m, lastConnect? answers = some (index, wasConnected) ∧
        batch.connect? = some m ∧ (answers.map Answer.reply)[index]? = some reply ∧
        reply.clientId = m.clientId := by
  induction answered with
  | nil => exact Or.inl ⟨rfl, rfl⟩
  | @cons m answer rest answers first others inductionHypothesis =>
      rw [Batch.connect?_cons]
      unfold lastConnect?
      rcases inductionHypothesis with ⟨none, absent⟩ | ⟨index, wasConnected, reply, last, found,
        connect, position, client⟩
      · rw [none, absent]
        cases known : answer.wasConnected with
        | none =>
            left
            have other : m.isConnect = false := by rw [← first.1, known]; rfl
            rw [other]
            exact ⟨rfl, rfl⟩
        | some wasConnected =>
            right
            have connecting : m.isConnect = true := by rw [← first.1, known]; rfl
            rw [connecting]
            exact ⟨0, wasConnected, answer.reply, m, rfl, rfl, rfl, first.2 connecting⟩
      · right
        rw [found, connect]
        exact ⟨index + 1, wasConnected, reply, last, rfl, rfl, position, client⟩

end Surroundings

namespace Server

/-- The session whose queue is taken is that of the client which the last connect of the
batch is for. -/
theorem client_of_liveConnect? {mint : Nat → ClientId} {s : Server}
    (minted : s.engine.Minted mint) {batch : Batch} {answers : List Answer}
    (answered : List.Forall₂ Surroundings.Answers batch answers) {index : Nat}
    {wasConnected : Bool} {reply : Message} {session : Session}
    (connect : s.liveConnect? answers = some (index, wasConnected, reply, session)) :
    batch.connect?.bind Message.clientId = some session.id := by
  unfold liveConnect? at connect
  rcases Option.bind_eq_some_iff.mp connect with ⟨⟨place, was⟩, last, inner⟩
  rcases Option.bind_eq_some_iff.mp inner with ⟨own, position, sender⟩
  rcases Option.map_eq_some_iff.mp sender with ⟨live, found, same⟩
  cases same
  rcases Surroundings.lastConnect?_spec answered with ⟨none, _⟩ | ⟨other, connected, reply', m,
    listed, connecting, there, client⟩
  · rw [none] at last
    cases last
  · rw [listed] at last
    cases last
    rw [there] at position
    cases position
    rcases Engine.known?_of_sender? found with ⟨id, named, known⟩
    rw [connecting, Option.bind_some, ← client, named, minted.keyed id session known]

/-! ## What has been delivered, taken and queued -/

/-- What requests have taken from the queue of a client, in the order of their completion. -/
def taken (s : Server) (id : ClientId) : Batch :=
  s.answered.flatMap fun a => if a.exchange.session = some id then a.exchange.queued else []

/-- The deliveries made when a batch is processed. -/
def deliveries (s : Server) (mint : Nat → ClientId) (intake : Intake) : List Delivery :=
  match s.transports.get? intake.route.type with
  | some t => Engine.sentAll mint (s.opened t intake.batch) intake.batch
  | none => []

/-- The requests of each client have taken what was delivered to it, up to what is
queued. -/
structure Mail (s : Server) (mint : Nat → ClientId) (intakes : List Intake)
    (log : List Delivery) : Prop where
  minted : s.engine.Minted mint
  /-- A held request waits for the session that its last connect is for. -/
  held : ∀ held ∈ s.held, Intake.client? intakes held.ticket = some held.client
  answered : ∀ a ∈ s.answered, ∀ client, a.exchange.session = some client →
    Intake.client? intakes a.ticket = some client
  untouched : ∀ a ∈ s.answered, a.exchange.session = none → a.exchange.queued = []
  complete : ∀ id, s.taken id ++ s.engine.queueOf id = inbox log id

namespace Mail

variable {s : Server} {mint : Nat → ClientId} {intakes : List Intake} {log : List Delivery}

/-- Only the held requests, the answered ones and the engine matter. -/
theorem of_same (mail : s.Mail mint intakes log) {other : Server}
    (held : ∀ held ∈ other.held, held ∈ s.held) (answered : other.answered = s.answered)
    {more : List Delivery} (engine : s.engine.Delivers mint more other.engine) :
    other.Mail mint intakes (log ++ more) where
  minted := engine.1
  held := fun request member => mail.held request (held request member)
  answered := answered ▸ mail.answered
  untouched := answered ▸ mail.untouched
  complete := by
    intro id
    have taken : other.taken id = s.taken id := by
      unfold Server.taken
      rw [answered]
    rw [taken, engine.2, ← List.append_assoc, mail.complete, Delivery.inbox_append]

/-- A change of one session that keeps its queue delivers nothing. -/
theorem of_change (mail : s.Mail mint intakes log) {other : Server}
    (held : ∀ held ∈ other.held, held ∈ s.held) (answered : other.answered = s.answered)
    {f : Session → Session} (keeps : Session.KeepsQueue f) {client : ClientId}
    (engine : other.engine = s.engine.change client f) : other.Mail mint intakes log := by
  have unchanged : s.engine.Delivers mint [] other.engine := by
    rw [engine]
    exact Engine.delivers_nothing (mail.minted.change_of_keepsQueue keeps client)
      (s.engine.queueOf_change_of_keepsQueue keeps client)
  have same := mail.of_same held answered unchanged
  rwa [List.append_nil] at same

theorem of_engine (mail : s.Mail mint intakes log) {other : Server}
    (held : ∀ held ∈ other.held, held ∈ s.held) (answered : other.answered = s.answered)
    (engine : other.engine = s.engine) : other.Mail mint intakes log := by
  have unchanged : s.engine.Delivers mint [] other.engine := by
    rw [engine]
    exact Engine.delivers_nothing mail.minted fun _ => rfl
  have same := mail.of_same held answered unchanged
  rwa [List.append_nil] at same

/-- The record of what transports were given only grows. -/
theorem later (mail : s.Mail mint intakes log) (more : List Intake) :
    s.Mail mint (intakes ++ more) log where
  minted := mail.minted
  held := fun request member => Intake.client?_append (mail.held request member) more
  answered := fun a member client taken =>
    Intake.client?_append (mail.answered a member client taken) more
  untouched := mail.untouched
  complete := mail.complete

/-! ## Answering a request -/

/-- A request is answered without anything from a queue. -/
theorem conclude (mail : s.Mail mint intakes log) (ticket : Nat) (route : Route)
    {exchange : Exchange} (session : exchange.session = none) (queued : exchange.queued = []) :
    (s.conclude ticket route exchange).Mail mint intakes log where
  minted := mail.minted
  held := mail.held
  answered := by
    intro a member client took
    rcases List.mem_append.mp member with earlier | last
    · exact mail.answered a earlier client took
    · rw [List.mem_singleton.mp last, session] at took
      cases took
  untouched := by
    intro a member nothing
    rcases List.mem_append.mp member with earlier | last
    · exact mail.untouched a earlier nothing
    · rw [List.mem_singleton.mp last]
      exact queued
  complete := by
    intro id
    have taken : (s.conclude ticket route exchange).taken id = s.taken id := by
      unfold Server.taken Server.conclude
      simp only [List.flatMap_append, List.flatMap_singleton, session]
      exact List.append_nil _
    rw [taken]
    exact mail.complete id

/-- A request is answered with the whole queue of its client, which is then empty. -/
theorem conclude_drain (mail : s.Mail mint intakes log) {ticket : Nat} {client : ClientId}
    (own : Intake.client? intakes ticket = some client) (route : Route) (exchange : Exchange) :
    ((s.drain client exchange).2.conclude ticket route (s.drain client exchange).1).Mail
      mint intakes log where
  minted := mail.minted.change client fun _ => rfl
  held := mail.held
  answered := by
    intro a member other took
    rcases List.mem_append.mp member with earlier | last
    · exact mail.answered a earlier other took
    · rw [List.mem_singleton.mp last] at took ⊢
      rw [← Option.some.inj took]
      exact own
  untouched := by
    intro a member nothing
    rcases List.mem_append.mp member with earlier | last
    · exact mail.untouched a earlier nothing
    · rw [List.mem_singleton.mp last] at nothing
      cases nothing
  complete := by
    intro id
    have taken : ((s.drain client exchange).2.conclude ticket route
        (s.drain client exchange).1).taken id =
          s.taken id ++ if client = id then s.engine.queueOf client else [] := by
      unfold Server.taken Server.conclude Server.drain
      simp only [List.flatMap_append, List.flatMap_singleton, Option.some.injEq]
      rfl
    have queue : ((s.drain client exchange).2.conclude ticket route
        (s.drain client exchange).1).engine.queueOf id =
          if id = client then [] else s.engine.queueOf id :=
      s.engine.queueOf_change_drained client id
    rw [taken, queue, ← mail.complete id]
    by_cases same : client = id
    · rw [if_pos same, if_pos same.symm, List.append_nil, same]
    · rw [if_neg same, if_neg (fun equal => same equal.symm), List.append_nil]

theorem unhold (mail : s.Mail mint intakes log) (held : HeldRequest) :
    (s.unhold held).Mail mint intakes log := by
  have fewer : ∀ other ∈ s.held.filter (fun other => other.ticket != held.ticket),
      other ∈ s.held := fun other member => List.mem_of_mem_filter member
  unfold Server.unhold Server.releaseHold
  simp only []
  split <;> exact mail.of_change fewer rfl (Session.keepsQueue_leave held.ticket) rfl

theorem complete_held (mail : s.Mail mint intakes log) {held : HeldRequest}
    (member : held ∈ s.held) : (s.complete held).Mail mint intakes log :=
  (mail.unhold held).conclude_drain (mail.held held member) held.route _

/-! ## Processing a batch -/

theorem hold (mail : s.Mail mint intakes log) {held : HeldRequest}
    (own : Intake.client? intakes held.ticket = some held.client) :
    (s.hold held).Mail mint intakes log := by
  -- The list of held requests grows before the session is asked to wait for.
  have listed : Mail { s with held := s.held ++ [held] } mint intakes log := by
    refine { mail with held := ?_ }
    intro other member
    rcases List.mem_append.mp member with earlier | last
    · exact mail.held other earlier
    · rw [List.mem_singleton.mp last]
      exact own
  have waiting : (s.waiting held).Mail mint intakes log :=
    listed.of_change (fun _ member => member) rfl (Session.keepsQueue_await held.ticket) rfl
  rw [hold_eq]
  split
  · exact waiting
  · exact waiting.complete_held (s.mem_held_waiting held)

theorem consider (mail : s.Mail mint intakes log) (t : Transport) (a : Arrival) (route : Route)
    {client : ClientId} (own : Intake.client? intakes a.ticket = some client) (index : Nat)
    (exchange : Exchange) : (s.consider t a route client index exchange).Mail mint intakes log := by
  have asked : (s.asked t a route).Mail mint intakes log :=
    mail.of_engine (fun _ member => member) rfl rfl
  rw [consider_eq]
  split
  · exact asked.hold own
  · exact asked.conclude_drain own route _

theorem endBatch (mail : s.Mail mint intakes log) (session : Option ClientId) :
    (s.endBatch session).Mail mint intakes log := by
  cases session with
  | none => exact mail
  | some id => exact mail.of_change (fun _ member => member) rfl Session.keepsQueue_endBatch rfl

/-- Whatever becomes of a batch, its deliveries are made and at most the queue of
its own client is taken. -/
theorem process (mail : s.Mail mint intakes log) (distinct : Function.Injective mint)
    {a : Arrival} {intake : Intake} (ticket : a.ticket = intakes.length) :
    (s.process { mint } a intake.route intake.batch).Mail mint (intakes ++ [intake])
      (log ++ s.deliveries mint intake) := by
  have own : Intake.client? (intakes ++ [intake]) a.ticket =
      intake.batch.connect?.bind Message.clientId := by
    unfold Intake.client?
    rw [ticket, List.getElem?_concat_length]
    rfl
  have opened : ∀ t : Transport, (s.opened t intake.batch).Minted mint ∧
      ∀ id, (s.opened t intake.batch).queueOf id = s.engine.queueOf id := by
    intro t
    unfold Server.opened
    cases s.batchOn t.options intake.batch with
    | none => exact ⟨mail.minted, fun _ => rfl⟩
    | some client =>
        exact ⟨mail.minted.change_of_keepsQueue Session.keepsQueue_startBatch client,
          s.engine.queueOf_change_of_keepsQueue Session.keepsQueue_startBatch client⟩
  -- The state in which all messages have been answered and no queue has been taken.
  have dispatched : ∀ {t : Transport}, s.transports.get? intake.route.type = some t →
      ∀ {answers engine}, Surroundings.answers? { mint } t.options a.request
        (s.opened t intake.batch) intake.batch = (some answers, engine) →
      List.Forall₂ Surroundings.Answers intake.batch answers ∧
        (s.dispatched t intake.batch engine).Mail mint (intakes ++ [intake])
          (log ++ s.deliveries mint intake) := by
    intro t found answers engine dispatch
    rcases Surroundings.answers?_plain mint t.options a.request (s.opened t intake.batch)
      intake.batch with ⟨known, made, answered⟩
    rw [made] at dispatch
    cases dispatch
    refine ⟨answered, ?_⟩
    rcases Engine.answerAll_delivers (opened t).1 distinct intake.batch with ⟨minted, queues⟩
    have delivers : s.engine.Delivers mint (s.deliveries mint intake)
        (Engine.answerAll mint (s.opened t intake.batch) intake.batch).2 := by
      refine ⟨minted, ?_⟩
      intro id
      unfold Server.deliveries
      rw [queues, (opened t).2, found]
    have all : Mail
        { s with engine := (Engine.answerAll mint (s.opened t intake.batch) intake.batch).2 }
        mint (intakes ++ [intake]) (log ++ s.deliveries mint intake) := by
      refine (mail.later [intake]).of_same ?_ ?_ delivers
      · exact fun _ member => member
      · rfl
    exact all.endBatch _
  have outcome := process_processed { mint } s a intake.route intake.batch
  generalize s.process { mint } a intake.route intake.batch = result at outcome
  cases outcome with
  | unserved absent =>
      have nothing : s.deliveries mint intake = [] := by
        unfold Server.deliveries
        rw [absent]
      rw [nothing, List.append_nil]
      exact mail.later [intake]
  | @stalled t engine found dispatch =>
      rcases Surroundings.answers?_plain mint t.options a.request (s.opened t intake.batch)
        intake.batch with ⟨answers, made, _⟩
      rw [made] at dispatch
      cases dispatch
  | unconnected found dispatch connect =>
      exact (dispatched found dispatch).2.conclude _ _ rfl rfl
  | considered found dispatch connect idle =>
      rcases dispatched found dispatch with ⟨answered, served⟩
      have client := client_of_liveConnect? served.minted answered connect
      exact served.consider _ a intake.route (own.trans client) _ _
  | ready found dispatch connect busy =>
      rcases dispatched found dispatch with ⟨answered, served⟩
      have client := client_of_liveConnect? served.minted answered connect
      exact served.conclude_drain (own.trans client) intake.route _

/-! ## Other events -/

theorem publish (mail : s.Mail mint intakes log) (channel : String) (data : Json.Value) :
    (s.publish channel data).2.Mail mint intakes
      (log ++ s.engine.deliveries { channel, data := some data }) := by
  have delivers := Engine.broadcast_delivers mail.minted { channel, data := some data }
  refine mail.of_same ?_ ?_ delivers
  · exact fun _ member => member
  · rfl

theorem resume (mail : s.Mail mint intakes log) {held : HeldRequest} (member : held ∈ s.held) :
    (s.resume held).Mail mint intakes log := by
  have looked : Mail { s with engine := s.engine.change held.client (·.resume held.ticket) }
      mint intakes log :=
    mail.of_change (fun _ member => member) rfl (Session.keepsQueue_resume held.ticket) rfl
  unfold Server.resume
  simp only []
  split
  · exact looked
  · exact looked.complete_held member

theorem drop (mail : s.Mail mint intakes log) (ticket : Nat) :
    (s.drop ticket).Mail mint intakes log := by
  refine Server.drop_induction (fun s => s.Mail mint intakes log)
    (fun held _ _ => mail.unhold held) ?_ mail
  intro s stalled batchOn kept
  apply endBatch
  exact kept.of_engine (fun _ member => member) rfl rfl

theorem sweepTransport (mail : s.Mail mint intakes log) (now : Timestamp)
    (type : ConnectionType) : (s.sweepTransport now type).2.Mail mint intakes log := by
  unfold Server.sweepTransport
  split
  · exact mail
  · exact mail.of_engine (fun _ member => member) rfl rfl

end Mail
end Server

/-- Members that contribute nothing may be left out. -/
theorem flatMap_filter_eq {α β : Type} {list : List α} {keeps : α → Bool} {f g : α → List β}
    (agree : ∀ value ∈ list, g value = if keeps value then f value else []) :
    (list.filter keeps).flatMap f = list.flatMap g := by
  induction list with
  | nil => rfl
  | cons head rest inductionHypothesis =>
      have others := inductionHypothesis fun value member =>
        agree value (List.mem_cons_of_mem head member)
      rw [List.flatMap_cons, agree head List.mem_cons_self, List.filter_cons, ← others]
      cases keeps head with
      | true => rfl
      | false => rfl

namespace History

/-! ## Runs -/

/-- The deliveries made by one event. -/
def delivered (mint : Nat → ClientId) (h : History) (event : ServerEvent) : List Delivery :=
  match event, h.intake? event with
  | .publish channel data, _ => h.server.engine.deliveries { channel, data := some data }
  | _, some intake => h.server.deliveries mint intake
  | _, none => []

/-- The deliveries made in a run, in order. -/
def deliveries (mint : Nat → ClientId) : History → List ServerEvent → List Delivery
  | _, [] => []
  | h, event :: rest => h.delivered mint event ++ deliveries mint (h.step { mint } event) rest

theorem step_mail {mint : Nat → ClientId} (distinct : Function.Injective mint) {h : History}
    {log : List Delivery} (mail : h.server.Mail mint h.intakes log) (event : ServerEvent) :
    (h.step { mint } event).server.Mail mint (h.step { mint } event).intakes
      (log ++ h.delivered mint event) := by
  have quiet : ∀ {server : Server}, server.Mail mint h.intakes log →
      server.Mail mint (h.intakes ++ []) (log ++ []) := by
    intro server kept
    rw [List.append_nil log]
    exact kept.later []
  cases event with
  | request request freshBrowser =>
      simp only [step, next, intake?, delivered]
      rw [Server.receive_eq]
      cases taken : h.server.intake? request with
      | some intake => exact mail.process distinct rfl
      | none =>
          simp only []
          split
          · exact quiet (mail.of_engine (fun _ member => member) rfl rfl)
          · exact quiet mail
  | batch intake freshBrowser => exact mail.process distinct rfl
  | publish channel data => exact (mail.publish channel data).later []
  | look ticket =>
      apply quiet
      simp only [step, next]
      cases found : h.server.heldBy? ticket with
      | some held => exact mail.resume (List.mem_of_find?_eq_some found)
      | none => exact mail
  | expire ticket =>
      apply quiet
      simp only [step, next]
      cases found : h.server.heldBy? ticket with
      | some held =>
          simp only []
          split
          · exact mail.complete_held (List.mem_of_find?_eq_some found)
          · exact mail
      | none => exact mail
  | drop ticket => exact quiet (mail.drop ticket)
  | sweep now =>
      apply quiet
      exact Server.sweep_induction (fun s => s.Mail mint h.intakes log)
        (fun kept type => kept.sweepTransport now type) mail
  | pass span => exact quiet (mail.of_engine (fun _ member => member) rfl rfl)

theorem run_mail {mint : Nat → ClientId} (distinct : Function.Injective mint) {h : History}
    {log : List Delivery} (mail : h.server.Mail mint h.intakes log) (events : List ServerEvent) :
    (h.run { mint } events).server.Mail mint (h.run { mint } events).intakes
      (log ++ h.deliveries mint events) := by
  induction events generalizing h log with
  | nil =>
      change h.server.Mail mint h.intakes (log ++ [])
      rw [List.append_nil]
      exact mail
  | cons event rest inductionHypothesis =>
      have later := inductionHypothesis (step_mail distinct mail event)
      rw [List.append_assoc] at later
      exact later

theorem start_mail {path : String} {endpoint : EndpointContext} {codec : CodecChoice}
    {settings : List (ConnectionType × Except ConfigError TransportOptions)} {start : Server}
    (assembled : Server.assemble path endpoint codec settings = .ok start)
    (mint : Nat → ClientId) : start.Mail mint [] [] := by
  rcases Server.assemble_spec assembled with ⟨transports, made, _⟩
  subst made
  exact
    { minted := Engine.Minted.empty mint
      held := fun _ member => by cases member
      answered := fun _ member => by cases member
      untouched := fun _ member => by cases member
      complete := fun _ => rfl }

/-- In every run of a server, whatever the order of its events, what the answered
requests of a client have brought it, in the order of their completion, followed by what is
queued for it, is all that was ever delivered to it, in order.  Nothing is assumed of
ids but that none is handed out twice. -/
theorem run_delivers {path : String} {endpoint : EndpointContext} {codec : CodecChoice}
    {settings : List (ConnectionType × Except ConfigError TransportOptions)} {start : Server}
    (assembled : Server.assemble path endpoint codec settings = .ok start)
    {mint : Nat → ClientId} (distinct : Function.Injective mint) (events : List ServerEvent)
    (id : ClientId) :
    let last := run { mint } { server := start } events
    let requests := last.server.answered.filter fun a =>
      Intake.client? last.intakes a.ticket = some id
    requests.flatMap (·.exchange.queued) ++ last.server.engine.queueOf id =
        inbox (deliveries mint { server := start } events) id ∧
      ∀ session, last.server.engine.session? id = some session →
        last.server.engine.queueOf id = session.queue := by
  intro last requests
  have mail : last.server.Mail mint last.intakes _ :=
    run_mail distinct (start_mail assembled mint) events
  have brought : requests.flatMap (·.exchange.queued) = last.server.taken id := by
    unfold Server.taken
    apply flatMap_filter_eq
    intro a member
    cases took : a.exchange.session with
    | none =>
        rw [mail.untouched a member took]
        simp
    | some client =>
        rw [mail.answered a member client took]
        simp
  refine ⟨?_, fun session live => Engine.queueOf_of_session? live⟩
  rw [brought]
  exact mail.complete id

/-- Three connects of one client are held at once.  The first is dropped, the last takes
two messages that wake them all, the second waits on for the third message, and the fourth
stays queued. -/
theorem run_delivers_three_connects :
    let start : Server :=
      { path := "/"
        transports :=
          .ofList [(.longPolling, .ofOptions { allowWithoutBrowser := true } .compact)] }
    let mint := fun n => (⟨String.ofList (List.replicate n 'c')⟩ : ClientId)
    let hand := fun batch => ServerEvent.batch
      { request := { target := .ofText "/" }, route := { type := .longPolling }, batch } ⟨"x"⟩
    let connect : Message := { channel := Channel.connect, clientId := some ⟨""⟩ }
    let subscribe : Message :=
      { channel := Channel.subscribe, clientId := some ⟨""⟩, subscription := some "/a" }
    let say := fun text => ({ channel := "/a", id := some text, clientId := some ⟨"c"⟩ } : Message)
    let events := [hand [{ channel := Channel.handshake }], hand [connect, subscribe],
      hand [connect], hand [connect], hand [connect],
      hand [{ channel := Channel.handshake }, say "1", say "2"], .drop 2, .look 4, .look 3,
      hand [say "3"], .look 3, hand [say "4"]]
    let last := run { mint } { server := start } events
    let requests := last.server.answered.filter fun a =>
      Intake.client? last.intakes a.ticket = some ⟨""⟩
    Server.assemble "/" {} .default [(.longPolling, .ok { allowWithoutBrowser := true })] =
        .ok start ∧
      Function.Injective mint ∧
      requests.map (·.ticket) = [1, 4, 3] ∧
      (requests.flatMap (·.exchange.queued) ++ last.server.engine.queueOf ⟨""⟩).map Message.id =
        [some "1", some "2", some "3", some "4"] := by
  intro start mint hand connect subscribe say events last requests
  have assembled : Server.assemble "/" {} .default
      [(.longPolling, .ok { allowWithoutBrowser := true })] = .ok start := rfl
  have distinct : Function.Injective mint := by
    intro first second same
    have lengths := congrArg (fun id : ClientId => id.text.toList.length) same
    simpa [mint] using lengths
  have completed : requests.map (·.ticket) = [1, 4, 3] := by decide +kernel
  have delivered : (inbox (deliveries mint { server := start } events) ⟨""⟩).map Message.id =
      [some "1", some "2", some "3", some "4"] := by decide +kernel
  have brought := (run_delivers assembled distinct events ⟨""⟩).1
  exact ⟨assembled, distinct, completed, (congrArg (List.map Message.id) brought).trans delivered⟩

end History
end Bayeux
