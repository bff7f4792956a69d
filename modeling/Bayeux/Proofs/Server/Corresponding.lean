import Bayeux.Proofs.Server.Identities
import Bayeux.Proofs.Server.Suspending

namespace Bayeux

/-!
# Which messages make up a response

A client finds its replies by their positions and ids.  A response to a batch is a queue followed
by one reply for each message, in order.  The replies are made when the batch comes in; one of
them may be changed when its connect is turned away.  The queue is taken only when the response is
sent, which may be much later, and it is that of the session which the last connect of the batch
is for.  Two parts are established apart and then followed through a run: to which messages the
replies belong, and which queues are touched.
-/

/-! ## The reply to a message -/

/-- A reply belongs to a message, when some ids have been handed out before. -/
structure Corresponds (mint : Nat → ClientId) (issued : Nat) (m reply : Message) : Prop where
  channel : reply.channel = m.channel
  id : reply.id = m.id
  /-- A handshake is told the next id, whatever it names itself. -/
  clientId : reply.clientId = if m.isHandshake then some (mint issued) else m.clientId
  judged : reply.successful.isSome = true
  advised : m.isConnect = true → reply.isSuccessful = true →
    ∃ advice, reply.advice = some advice ∧ advice.reconnect.isSome = true ∧
      advice.timeout.isSome = true ∧ advice.interval.isSome = true

namespace Engine

/-- What all forms have in common. -/
theorem ReplyForm.echoes {mint : Nat → ClientId} {e : Engine} {m reply : Message}
    (form : ReplyForm mint e m reply) :
    reply.channel = m.channel ∧ reply.id = m.id ∧ reply.successful.isSome = true := by
  cases form <;> exact ⟨rfl, rfl, rfl⟩

end Engine

namespace TransportOptions

variable (o : TransportOptions)

/-- To advise a connect changes its advice at the most. -/
theorem exists_adviseConnect (reply : Message) :
    ∃ advice, o.adviseConnect reply = { reply with advice } := by
  unfold adviseConnect
  split
  · exact ⟨_, rfl⟩
  · exact ⟨reply.advice, rfl⟩

/-- What is missing in the advice of a connect that succeeds is added. -/
theorem advice_adviseConnect {reply : Message} (success : reply.isSuccessful = true) :
    ∃ advice, (o.adviseConnect reply).advice = some advice ∧ advice.reconnect.isSome = true ∧
      advice.timeout.isSome = true ∧ advice.interval.isSome = true := by
  unfold adviseConnect
  rw [if_pos success]
  exact ⟨_, rfl, by simp, by simp, by simp⟩

/-- The reply to a message belongs to it, with the advice that belongs to a connect. -/
theorem corresponds_advised (mint : Nat → ClientId) (e : Engine) (m : Message) :
    Corresponds mint e.issued m (o.advised m (e.answer mint m).1) := by
  rcases (e.answer_replyForm mint m).echoes with ⟨channel, id, judged⟩
  have named : (e.answer mint m).1.clientId = _ := e.clientId_answer m
  unfold advised
  split
  next connects =>
    refine ⟨?_, ?_, ?_, ?_, fun _ success => ?_⟩
    iterate 4
      rcases o.exists_adviseConnect (e.answer mint m).1 with ⟨advice, same⟩
      rw [same]
      assumption
    rw [isSuccessful_adviseConnect] at success
    exact o.advice_adviseConnect success
  next quiet =>
    exact ⟨channel, id, named, judged, fun connects => absurd connects quiet⟩

/-- A reply still belongs to its message when its connect is turned away. -/
theorem corresponds_adviseRejected {mint : Nat → ClientId} {issued : Nat} {m reply : Message}
    (corresponds : Corresponds mint issued m reply) (browserKnown : Bool) :
    Corresponds mint issued m (o.adviseRejected browserKnown reply) := by
  by_cases final : o.multiSessionInterval = 0
  · -- it has failed, so that nothing is asked of its advice
    simp only [adviseRejected, if_pos final]
    exact ⟨corresponds.channel, corresponds.id, corresponds.clientId, rfl, fun _ success => by
      simp [Message.isSuccessful] at success⟩
  · simp only [adviseRejected, if_neg final]
    refine ⟨corresponds.channel, corresponds.id, corresponds.clientId, corresponds.judged,
      fun connects success => ?_⟩
    rcases corresponds.advised connects success with ⟨advice, given, _, timeout, _⟩
    refine ⟨_, rfl, rfl, ?_, rfl⟩
    simpa [Message.adviseWith, given] using timeout

end TransportOptions

/-! ## The replies to a batch -/

/-- There is one reply for each message of a batch, at the same position.  The ids of the
handshakes follow each other. -/
structure Corresponding (mint : Nat → ClientId) (issued : Nat) (batch replies : Batch) :
    Prop where
  length : replies.length = batch.length
  each : ∀ index m, batch[index]? = some m → ∃ reply, replies[index]? = some reply ∧
    Corresponds mint (issued + (batch.take index).countP Message.isHandshake) m reply

namespace Corresponding

variable {mint : Nat → ClientId} {issued : Nat} {m reply : Message} {batch replies : Batch}

theorem nil : Corresponding mint issued [] [] where
  length := rfl
  each := fun _ _ found => by cases found

theorem cons (first : Corresponds mint issued m reply)
    (others : Corresponding mint (issued + if m.isHandshake then 1 else 0) batch replies) :
    Corresponding mint issued (m :: batch) (reply :: replies) where
  length := congrArg (· + 1) others.length
  each := by
    intro index other found
    cases index with
    | zero =>
        cases found
        exact ⟨reply, rfl, first⟩
    | succ index =>
        rcases others.each index other found with ⟨answer, there, corresponds⟩
        refine ⟨answer, there, ?_⟩
        rw [List.take_succ_cons, List.countP_cons, Nat.add_comm (List.countP _ _), ← Nat.add_assoc]
        exact corresponds

/-- One of the replies may be changed, if it belongs to its message still. -/
theorem modify (corresponding : Corresponding mint issued batch replies)
    {change : Message → Message}
    (keeps : ∀ {count m reply}, Corresponds mint count m reply →
      Corresponds mint count m (change reply)) (position : Nat) :
    Corresponding mint issued batch (replies.modify position change) where
  length := (List.length_modify _ _ _).trans corresponding.length
  each := by
    intro index m found
    rcases corresponding.each index m found with ⟨reply, there, corresponds⟩
    rw [List.getElem?_modify, there]
    refine ⟨_, rfl, ?_⟩
    split
    · exact keeps corresponds
    · exact corresponds

end Corresponding

theorem Engine.corresponding_repliesTo (mint : Nat → ClientId) (o : TransportOptions) (e : Engine)
    (batch : Batch) : Corresponding mint e.issued batch (e.repliesTo mint o batch) := by
  induction batch generalizing e with
  | nil => exact .nil
  | cons m rest inductionHypothesis =>
      have others := inductionHypothesis (e.answer mint m).2
      rw [e.issued_answer] at others
      exact .cons (o.corresponds_advised mint e m) others

/-! ## The queue -/

namespace Engine

/-- All that is queued for one client is taken, and no other queue is changed. -/
structure Takes (e next : Engine) (taker : Option ClientId) (queued : Batch) : Prop where
  queued : queued = (taker.map e.queueOf).getD []
  others : ∀ id, next.queueOf id = if taker = some id then [] else e.queueOf id

/-- The engine when all messages of a batch have been answered. -/
theorem Idles.taker? {mint : Nat → ClientId} {e : Engine} {batch : Batch} {index : Nat}
    {client : ClientId} (idles : e.Idles mint batch index client) :
    (answerAll mint e batch).2.taker? batch = some client := by
  rcases idles with ⟨earlier, m, later, split, _, connects, last, named, _, s, live, _⟩
  unfold Engine.taker?
  rw [split, Batch.connect?_of_split connects last, Option.bind_some, named, ← split]
  simp [Option.filter, live]

end Engine

namespace Server

variable {mint : Nat → ClientId} {s next : Server} {a : Arrival} {route : Route} {batch : Batch}

/-- The engine when the messages of a batch have been answered, and no queue has been taken. -/
def afterBatch (s : Server) (mint : Nat → ClientId) (t : Transport) (batch : Batch) : Engine :=
  (Engine.answerAll mint (s.opened t batch) batch).2

theorem queueOf_opened (s : Server) (t : Transport) (batch : Batch) (id : ClientId) :
    (s.opened t batch).queueOf id = s.engine.queueOf id := by
  unfold opened
  split
  · exact Engine.queueOf_change_of_keepsQueue _ Session.keepsQueue_startBatch _ _
  · rfl

/-- To answer messages takes nothing out of any queue. -/
theorem queueOf_afterBatch (reachable : s.engine.Reachable mint)
    (distinct : Function.Injective mint) (t : Transport) (batch : Batch) (id : ClientId) :
    s.engine.queueOf id <+: (s.afterBatch mint t batch).queueOf id := by
  have minted := (reachable_opened reachable t batch).minted distinct
  rw [← s.queueOf_opened t batch]
  exact ⟨_, ((Engine.answerAll_delivers minted distinct batch).2 id).symm⟩

theorem corresponding_plainExchange (s : Server) (mint : Nat → ClientId) (t : Transport)
    (a : Arrival) (batch : Batch) :
    Corresponding mint s.engine.issued batch (s.plainExchange mint t a batch).replies := by
  rw [← s.issued_opened t batch]
  exact (s.opened t batch).corresponding_repliesTo mint t.options batch

theorem corresponding_rejection (s : Server) (mint : Nat → ClientId) (t : Transport)
    (a : Arrival) (batch : Batch) (index : Nat) :
    Corresponding mint s.engine.issued batch
      (rejection t a index (s.plainExchange mint t a batch)).replies :=
  (s.corresponding_plainExchange mint t a batch).modify
    (fun corresponds => t.options.corresponds_adviseRejected corresponds _) index

/-- A batch is held: its replies are kept for later and no queue is touched. -/
structure Defers (s next : Server) (mint : Nat → ClientId) (t : Transport) (batch : Batch)
    (request : HeldRequest) : Prop where
  held : next.held = s.held ++ [request]
  answered : next.answered = s.answered
  taker : (s.afterBatch mint t batch).taker? batch = some request.client
  replies : Corresponding mint s.engine.issued batch request.replies
  queues : ∀ id, next.engine.queueOf id = (s.afterBatch mint t batch).queueOf id

/-- A batch is answered: the queue of its taker is taken, if it has one, and no other. -/
structure Settles (s next : Server) (mint : Nat → ClientId) (t : Transport) (batch : Batch)
    (answer : AnsweredRequest) : Prop where
  held : next.held = s.held
  answered : next.answered = s.answered ++ [answer]
  replies : Corresponding mint s.engine.issued batch answer.exchange.replies
  takes : (s.afterBatch mint t batch).Takes next.engine ((s.afterBatch mint t batch).taker? batch)
    answer.exchange.queued

/-- A server that answers from the queue of a client takes this queue. -/
theorem takes_of_served {t : Transport} {client : ClientId}
    (taker : (s.afterBatch mint t batch).taker? batch = some client)
    (queues : ∀ id, next.engine.queueOf id =
      if id = client then [] else (s.served mint t batch).engine.queueOf id) :
    (s.afterBatch mint t batch).Takes next.engine ((s.afterBatch mint t batch).taker? batch)
      ((s.served mint t batch).engine.queueOf client) := by
  rw [taker]
  refine ⟨s.queueOf_served mint t batch client, fun id => ?_⟩
  rw [queues id, s.queueOf_served mint t batch id]
  simp only [Option.some.injEq, eq_comm]
  rfl

/-- Only a batch whose connection type is not served is neither held nor answered. -/
theorem Dealt.defers_or_settles (dealt : Dealt mint s a route batch next) :
    next = s ∨ ∃ t, s.transports.get? route.type = some t ∧
      ((∃ request, request.ticket = a.ticket ∧ s.Defers next mint t batch request) ∨
        ∃ answer, answer.ticket = a.ticket ∧ s.Settles next mint t batch answer) := by
  cases dealt with
  | unserved => exact .inl rfl
  | @suspended t index client session found timed idles =>
      let request := (s.served mint t batch).heldRequest t a route client
        (s.plainExchange mint t a batch)
      have queues : ∀ id, (((s.served mint t batch).asked t a route).waiting request).engine.queueOf
          id = (s.afterBatch mint t batch).queueOf id := fun id =>
        (Engine.queueOf_change_of_keepsQueue (s.served mint t batch).engine
          (Session.keepsQueue_await a.ticket) client id).trans (s.queueOf_served mint t batch id)
      exact .inr ⟨t, found, .inl ⟨request, rfl, congrArg (· ++ _) (s.held_served mint t batch),
        s.answered_served mint t batch, idles.taker?, s.corresponding_plainExchange mint t a batch,
        queues⟩⟩
  | @rejected t index client found timed idles =>
      refine .inr ⟨t, found, .inr ⟨_, ?_, s.held_served mint t batch,
        congrArg (· ++ _) (s.answered_served mint t batch), ?_, takes_of_served idles.taker? ?_⟩⟩
      · rfl
      · exact s.corresponding_rejection mint t a batch index
      · exact queueOf_concludeFrom ((s.served mint t batch).asked t a route) client a route _
  | @delivered t found busy nobody =>
      refine .inr ⟨t, found, .inr ⟨_, ?_, s.held_served mint t batch,
        congrArg (· ++ _) (s.answered_served mint t batch), ?_, ?_⟩⟩
      · rfl
      · exact s.corresponding_plainExchange mint t a batch
      · have none : (s.afterBatch mint t batch).taker? batch = none := nobody
        rw [none]
        exact ⟨rfl, fun id => s.queueOf_served mint t batch id⟩
  | @taken t client found busy taker =>
      refine .inr ⟨t, found, .inr ⟨_, ?_, s.held_served mint t batch,
        congrArg (· ++ _) (s.answered_served mint t batch), ?_, takes_of_served taker ?_⟩⟩
      · rfl
      · exact s.corresponding_plainExchange mint t a batch
      · exact queueOf_concludeFrom (s.served mint t batch) client a route _

end Server

/-! ## Runs -/

namespace History

/-- An event brings a batch to a transport, under a ticket. -/
structure Brings (h : History) (event : ServerEvent) (ticket : Nat) (intake : Intake)
    (t : Transport) : Prop where
  ticket : h.nextTicket = ticket
  taken : h.intake? event = some intake
  served : h.server.transports.get? intake.route.type = some t

/-- A held request came in during a run and was held then. -/
def Deferred (mint : Nat → ClientId) (h : History) (events : List ServerEvent)
    (request : HeldRequest) : Prop :=
  ∃ before event after intake t, events = before ++ event :: after ∧
    let came := h.run { mint } before
    came.Brings event request.ticket intake t ∧
      came.server.Defers (came.step { mint } event).server mint t intake.batch request

/-- An answered request came in during a run and was answered then, or it was held then and
answered by a later event, with the queue as that event found it. -/
def Settled (mint : Nat → ClientId) (h : History) (events : List ServerEvent)
    (answer : AnsweredRequest) : Prop :=
  ∃ before event after intake t, events = before ++ event :: after ∧
    let came := h.run { mint } before
    let next := (came.step { mint } event).server
    came.Brings event answer.ticket intake t ∧
      (came.server.Settles next mint t intake.batch answer ∨
        ∃ request between moment rest, after = between ++ moment :: rest ∧
          let waiting := h.run { mint } (before ++ event :: between)
          let ended := (waiting.step { mint } moment).server
          came.server.Defers next mint t intake.batch request ∧
            answer.exchange.replies = request.replies ∧
            ended.answered = waiting.server.answered ++ [answer] ∧
            waiting.server.engine.Takes ended.engine (some request.client)
              answer.exchange.queued)

variable {mint : Nat → ClientId} {h : History} {events : List ServerEvent}
  {settings : ConnectionType → Option TransportOptions}

theorem Deferred.append {request : HeldRequest} (deferred : h.Deferred mint events request)
    (event : ServerEvent) : h.Deferred mint (events ++ [event]) request := by
  rcases deferred with ⟨before, first, after, intake, t, split, rest⟩
  refine ⟨before, first, after ++ [event], intake, t, ?_, rest⟩
  rw [split, List.append_assoc, List.cons_append]

theorem Settled.append {answer : AnsweredRequest} (settled : h.Settled mint events answer)
    (event : ServerEvent) : h.Settled mint (events ++ [event]) answer := by
  rcases settled with ⟨before, first, after, intake, t, split, brings, ended⟩
  refine ⟨before, first, after ++ [event], intake, t, ?_, brings, ended.imp_right ?_⟩
  · rw [split, List.append_assoc, List.cons_append]
  · rintro ⟨request, between, moment, rest, later, ends⟩
    refine ⟨request, between, moment, rest ++ [event], ?_, ends⟩
    rw [later, List.append_assoc, List.cons_append]

/-- A held request that is answered by an event is settled. -/
theorem Deferred.settled {request : HeldRequest} (deferred : h.Deferred mint events request)
    (moment : ServerEvent) {answer : AnsweredRequest} (ticket : answer.ticket = request.ticket)
    (replies : answer.exchange.replies = request.replies)
    (answered : ((h.run { mint } events).step { mint } moment).server.answered =
      (h.run { mint } events).server.answered ++ [answer])
    (takes : (h.run { mint } events).server.engine.Takes
      ((h.run { mint } events).step { mint } moment).server.engine (some request.client)
      answer.exchange.queued) : h.Settled mint (events ++ [moment]) answer := by
  rcases deferred with ⟨before, event, between, intake, t, rfl, brings, defers⟩
  refine ⟨before, event, between ++ [moment], intake, t, ?_, ticket ▸ brings,
    .inr ⟨request, between, moment, [], rfl, defers, replies, answered, takes⟩⟩
  rw [List.append_assoc, List.cons_append]

/-- All that is held or has been answered came in during the run. -/
structure Accounted (mint : Nat → ClientId) (h : History) (events : List ServerEvent) : Prop where
  held : ∀ request ∈ (h.run { mint } events).server.held, h.Deferred mint events request
  answered : ∀ answer ∈ (h.run { mint } events).server.answered, h.Settled mint events answer

/-- An event that brings a batch holds it or answers it, and one that ends a hold answers what
was held. -/
theorem Accounted.step (accounted : Accounted mint h events)
    (inOrder : (h.run { mint } events).InOrder mint settings)
    (distinct : Function.Injective mint) (event : ServerEvent) :
    Accounted mint h (events ++ [event]) := by
  have reached : h.run { mint } (events ++ [event]) = (h.run { mint } events).step { mint } event :=
    run_append { mint } h events [event]
  have held : ∀ request ∈ (h.run { mint } events).server.held,
      h.Deferred mint (events ++ [event]) request :=
    fun request member => (accounted.held request member).append event
  have answered : ∀ answer ∈ (h.run { mint } events).server.answered,
      h.Settled mint (events ++ [event]) answer :=
    fun answer member => (accounted.answered answer member).append event
  cases step_handled inOrder distinct event with
  | quiet heldSame answeredSame =>
      exact ⟨by rwa [reached, heldSame], by rwa [reached, answeredSame]⟩
  | @dealt intake freshBrowser taken dealt =>
      rcases dealt.defers_or_settles with
        same | ⟨t, served, ⟨request, own, defers⟩ | ⟨answer, own, settles⟩⟩
      · exact ⟨by rwa [reached, same], by rwa [reached, same]⟩
      · refine ⟨?_, by rwa [reached, defers.answered]⟩
        rw [reached, defers.held]
        exact List.forall_mem_append.mpr ⟨held, List.forall_mem_singleton.mpr
          ⟨events, event, [], intake, t, rfl, ⟨own.symm, taken, served⟩, defers⟩⟩
      · refine ⟨by rwa [reached, settles.held], ?_⟩
        rw [reached, settles.answered]
        exact List.forall_mem_append.mpr ⟨answered, List.forall_mem_singleton.mpr
          ⟨events, event, [], intake, t, rfl, ⟨own.symm, taken, served⟩, .inl settles⟩⟩
  | @completed request member _ remaining newAnswered queues =>
      constructor
      · rw [reached, remaining]
        exact fun other listed => held other (List.mem_of_mem_filter listed)
      · rw [reached, newAnswered]
        refine List.forall_mem_append.mpr ⟨answered, List.forall_mem_singleton.mpr ?_⟩
        refine (accounted.held request member).settled event rfl rfl newAnswered ⟨rfl, fun id => ?_⟩
        rw [queues id]
        simp only [Option.some.injEq, eq_comm]
  | dropped _ remaining answeredSame =>
      constructor
      · rw [reached, remaining]
        exact fun other listed => held other (List.mem_of_mem_filter listed)
      · rwa [reached, answeredSame]

theorem run_accounted (inOrder : h.InOrder mint settings) (distinct : Function.Injective mint)
    (fresh : Accounted mint h []) (events : List ServerEvent) : Accounted mint h events := by
  induction events using List.reverseRecOn with
  | nil => exact fresh
  | append_singleton events event inductionHypothesis =>
      exact inductionHypothesis.step (inOrder.run distinct events) distinct event

/-- In every run of a server, a response to a batch consists of a queue followed by one reply for
each message of the batch, in order, each with the channel and the id of its message, with a
verdict, and with the client of its message or, for a handshake, with an id that nobody had.  A
connect that succeeds is given all the advice it needs.  While the messages are answered no
queue loses anything.  The queue in the response is the whole queue, at the moment of answering, of
the session of the last connect, if that was live when all messages had been answered; this
moment is the event that brought the batch, or a later one if the batch was held.  Neither event
takes anything else from any queue. -/
theorem run_corresponds {path : String} {endpoint : EndpointContext} {codec : CodecChoice}
    {settings : List (ConnectionType × Except ConfigError TransportOptions)} {start : Server}
    (assembled : Server.assemble path endpoint codec settings = .ok start)
    {mint : Nat → ClientId} (distinct : Function.Injective mint) (events : List ServerEvent) :
    ∀ answer ∈ (run { mint } { server := start } events).server.answered,
      ∃ before event after intake t, events = before ++ event :: after ∧
        let came := run { mint } { server := start } before
        let next := (came.step { mint } event).server
        let dispatched := came.server.afterBatch mint t intake.batch
        let taker := dispatched.taker? intake.batch
        came.Brings event answer.ticket intake t ∧
          answer.exchange.messages = answer.exchange.queued ++ answer.exchange.replies ∧
          Corresponding mint came.server.engine.issued intake.batch answer.exchange.replies ∧
          (∀ n, came.server.engine.known? (mint (came.server.engine.issued + n)) = none) ∧
          (∀ id, came.server.engine.queueOf id <+: dispatched.queueOf id) ∧
          (next.answered = came.server.answered ++ [answer] ∧
              dispatched.Takes next.engine taker answer.exchange.queued ∨
            taker.isSome = true ∧ (∀ id, next.engine.queueOf id = dispatched.queueOf id) ∧
              ∃ between moment rest, after = between ++ moment :: rest ∧
                let waiting := run { mint } { server := start } (before ++ event :: between)
                let ended := (waiting.step { mint } moment).server
                ended.answered = waiting.server.answered ++ [answer] ∧
                  waiting.server.engine.Takes ended.engine taker answer.exchange.queued) := by
  intro answer member
  have first := InOrder.start assembled mint
  have none : Accounted mint { server := start } [] := by
    rcases Server.assemble_spec assembled with ⟨transports, made, _⟩
    subst made
    exact ⟨List.forall_mem_nil _, List.forall_mem_nil _⟩
  rcases (run_accounted first distinct none events).answered answer member with
    ⟨before, event, after, intake, t, split, brings, ends⟩
  have reachable := (first.run distinct before).attends.reachable
  have unused := fun n => (reachable.minted distinct).unused distinct (Nat.le_add_right _ n)
  have kept := Server.queueOf_afterBatch reachable distinct t intake.batch
  refine ⟨before, event, after, intake, t, split, brings, rfl, ?_, unused, kept, ?_⟩
  · rcases ends with settles | ⟨request, _, _, _, _, defers, replies, _⟩
    · exact settles.replies
    · exact replies ▸ defers.replies
  · refine ends.imp (fun settles => ⟨settles.answered, settles.takes⟩) ?_
    rintro ⟨request, between, moment, rest, later, defers, _, answered, takes⟩
    rw [← defers.taker] at takes
    exact ⟨defers.taker ▸ rfl, defers.queues, between, moment, rest, later, answered, takes⟩

/-- A client asks for another session in the batch that also holds its connect.  The connect waits
until something is published, and then that comes first. -/
theorem run_corresponds_held :
    let start : Server :=
      { path := "/", transports := .ofList [(.longPolling, .ofOptions {} .compact)] }
    let mint := fun n => (⟨String.ofList (List.replicate n 'c')⟩ : ClientId)
    let request : Request :=
      { target := .ofText "/"
        headers := [⟨"cookie", "BAYEUX_BROWSER=b".toList.map fun c => c.toNat.toUInt8⟩] }
    let hand := fun batch =>
      ServerEvent.batch { request, route := { type := .longPolling }, batch } ⟨"x"⟩
    let ask := fun channel => ({ channel, id := some channel, clientId := some ⟨""⟩,
                                 subscription := some "/a" } : Message)
    let events := [hand [{ channel := Channel.handshake }], hand [ask Channel.connect],
      hand [ask Channel.subscribe, ask Channel.connect, ask Channel.handshake],
      .publish "/a" .null, .look 2]
    Server.assemble "/" {} .default [(.longPolling, .ok {})] = .ok start ∧
      Function.Injective mint ∧
      ∃ answer ∈ (run { mint } { server := start } events).server.answered, answer.ticket = 2 ∧
        answer.exchange.queued.map Message.channel = ["/a"] ∧
        answer.exchange.replies.map Message.clientId = [some ⟨""⟩, some ⟨""⟩, some ⟨"c"⟩] ∧
        ∃ batch issued, Corresponding mint issued batch answer.exchange.replies := by
  intro start mint request hand ask events
  have assembled : Server.assemble "/" {} .default [(.longPolling, .ok {})] = .ok start := rfl
  have distinct : Function.Injective mint := ClientId.injective_replicate 'c'
  have told : (run { mint } { server := start } events).server.answered.any fun answer =>
      answer.ticket == 2 && (answer.exchange.queued.map Message.channel == ["/a"] &&
        answer.exchange.replies.map Message.clientId == [some ⟨""⟩, some ⟨""⟩, some ⟨"c"⟩]) := by
    decide +kernel
  rcases List.any_eq_true.mp told with ⟨answer, member, known⟩
  rcases Bool.and_eq_true_iff.mp known with ⟨ticket, known⟩
  rcases Bool.and_eq_true_iff.mp known with ⟨queued, clients⟩
  rcases run_corresponds assembled distinct events answer member with
    ⟨_, _, _, intake, _, _, _, _, corresponding, _⟩
  exact ⟨assembled, distinct, answer, member, beq_iff_eq.mp ticket, beq_iff_eq.mp queued,
    beq_iff_eq.mp clients, intake.batch, _, corresponding⟩

end History
end Bayeux
