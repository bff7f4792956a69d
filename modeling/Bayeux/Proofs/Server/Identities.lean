import Bayeux.Proofs.Server.Handling
import Bayeux.Proofs.Server.Replies

namespace Bayeux

/-!
# Which sessions a response names

The id of a session is the only credential of its client, so that nobody else may learn it.
What is queued for a client names no session at all, because subscribers see a message that was
made anew of four of its fields.  And a reply names the session that its own message names, or the
one that was opened by it.  So a response names no session but those that its own
request named and those that were opened for it.
-/

/-! ## Where a name in a message stands -/

/-- In a message of known members only, a session is named by the field for it. -/
theorem Message.clientId_of_mem_members {m : Message} (plain : m.other = []) {value : Json.Value}
    (listed : ("clientId", value) ∈ m.members) :
    ∃ id, m.clientId = some id ∧ value = .string id.text := by
  have all : m.members = Json.Members.named Field.name m.written Field.all ++ m.other :=
    Json.Value.object.inj m.value_eq
  rw [all, plain, List.append_nil] at listed
  rcases Json.Members.exists_of_mem_named listed with ⟨field, _, writes, name⟩
  have own : field = .clientId := by
    have known := ofName?_name field
    rw [← name] at known
    exact (Option.some.inj known).symm
  rw [own] at writes
  rcases Option.map_eq_some_iff.mp writes with ⟨id, named, same⟩
  exact ⟨id, named, same.symm⟩

/-- The sessions that a request may be told of: those that its messages name, and those that its
handshakes open, when some ids have been handed out before. -/
inductive Batch.Names (mint : Nat → ClientId) (issued : Nat) (batch : Batch) (id : ClientId) :
    Prop where
  | carried {m : Message} (member : m ∈ batch) (named : m.clientId = some id)
  | minted {earlier later : Batch} {m : Message} (split : batch = earlier ++ m :: later)
    (opens : m.isHandshake = true)
    (own : id = mint (issued + earlier.countP Message.isHandshake))

namespace Engine

/-! ## Queues -/

/-- Every message in a queue consists of a channel, an id, data and extensions. -/
theorem Reachable.queues {mint : Nat → ClientId} {e : Engine} (reachable : e.Reachable mint) :
    e.Queues fun m => m = published m := by
  induction reachable with
  | start => exact .empty _
  | answer _ m inductionHypothesis => exact inductionHypothesis.answer mint rfl
  | publish _ channel data inductionHypothesis =>
      have own : published { channel, data := some data } = { channel, data := some data } := rfl
      exact inductionHypothesis.broadcast own.symm
  | act _ id act inductionHypothesis =>
      cases act with
      | takeQueue => exact inductionHypothesis.change_drained id
      | startBatch => exact inductionHypothesis.change_of_keepsQueue Session.keepsQueue_startBatch id
      | endBatch => exact inductionHypothesis.change_of_keepsQueue Session.keepsQueue_endBatch id
      | await ticket =>
          exact inductionHypothesis.change_of_keepsQueue (Session.keepsQueue_await ticket) id
      | resume ticket =>
          exact inductionHypothesis.change_of_keepsQueue (Session.keepsQueue_resume ticket) id
      | leave ticket =>
          exact inductionHypothesis.change_of_keepsQueue (Session.keepsQueue_leave ticket) id

/-! ## Replies -/

section Answers

variable {mint : Nat → ClientId} (e : Engine)

theorem issued_broadcast (m : Message) : (e.broadcast m).issued = e.issued :=
  broadcast_induction (·.issued = e.issued) (fun kept id => (issued_change _ id _).trans kept) rfl

/-- One id is handed out for every handshake. -/
theorem issued_answer (m : Message) :
    (e.answer mint m).2.issued = e.issued + if m.isHandshake then 1 else 0 := by
  have answered := answer_answered mint e m
  generalize (e.answer mint m).1 = reply, (e.answer mint m).2 = next at answered
  have other : m.isHandshake = false → next.issued = e.issued →
      next.issued = e.issued + if m.isHandshake then 1 else 0 := by
    intro other same
    simp [other, same]
  cases answered with
  | refused named => exact other named rfl
  | opened named => simp [Message.isHandshake, named, handshake]
  | connected named =>
      exact other (isHandshake_of_channel named (by decide)) (e.issued_change _ _)
  | departed named | subscribed named | unsubscribed named =>
      exact other (isHandshake_of_channel named (by decide)) rfl
  | relayed application =>
      refine other (Bool.eq_false_iff.mpr fun handshake => ?_) (e.issued_broadcast _)
      have ofProtocol := isMeta_of_channel (beq_iff_eq.mp handshake) (by decide)
      rw [application] at ofProtocol
      cases ofProtocol

theorem ReplyForm.clientId_of_quiet {e : Engine} {m reply : Message} (form : ReplyForm mint e m reply)
    (quiet : ¬ m.isHandshake = true) : reply.clientId = m.clientId := by
  cases form with
  | opened opens => exact absurd opens quiet
  | stranger | refused | accepted => rfl

/-- A reply names the session that its message names, or the one that was opened by it. -/
theorem clientId_answer (m : Message) :
    (e.answer mint m).1.clientId = if m.isHandshake then some (mint e.issued) else m.clientId := by
  by_cases opens : m.isHandshake = true
  · rw [if_pos opens, answer, if_pos (beq_iff_eq.mp opens)]
    rfl
  · rw [if_neg opens]
    exact (e.answer_replyForm mint m).clientId_of_quiet opens

theorem clientId_advised (o : TransportOptions) (m reply : Message) :
    (o.advised m reply).clientId = reply.clientId := by
  unfold TransportOptions.advised
  split
  · exact Surroundings.adviseConnect_clientId o reply
  · rfl

theorem isReply_advised (o : TransportOptions) (m : Message) {reply : Message}
    (isReply : reply.IsReply) : (o.advised m reply).IsReply := by
  unfold TransportOptions.advised
  split
  · exact TransportOptions.isReply_adviseConnect isReply o
  · exact isReply

/-- The names among the messages that follow are names of the batch. -/
theorem names_cons {m : Message} {rest : Batch} {id : ClientId}
    (names : Batch.Names mint (e.answer mint m).2.issued rest id) :
    Batch.Names mint e.issued (m :: rest) id := by
  cases names with
  | carried member named => exact .carried (List.mem_cons_of_mem m member) named
  | @minted earlier later n split opens own =>
      refine .minted (List.cons_append ▸ congrArg (m :: ·) split) opens ?_
      rw [own, issued_answer, List.countP_cons, Nat.add_assoc]
      congr 2
      exact Nat.add_comm _ _

/-- The replies to a batch name sessions of the batch, and are of known members only. -/
theorem names_repliesTo (o : TransportOptions) (batch : Batch) :
    ∀ reply ∈ e.repliesTo mint o batch, reply.IsReply ∧
      ∀ id, reply.clientId = some id → Batch.Names mint e.issued batch id := by
  induction batch generalizing e with
  | nil => exact List.forall_mem_nil _
  | cons m rest inductionHypothesis =>
      change ∀ reply ∈ o.advised m (e.answer mint m).1 ::
        (e.answer mint m).2.repliesTo mint o rest, _
      refine List.forall_mem_cons.mpr ⟨⟨?_, ?_⟩, ?_⟩
      · exact isReply_advised o m (e.answer_replyForm mint m).isReply
      · intro id known
        rw [clientId_advised, clientId_answer] at known
        split at known
        next opens =>
          exact .minted (List.nil_append _).symm opens (Option.some.inj known).symm
        next => exact .carried List.mem_cons_self known
      · intro reply member
        rcases inductionHypothesis (e.answer mint m).2 reply member with ⟨isReply, names⟩
        exact ⟨isReply, fun id known => e.names_cons (names id known)⟩

end Answers
end Engine

theorem TransportOptions.clientId_adviseRejected (o : TransportOptions) (browserKnown : Bool)
    (reply : Message) : (o.adviseRejected browserKnown reply).clientId = reply.clientId := by
  unfold adviseRejected
  simp only []
  split <;> rfl

namespace Server

variable {mint : Nat → ClientId} {s : Server}

theorem issued_opened (s : Server) (t : Transport) (batch : Batch) :
    (s.opened t batch).issued = s.engine.issued := by
  unfold opened
  split
  · exact s.engine.issued_change _ _
  · rfl

/-- A reply of known members that names nobody but sessions of its own batch. -/
def Owns (s : Server) (mint : Nat → ClientId) (batch : Batch) (reply : Message) : Prop :=
  reply.IsReply ∧ ∀ id, reply.clientId = some id → Batch.Names mint s.engine.issued batch id

theorem owns_plainExchange (s : Server) (mint : Nat → ClientId) (t : Transport) (a : Arrival)
    (batch : Batch) : ∀ reply ∈ (s.plainExchange mint t a batch).replies, s.Owns mint batch reply := by
  unfold Owns
  rw [← s.issued_opened t batch]
  exact (s.opened t batch).names_repliesTo t.options batch

theorem owns_rejection (s : Server) (mint : Nat → ClientId) (t : Transport) (a : Arrival)
    (batch : Batch) (index : Nat) :
    ∀ reply ∈ (rejection t a index (s.plainExchange mint t a batch)).replies,
      s.Owns mint batch reply := by
  refine forall_mem_modify (s.owns_plainExchange mint t a batch) ?_ index
  rintro reply ⟨isReply, names⟩
  refine ⟨TransportOptions.isReply_adviseRejected isReply t.options _, fun id known => ?_⟩
  rw [TransportOptions.clientId_adviseRejected] at known
  exact names id known

/-- Whatever becomes of a batch, only its own request is held or answered, with replies that name
nobody but sessions of the batch, after messages that name nobody. -/
theorem Dealt.owns {next : Server} {a : Arrival} {route : Route} {batch : Batch}
    (dealt : Dealt mint s a route batch next) (reachable : s.engine.Reachable mint) :
    (∀ held ∈ next.held, held ∈ s.held ∨
      held.ticket = a.ticket ∧ ∀ reply ∈ held.replies, s.Owns mint batch reply) ∧
      ∀ answer ∈ next.answered, answer ∈ s.answered ∨
        answer.ticket = a.ticket ∧ (∀ reply ∈ answer.exchange.replies, s.Owns mint batch reply) ∧
          ∀ m ∈ answer.exchange.queued, m = Engine.published m := by
  refine ⟨fun held member => ?_, fun answer member => ?_⟩
  · refine (dealt.held_or_new held member).imp_right ?_
    rintro ⟨t, client, _, rfl⟩
    exact ⟨rfl, s.owns_plainExchange mint t a batch⟩
  · refine (dealt.answered_or_new answer member).imp_right ?_
    rintro ⟨ticket, t, _, replies, queued⟩
    refine ⟨ticket, ?_, ?_⟩
    · rcases replies with same | ⟨index, same⟩
      · exact same ▸ s.owns_plainExchange mint t a batch
      · exact same ▸ s.owns_rejection mint t a batch index
    · rcases queued with nothing | ⟨client, same⟩
      · exact nothing ▸ List.forall_mem_nil _
      · exact same ▸ (reachable_served reachable t batch).queues client

end Server

namespace History

/-- Some replies are to a request that came in during a run under a ticket, and they name nobody
but sessions of that request. -/
def Traced (mint : Nat → ClientId) (h : History) (events : List ServerEvent) (ticket : Nat)
    (replies : Batch) : Prop :=
  ∃ before event after intake, events = before ++ event :: after ∧
    (h.run { mint } before).nextTicket = ticket ∧
    (h.run { mint } before).intake? event = some intake ∧
    ∀ reply ∈ replies, (h.run { mint } before).server.Owns mint intake.batch reply

/-- The replies that a server keeps or has sent are traced, and nobody is named in what it has
taken from queues. -/
structure Discreet (mint : Nat → ClientId) (h : History) (events : List ServerEvent) : Prop where
  held : ∀ held ∈ (h.run { mint } events).server.held,
    h.Traced mint events held.ticket held.replies
  answered : ∀ a ∈ (h.run { mint } events).server.answered,
    h.Traced mint events a.ticket a.exchange.replies ∧
      ∀ m ∈ a.exchange.queued, m = Engine.published m

variable {mint : Nat → ClientId} {h : History} {events : List ServerEvent}
  {settings : ConnectionType → Option TransportOptions}

theorem Traced.append {ticket : Nat} {replies : Batch} (traced : h.Traced mint events ticket replies)
    (event : ServerEvent) : h.Traced mint (events ++ [event]) ticket replies := by
  rcases traced with ⟨before, first, after, intake, split, rest⟩
  refine ⟨before, first, after ++ [event], intake, ?_, rest⟩
  rw [split, List.append_assoc, List.cons_append]

/-- Each event keeps what is traced, and what it adds is traced to it. -/
theorem Discreet.step (discreet : Discreet mint h events)
    (inOrder : (h.run { mint } events).InOrder mint settings)
    (distinct : Function.Injective mint) (event : ServerEvent) :
    Discreet mint h (events ++ [event]) := by
  have reached : h.run { mint } (events ++ [event]) = (h.run { mint } events).step { mint } event :=
    run_append { mint } h events [event]
  have held : ∀ held ∈ (h.run { mint } events).server.held,
      h.Traced mint (events ++ [event]) held.ticket held.replies :=
    fun held member => (discreet.held held member).append event
  have answered : ∀ a ∈ (h.run { mint } events).server.answered,
      h.Traced mint (events ++ [event]) a.ticket a.exchange.replies ∧
        ∀ m ∈ a.exchange.queued, m = Engine.published m :=
    fun a member => ⟨(discreet.answered a member).1.append event, (discreet.answered a member).2⟩
  have queues := inOrder.attends.reachable.queues
  cases step_handled inOrder distinct event with
  | quiet heldSame answeredSame =>
      exact ⟨by rwa [reached, heldSame], by rwa [reached, answeredSame]⟩
  | @dealt intake freshBrowser taken dealt =>
      rcases dealt.owns inOrder.attends.reachable with ⟨newHeld, newAnswered⟩
      have traced : ∀ replies : Batch, (∀ reply ∈ replies,
          (h.run { mint } events).server.Owns mint intake.batch reply) →
            h.Traced mint (events ++ [event]) (h.run { mint } events).nextTicket replies :=
        fun replies owned => ⟨events, event, [], intake, rfl, rfl, taken, owned⟩
      constructor
      · rw [reached]
        intro request member
        rcases newHeld request member with earlier | ⟨own, owned⟩
        · exact held request earlier
        · exact own ▸ traced request.replies owned
      · rw [reached]
        intro a member
        rcases newAnswered a member with earlier | ⟨own, owned, quiet⟩
        · exact answered a earlier
        · exact ⟨own ▸ traced a.exchange.replies owned, quiet⟩
  | @completed request member _ remaining newAnswered =>
      constructor
      · rw [reached, remaining]
        exact fun other listed => held other (List.mem_of_mem_filter listed)
      · rw [reached, newAnswered]
        exact List.forall_mem_append.mpr ⟨answered,
          List.forall_mem_singleton.mpr ⟨held request member, queues request.client⟩⟩
  | dropped _ remaining answeredSame =>
      constructor
      · rw [reached, remaining]
        exact fun other listed => held other (List.mem_of_mem_filter listed)
      · rwa [reached, answeredSame]

theorem run_discreet (inOrder : h.InOrder mint settings) (distinct : Function.Injective mint)
    (fresh : Discreet mint h []) (events : List ServerEvent) : Discreet mint h events := by
  induction events using List.reverseRecOn with
  | nil => exact fresh
  | append_singleton events event inductionHypothesis =>
      exact inductionHypothesis.step (inOrder.run distinct events) distinct event

/-- In every run of a server, every message in the queue of a session, live or departed, is made
of a channel, an id, data and extensions, and of nothing else.  And every response consists of
such messages and of replies to the request that it answers: whatever session is named in one of
its messages was named in a message of that request, or was opened by a handshake in it under
an id that nobody had. -/
theorem run_keeps_ids {path : String} {endpoint : EndpointContext} {codec : CodecChoice}
    {settings : List (ConnectionType × Except ConfigError TransportOptions)} {start : Server}
    (assembled : Server.assemble path endpoint codec settings = .ok start)
    {mint : Nat → ClientId} (distinct : Function.Injective mint) (events : List ServerEvent) :
    let last := run { mint } { server := start } events
    (∀ id s, last.server.engine.known? id = some s → ∀ m ∈ s.queue,
        m = { channel := m.channel, id := m.id, data := m.data, ext := m.ext }) ∧
      ∀ a ∈ last.server.answered,
        (∃ writer : Codec, (last.server.replyTo a).body =
          a.route.callback.elim (writer.encode a.exchange.messages) fun name =>
            name ++ "(" ++ writer.encode a.exchange.messages ++ ")") ∧
        (∀ m ∈ a.exchange.queued,
          m = { channel := m.channel, id := m.id, data := m.data, ext := m.ext }) ∧
        ∃ before event after intake, events = before ++ event :: after ∧
          let h := run { mint } { server := start } before
          h.nextTicket = a.ticket ∧ h.intake? event = some intake ∧
            (∀ m ∈ a.exchange.messages, ∀ value, ("clientId", value) ∈ m.members →
              ∃ id, value = .string id.text ∧
                intake.batch.Names mint h.server.engine.issued id) ∧
            ∀ n, h.server.engine.known? (mint (h.server.engine.issued + n)) = none := by
  intro last
  have first := InOrder.start assembled mint
  have none : Discreet mint { server := start } [] := by
    rcases Server.assemble_spec assembled with ⟨transports, made, _⟩
    subst made
    exact ⟨List.forall_mem_nil _, List.forall_mem_nil _⟩
  have discreet := run_discreet first distinct none events
  refine ⟨fun id s known m member => ?_, fun a member => ?_⟩
  · apply (first.run distinct events).attends.reachable.queues id m
    unfold Engine.queueOf
    rw [known]
    exact member
  · rcases discreet.answered a member with
      ⟨⟨before, event, after, intake, split, ticket, taken, owned⟩, queued⟩
    refine ⟨⟨_, a.exchange.body_eq _ a.route⟩, queued, before, event, after, intake, split, ticket,
      taken, ?_, ?_⟩
    · intro m inside value listed
      rcases List.mem_append.mp inside with queuedThere | replied
      · have plain : m.other = [] := by rw [queued m queuedThere]; rfl
        rcases Message.clientId_of_mem_members plain listed with ⟨id, named, _⟩
        rw [queued m queuedThere] at named
        cases named
      · rcases owned m replied with ⟨isReply, names⟩
        rcases Message.clientId_of_mem_members isReply.other listed with ⟨id, named, same⟩
        exact ⟨id, same, names id named⟩
    · have minted := (first.run distinct before).attends.reachable.minted distinct
      exact fun n => minted.unused distinct (Nat.le_add_right _ n)

/-- The second of two clients says something on a channel of the first.  The first is told what
was said, and not by whom. -/
theorem run_keeps_ids_of_publisher :
    let start : Server :=
      { path := "/", transports := .ofList [(.longPolling, .ofOptions {} .compact)] }
    let mint := fun n => (⟨String.ofList (List.replicate n 'c')⟩ : ClientId)
    let hand := fun batch => ServerEvent.batch
      { request := { target := .ofText "/" }, route := { type := .longPolling }, batch } ⟨"x"⟩
    let ask := fun channel => ({ channel, clientId := some ⟨""⟩, subscription := some "/a" } :
      Message)
    let say : Message := { channel := "/a", id := some "1", clientId := some ⟨"c"⟩ }
    let events := [hand [{ channel := Channel.handshake }], hand [ask Channel.subscribe],
      hand [{ channel := Channel.handshake }, say], hand [ask Channel.connect]]
    let last := run { mint } { server := start } events
    Server.assemble "/" {} .default [(.longPolling, .ok {})] = .ok start ∧
      Function.Injective mint ∧
      ∃ a ∈ last.server.answered, a.ticket = 3 ∧ a.exchange.queued.map Message.id = [some "1"] ∧
        ∀ m ∈ a.exchange.queued, m.clientId = none := by
  intro start mint hand ask say events last
  have assembled : Server.assemble "/" {} .default [(.longPolling, .ok {})] = .ok start := rfl
  have distinct : Function.Injective mint := ClientId.injective_replicate 'c'
  have told : last.server.answered.any fun a =>
      a.ticket == 3 && a.exchange.queued.map Message.id == [some "1"] := by decide +kernel
  rcases List.any_eq_true.mp told with ⟨a, member, known⟩
  rcases Bool.and_eq_true_iff.mp known with ⟨ticket, queued⟩
  rcases (run_keeps_ids assembled distinct events).2 a member with ⟨_, plain, _⟩
  refine ⟨assembled, distinct, a, member, beq_iff_eq.mp ticket, beq_iff_eq.mp queued, ?_⟩
  intro m inside
  rw [plain m inside]

end History
end Bayeux
