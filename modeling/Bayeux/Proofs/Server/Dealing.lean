import Bayeux.Proofs.Engine.Waiting
import Bayeux.Proofs.Server.Delivery

namespace Bayeux

/-!
# What becomes of a batch without extensions

Without extensions every message is answered, by the engine, so a batch has four outcomes.
Its connection type is not served, its request is held, its connect is turned away, or it is
answered with the queue of the client that its last connect is for.  A hold is
considered when three things are so: the session was connected when the last connect came,
it still is when the whole batch has been answered, and then nothing is queued for it.
-/

/-! ## The replies -/

namespace TransportOptions

/-- The reply to a message, with the advice that belongs to a connect. -/
def advised (o : TransportOptions) (m reply : Message) : Message :=
  if m.isConnect then o.adviseConnect reply else reply

end TransportOptions

namespace Engine

/-- The replies to a batch under some settings. -/
def repliesTo (mint : Nat → ClientId) (o : TransportOptions) (e : Engine) (batch : Batch) :
    Batch :=
  List.zipWith o.advised batch (answerAll mint e batch).1

theorem sender?_of_named (e : Engine) {m : Message} {id : ClientId}
    (named : m.clientId = some id) : e.sender? m = e.session? id := by
  unfold sender?
  rw [named, Option.bind_some]

theorem answer_of_isConnect (mint : Nat → ClientId) (e : Engine) {m : Message}
    (connects : m.isConnect = true) : e.answer mint m = e.connect m := by
  have named : m.channel = Channel.connect := beq_iff_eq.mp connects
  unfold answer
  rw [if_neg (by rw [named]; decide), if_pos named]

/-- A connect succeeds if its client has a live session, and only then. -/
theorem isSuccessful_connect (mint : Nat → ClientId) (e : Engine) {m : Message}
    (connects : m.isConnect = true) :
    (e.answer mint m).1.isSuccessful = (e.sender? m).isSome := by
  rw [answer_of_isConnect mint e connects]
  unfold connect
  cases e.sender? m <;> rfl

end Engine

namespace Surroundings

variable (mint : Nat → ClientId) (o : TransportOptions)

/-- The answer to a message without extensions. -/
def plainAnswer (e : Engine) (m : Message) : Answer :=
  { reply := o.advised m (e.answer mint m).1
    wasConnected :=
      if m.isConnect then some ((e.sender? m).any Session.connected) else none }

def plainAnswers : Engine → Batch → List Answer
  | _, [] => []
  | e, m :: rest => plainAnswer mint o e m :: plainAnswers (e.answer mint m).2 rest

theorem answers?_eq (r : Request) (e : Engine) (batch : Batch) :
    answers? { mint } o r e batch =
      (some (plainAnswers mint o e batch), (Engine.answerAll mint e batch).2) := by
  induction batch generalizing e with
  | nil => rfl
  | cons m rest inductionHypothesis =>
      have first : answer? { mint } o r e m =
          (some (plainAnswer mint o e m), (e.answer mint m).2) := by
        unfold answer? reply? plainAnswer TransportOptions.advised
        cases m.isConnect <;> rfl
      unfold answers?
      rw [first]
      simp only [inductionHypothesis]
      rfl

theorem replies_plainAnswers (e : Engine) (batch : Batch) :
    (plainAnswers mint o e batch).map Answer.reply = e.repliesTo mint o batch := by
  induction batch generalizing e with
  | nil => rfl
  | cons m rest inductionHypothesis =>
      exact congrArg (o.advised m (e.answer mint m).1 :: ·) (inductionHypothesis _)

theorem plainAnswers_append (e : Engine) (earlier later : Batch) :
    plainAnswers mint o e (earlier ++ later) =
      plainAnswers mint o e earlier ++
        plainAnswers mint o (Engine.answerAll mint e earlier).2 later := by
  induction earlier generalizing e with
  | nil => rfl
  | cons m rest inductionHypothesis =>
      exact congrArg (plainAnswer mint o e m :: ·) (inductionHypothesis _)

theorem length_plainAnswers (e : Engine) (batch : Batch) :
    (plainAnswers mint o e batch).length = batch.length := by
  induction batch generalizing e with
  | nil => rfl
  | cons m rest inductionHypothesis => exact congrArg (· + 1) (inductionHypothesis _)

theorem getElem?_plainAnswers (e : Engine) (earlier : Batch) (m : Message) (later : Batch) :
    ((plainAnswers mint o e (earlier ++ m :: later)).map Answer.reply)[earlier.length]? =
      some (o.advised m ((Engine.answerAll mint e earlier).2.answer mint m).1) := by
  rw [plainAnswers_append, List.map_append, List.getElem?_append_right (by
    simp [length_plainAnswers])]
  simp [length_plainAnswers, plainAnswers, plainAnswer]

/-- Without a connect among the messages there is none among the answers. -/
theorem lastConnect?_plainAnswers_of_none {batch : Batch}
    (absent : ∀ m ∈ batch, m.isConnect = false) (e : Engine) :
    lastConnect? (plainAnswers mint o e batch) = none := by
  induction batch generalizing e with
  | nil => rfl
  | cons m rest inductionHypothesis =>
      rcases List.forall_mem_cons.mp absent with ⟨first, others⟩
      unfold plainAnswers lastConnect?
      rw [inductionHypothesis others]
      simp [plainAnswer, first]

end Surroundings

/-- The last connect comes before the answers among which there is none. -/
theorem lastConnect?_append {earlier later : List Answer} {answer : Answer} {was : Bool}
    (connects : answer.wasConnected = some was) (absent : lastConnect? later = none) :
    lastConnect? (earlier ++ answer :: later) = some (earlier.length, was) := by
  induction earlier with
  | nil => simp only [List.nil_append, lastConnect?, absent, connects]; rfl
  | cons head rest inductionHypothesis =>
      simp only [List.cons_append, lastConnect?, inductionHypothesis]
      rfl

/-- A batch has no connect, or there is a last one. -/
theorem Batch.exists_last_connect (batch : Batch) :
    (∀ m ∈ batch, m.isConnect = false) ∨
      ∃ earlier m later, batch = earlier ++ m :: later ∧ m.isConnect = true ∧
        ∀ n ∈ later, n.isConnect = false := by
  induction batch with
  | nil => exact .inl (List.forall_mem_nil _)
  | cons m rest inductionHypothesis =>
      rcases inductionHypothesis with absent | ⟨earlier, n, later, split, connects, last⟩
      · cases connects : m.isConnect with
        | true => exact .inr ⟨[], m, rest, rfl, connects, absent⟩
        | false => exact .inl (List.forall_mem_cons.mpr ⟨connects, absent⟩)
      · exact .inr ⟨m :: earlier, n, later, congrArg (m :: ·) split, connects, last⟩

theorem Batch.connect?_of_none {batch : Batch} (absent : ∀ m ∈ batch, m.isConnect = false) :
    Batch.connect? batch = none := by
  simpa [Batch.connect?] using absent

theorem Batch.connect?_of_split {earlier later : Batch} {m : Message}
    (connects : m.isConnect = true) (last : ∀ n ∈ later, n.isConnect = false) :
    Batch.connect? (earlier ++ m :: later) = some m := by
  have absent : later.reverse.find? Message.isConnect = none := connect?_of_none last
  simp [Batch.connect?, List.find?_append, absent, connects]

/-! ## The last connect -/

/-- The last connect of a batch stands at a position and is for a client whose session is live
and connected just before the connect is answered.  When the whole batch has been answered the
session is live and connected still, and nothing is queued for it. -/
def Engine.Idles (e : Engine) (mint : Nat → ClientId) (batch : Batch) (index : Nat)
    (client : ClientId) : Prop :=
  ∃ earlier m later, batch = earlier ++ m :: later ∧ earlier.length = index ∧
    m.isConnect = true ∧ (∀ n ∈ later, n.isConnect = false) ∧ m.clientId = some client ∧
    (∃ s, (answerAll mint e earlier).2.session? client = some s ∧ s.connected = true) ∧
    ∃ s, (answerAll mint e batch).2.session? client = some s ∧ s.connected = true ∧ s.queue = []

/-- The live client that the last connect of a batch is for. -/
def Engine.taker? (e : Engine) (batch : Batch) : Option ClientId :=
  (batch.connect?.bind Message.clientId).filter fun id => (e.session? id).isSome

theorem TransportOptions.isSuccessful_adviseConnect (o : TransportOptions) (reply : Message) :
    (o.adviseConnect reply).isSuccessful = reply.isSuccessful := by
  unfold adviseConnect
  split <;> rfl

/-- A hold takes settings that allow one, and a session that was connected before the connect,
is connected, and has nothing to deliver. -/
theorem TransportOptions.mayHold_iff (o : TransportOptions) (mint : Nat → ClientId)
    (before : Engine) {m : Message} (connects : m.isConnect = true) (session : Session) :
    o.mayHold session (o.adviseConnect (before.answer mint m).1)
        ((before.sender? m).any Session.connected) = true ↔
      o.timeout ≠ 0 ∧ (before.sender? m).any Session.connected = true ∧
        session.connected = true ∧ session.queue = [] := by
  unfold mayHold
  rw [isSuccessful_adviseConnect, Engine.isSuccessful_connect mint before connects]
  cases before.sender? m with
  | none => simp
  | some sender =>
      simp only [Option.isSome_some, Bool.true_and, Option.any_some, Bool.and_eq_true,
        bne_iff_ne, List.isEmpty_iff]
      tauto

namespace Server

/-- The server when a batch has been answered and no queue has been taken. -/
def served (s : Server) (mint : Nat → ClientId) (t : Transport) (batch : Batch) : Server :=
  s.dispatched t batch (Engine.answerAll mint (s.opened t batch) batch).2

/-- The exchange of a batch before any queue is taken. -/
def plainExchange (s : Server) (mint : Nat → ClientId) (t : Transport) (a : Arrival)
    (batch : Batch) : Exchange :=
  { replies := (s.opened t batch).repliesTo mint t.options batch
    cookies :=
      if (a.request.browser? t.options.identity).isSome then []
      else [t.options.identity.cookie a.freshBrowser] }

section Served

variable (s : Server) (mint : Nat → ClientId) (t : Transport)

/-- To answer messages changes nothing but the engine. -/
theorem exists_served_eq (batch : Batch) :
    ∃ engine, s.served mint t batch = { s with engine } := by
  unfold served dispatched endBatch
  split <;> exact ⟨_, rfl⟩

@[simp] theorem held_served (batch : Batch) : (s.served mint t batch).held = s.held := by
  rcases s.exists_served_eq mint t batch with ⟨engine, same⟩
  rw [same]

@[simp] theorem answered_served (batch : Batch) :
    (s.served mint t batch).answered = s.answered := by
  rcases s.exists_served_eq mint t batch with ⟨engine, same⟩
  rw [same]

@[simp] theorem now_served (batch : Batch) : (s.served mint t batch).now = s.now := by
  rcases s.exists_served_eq mint t batch with ⟨engine, same⟩
  rw [same]

theorem bareExchange_plain (a : Arrival) (batch : Batch) :
    bareExchange t a (Surroundings.plainAnswers mint t.options (s.opened t batch) batch) =
      s.plainExchange mint t a batch := by
  unfold bareExchange plainExchange
  rw [Surroundings.replies_plainAnswers]

/-- The batch of the replies is closed when all messages have been answered. -/
theorem session?_served (batch : Batch) (id : ClientId) :
    (s.served mint t batch).engine.session? id =
      ((Engine.answerAll mint (s.opened t batch) batch).2.session? id).map fun session =>
        if s.batchOn t.options batch = some id then session.endBatch else session := by
  unfold served dispatched endBatch
  cases s.batchOn t.options batch with
  | none => simp
  | some own =>
      simp only [Engine.session?_change]
      by_cases same : id = own
      · simp [same]
      · simp [same, Ne.symm same]

theorem exists_served {batch : Batch} {id : ClientId} {session : Session}
    (live : (s.served mint t batch).engine.session? id = some session) :
    ∃ before, (Engine.answerAll mint (s.opened t batch) batch).2.session? id = some before ∧
      session.connected = before.connected ∧ session.queue = before.queue := by
  rw [session?_served] at live
  rcases Option.map_eq_some_iff.mp live with ⟨before, found, rfl⟩
  refine ⟨before, found, ?_⟩
  split
  · exact ⟨(SessionAct.endBatch.flags_apply before).1, (Session.keepsQueue_endBatch before).2⟩
  · exact ⟨rfl, rfl⟩

theorem isSome_served (batch : Batch) (id : ClientId) :
    ((s.served mint t batch).engine.session? id).isSome =
      ((Engine.answerAll mint (s.opened t batch) batch).2.session? id).isSome := by
  rw [session?_served, Option.isSome_map]

theorem queueOf_served (batch : Batch) (id : ClientId) :
    (s.served mint t batch).engine.queueOf id =
      (Engine.answerAll mint (s.opened t batch) batch).2.queueOf id := by
  unfold served dispatched endBatch
  cases s.batchOn t.options batch with
  | none => rfl
  | some own => exact Engine.queueOf_change_of_keepsQueue _ Session.keepsQueue_endBatch own id

theorem liveConnect?_of_none {batch : Batch} (absent : ∀ m ∈ batch, m.isConnect = false) :
    (s.served mint t batch).liveConnect?
      (Surroundings.plainAnswers mint t.options (s.opened t batch) batch) = none := by
  unfold liveConnect?
  rw [Surroundings.lastConnect?_plainAnswers_of_none mint t.options absent]
  rfl

/-- What is known of the last connect of a batch when all its messages have been answered. -/
theorem liveConnect?_of_split {earlier later : Batch} {m : Message}
    (connects : m.isConnect = true) (last : ∀ n ∈ later, n.isConnect = false) :
    let batch := earlier ++ m :: later
    let before := (Engine.answerAll mint (s.opened t batch) earlier).2
    (s.served mint t batch).liveConnect?
        (Surroundings.plainAnswers mint t.options (s.opened t batch) batch) =
      ((s.served mint t batch).engine.sender? m).map fun session =>
        (earlier.length, (before.sender? m).any Session.connected,
          t.options.adviseConnect (before.answer mint m).1, session) := by
  intro batch before
  let answer := Surroundings.plainAnswer mint t.options before m
  have own : answer.wasConnected = some ((before.sender? m).any Session.connected) :=
    if_pos connects
  have listed : Surroundings.plainAnswers mint t.options (s.opened t batch) batch =
      Surroundings.plainAnswers mint t.options (s.opened t batch) earlier ++
        answer :: Surroundings.plainAnswers mint t.options (before.answer mint m).2 later :=
    Surroundings.plainAnswers_append mint t.options _ earlier (m :: later)
  have found : lastConnect? (Surroundings.plainAnswers mint t.options (s.opened t batch) batch) =
      some (earlier.length, (before.sender? m).any Session.connected) := by
    rw [listed, lastConnect?_append own
      (Surroundings.lastConnect?_plainAnswers_of_none mint t.options last _),
      Surroundings.length_plainAnswers]
  have position := Surroundings.getElem?_plainAnswers mint t.options (s.opened t batch) earlier m
    later
  rw [TransportOptions.advised, if_pos connects] at position
  have named : (t.options.adviseConnect (before.answer mint m).1).clientId = m.clientId := by
    rw [Surroundings.adviseConnect_clientId, Engine.answer_of_isConnect mint before connects,
      Surroundings.connect_clientId]
  have sender : (s.served mint t batch).engine.sender?
      (t.options.adviseConnect (before.answer mint m).1) =
        (s.served mint t batch).engine.sender? m := by
    unfold Engine.sender?
    rw [named]
  unfold liveConnect?
  rw [found, Option.bind_some]
  simp only [batch, position, Option.bind_some]
  exact congrArg (Option.map _) sender

end Served

/-! ## The outcomes -/

/-- Answers a request with the queue of a session. -/
def concludeFrom (s : Server) (client : ClientId) (a : Arrival) (route : Route)
    (exchange : Exchange) : Server :=
  (s.drain client exchange).2.conclude a.ticket route (s.drain client exchange).1

theorem answered_concludeFrom (s : Server) (client : ClientId) (a : Arrival) (route : Route)
    (exchange : Exchange) :
    (s.concludeFrom client a route exchange).answered = s.answered ++
      [{ ticket := a.ticket, time := s.now, route
         exchange := { exchange with
          session := some client
          queued := s.engine.queueOf client } }] :=
  rfl

theorem queueOf_concludeFrom (s : Server) (client : ClientId) (a : Arrival) (route : Route)
    (exchange : Exchange) (id : ClientId) :
    (s.concludeFrom client a route exchange).engine.queueOf id =
      if id = client then [] else s.engine.queueOf id :=
  s.engine.queueOf_change_drained client id

/-- What a server can be after it was handed a batch, without extensions. -/
inductive Dealt (mint : Nat → ClientId) (s : Server) (a : Arrival) (route : Route)
    (batch : Batch) : Server → Prop where
  | unserved (absent : s.transports.get? route.type = none) : Dealt mint s a route batch s
  | suspended {t : Transport} {index : Nat} {client : ClientId} {session : Session}
    (found : s.transports.get? route.type = some t) (timed : t.options.timeout ≠ 0)
    (idles : (s.opened t batch).Idles mint batch index client)
    (known : (s.served mint t batch).engine.known? client = some session)
    (connected : session.connected = true) (asleep : session.ready = false)
    (granted : (t.grant a.request (a.request.browser? t.options.identity)).1 = true) :
    Dealt mint s a route batch
      (((s.served mint t batch).asked t a route).waiting
        ((s.served mint t batch).heldRequest t a route client
          (s.plainExchange mint t a batch)))
  | rejected {t : Transport} {index : Nat} {client : ClientId}
    (found : s.transports.get? route.type = some t) (timed : t.options.timeout ≠ 0)
    (idles : (s.opened t batch).Idles mint batch index client)
    (refused : (t.grant a.request (a.request.browser? t.options.identity)).1 = false) :
    Dealt mint s a route batch
      (((s.served mint t batch).asked t a route).concludeFrom client a route
        (rejection t a index (s.plainExchange mint t a batch)))
  | delivered {t : Transport} (found : s.transports.get? route.type = some t)
    (busy : t.options.timeout = 0 ∨
      ∀ index client, ¬ (s.opened t batch).Idles mint batch index client)
    (nobody : (Engine.answerAll mint (s.opened t batch) batch).2.taker? batch = none) :
    Dealt mint s a route batch
      ((s.served mint t batch).conclude a.ticket route (s.plainExchange mint t a batch))
  | taken {t : Transport} {client : ClientId} (found : s.transports.get? route.type = some t)
    (busy : t.options.timeout = 0 ∨
      ∀ index client, ¬ (s.opened t batch).Idles mint batch index client)
    (taker : (Engine.answerAll mint (s.opened t batch) batch).2.taker? batch = some client) :
    Dealt mint s a route batch
      ((s.served mint t batch).concludeFrom client a route (s.plainExchange mint t a batch))

section Outcomes

variable {mint : Nat → ClientId} {s : Server}

theorem reachable_opened (reachable : s.engine.Reachable mint) (t : Transport) (batch : Batch) :
    (s.opened t batch).Reachable mint := by
  unfold opened
  split
  · exact reachable.act _ .startBatch
  · exact reachable

theorem reachable_served (reachable : s.engine.Reachable mint) (t : Transport) (batch : Batch) :
    (s.served mint t batch).engine.Reachable mint := by
  have answered := (reachable_opened reachable t batch).answerAll batch
  unfold served dispatched endBatch
  split
  · exact answered.act _ .endBatch
  · exact answered

/-- A request whose session has nothing for it goes to sleep. -/
theorem hold_of_idle {held : HeldRequest} {session : Session}
    (known : s.engine.known? held.client = some session) (idle : session.ready = false) :
    s.hold held = s.waiting held := by
  rw [hold_eq, if_pos]
  rw [Engine.isWaiting_iff]
  change held.ticket ∈ (s.engine.change held.client (·.await held.ticket)).waitingOn held.client
  rw [Engine.waitingOn_change_await known, if_pos ⟨rfl, idle⟩]
  exact List.mem_append_right _ List.mem_cons_self

variable {t : Transport} {batch : Batch}

/-- Without a live connect the batch is nobody's. -/
theorem taker?_eq_none
    (absent : (s.served mint t batch).liveConnect?
      (Surroundings.plainAnswers mint t.options (s.opened t batch) batch) = none) :
    (Engine.answerAll mint (s.opened t batch) batch).2.taker? batch = none := by
  unfold Engine.taker?
  rcases Batch.exists_last_connect batch with quiet | ⟨earlier, m, later, split, connects, last⟩
  · rw [Batch.connect?_of_none quiet]
    rfl
  · subst split
    rw [liveConnect?_of_split s mint t connects last, Option.map_eq_none_iff] at absent
    rw [Batch.connect?_of_split connects last, Option.bind_some]
    cases named : m.clientId with
    | none => rfl
    | some id =>
        rw [Engine.sender?_of_named _ named] at absent
        have gone := s.isSome_served mint t (earlier ++ m :: later) id
        rw [absent] at gone
        simp [Option.filter, ← gone]

section Connects

variable (reachable : s.engine.Reachable mint) (distinct : Function.Injective mint) {index : Nat}
  {was : Bool} {reply : Message} {session : Session}
  (connect : (s.served mint t batch).liveConnect?
    (Surroundings.plainAnswers mint t.options (s.opened t batch) batch) =
      some (index, was, reply, session))

include reachable distinct connect

/-- A live connect is the last of its batch. -/
theorem exists_split_of_liveConnect? :
    ∃ earlier m later, batch = earlier ++ m :: later ∧ earlier.length = index ∧
      m.isConnect = true ∧ (∀ n ∈ later, n.isConnect = false) ∧
      m.clientId = some session.id ∧
      (s.served mint t batch).engine.session? session.id = some session ∧
      was = ((Engine.answerAll mint (s.opened t batch) earlier).2.sender? m).any
        Session.connected ∧
      reply = t.options.adviseConnect
        ((Engine.answerAll mint (s.opened t batch) earlier).2.answer mint m).1 := by
  rcases Batch.exists_last_connect batch with quiet | ⟨earlier, m, later, split, connects, last⟩
  · rw [liveConnect?_of_none s mint t quiet] at connect
    cases connect
  · subst split
    rw [liveConnect?_of_split s mint t connects last] at connect
    rcases Option.map_eq_some_iff.mp connect with ⟨own, sender, same⟩
    cases same
    rcases Option.bind_eq_some_iff.mp sender with ⟨id, named, live⟩
    have minted := (reachable_served reachable t (earlier ++ m :: later)).minted distinct
    have own : session.id = id := minted.keyed id session (Engine.known?_of_session? live)
    exact ⟨earlier, m, later, rfl, rfl, connects, last, own ▸ named, own ▸ live, rfl, rfl⟩

/-- The queue that is taken is that of the client which the last connect is for. -/
theorem taker?_eq_some :
    (Engine.answerAll mint (s.opened t batch) batch).2.taker? batch = some session.id := by
  rcases exists_split_of_liveConnect? reachable distinct connect with
    ⟨earlier, m, later, split, _, connects, last, named, live, _⟩
  have still := s.isSome_served mint t batch session.id
  rw [live] at still
  unfold Engine.taker?
  rw [split, Batch.connect?_of_split connects last, Option.bind_some, named, ← split]
  simp [Option.filter, ← still]

/-- A connect that may be held idles. -/
theorem idles_of_mayHold (idle : t.options.mayHold session reply was = true) :
    t.options.timeout ≠ 0 ∧ (s.opened t batch).Idles mint batch index session.id ∧
      (s.served mint t batch).engine.session? session.id = some session ∧
      session.connected = true ∧ session.queue = [] := by
  rcases exists_split_of_liveConnect? reachable distinct connect with
    ⟨earlier, m, later, split, position, connects, last, named, live, before, replied⟩
  rw [before, replied] at idle
  rcases (t.options.mayHold_iff mint _ connects session).mp idle with
    ⟨timed, marked, connected, queue⟩
  rcases s.exists_served mint t live with ⟨after, found, flag, messages⟩
  rw [Engine.sender?_of_named _ named, Option.any_eq_true] at marked
  exact ⟨timed, ⟨earlier, m, later, split, position, connects, last, named, marked, after, found,
    flag.symm.trans connected, messages.symm.trans queue⟩, live, connected, queue⟩

end Connects

/-- A connect that idles may be held, if the settings allow a hold at all. -/
theorem mayHold_of_idles {index : Nat} {client : ClientId}
    (idles : (s.opened t batch).Idles mint batch index client)
    (timed : t.options.timeout ≠ 0) :
    ∃ was reply session, (s.served mint t batch).liveConnect?
        (Surroundings.plainAnswers mint t.options (s.opened t batch) batch) =
          some (index, was, reply, session) ∧
      t.options.mayHold session reply was = true := by
  rcases idles with ⟨earlier, m, later, split, position, connects, last, named,
    ⟨sender, there, marked⟩, after, found, connected, queue⟩
  subst split
  have live := s.session?_served mint t (earlier ++ m :: later) client
  rw [found, Option.map_some] at live
  rcases s.exists_served mint t live with ⟨own, same, flag, messages⟩
  cases found.symm.trans same
  let before := (Engine.answerAll mint (s.opened t (earlier ++ m :: later)) earlier).2
  have wasConnected : (before.sender? m).any Session.connected = true := by
    rw [before.sender?_of_named named, there]
    exact marked
  refine ⟨_, _, _, ?_, (t.options.mayHold_iff mint before connects _).mpr
    ⟨timed, wasConnected, flag.trans connected, messages.trans queue⟩⟩
  rw [liveConnect?_of_split s mint t connects last,
    (s.served mint t (earlier ++ m :: later)).engine.sender?_of_named named, live,
    Option.map_some, position]

/-- Without extensions a batch has one of these outcomes, whatever an engine has come to. -/
theorem process_dealt (reachable : s.engine.Reachable mint) (distinct : Function.Injective mint)
    (a : Arrival) (route : Route) (batch : Batch) :
    Dealt mint s a route batch (s.process { mint } a route batch) := by
  have outcome := process_processed { mint } s a route batch
  generalize s.process { mint } a route batch = result at outcome
  have busy : ∀ {t : Transport}, (∀ index was reply session,
      (s.served mint t batch).liveConnect?
          (Surroundings.plainAnswers mint t.options (s.opened t batch) batch) =
            some (index, was, reply, session) → t.options.mayHold session reply was = false) →
        t.options.timeout = 0 ∨
          ∀ index client, ¬ (s.opened t batch).Idles mint batch index client := by
    intro t never
    refine or_iff_not_imp_left.mpr fun timed index client idles => ?_
    rcases mayHold_of_idles idles timed with ⟨was, reply, session, connect, held⟩
    exact Bool.false_ne_true ((never _ _ _ _ connect).symm.trans held)
  cases outcome with
  | unserved absent => exact .unserved absent
  | stalled found dispatch =>
      rw [Surroundings.answers?_eq] at dispatch
      cases dispatch
  | unconnected found dispatch connect =>
      rw [Surroundings.answers?_eq] at dispatch
      cases dispatch
      rw [bareExchange_plain]
      refine .delivered found (busy ?_) (taker?_eq_none connect)
      intro index was reply session present
      cases present.symm.trans connect
  | @considered t engine answers index was reply session found dispatch connect idle =>
      rw [Surroundings.answers?_eq] at dispatch
      cases dispatch
      rcases idles_of_mayHold reachable distinct connect idle with
        ⟨timed, idles, live, connected, queue⟩
      rw [bareExchange_plain, consider_eq]
      split
      next granted =>
        have disconnected := (reachable_served reachable t batch).disconnected_of_live distinct live
        have ready : session.ready = false := by simp [Session.ready, disconnected, queue]
        have known := Engine.known?_of_session? live
        let asked := (s.served mint t batch).asked t a route
        let held := (s.served mint t batch).heldRequest t a route session.id
          (s.plainExchange mint t a batch)
        have sleeps : asked.hold held = asked.waiting held := hold_of_idle known ready
        rw [show s.dispatched t batch _ = s.served mint t batch from rfl, sleeps]
        exact .suspended found timed idles known connected ready granted
      next refused =>
        exact .rejected found timed idles (Bool.eq_false_iff.mpr refused)
  | ready found dispatch connect held =>
      rw [Surroundings.answers?_eq] at dispatch
      cases dispatch
      rw [bareExchange_plain]
      refine .taken found (busy ?_) (taker?_eq_some reachable distinct connect)
      intro index was reply session present
      cases present.symm.trans connect
      exact held

/-! ## What is held and answered -/

section Additions

variable {next : Server} {a : Arrival} {route : Route}

/-- Only the request of a batch is held anew. -/
theorem Dealt.held_or_new (dealt : Dealt mint s a route batch next) :
    ∀ held ∈ next.held, held ∈ s.held ∨
      ∃ t client, s.transports.get? route.type = some t ∧
        held = s.heldRequest t a route client (s.plainExchange mint t a batch) := by
  cases dealt with
  | unserved => exact fun _ member => .inl member
  | @suspended t index client session found =>
      refine List.forall_mem_append.mpr ⟨fun _ member => .inl (s.held_served mint t batch ▸ member), ?_⟩
      refine List.forall_mem_singleton.mpr (.inr ⟨t, client, found, ?_⟩)
      unfold heldRequest
      rw [now_served]
  | rejected | delivered | taken =>
      exact fun _ member => .inl (s.held_served mint _ batch ▸ member)

/-- Only the request of a batch is answered, with the replies to it, of which one may be that of a
connect that is turned away, and with one queue at the most. -/
theorem Dealt.answered_or_new (dealt : Dealt mint s a route batch next) :
    ∀ answer ∈ next.answered, answer ∈ s.answered ∨ answer.ticket = a.ticket ∧
      ∃ t, s.transports.get? route.type = some t ∧
        (answer.exchange.replies = (s.plainExchange mint t a batch).replies ∨
          ∃ index, answer.exchange.replies =
            (rejection t a index (s.plainExchange mint t a batch)).replies) ∧
        (answer.exchange.queued = [] ∨
          ∃ client, answer.exchange.queued = (s.served mint t batch).engine.queueOf client) := by
  have earlier : ∀ {t : Transport}, ∀ answer ∈ (s.served mint t batch).answered,
      answer ∈ s.answered :=
    fun _ member => s.answered_served mint _ batch ▸ member
  cases dealt with
  | unserved => exact fun _ member => .inl member
  | suspended => exact fun answer member => .inl (earlier answer member)
  | @rejected t index client found =>
      rw [answered_concludeFrom]
      refine List.forall_mem_append.mpr ⟨fun answer member => .inl (earlier answer member), ?_⟩
      exact List.forall_mem_singleton.mpr (.inr ⟨rfl, t, found, .inr ⟨index, rfl⟩,
        .inr ⟨client, rfl⟩⟩)
  | @delivered t found =>
      refine List.forall_mem_append.mpr ⟨fun answer member => .inl (earlier answer member), ?_⟩
      exact List.forall_mem_singleton.mpr (.inr ⟨rfl, t, found, .inl rfl, .inl rfl⟩)
  | @taken t client found =>
      rw [answered_concludeFrom]
      refine List.forall_mem_append.mpr ⟨fun answer member => .inl (earlier answer member), ?_⟩
      exact List.forall_mem_singleton.mpr (.inr ⟨rfl, t, found, .inl rfl, .inr ⟨client, rfl⟩⟩)

/-- A request is held or answered, not both. -/
theorem Dealt.held_or_answered (dealt : Dealt mint s a route batch next) :
    next.answered = s.answered ∨ next.held = s.held := by
  cases dealt with
  | unserved => exact .inr rfl
  | suspended => exact .inl (s.answered_served mint _ batch)
  | rejected | delivered | taken => exact .inr (s.held_served mint _ batch)

end Additions

end Outcomes
end Server
end Bayeux
