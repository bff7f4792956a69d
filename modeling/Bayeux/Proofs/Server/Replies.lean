import Bayeux.Proofs.Engine.Replies
import Bayeux.Proofs.Server.Processing

namespace Bayeux

/-!
# Whether a client can read what it is sent

A message that a client can send is one that a text was read as.  Subscribers see its data
one level deeper, in a list of messages.  Data of a message in a list fits there again,
but a message that stands by itself can bring data of one level more, and then nobody can read
the batch that delivers it.
-/

/-- What holds of every member still does when one of them is changed. -/
theorem forall_mem_modify {α : Type} {kind : α → Prop} {list : List α} {change : α → α}
    (all : ∀ value ∈ list, kind value) (keeps : ∀ value, kind value → kind (change value))
    (index : Nat) : ∀ value ∈ list.modify index change, kind value := by
  intro value member
  rcases List.getElem?_of_mem member with ⟨place, found⟩
  rw [List.getElem?_modify] at found
  rcases Option.map_eq_some_iff.mp found with ⟨before, there, same⟩
  have first := all before (List.mem_of_getElem? there)
  rw [← same]
  split
  · exact keeps before first
  · exact first

namespace Server

/-- Queues hold messages of one kind, and everything else that is sent is a reply. -/
structure Sends (s : Server) (kind : Message → Prop) : Prop where
  queues : s.engine.Queues kind
  held : ∀ held ∈ s.held, ∀ reply ∈ held.replies, reply.IsReply
  queued : ∀ a ∈ s.answered, ∀ m ∈ a.exchange.queued, kind m
  replies : ∀ a ∈ s.answered, ∀ reply ∈ a.exchange.replies, reply.IsReply

namespace Sends

variable {s : Server} {kind : Message → Prop}

theorem mono (sends : s.Sends kind) {wider : Message → Prop} (le : ∀ m, kind m → wider m) :
    s.Sends wider where
  queues := sends.queues.mono le
  held := sends.held
  queued a member m inside := le m (sends.queued a member m inside)
  replies := sends.replies

/-- Only the held requests, the answered ones and the queues matter. -/
theorem of_same (sends : s.Sends kind) {other : Server}
    (held : ∀ held ∈ other.held, held ∈ s.held) (answered : other.answered = s.answered)
    (queues : other.engine.Queues kind) : other.Sends kind where
  queues := queues
  held request member := sends.held request (held request member)
  queued := answered ▸ sends.queued
  replies := answered ▸ sends.replies

/-! ## Answering a request -/

theorem conclude (sends : s.Sends kind) (ticket : Nat) (route : Route) {exchange : Exchange}
    (queued : ∀ m ∈ exchange.queued, kind m) (replies : ∀ m ∈ exchange.replies, m.IsReply) :
    (s.conclude ticket route exchange).Sends kind where
  queues := sends.queues
  held := sends.held
  queued := List.forall_mem_append.mpr ⟨sends.queued, List.forall_mem_singleton.mpr queued⟩
  replies := List.forall_mem_append.mpr ⟨sends.replies, List.forall_mem_singleton.mpr replies⟩

/-- A request is answered with the whole queue of a session. -/
theorem conclude_drain (sends : s.Sends kind) (client : ClientId) {exchange : Exchange}
    (replies : ∀ m ∈ exchange.replies, m.IsReply) (ticket : Nat) (route : Route) :
    ((s.drain client exchange).2.conclude ticket route (s.drain client exchange).1).Sends kind := by
  have drained : (s.drain client exchange).2.Sends kind :=
    sends.of_same (fun _ member => member) rfl (sends.queues.change_drained client)
  exact drained.conclude ticket route (sends.queues client) replies

theorem unhold (sends : s.Sends kind) (held : HeldRequest) : (s.unhold held).Sends kind := by
  have fewer : ∀ other ∈ s.held.filter (fun other => other.ticket != held.ticket),
      other ∈ s.held := fun other member => List.mem_of_mem_filter member
  have left := sends.queues.change_of_keepsQueue (Session.keepsQueue_leave held.ticket) held.client
  unfold Server.unhold Server.releaseHold
  simp only []
  split <;> exact sends.of_same fewer rfl left

theorem complete (sends : s.Sends kind) {held : HeldRequest}
    (replies : ∀ m ∈ held.replies, m.IsReply) : (s.complete held).Sends kind :=
  (sends.unhold held).conclude_drain held.client replies held.ticket held.route

/-! ## Processing a batch -/

theorem hold (sends : s.Sends kind) {held : HeldRequest}
    (replies : ∀ m ∈ held.replies, m.IsReply) : (s.hold held).Sends kind := by
  have waiting : (s.waiting held).Sends kind :=
    { queues := sends.queues.change_of_keepsQueue (Session.keepsQueue_await held.ticket) held.client
      held := List.forall_mem_append.mpr ⟨sends.held, List.forall_mem_singleton.mpr replies⟩
      queued := sends.queued
      replies := sends.replies }
  rw [hold_eq]
  split
  · exact waiting
  · exact waiting.complete replies

/-- A connect that is turned away gets another reply. -/
theorem isReply_rejection (t : Transport) (a : Arrival) (index : Nat) {exchange : Exchange}
    (replies : ∀ m ∈ exchange.replies, m.IsReply) :
    ∀ m ∈ (rejection t a index exchange).replies, m.IsReply :=
  forall_mem_modify replies
    (fun _ isReply => TransportOptions.isReply_adviseRejected isReply t.options _) index

theorem consider (sends : s.Sends kind) (t : Transport) (a : Arrival) (route : Route)
    (client : ClientId) (index : Nat) {exchange : Exchange}
    (replies : ∀ m ∈ exchange.replies, m.IsReply) :
    (s.consider t a route client index exchange).Sends kind := by
  have asked : (s.asked t a route).Sends kind :=
    sends.of_same (fun _ member => member) rfl sends.queues
  rw [consider_eq]
  split
  · exact asked.hold replies
  · exact asked.conclude_drain client (isReply_rejection t a index replies) a.ticket route

theorem endBatch (sends : s.Sends kind) (session : Option ClientId) :
    (s.endBatch session).Sends kind := by
  cases session with
  | none => exact sends
  | some id =>
      exact sends.of_same (fun _ member => member) rfl
        (sends.queues.change_of_keepsQueue Session.keepsQueue_endBatch id)

/-- A batch brings into queues what subscribers see of its messages. -/
theorem process (sends : s.Sends kind) (mint : Nat → ClientId) (a : Arrival) (route : Route)
    {batch : Batch} (ofKind : ∀ m ∈ batch, kind (Engine.published m)) :
    (s.process { mint } a route batch).Sends kind := by
  have opened : ∀ t : Transport, (s.opened t batch).Queues kind := by
    intro t
    unfold Server.opened
    cases s.batchOn t.options batch with
    | none => exact sends.queues
    | some id => exact sends.queues.change_of_keepsQueue Session.keepsQueue_startBatch id
  -- The state in which all messages have been answered and no queue has been taken.
  have dispatched : ∀ {t : Transport} {result : Option (List Answer) × Engine},
      Surroundings.answers? { mint } t.options a.request (s.opened t batch) batch = result →
      ∃ answers, result.1 = some answers ∧ (s.dispatched t batch result.2).Sends kind ∧
        ∀ reply ∈ (bareExchange t a answers).replies, reply.IsReply := by
    intro t result dispatch
    rcases Surroundings.answers?_sends mint t.options a.request ofKind (opened t) with
      ⟨answers, engine, answered, queues, replies⟩
    rw [answered] at dispatch
    subst dispatch
    have all : Sends { s with engine } kind := sends.of_same (fun _ member => member) rfl queues
    exact ⟨answers, rfl, all.endBatch _, List.forall_mem_map.mpr replies⟩
  have outcome := process_processed { mint } s a route batch
  generalize s.process { mint } a route batch = result at outcome
  cases outcome with
  | unserved absent => exact sends
  | stalled found dispatch =>
      rcases dispatched dispatch with ⟨answers, answered, _⟩
      cases answered
  | unconnected found dispatch connect =>
      rcases dispatched dispatch with ⟨answers, answered, served, replies⟩
      cases answered
      exact served.conclude a.ticket route (List.forall_mem_nil _) replies
  | considered found dispatch connect idle =>
      rcases dispatched dispatch with ⟨answers, answered, served, replies⟩
      cases answered
      exact served.consider _ a route _ _ replies
  | ready found dispatch connect busy =>
      rcases dispatched dispatch with ⟨answers, answered, served, replies⟩
      cases answered
      exact served.conclude_drain _ replies a.ticket route

/-! ## Other events -/

theorem resume (sends : s.Sends kind) {held : HeldRequest} (member : held ∈ s.held) :
    (s.resume held).Sends kind := by
  have looked : Sends
      { s with engine := s.engine.change held.client (·.resume held.ticket) } kind :=
    sends.of_same (fun _ member => member) rfl
      (sends.queues.change_of_keepsQueue (Session.keepsQueue_resume held.ticket) held.client)
  unfold Server.resume
  simp only []
  split
  · exact looked
  · exact looked.complete (sends.held held member)

theorem drop (sends : s.Sends kind) (ticket : Nat) : (s.drop ticket).Sends kind := by
  refine Server.drop_induction (fun s => s.Sends kind) (fun held _ _ => sends.unhold held) ?_
    sends
  intro s stalled batchOn kept
  apply endBatch
  exact kept.of_same (fun _ member => member) rfl kept.queues

theorem sweepTransport (sends : s.Sends kind) (now : Timestamp) (type : ConnectionType) :
    (s.sweepTransport now type).2.Sends kind := by
  unfold Server.sweepTransport
  split
  · exact sends
  · exact sends.of_same (fun _ member => member) rfl sends.queues

end Sends

/-- Every message that a request brings was read of one of its texts. -/
theorem wasRead_of_intake? {s : Server} {r : Request} {intake : Intake}
    (taken : s.intake? r = some intake) : ∀ m ∈ intake.batch, m.WasRead := by
  unfold intake? at taken
  cases routed : s.route r with
  | error refusal =>
      rw [routed] at taken
      cases taken
  | ok found =>
      rcases found with ⟨route, texts⟩
      cases decoded : s.decode route texts with
      | error fault =>
          simp only [routed, decoded] at taken
          cases taken
      | ok batch =>
          simp only [routed, decoded] at taken
          cases taken
          intro m member
          rcases map_eq_ok_iff.mp decoded with ⟨batches, read, flattened⟩
          rw [← flattened] at member
          rcases List.mem_flatten.mp member with ⟨batch, listed, inside⟩
          rcases exists_of_mem_mapM read listed with ⟨text, _, decodes⟩
          exact ⟨text, batch, decodes, inside⟩

/-- What a request brings that posts one text. -/
theorem intake?_of_text {s : Server} {r : Request} {text : String} {batch : Batch}
    (serves : s.serves r.target.path = true) (allowed : Endpoint.isAllowed r.method = true)
    (type : s.typeFor? r = some .longPolling) (body : Endpoint.bodyText? r = some text)
    (reads : Batch.ofText text = .ok batch) :
    s.intake? r = some
      { request := { r with endpoint := r.endpoint.or (some s.endpoint) }
        route := { type := .longPolling }
        batch } := by
  have routed : s.route r = .ok ({ type := .longPolling }, [text]) := by
    unfold route
    rw [serves, allowed, body, type]
    rfl
  have decoded : s.decode { type := .longPolling } [text] = .ok batch := by
    unfold decode Codec.decode
    rw [List.mapM_cons, List.mapM_nil, reads]
    exact congrArg Except.ok (List.append_nil batch)
  unfold intake?
  simp only [routed, decoded]

end Server

/-- The text of the messages stands in the body by itself or as the argument of a call. -/
theorem Exchange.body_eq (x : Exchange) (codec : Codec) (route : Route) :
    x.body codec route =
      route.callback.elim (codec.encode x.messages) fun name =>
        name ++ "(" ++ codec.encode x.messages ++ ")" := by
  unfold body
  cases route.callback <;> rfl

/-! ## Runs -/

/-- Events that clients bring about, or time.  The server's own application neither
publishes nor hands over batches. -/
def ServerEvent.IsOfClients : ServerEvent → Prop
  | .batch .. | .publish .. => False
  | .request .. | .look _ | .expire _ | .drop _ | .sweep _ | .pass _ => True

namespace History

/-- What subscribers see of a message that came in. -/
def IsRelayed (h : History) (m : Message) : Prop :=
  ∃ intake ∈ h.intakes, ∃ n ∈ intake.batch, m = Engine.published n

/-- All that came in was read of texts, and all that is sent is that or a reply. -/
structure Relays (h : History) : Prop where
  read : ∀ intake ∈ h.intakes, ∀ m ∈ intake.batch, m.WasRead
  sends : h.server.Sends h.IsRelayed

namespace Relays

variable {h : History}

/-- What a request brings is on record before any of it can be sent on. -/
theorem request (relays : h.Relays) (mint : Nat → ClientId) (request : Request)
    (freshBrowser : BrowserId) : (h.step { mint } (.request request freshBrowser)).Relays := by
  simp only [History.step, next, History.intake?]
  rw [Server.receive_eq]
  cases taken : h.server.intake? request with
  | none =>
      simp only [Option.toList_none, List.append_nil]
      split
      · exact ⟨relays.read, relays.sends.of_same (fun _ member => member) rfl relays.sends.queues⟩
      · exact relays
  | some intake =>
      have earlier : h.server.Sends (IsRelayed ⟨h.server, h.intakes ++ [intake]⟩) := by
        apply relays.sends.mono
        rintro m ⟨before, listed, relayed⟩
        exact ⟨before, List.mem_append_left _ listed, relayed⟩
      refine ⟨?_, earlier.process mint _ intake.route ?_⟩
      · exact List.forall_mem_append.mpr ⟨relays.read,
          List.forall_mem_singleton.mpr (Server.wasRead_of_intake? taken)⟩
      · intro m member
        exact ⟨intake, List.mem_append_right _ (List.mem_singleton_self intake), m, member, rfl⟩

theorem step (relays : h.Relays) (mint : Nat → ClientId) {event : ServerEvent}
    (ofClients : event.IsOfClients) : (h.step { mint } event).Relays := by
  have quiet : ∀ {server : Server}, server.Sends h.IsRelayed →
      Relays { server, intakes := h.intakes ++ [] } := by
    intro server sends
    rw [List.append_nil]
    exact ⟨relays.read, sends⟩
  cases event with
  | request request freshBrowser => exact relays.request mint request freshBrowser
  | batch intake freshBrowser => cases ofClients
  | publish channel data => cases ofClients
  | look ticket =>
      apply quiet
      simp only [next]
      cases found : h.server.heldBy? ticket with
      | some held => exact relays.sends.resume (List.mem_of_find?_eq_some found)
      | none => exact relays.sends
  | expire ticket =>
      apply quiet
      simp only [next]
      cases found : h.server.heldBy? ticket with
      | some held =>
          have replies := relays.sends.held held (List.mem_of_find?_eq_some found)
          simp only []
          split
          · exact relays.sends.complete replies
          · exact relays.sends
      | none => exact relays.sends
  | drop ticket => exact quiet (relays.sends.drop ticket)
  | sweep now =>
      apply quiet
      exact Server.sweep_induction (fun s => s.Sends h.IsRelayed)
        (fun sends type => sends.sweepTransport now type) relays.sends
  | pass span =>
      exact quiet (relays.sends.of_same (fun _ member => member) rfl relays.sends.queues)

theorem run (relays : h.Relays) (mint : Nat → ClientId) {events : List ServerEvent}
    (ofClients : ∀ event ∈ events, event.IsOfClients) : (h.run { mint } events).Relays := by
  induction events generalizing h with
  | nil => exact relays
  | cons event rest inductionHypothesis =>
      rcases List.forall_mem_cons.mp ofClients with ⟨first, others⟩
      exact inductionHypothesis (relays.step mint first) others

theorem start {path : String} {endpoint : EndpointContext} {codec : CodecChoice}
    {settings : List (ConnectionType × Except ConfigError TransportOptions)} {start : Server}
    (assembled : Server.assemble path endpoint codec settings = .ok start) :
    Relays { server := start } := by
  rcases Server.assemble_spec assembled with ⟨transports, made, _⟩
  subst made
  exact
    { read := List.forall_mem_nil _
      sends :=
        { queues := Engine.Queues.empty _
          held := List.forall_mem_nil _
          queued := List.forall_mem_nil _
          replies := List.forall_mem_nil _ } }

/-! ### Answers -/

section Answers

variable {a : AnsweredRequest} {m : Message}

/-- Every batch that is sent can be read again, if it is not too deep. -/
theorem readable (relays : h.Relays) (member : a ∈ h.server.answered) :
    Batch.Readable a.exchange.messages := by
  refine List.forall_mem_append.mpr ⟨?_, ?_⟩
  · intro m inside
    rcases relays.sends.queued a member m inside with ⟨intake, listed, n, sent, relayed⟩
    rw [relayed]
    exact (relays.read intake listed n sent).sound.readable_published
  · exact fun reply inside => (relays.sends.replies a member reply inside).readable

/-- Only what was queued can make a batch too deep. -/
theorem depth_le_iff (relays : h.Relays) (member : a ∈ h.server.answered) :
    (Batch.value a.exchange.messages).depth ≤ 127 ↔
      ∀ m ∈ a.exchange.queued, m.value.depth ≤ 126 := by
  rw [Batch.depth_value_le_iff, Exchange.messages, List.forall_mem_append]
  constructor
  · exact And.left
  · intro shallow
    refine ⟨shallow, fun reply inside => ?_⟩
    exact (relays.sends.replies a member reply inside).depth_value_le.trans (by decide)

/-- A message that is too deep came alone, and nests one level too many. -/
theorem cameAlone (relays : h.Relays) (member : a ∈ h.server.answered)
    (inside : m ∈ a.exchange.queued) (deep : 126 < m.value.depth) :
    m.value.depth = 127 ∧
      ∃ intake ∈ h.intakes, ∃ n ∈ intake.batch, m = Engine.published n ∧ n.CameAlone := by
  rcases relays.sends.queued a member m inside with ⟨intake, listed, n, sent, relayed⟩
  rcases (relays.read intake listed n sent).sound_or_cameAlone with sound | ⟨sound, alone⟩
  · have shallow := sound.depth_published_le
    rw [← relayed] at shallow
    exact absurd shallow (Nat.not_le.mpr deep)
  · have limit := sound.depth_published_le
    rw [← relayed] at limit
    exact ⟨Nat.le_antisymm limit deep, intake, listed, n, sent, relayed, alone⟩

end Answers
end Relays

/-- A request that is let in is a batch handed to its transport. -/
theorem step_request {around : Surroundings} {h : History} {request : Request} {intake : Intake}
    (taken : h.server.intake? request = some intake) (freshBrowser : BrowserId) :
    h.step around (.request request freshBrowser) = h.step around (.batch intake freshBrowser) := by
  unfold step
  simp only [next, History.intake?]
  rw [Server.receive_eq, taken]

/-- In every run in which only clients act, every answered request can be read, message by
message, unless a message nests 127 levels that was queued for it.  Such a message was sent by
a client as an object by itself, and then nobody can read the answer. -/
theorem run_replies {path : String} {endpoint : EndpointContext} {codec : CodecChoice}
    {settings : List (ConnectionType × Except ConfigError TransportOptions)} {start : Server}
    (assembled : Server.assemble path endpoint codec settings = .ok start)
    (mint : Nat → ClientId) {events : List ServerEvent}
    (ofClients : ∀ event ∈ events, event.IsOfClients) :
    let last := run { mint } { server := start } events
    ∀ a ∈ last.server.answered, ∃ text,
      (last.server.replyTo a).body =
          a.route.callback.elim text (fun name => name ++ "(" ++ text ++ ")") ∧
        ((∀ m ∈ a.exchange.queued, m.value.depth ≤ 126) → ∀ reader : Codec,
          ∃ batch, reader.decode text = .ok batch ∧
            batch.map (fun m => (m.channel, m.id)) =
              a.exchange.messages.map fun m => (m.channel, m.id)) ∧
        ∀ m ∈ a.exchange.queued, 126 < m.value.depth →
          (∀ reader : Codec, reader.decode text = .error .tooDeep) ∧ m.value.depth = 127 ∧
            ∃ intake ∈ last.intakes, ∃ n ∈ intake.batch, m = Engine.published n ∧
              n.CameAlone := by
  intro last a member
  have relays : last.Relays := (Relays.start assembled).run mint ofClients
  let written := ((last.server.transports.get? a.route.type).map Transport.codec).getD .compact
  have decode := Codec.decode_encode_of_readable (relays.readable member) written
  refine ⟨written.encode a.exchange.messages, a.exchange.body_eq written a.route, ?_, ?_⟩
  · intro shallow reader
    refine ⟨Batch.reread a.exchange.messages, ?_, List.map_map⟩
    rw [decode, if_pos ((relays.depth_le_iff member).mpr shallow)]
  · intro m inside deep
    have beyond : ¬ (Batch.value a.exchange.messages).depth ≤ 127 := fun le =>
      absurd ((relays.depth_le_iff member).mp le m inside) (Nat.not_le.mpr deep)
    refine ⟨fun reader => ?_, relays.cameAlone member inside deep⟩
    rw [decode, if_neg beyond]

/-- A client posts an object by itself, whose data nests 126 levels.  It is let in, and nobody
can read the answer that brings it to its subscriber. -/
theorem run_replies_too_deep :
    let start : Server :=
      { path := "/"
        transports := .ofList [(.longPolling, .ofOptions { timeout := 0 } .compact)] }
    let mint := fun n => (⟨String.ofList (List.replicate n 'c')⟩ : ClientId)
    let deep := "\x7b\"channel\":\"/a\",\"clientId\":\"\",\"data\":".toList ++
      List.replicate 126 '[' ++ List.replicate 126 ']' ++ ['\x7d']
    let request := fun text : List Char =>
      ({ target := .ofText "/", body := text.map fun c => UInt8.ofNat c.toNat } : Request)
    let post := fun text => ServerEvent.request (request text) ⟨"x"⟩
    let events := [post "[\x7b\"channel\":\"/meta/handshake\"\x7d]".toList,
      post ("[\x7b\"channel\":\"/meta/subscribe\",\"clientId\":\"\"," ++
        "\"subscription\":\"/a\"\x7d]").toList,
      post deep,
      post "[\x7b\"channel\":\"/meta/connect\",\"clientId\":\"\"\x7d]".toList]
    let last := run { mint } { server := start } events
    Server.assemble "/" {} .default [(.longPolling, .ok { timeout := 0 })] = .ok start ∧
      (∀ event ∈ events, event.IsOfClients) ∧
      ∃ a ∈ last.server.answered, ∀ reader : Codec,
        reader.decode (last.server.replyTo a).body = .error .tooDeep := by
  intro start mint deep request post events last
  have assembled : Server.assemble "/" {} .default [(.longPolling, .ok { timeout := 0 })] =
      .ok start := rfl
  have ofClients : ∀ event ∈ events, event.IsOfClients := by
    simp [events, post, ServerEvent.IsOfClients]
  -- The long text is read here once, so that the run below is one of short texts.
  let batch := (Json.readText (Message.read Json.depthLimit) deep).toOption.toList
  have reads : Batch.ofText (String.ofList deep) = .ok batch := by
    have opening : (Text.trimStart deep).head? = some '\x7b' := by decide +kernel
    have read : (Json.readText (Message.read Json.depthLimit) deep).isOk = true := by
      decide +kernel
    unfold Batch.ofText
    simp only [String.toList_ofList]
    rw [if_pos opening]
    simp only [batch]
    cases found : Json.readText (Message.read Json.depthLimit) deep with
    | error fault =>
        rw [found] at read
        cases read
    | ok m => rfl
  have body : Endpoint.bodyText? (request deep) = some (String.ofList deep) := by
    have short : ¬ Endpoint.maxBody < (request deep).body.length := by decide +kernel
    have decoded : Text.Utf8.decode? (request deep).body = some deep := by decide +kernel
    unfold Endpoint.bodyText?
    rw [if_neg short, decoded, Option.map_some]
  let before := run { mint } { server := start } (events.take 2)
  have taken := Server.intake?_of_text (s := before.server) (r := request deep)
    (by decide +kernel) (by decide) (by decide +kernel) body reads
  have delivered : ∃ a ∈ last.server.answered, a.route.callback = none ∧
      ∃ m ∈ a.exchange.queued, 126 < m.value.depth := by
    have posted : last = (before.step { mint } _).step { mint } _ :=
      congrArg (fun h => step { mint } h _) (step_request taken ⟨"x"⟩)
    have checked : (last.server.answered.any fun a => a.route.callback.isNone &&
        a.exchange.queued.any fun m => 126 < m.value.depth) = true := by
      rw [posted]
      decide +kernel
    simpa using checked
  rcases delivered with ⟨a, member, plain, m, inside, deeper⟩
  rcases run_replies assembled mint ofClients a member with ⟨text, body, _, unreadable⟩
  refine ⟨assembled, ofClients, a, member, ?_⟩
  rw [body, plain]
  exact (unreadable m inside deeper).1

end History
end Bayeux
