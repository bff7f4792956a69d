import Bayeux.Proofs.Server.Attending

namespace Bayeux

/-!
# When a request is held

A batch is held for its last connect.  The session of that connect is looked at three times:
before the connect, when the whole batch has been answered, and then for what is queued.  Only if
all is well, a transport is asked to let the connection in, so that a request which is not held
counts for nothing.  A connect that is turned away is answered as it would be, but for its advice,
and but for its success where no interval is set for it.
-/

/-! ## Letting a connection in -/

/-- Whether a transport lets the connection of a request in.  A browser that is known must not
have reached the limit.  One that is not known must be allowed for, or the request must come
from a page of another origin. -/
def Transport.Admits (t : Transport) (r : Request) : Prop :=
  match r.browser? t.options.identity with
  | some browser => t.admission.limit.admits ((t.admission.count? browser).getD 0) = true
  | none => t.options.allowWithoutBrowser = true ∨ (r.header? "origin").isSome = true

namespace Admission

theorem acquire_fst (a : Admission) (browser : BrowserId) :
    (a.acquire browser).1 = a.limit.admits ((a.count? browser).getD 0) := by
  unfold acquire
  cases a.limit with
  | unlimited | deny => rfl
  | atMost max =>
      by_cases room : (a.counts.get? browser).getD 0 + 1 ≤ max
      · simp [SessionLimit.admits, count?, Table.getD, room, Nat.lt_iff_add_one_le]
      · simp [SessionLimit.admits, count?, Table.getD, room, Nat.lt_iff_add_one_le]

/-- Two tables that nobody can tell apart. -/
structure Agrees (a b : Admission) : Prop where
  limit : a.limit = b.limit
  maxInterval : a.maxInterval = b.maxInterval
  counts : ∀ browser, a.counts.get? browser = b.counts.get? browser
  strikes : ∀ browser, a.strikes.get? browser = b.strikes.get? browser
  lastSweep : a.lastSweep = b.lastSweep

theorem Agrees.refl (a : Admission) : a.Agrees a :=
  ⟨rfl, rfl, fun _ => rfl, fun _ => rfl, rfl⟩

/-- A browser that has reached the limit has a counter, unless no connection is let in at
all, so that to be turned away leaves no trace. -/
theorem agrees_of_refused {a : Admission} (numeric : a.limit ≠ .atMost 0) {browser : BrowserId}
    (refused : (a.acquire browser).1 = false) : (a.acquire browser).2.Agrees a := by
  unfold acquire at refused ⊢
  cases limited : a.limit with
  | unlimited | deny => exact .refl a
  | atMost max =>
      simp only [limited] at refused ⊢
      have some : 0 < max := Nat.pos_of_ne_zero fun zero => numeric (zero ▸ limited)
      split at refused
      · cases refused
      next full =>
        have positive : a.counts.getD browser 0 ≠ 0 := by omega
        rw [if_neg full]
        simp only [if_neg positive]
        refine ⟨limited.symm ▸ rfl, rfl, fun other => ?_, fun _ => rfl, rfl⟩
        rw [Table.get?_insert]
        split
        next same =>
          unfold Table.getD at positive ⊢
          rw [same]
          cases found : a.counts.get? browser with
          | none => simp [found] at positive
          | some held => rfl
        next => rfl

end Admission

theorem Transport.grant_iff (t : Transport) (r : Request) :
    (t.grant r (r.browser? t.options.identity)).1 = true ↔ t.Admits r := by
  unfold Admits
  cases r.browser? t.options.identity with
  | none => simp [grant]
  | some browser => exact Bool.eq_iff_iff.mp (t.admission.acquire_fst browser)

instance (t : Transport) (r : Request) : Decidable (t.Admits r) :=
  decidable_of_iff _ (t.grant_iff r)

/-! ## The reply to the last connect -/

/-- The reply to a connect of a live session. -/
theorem Engine.Idles.exists_reply {mint : Nat → ClientId} {e : Engine} {batch : Batch}
    {index : Nat} {client : ClientId} (idles : e.Idles mint batch index client)
    (o : TransportOptions) :
    ∃ reply : Message, (e.repliesTo mint o batch)[index]? = some reply ∧
      reply.channel = Channel.connect ∧ reply.clientId = some client ∧
      reply.successful = some true ∧ reply.advice = some
        { reconnect := some .retry
          timeout := some (o.timeout % UInt64.size)
          interval := some (o.interval % UInt64.size) } := by
  rcases idles with ⟨earlier, m, later, rfl, rfl, connects, _, named, ⟨s, live, _⟩, _⟩
  have position := Surroundings.getElem?_plainAnswers mint o e earlier m later
  rw [Surroundings.replies_plainAnswers, TransportOptions.advised, if_pos connects,
    answer_of_isConnect mint _ connects, Engine.connect, sender?_of_named _ named, live] at position
  exact ⟨_, position, beq_iff_eq.mp connects, named, rfl, rfl⟩

theorem Engine.Idles.queueOf {mint : Nat → ClientId} {e : Engine} {batch : Batch} {index : Nat}
    {client : ClientId} (idles : e.Idles mint batch index client) :
    (answerAll mint e batch).2.queueOf client = [] := by
  rcases idles with ⟨_, _, _, _, _, _, _, _, _, s, live, _, queue⟩
  rw [queueOf_of_session? live, queue]

/-- A connect that is turned away is told to try again after the interval that is set for this,
or not to try again. -/
theorem TransportOptions.adviseRejected_eq (o : TransportOptions) (browserKnown : Bool)
    {reply : Message} {advice : Advice} (given : reply.advice = some advice)
    (single : advice.multipleClients = none) :
    o.adviseRejected browserKnown reply =
      { reply with
        successful := if o.multiSessionInterval = 0 then some false else reply.successful
        advice := some { advice with
          multipleClients := if browserKnown then some true else none
          reconnect := some (if o.multiSessionInterval = 0 then .never else .retry)
          interval :=
            if o.multiSessionInterval = 0 then advice.interval
            else some (o.multiSessionInterval % UInt64.size) } } := by
  by_cases final : o.multiSessionInterval = 0
  · simp [adviseRejected, Message.adviseWith, given, single, final]
  · simp [adviseRejected, Message.adviseWith, given, single, final]

namespace Server

/-! ## The outcomes of a batch -/

/-- Nothing is asked of a batch but that its last connect idles, where settings allow a hold. -/
def Waits (s : Server) (mint : Nat → ClientId) (t : Transport) (batch : Batch) : Prop :=
  t.options.timeout ≠ 0 ∧ ∃ index client, (s.opened t batch).Idles mint batch index client

/-- A request is held, with the replies for later, and whoever observes the transports is told. -/
structure Suspends (s next : Server) (request : HeldRequest) : Prop where
  held : next.held = s.held ++ [request]
  notices : next.notices = s.notices ++ [.suspended request true]
  answered : next.answered = s.answered

/-- A request is answered at once, and nobody is told of a hold. -/
structure Concludes (s next : Server) (a : Arrival) (route : Route) (exchange : Exchange) :
    Prop where
  held : next.held = s.held
  notices : next.notices = s.notices
  answered : next.answered = s.answered ++ [{ ticket := a.ticket, time := s.now, route, exchange }]

/-- No transport counts a connection more or less. -/
def KeepsCounts (s next : Server) : Prop :=
  ∀ type, Option.Rel
    (fun t u => u.options = t.options ∧ u.codec = t.codec ∧ u.admission.Agrees t.admission)
    (s.transports.get? type) (next.transports.get? type)

section Outcomes

variable {s : Server} {mint : Nat → ClientId} {t : Transport} {a : Arrival} {route : Route}
  {batch : Batch}

theorem KeepsCounts.refl (s : Server) : s.KeepsCounts s := by
  intro type
  cases s.transports.get? type with
  | none => exact .none
  | some t => exact .some ⟨rfl, rfl, .refl _⟩

/-- A transport that turns a connection away counts as before. -/
theorem keepsCounts_asked (found : s.transports.get? route.type = some t)
    (numeric : t.admission.limit ≠ .atMost 0)
    (refused : (t.grant a.request (a.request.browser? t.options.identity)).1 = false) :
    s.KeepsCounts (s.asked t a route) := by
  intro type
  change Option.Rel _ _ ((s.transports.insert route.type
    (t.grant a.request (a.request.browser? t.options.identity)).2).get? type)
  rw [Table.get?_insert]
  split
  next own =>
    rw [own, found]
    generalize a.request.browser? t.options.identity = browser at refused ⊢
    cases browser with
    | none => exact .some ⟨rfl, rfl, .refl _⟩
    | some browser => exact .some ⟨rfl, rfl, Admission.agrees_of_refused numeric refused⟩
  next => exact KeepsCounts.refl s type

/-- Without extensions a request is held, its connect is turned away, or it is answered, as its
session and the transport decide. -/
theorem Dealt.outcome {next : Server} (dealt : Dealt mint s a route batch next)
    (found : s.transports.get? route.type = some t) (numeric : t.admission.limit ≠ .atMost 0) :
    let after := (Engine.answerAll mint (s.opened t batch) batch).2
    let exchange := s.plainExchange mint t a batch
    let browser := a.request.browser? t.options.identity
    s.Waits mint t batch ∧ t.Admits a.request ∧
        (∃ index client, (s.opened t batch).Idles mint batch index client ∧
          s.Suspends next
            { ticket := a.ticket, route, client, browser
              timeout := t.options.timeout
              deadline := s.now + t.options.timeout
              replies := exchange.replies
              cookies := exchange.cookies } ∧
          ∀ id, next.engine.queueOf id = after.queueOf id) ∨
      s.Waits mint t batch ∧ ¬ t.Admits a.request ∧
        (∃ index client, (s.opened t batch).Idles mint batch index client ∧
          s.KeepsCounts next ∧ (∀ id, next.engine.queueOf id = after.queueOf id) ∧
          s.Concludes next a route
            { exchange with
              outcome := .rejected
              session := some client
              replies := exchange.replies.modify index
                (t.options.adviseRejected browser.isSome) }) ∨
      ¬ s.Waits mint t batch ∧ next.transports = s.transports ∧
        (∀ id, next.engine.queueOf id =
          if after.taker? batch = some id then [] else after.queueOf id) ∧
        s.Concludes next a route
          { exchange with
            session := after.taker? batch
            queued := ((after.taker? batch).map after.queueOf).getD [] } := by
  intro after exchange browser
  rcases s.exists_served_eq mint t batch with ⟨engine, served⟩
  have queues : ∀ id, engine.queueOf id = after.queueOf id := by
    intro id
    rw [← s.queueOf_served mint t batch id, served]
  have waits : t.options.timeout = 0 ∨
      (∀ index client, ¬ (s.opened t batch).Idles mint batch index client) →
        ¬ s.Waits mint t batch := by
    rintro (untimed | never) ⟨timed, index, client, idles⟩
    · exact timed untimed
    · exact never index client idles
  cases dealt with
  | unserved absent => cases found.symm.trans absent
  | @suspended _ index client session there timed idles known connected asleep granted =>
      cases found.symm.trans there
      rw [served] at known ⊢
      refine .inl ⟨⟨timed, index, client, idles⟩, t.grant_iff a.request |>.mp granted, index,
        client, idles, ⟨rfl, ?_, rfl⟩, fun id => ?_⟩
      · have marked : isConnected { s with engine } client = true := by
          unfold isConnected
          rw [known]
          exact connected
        exact congrArg (fun flag => s.notices ++ [Notice.suspended _ flag]) marked
      · rw [← queues id]
        exact Engine.queueOf_change_of_keepsQueue _ (Session.keepsQueue_await a.ticket) client id
  | @rejected _ index client there timed idles refused =>
      cases found.symm.trans there
      rw [served]
      refine .inr (.inl ⟨⟨timed, index, client, idles⟩,
        fun admits => Bool.false_ne_true (refused.symm.trans ((t.grant_iff _).mpr admits)), index,
        client, idles, keepsCounts_asked found numeric refused, fun id => ?_, rfl, rfl, ?_⟩)
      · rw [queueOf_concludeFrom]
        split
        next own => rw [own, idles.queueOf]
        next => exact queues id
      · have nothing : engine.queueOf client = [] := (queues client).trans idles.queueOf
        rw [answered_concludeFrom]
        simp only [asked, nothing]
        rfl
  | delivered there busy nobody =>
      cases found.symm.trans there
      rw [served]
      refine .inr (.inr ⟨waits busy, rfl, fun id => ?_, rfl, rfl, ?_⟩)
      · rw [nobody, if_neg (by simp), ← queues id]
        rfl
      · rw [nobody]
        rfl
  | @taken _ client there busy taker =>
      cases found.symm.trans there
      rw [served]
      refine .inr (.inr ⟨waits busy, rfl, fun id => ?_, rfl, rfl, ?_⟩)
      · rw [taker, queueOf_concludeFrom, ← queues id]
        simp only [Option.some.injEq, eq_comm]
      · rw [taker, answered_concludeFrom]
        simp only [Option.map_some, Option.getD_some, queues]
        rfl

end Outcomes

end Server

namespace History

/-- In whatever state a run has left a server, a batch is held for exactly if the session of
its last connect was live and connected when that connect came, is live, connected and without
messages when the whole batch has been answered, the timeout is not zero, and the transport lets
the connection in.  If only the transport does not, the connect is turned away: nobody is told of a
hold, no counter and no queue changes, and the reply to that connect is all that differs from the
replies that would have been sent.  Otherwise the request is answered at once with those replies,
after the queue of the session that its last connect is for, if that is live. -/
theorem run_suspends {path : String} {endpoint : EndpointContext} {codec : CodecChoice}
    {settings : List (ConnectionType × Except ConfigError TransportOptions)} {start : Server}
    (assembled : Server.assemble path endpoint codec settings = .ok start)
    {mint : Nat → ClientId} (distinct : Function.Injective mint) (events : List ServerEvent)
    (a : Arrival) {route : Route} {o : TransportOptions}
    (served : start.optionsOf? route.type = some o) (numeric : o.limit ≠ .atMost 0)
    (batch : Batch) :
    let s := (run { mint } { server := start } events).server
    let next := s.process { mint } a route batch
    ∃ t, s.transports.get? route.type = some t ∧ t.options = o ∧ t.admission.limit = o.limit ∧
      let after := (Engine.answerAll mint (s.opened t batch) batch).2
      let exchange := s.plainExchange mint t a batch
      let browser := a.request.browser? o.identity
      ((∃ held, next.held = s.held ++ [held]) ↔ s.Waits mint t batch ∧ t.Admits a.request) ∧
        (s.Waits mint t batch → t.Admits a.request →
          ∃ index client, (s.opened t batch).Idles mint batch index client ∧
            s.Suspends next
              { ticket := a.ticket, route, client, browser
                timeout := o.timeout
                deadline := s.now + o.timeout
                replies := exchange.replies
                cookies := exchange.cookies } ∧
            ∀ id, next.engine.queueOf id = after.queueOf id) ∧
        (s.Waits mint t batch → ¬ t.Admits a.request →
          ∃ index client reply advice, (s.opened t batch).Idles mint batch index client ∧
            exchange.replies[index]? = some reply ∧ reply.advice = some advice ∧
            advice.multipleClients = none ∧ s.KeepsCounts next ∧
            (∀ id, next.engine.queueOf id = after.queueOf id) ∧
            s.Concludes next a route { exchange with
              outcome := .rejected
              session := some client
              queued := []
              replies := exchange.replies.set index { reply with
                successful := if o.multiSessionInterval = 0 then some false else some true
                advice := some { advice with
                  multipleClients := if browser.isSome then some true else none
                  reconnect := some (if o.multiSessionInterval = 0 then .never else .retry)
                  interval :=
                    if o.multiSessionInterval = 0 then advice.interval
                    else some (o.multiSessionInterval % UInt64.size) } } }) ∧
        (¬ s.Waits mint t batch →
          next.transports = s.transports ∧
            (∀ id, next.engine.queueOf id =
              if after.taker? batch = some id then [] else after.queueOf id) ∧
            s.Concludes next a route { exchange with
              outcome := .delivered
              session := after.taker? batch
              queued := ((after.taker? batch).map after.queueOf).getD [] }) := by
  intro s next
  have inOrder := (InOrder.start assembled mint).run distinct events
  have configured := (inOrder.accounts.configured route.type).trans served
  rcases Option.map_eq_some_iff.mp configured with ⟨t, found, rfl⟩
  have limited := inOrder.accounts.limited route.type t found
  have dealt := Server.process_dealt inOrder.attends.reachable distinct a route batch
  refine ⟨t, found, rfl, limited, ?_⟩
  intro after exchange browser
  have lengthens : ∀ held, s.held ≠ s.held ++ [held] := by simp
  rcases dealt.outcome found (limited ▸ numeric) with
    ⟨waits, admits, index, client, idles, suspends, queues⟩ |
      ⟨waits, refused, index, client, idles, counts, queues, concludes⟩ |
        ⟨busy, transports, queues, concludes⟩
  · refine ⟨⟨fun _ => ⟨waits, admits⟩, fun _ => ⟨_, suspends.held⟩⟩,
      fun _ _ => ⟨index, client, idles, suspends, queues⟩, fun _ refused => absurd admits refused,
      fun busy => absurd waits busy⟩
  · rcases idles.exists_reply t.options with ⟨reply, position, _, _, successful, advised⟩
    have turned : exchange.replies.modify index (t.options.adviseRejected browser.isSome) =
        exchange.replies.set index (t.options.adviseRejected browser.isSome reply) := by
      rw [List.modify_eq_set_getElem?, show exchange.replies[index]? = some reply from position]
      rfl
    rw [t.options.adviseRejected_eq _ advised rfl, successful] at turned
    rw [turned] at concludes
    refine ⟨⟨?_, fun both => absurd both.2 refused⟩, fun _ admits => absurd admits refused,
      fun _ _ => ⟨index, client, reply, _, idles, position, advised, rfl, counts, queues,
        concludes⟩, fun busy => absurd waits busy⟩
    rintro ⟨held, longer⟩
    exact absurd (concludes.held.symm.trans longer) (lengthens held)
  · refine ⟨⟨?_, fun both => absurd both.1 busy⟩, fun waits => absurd waits busy,
      fun waits => absurd waits busy, fun _ => ⟨transports, queues, concludes⟩⟩
    rintro ⟨held, longer⟩
    exact absurd (concludes.held.symm.trans longer) (lengthens held)

/-- Two tabs of one browser share a session.  While the connect of the first is held, that of
the second is turned away and told why, and nobody hears of it but the second. -/
theorem run_suspends_second_tab :
    let start : Server :=
      { path := "/", transports := .ofList [(.longPolling, .ofOptions {} .compact)] }
    let mint := fun n => (⟨String.ofList (List.replicate n 'c')⟩ : ClientId)
    let request : Request :=
      { target := .ofText "/"
        headers := [⟨"cookie", "BAYEUX_BROWSER=b".toList.map fun c => c.toNat.toUInt8⟩] }
    let route : Route := { type := .longPolling }
    let connect : Message := { channel := Channel.connect, clientId := some ⟨""⟩ }
    let hand := fun batch => ServerEvent.batch { request, route, batch } ⟨"x"⟩
    let events := [hand [{ channel := Channel.handshake }], hand [connect], hand [connect]]
    let s := (run { mint } { server := start } events).server
    let next := s.process { mint } { ticket := 3, request, freshBrowser := ⟨"x"⟩ } route [connect]
    Server.assemble "/" {} .default [(.longPolling, .ok {})] = .ok start ∧
      Function.Injective mint ∧ start.optionsOf? route.type = some {} ∧
      ({} : TransportOptions).limit ≠ .atMost 0 ∧
      (∃ t, s.transports.get? route.type = some t ∧ s.Waits mint t [connect] ∧
        ¬ t.Admits request) ∧
      s.held.map HeldRequest.ticket = [2] ∧ next.held = s.held ∧ next.notices = s.notices ∧
      next.answered.getLast?.map (·.exchange.outcome) = some .rejected := by
  intro start mint request route connect hand events s next
  have assembled : Server.assemble "/" {} .default [(.longPolling, .ok {})] = .ok start := rfl
  have distinct : Function.Injective mint := ClientId.injective_replicate 'c'
  have served : start.optionsOf? route.type = some {} := rfl
  have numeric : ({} : TransportOptions).limit ≠ .atMost 0 := by decide
  have held : s.held.map HeldRequest.ticket = [2] := by decide +kernel
  rcases run_suspends assembled distinct events { ticket := 3, request, freshBrowser := ⟨"x"⟩ }
    served numeric [connect] with ⟨t, found, options, _, _, _, refuses, _⟩
  have crowded : ¬ t.Admits request := by
    have all : (s.transports.get? route.type).all fun t => !decide (t.Admits request) := by
      decide +kernel
    simpa using (Option.all_eq_true _ _).mp all t found
  have waits : s.Waits mint t [connect] := by
    let idle := fun session : Session => session.connected && session.queue.isEmpty
    have all : (s.transports.get? route.type).all fun t =>
        ((s.opened t [connect]).session? ⟨""⟩).any Session.connected &&
          ((Engine.answerAll mint (s.opened t [connect]) [connect]).2.session? ⟨""⟩).any idle := by
      decide +kernel
    rcases Bool.and_eq_true_iff.mp ((Option.all_eq_true _ _).mp all t found) with ⟨before, after⟩
    rcases (Option.any_eq_true _ _).mp after with ⟨session, live, empty⟩
    have ready : session.connected = true ∧ session.queue = [] := by simpa [idle] using empty
    exact ⟨by rw [options]; decide, 0, ⟨""⟩, [], connect, [], rfl, rfl, rfl,
      List.forall_mem_nil _, rfl, (Option.any_eq_true _ _).mp before, session, live, ready⟩
  rcases refuses waits crowded with ⟨_, _, _, _, _, _, _, _, _, _, concludes⟩
  refine ⟨assembled, distinct, served, numeric, ⟨t, found, waits, crowded⟩, held,
    concludes.held, concludes.notices, ?_⟩
  rw [concludes.answered]
  simp

end History

end Bayeux
