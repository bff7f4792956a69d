import Bayeux.Proofs.Server.Handling
import Bayeux.Proofs.Server.Settling

namespace Bayeux

/-!
# How long a request is held

A request that is held has a deadline, which is set when the hold begins.  Before it the request
is answered only if its session has something for it or has been disconnected, however
many requests are held for that session, and however often it wakes them.  And if the clock
moves only while every task waits, and not past a timer, no request is held beyond its
deadline.  Such a run can always go on: the schedule takes it to any time, and when it has
come to the deadline of a request, the request has been answered.
-/

namespace History

variable {mint : Nat → ClientId} {h : History} {held : HeldRequest}
  {settings : ConnectionType → Option TransportOptions}

/-! ## The clock -/

/-- No deadline has passed. -/
def InTime (h : History) : Prop :=
  ∀ held ∈ h.server.held, h.server.now ≤ held.deadline

/-- The clock never passes a deadline if it moves as it may. -/
theorem InTime.step (inTime : h.InTime) (inOrder : h.InOrder mint settings)
    (distinct : Function.Injective mint) {event : ServerEvent}
    (allowed : h.server.Allows event) : (h.step { mint } event).InTime := by
  by_cases passes : ∃ span, event = .pass span
  · rcases passes with ⟨span, rfl⟩
    exact allowed.2
  · have stays : (h.step { mint } event).server.now = h.server.now := by
      rw [now_step inOrder distinct]
      cases event with
      | pass span => exact absurd ⟨span, rfl⟩ passes
      | _ => rfl
    unfold InTime
    rw [stays]
    cases step_handled inOrder distinct event with
    | quiet same => rwa [same]
    | dealt _ dealt =>
        intro request member
        rcases dealt.held_or_new request member with earlier | ⟨t, client, _, rfl⟩
        · exact inTime request earlier
        · exact Nat.le_add_right _ _
    | completed _ _ remaining | dropped _ remaining =>
        rw [remaining]
        exact fun request member => inTime request (List.mem_of_mem_filter member)

theorem InTime.run (inTime : h.InTime) (inOrder : h.InOrder mint settings)
    (distinct : Function.Injective mint) {events : List ServerEvent}
    (punctual : h.Punctual { mint } events) : (h.run { mint } events).InTime := by
  induction events generalizing h with
  | nil => exact inTime
  | cons event rest inductionHypothesis =>
      exact inductionHypothesis (inTime.step inOrder distinct punctual.1)
        (inOrder.step distinct event) punctual.2

/-! ## The end of a hold -/

/-- A request was held until some event, and was answered by it with what was queued for its
client.  Its time was up then, or something was queued, or its session had been disconnected. -/
def Completes (mint : Nat → ClientId) (h : History) (held : HeldRequest)
    (events : List ServerEvent) (a : AnsweredRequest) : Prop :=
  ∃ before event after, events = before ++ event :: after ∧
    let h := h.run { mint } before
    held ∈ h.server.held ∧ a ∈ (h.step { mint } event).server.answered ∧
      a.time = h.server.now ∧
      (held.deadline ≤ a.time ∨ a.exchange.queued ≠ [] ∨
        ∃ s, h.server.engine.known? held.client = some s ∧ s.disconnected = true)

/-- Whoever has the ticket of a request that is held is that request, or the answer that
completes it. -/
structure Follows (mint : Nat → ClientId) (h : History) (held : HeldRequest)
    (events : List ServerEvent) : Prop where
  same : ∀ other ∈ (h.run { mint } events).server.held, other.ticket = held.ticket → other = held
  completes : ∀ a ∈ (h.run { mint } events).server.answered, a.ticket = held.ticket →
    Completes mint h held events a
  numbered : held.ticket < (h.run { mint } events).nextTicket

theorem Completes.append {events : List ServerEvent} {a : AnsweredRequest}
    (completes : Completes mint h held events a) (event : ServerEvent) :
    Completes mint h held (events ++ [event]) a := by
  rcases completes with ⟨before, last, after, split, rest⟩
  refine ⟨before, last, after ++ [event], ?_, rest⟩
  rw [split, List.append_assoc, List.cons_append]

theorem Follows.step {events : List ServerEvent} (follows : Follows mint h held events)
    (inOrder : (h.run { mint } events).InOrder mint settings)
    (distinct : Function.Injective mint) (event : ServerEvent) :
    Follows mint h held (events ++ [event]) := by
  have reached : h.run { mint } (events ++ [event]) = (h.run { mint } events).step { mint } event :=
    run_append { mint } h events [event]
  have known : ∀ a ∈ (h.run { mint } events).server.answered, a.ticket = held.ticket →
      Completes mint h held (events ++ [event]) a :=
    fun a member own => (follows.completes a member own).append event
  have numbered : held.ticket < (h.run { mint } (events ++ [event])).nextTicket := by
    rw [reached]
    refine Nat.lt_of_lt_of_le follows.numbered ?_
    unfold nextTicket History.step
    simp
  have different : (h.run { mint } events).nextTicket ≠ held.ticket :=
    Nat.ne_of_gt follows.numbered
  cases step_handled inOrder distinct event with
  | quiet heldSame answeredSame =>
      refine ⟨?_, ?_, numbered⟩
      · rw [reached, heldSame]
        exact follows.same
      · rwa [reached, answeredSame]
  | dealt taken dealt =>
      refine ⟨?_, ?_, numbered⟩
      · rw [reached]
        intro other member own
        rcases dealt.held_or_new other member with earlier | ⟨t, client, _, rfl⟩
        · exact follows.same other earlier own
        · exact absurd own different
      · rw [reached]
        intro a member own
        rcases dealt.answered_or_new a member with earlier | ⟨ticket, _⟩
        · exact known a earlier own
        · exact absurd (ticket.symm.trans own) different
  | @completed request member reason remaining answered =>
      refine ⟨?_, ?_, numbered⟩
      · rw [reached, remaining]
        exact fun other listed => follows.same other (List.mem_of_mem_filter listed)
      · rw [reached, answered]
        refine List.forall_mem_append.mpr ⟨known, List.forall_mem_singleton.mpr fun own => ?_⟩
        have request : request = held := follows.same request member own
        subst request
        refine ⟨events, event, [], rfl, member, ?_, rfl, reason.imp_right ?_⟩
        · rw [answered]
          exact List.mem_append_right _ List.mem_cons_self
        · rintro ⟨s, live, ready⟩
          rcases Bool.or_eq_true_iff.mp ready with gone | filled
          · exact .inr ⟨s, live, gone⟩
          · left
            change (h.run { mint } events).server.engine.queueOf request.client ≠ []
            unfold Engine.queueOf
            rw [live]
            simpa using filled
  | dropped _ remaining answeredSame =>
      refine ⟨?_, ?_, numbered⟩
      · rw [reached, remaining]
        exact fun other listed => follows.same other (List.mem_of_mem_filter listed)
      · rwa [reached, answeredSame]

theorem Follows.run (follows : Follows mint h held []) (inOrder : h.InOrder mint settings)
    (distinct : Function.Injective mint) (events : List ServerEvent) :
    Follows mint h held events := by
  induction events using List.reverseRecOn with
  | nil => exact follows
  | append_singleton events event inductionHypothesis =>
      exact inductionHypothesis.step (inOrder.run distinct events) distinct event

/-- An answer does not come after the deadline. -/
theorem Follows.time_le {events : List ServerEvent} (follows : Follows mint h held events)
    (inTime : h.InTime) (inOrder : h.InOrder mint settings) (distinct : Function.Injective mint)
    (punctual : h.Punctual { mint } events) {a : AnsweredRequest}
    (member : a ∈ (h.run { mint } events).server.answered) (own : a.ticket = held.ticket) :
    a.time ≤ held.deadline := by
  rcases follows.completes a member own with ⟨waited, final, rest, rfl, there, _, time, _⟩
  have still := inTime.run inOrder distinct (punctual_append.mp punctual).1
  exact time.trans_le (still held there)

/-- A request that was held and is in hand is still held or has been answered. -/
theorem Follows.held_or_answered {events : List ServerEvent} (follows : Follows mint h held events)
    (inHand : (h.run { mint } events).server.InHand held.ticket) :
    held ∈ (h.run { mint } events).server.held ∨
      ∃ a ∈ (h.run { mint } events).server.answered, a.ticket = held.ticket := by
  rcases inHand with ⟨other, member, own⟩ | answered
  · exact .inl (follows.same other member own ▸ member)
  · exact .inr answered

/-- A request in hand that is held no longer has been answered in time. -/
theorem Follows.exists_answer {events : List ServerEvent} (follows : Follows mint h held events)
    (inTime : h.InTime) (inOrder : h.InOrder mint settings) (distinct : Function.Injective mint)
    (punctual : h.Punctual { mint } events)
    (inHand : (h.run { mint } events).server.InHand held.ticket)
    (ended : held ∉ (h.run { mint } events).server.held) :
    ∃ a ∈ (h.run { mint } events).server.answered,
      a.ticket = held.ticket ∧ a.time ≤ held.deadline := by
  rcases (follows.held_or_answered inHand).resolve_left ended with ⟨a, member, own⟩
  exact ⟨a, member, own, follows.time_le inTime inOrder distinct punctual member own⟩

/-- What is known of a request when it begins to be held. -/
theorem follows_of_begins {event : ServerEvent} (inOrder : h.InOrder mint settings)
    (sound : h.Sound) (distinct : Function.Injective mint) (fresh : held ∉ h.server.held)
    (begins : held ∈ (h.step { mint } event).server.held) :
    Follows mint (h.step { mint } event) held [] ∧
      ∃ t, h.server.transports.get? held.route.type = some t ∧
        held.timeout = t.options.timeout ∧ held.deadline = h.server.now + held.timeout := by
  have next := inOrder.step distinct event
  have same : ∀ other ∈ (h.step { mint } event).server.held, other.ticket = held.ticket →
      other = held :=
    fun other member own => List.inj_on_of_nodup_map next.ticketsDistinct member begins own
  cases step_handled inOrder distinct event with
  | quiet heldSame => exact absurd (heldSame ▸ begins) fresh
  | @dealt intake freshBrowser taken dealt =>
      rcases dealt.held_or_new held begins with earlier | ⟨t, client, found, new⟩
      · exact absurd earlier fresh
      · have ticket : held.ticket = h.nextTicket := congrArg HeldRequest.ticket new
        refine ⟨⟨same, ?_, ?_⟩, t, ?_, ?_, ?_⟩
        · have answered := dealt.held_or_answered.resolve_right fun heldSame =>
            absurd (heldSame ▸ begins) fresh
          change ∀ a ∈ (h.step { mint } event).server.answered, _
          rw [answered]
          intro a member own
          have earlier := sound.numbered a.ticket (.inr ⟨a, member, rfl⟩)
          omega
        · change held.ticket < (h.step { mint } event).nextTicket
          rw [ticket]
          unfold nextTicket History.step
          rw [taken]
          simp
        · rw [new]
          exact found
        · rw [new]
          rfl
        · rw [new]
          rfl
  | completed _ _ remaining | dropped _ remaining =>
      rw [remaining] at begins
      exact absurd (List.mem_of_mem_filter begins) fresh

/-- A request that looks at its session and finds nothing is held as before. -/
theorem look_of_empty (inOrder : h.InOrder mint settings) (member : held ∈ h.server.held)
    {s : Session} (known : h.server.engine.known? held.client = some s) (empty : s.queue = [])
    (connected : s.disconnected = false) :
    (h.step { mint } (.look held.ticket)).server.held = h.server.held ∧
      (h.step { mint } (.look held.ticket)).server.answered = h.server.answered := by
  have found : h.server.heldBy? held.ticket = some held :=
    HeldRequest.find?_eq_some_of_mem member inOrder.ticketsDistinct
  have idle : ¬ s.ready = true := by simp [Session.ready, empty, connected]
  simp only [step, next, found]
  rw [inOrder.attends.resume_eq member known, if_neg idle]
  exact ⟨rfl, rfl⟩

/-- In every run in which the clock moves only while every task waits, and not past a timer, a
request that begins to be held has a deadline, which is set from the timeout of its transport.
The clock never passes the deadline while it is held.  Unless its client goes away, it is held or
has been answered.  An answer is not later than the deadline, and if it is earlier it brings a
message that was queued or the session had been disconnected.  To look at the session and find
nothing, because another held request took what was there, does not end the hold.  Nor does the
run get stuck: the schedule makes it go on to any time, and once it comes to the deadline the
request has been answered, unless its client has gone away before. -/
theorem run_ends_holds {path : String} {endpoint : EndpointContext} {codec : CodecChoice}
    {settings : List (ConnectionType × Except ConfigError TransportOptions)} {start : Server}
    (assembled : Server.assemble path endpoint codec settings = .ok start)
    {mint : Nat → ClientId} (distinct : Function.Injective mint)
    {before after : List ServerEvent} {event : ServerEvent} {held : HeldRequest}
    (punctual : Punctual { mint } { server := start } (before ++ event :: after))
    (fresh : held ∉ (run { mint } { server := start } before).server.held)
    (begins : held ∈ (run { mint } { server := start } (before ++ [event])).server.held) :
    let began := run { mint } { server := start } before
    let h := began.step { mint } event
    let last := h.run { mint } after
    (∃ o, start.optionsOf? held.route.type = some o ∧ held.timeout = o.timeout ∧
        held.deadline = began.server.now + o.timeout) ∧
      (held ∈ last.server.held → last.server.now ≤ held.deadline) ∧
      (.drop held.ticket ∉ after →
        held ∈ last.server.held ∨ ∃ a ∈ last.server.answered, a.ticket = held.ticket) ∧
      (∀ a ∈ last.server.answered, a.ticket = held.ticket → a.time ≤ held.deadline ∧
        ∃ waited final rest, after = waited ++ final :: rest ∧
          let moment := h.run { mint } waited
          held ∈ moment.server.held ∧ a ∈ (moment.step { mint } final).server.answered ∧
            a.time = moment.server.now ∧
            (a.time < held.deadline → a.exchange.queued ≠ [] ∨
              ∃ s, moment.server.engine.known? held.client = some s ∧ s.disconnected = true)) ∧
      (∀ waited rest, after = waited ++ rest →
        let moment := h.run { mint } waited
        held ∈ moment.server.held → ∀ s, moment.server.engine.known? held.client = some s →
          s.queue = [] → s.disconnected = false →
            held ∈ (moment.step { mint } (.look held.ticket)).server.held) ∧
      ∀ time, ∃ more,
        Punctual { mint } { server := start } (before ++ event :: (after ++ more)) ∧
          let later := last.run { mint } more
          later.server = last.server.settle.advanceTo time ∧
            later.server.now = max last.server.now time ∧
            (.drop held.ticket ∉ after → held.deadline ≤ time →
              ∃ a ∈ later.server.answered, a.ticket = held.ticket ∧ a.time ≤ held.deadline) := by
  intro began h last
  have reached : run { mint } { server := start } (before ++ [event]) = h :=
    run_append { mint } _ before [event]
  rw [reached] at begins
  have inOrder : began.InOrder mint start.optionsOf? :=
    (InOrder.start assembled mint).run distinct before
  have next : h.InOrder mint start.optionsOf? := inOrder.step distinct event
  have sound : began.Sound := (start_sound assembled).run { mint } before
  rcases follows_of_begins inOrder sound distinct fresh begins with
    ⟨follows, t, found, timeout, deadline⟩
  rcases punctual_append.mp punctual with ⟨earlier, allowed, later⟩
  have first : InTime { server := start } := by
    rcases Server.assemble_spec assembled with ⟨transports, made, _⟩
    subst made
    exact List.forall_mem_nil _
  have inTime : h.InTime :=
    (first.run (InOrder.start assembled mint) distinct earlier).step inOrder distinct allowed
  have ends : ∀ events, Follows mint h held events := follows.run next distinct
  have inHand : .drop held.ticket ∉ after → last.server.InHand held.ticket :=
    inHand_run (.inl ⟨held, begins, rfl⟩) { mint }
  refine ⟨⟨t.options, ?_, timeout, timeout ▸ deadline⟩, ?_, ?_, ?_, ?_, ?_⟩
  · rw [← inOrder.accounts.configured]
    unfold Server.optionsOf?
    rw [found, Option.map_some]
  · exact inTime.run next distinct later held
  · exact fun stays => (ends after).held_or_answered (inHand stays)
  · intro a member own
    rcases (ends after).completes a member own with
      ⟨waited, final, rest, split, there, answers, time, reason⟩
    have bound := (ends after).time_le inTime next distinct later member own
    refine ⟨bound, waited, final, rest, split, there, answers, time, ?_⟩
    exact fun early => reason.resolve_left (Nat.not_le_of_gt early)
  · intro waited rest _ moment there s known empty connected
    rw [(look_of_empty (next.run distinct waited) there known empty connected).1]
    exact there
  · intro time
    have whole : run { mint } { server := start } (before ++ event :: after) = last :=
      run_append { mint } _ before (event :: after)
    have progress := (run_reaches assembled distinct (before ++ event :: after)).1 time
    rw [whole] at progress
    rcases progress with ⟨reaches, clock, beyond, carried⟩
    rcases reaches.exists_run { mint } with ⟨more, onTime, arrived⟩
    have onward : h.Punctual { mint } (after ++ more) := punctual_append.mpr ⟨later, onTime⟩
    have joined : h.run { mint } (after ++ more) = last.run { mint } more :=
      run_append { mint } h after more
    refine ⟨more, punctual_append.mpr ⟨earlier, allowed, onward⟩, arrived, ?_, ?_⟩
    · rw [arrived]
      exact clock
    · intro stays due
      have still : (last.run { mint } more).server.InHand held.ticket := by
        rw [arrived]
        exact carried held.ticket (inHand stays)
      have ended : held ∉ (last.run { mint } more).server.held := by
        rw [arrived]
        exact fun there => absurd due (Nat.not_le_of_gt (beyond held there))
      rw [← joined] at still ended ⊢
      exact (ends (after ++ more)).exists_answer inTime next distinct onward still ended

/-- Two connects are held for one session when a message comes for it.  The second takes the
message.  The first wakes up too, finds nothing, and is answered when its time is up, as it is
whenever the run goes on to its deadline. -/
theorem run_ends_holds_two_connects :
    let options : TransportOptions := { allowWithoutBrowser := true }
    let start : Server :=
      { path := "/", transports := .ofList [(.longPolling, .ofOptions options .compact)] }
    let mint := fun n => (⟨String.ofList (List.replicate n 'c')⟩ : ClientId)
    let hand := fun message => ServerEvent.batch
      { request := { target := .ofText "/" }, route := { type := .longPolling }, batch := [message] }
      ⟨"x"⟩
    let connect := hand { channel := Channel.connect, clientId := some ⟨""⟩ }
    let subscribe := hand
      { channel := Channel.subscribe, clientId := some ⟨""⟩, subscription := some "/a" }
    let before := [hand { channel := Channel.handshake }, subscribe, connect]
    let waited := [connect, .publish "/a" .null, .look 4]
    let after := waited ++ [.look 3, .pass options.timeout, .expire 3]
    let h := run { mint } { server := start } (before ++ [connect])
    let last := h.run { mint } after
    Server.assemble "/" {} .default [(.longPolling, .ok options)] = .ok start ∧
      Function.Injective mint ∧ Punctual { mint } { server := start } (before ++ connect :: after) ∧
      (last.server.answered.map fun a => (a.ticket, a.time, a.exchange.queued.length)).drop 3 =
        [(4, 0, 1), (3, options.timeout, 0)] ∧
      ∃ held ∈ h.server.held, held.ticket = 3 ∧ held.deadline = options.timeout ∧
        held ∈ ((h.run { mint } waited).step { mint } (.look held.ticket)).server.held ∧
        ∃ more, Punctual { mint } { server := start } (before ++ connect :: (waited ++ more)) ∧
          ∃ a ∈ ((h.run { mint } waited).run { mint } more).server.answered,
            a.ticket = held.ticket ∧ a.time ≤ held.deadline := by
  intro options start mint hand connect subscribe before waited after h last
  have assembled : Server.assemble "/" {} .default [(.longPolling, .ok options)] = .ok start := rfl
  have distinct : Function.Injective mint := ClientId.injective_replicate 'c'
  have punctual : Punctual { mint } { server := start } (before ++ connect :: after) := by
    decide +kernel
  have times : (last.server.answered.map fun a =>
      (a.ticket, a.time, a.exchange.queued.length)).drop 3 =
        [(4, 0, 1), (3, options.timeout, 0)] := by decide +kernel
  have fresh : (run { mint } { server := start } before).server.held = [] := by
    have empty : (run { mint } { server := start } before).server.held.isEmpty := by
      decide +kernel
    exact List.isEmpty_iff.mp empty
  have begins : h.server.held.any fun held =>
      held.ticket == 3 && held.client == ⟨""⟩ && held.deadline == options.timeout := by
    decide +kernel
  rcases List.any_eq_true.mp begins with ⟨held, member, shape⟩
  have ⟨⟨ticket, client⟩, deadline⟩ :
      (held.ticket = 3 ∧ held.client = ⟨""⟩) ∧ held.deadline = options.timeout := by
    simpa using shape
  have absent : held ∉ (run { mint } { server := start } before).server.held := by simp [fresh]
  have part : Punctual { mint } { server := start } (before ++ connect :: waited) := by
    decide +kernel
  have kept : .drop held.ticket ∉ waited := by simp [waited, connect, hand]
  rcases run_ends_holds assembled distinct part absent member with
    ⟨_, _, heldOrAnswered, _, _, progress⟩
  have stays : held ∈ (h.run { mint } waited).server.held := by
    rcases heldOrAnswered kept with there | ⟨a, answered, same⟩
    · exact there
    · have none : (h.run { mint } waited).server.answered.all (·.ticket != 3) := by decide +kernel
      exact absurd (same.trans ticket) (bne_iff_ne.mp (List.all_eq_true.mp none a answered))
  have taken : ((h.run { mint } waited).server.engine.known? ⟨""⟩).any fun s =>
      s.queue.isEmpty && !s.disconnected := by decide +kernel
  rcases (Option.any_eq_true _ _).mp taken with ⟨s, known, quiet⟩
  have ⟨empty, live⟩ : s.queue = [] ∧ s.disconnected = false := by simpa using quiet
  rcases run_ends_holds assembled distinct punctual absent member with ⟨_, _, _, _, sleepsOn, _⟩
  rcases progress held.deadline with ⟨more, onward, _, _, answers⟩
  exact ⟨assembled, distinct, punctual, times, held, member, ticket, deadline,
    sleepsOn waited _ rfl stays s (client ▸ known) empty live, more, onward,
    answers kept (Nat.le_refl _)⟩

end History
end Bayeux
