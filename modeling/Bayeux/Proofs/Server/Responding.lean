import Bayeux.Proofs.Server.Processing
import Bayeux.Proofs.Server.Refusing
import Bayeux.Proofs.Server.Scheduling

namespace Bayeux

/-!
# The response to a request

A request that is not refused is in hand from the moment it comes in: it has been answered, or
it is held.  Nothing that happens to a server takes it out of hand but its own client going
away, and when its time is up it is answered.  No answer on record says that a request was
malformed, so that the status of a response tells the requests that are refused from all
others.
-/

namespace Server

/-- A request is held or has been answered. -/
def InHand (s : Server) (ticket : Nat) : Prop :=
  (∃ held ∈ s.held, held.ticket = ticket) ∨ ∃ a ∈ s.answered, a.ticket = ticket

/-- From one server to a later one, no request gets out of hand but those that are lost, and
none gets in hand but those that are new.  Answers stay on record, and new ones are good. -/
structure Carries (new lost : Nat → Prop) (s next : Server) : Prop where
  kept : ∀ ticket, s.InHand ticket → next.InHand ticket ∨ lost ticket
  known : ∀ ticket, next.InHand ticket → s.InHand ticket ∨ new ticket
  recorded : ∀ a ∈ s.answered, a ∈ next.answered
  good : ∀ a ∈ next.answered, a ∈ s.answered ∨ Reply.statusOf a.exchange.outcome = 200

namespace Carries

variable {new lost : Nat → Prop} {s next last : Server}

/-- Only the held requests and the answers matter. -/
theorem of_same (held : next.held = s.held) (answered : next.answered = s.answered) :
    s.Carries new lost next := by
  have same : next.InHand = s.InHand := by
    unfold InHand
    rw [held, answered]
  refine ⟨?_, ?_, ?_, ?_⟩
  · exact fun ticket inHand => .inl (same ▸ inHand)
  · exact fun ticket inHand => .inl (same ▸ inHand)
  · exact fun a member => answered ▸ member
  · exact fun a member => .inl (answered ▸ member)

theorem trans (first : s.Carries new lost next) (second : next.Carries new lost last) :
    s.Carries new lost last where
  kept := fun ticket inHand =>
    (first.kept ticket inHand).elim (second.kept ticket) .inr
  known := fun ticket inHand =>
    (second.known ticket inHand).elim (first.known ticket) .inr
  recorded := fun a member => second.recorded a (first.recorded a member)
  good := fun a member => (second.good a member).elim (first.good a) .inr

/-! ## Answering and holding -/

/-- A request that is in hand or new is answered, and is then held no longer. -/
theorem answer {a : AnsweredRequest} (entitled : s.InHand a.ticket ∨ new a.ticket)
    (status : Reply.statusOf a.exchange.outcome = 200)
    (answered : next.answered = s.answered ++ [a])
    (held : ∀ held ∈ s.held, held ∈ next.held ∨ held.ticket = a.ticket)
    (fewer : ∀ held ∈ next.held, held ∈ s.held) : s.Carries new lost next := by
  have last : a ∈ next.answered := by
    rw [answered]
    exact List.mem_append_right _ List.mem_cons_self
  have recorded : ∀ other ∈ s.answered, other ∈ next.answered := by
    intro other member
    rw [answered]
    exact List.mem_append_left _ member
  have either : ∀ other ∈ next.answered, other ∈ s.answered ∨ other = a := by
    intro other member
    rw [answered] at member
    exact (List.mem_append.mp member).imp_right List.mem_singleton.mp
  refine ⟨?_, ?_, recorded, ?_⟩
  · rintro ticket (⟨request, member, own⟩ | ⟨other, member, own⟩)
    · rcases held request member with still | same
      · exact .inl (.inl ⟨request, still, own⟩)
      · exact .inl (.inr ⟨a, last, same.symm.trans own⟩)
    · exact .inl (.inr ⟨other, recorded other member, own⟩)
  · rintro ticket (⟨request, member, own⟩ | ⟨other, member, own⟩)
    · exact .inl (.inl ⟨request, fewer request member, own⟩)
    · rcases either other member with earlier | same
      · exact .inl (.inr ⟨other, earlier, own⟩)
      · rw [same] at own
        exact own ▸ entitled
  · intro other member
    rcases either other member with earlier | same
    · exact .inl earlier
    · exact .inr (same.symm ▸ status)

theorem conclude {ticket : Nat} (entitled : s.InHand ticket ∨ new ticket) (route : Route)
    {exchange : Exchange} (status : Reply.statusOf exchange.outcome = 200) :
    s.Carries new lost (s.conclude ticket route exchange) :=
  answer (a := { ticket, time := s.now, route, exchange }) entitled status rfl
    (fun _ member => .inl member) fun _ member => member

theorem complete {held : HeldRequest} (member : held ∈ s.held) :
    s.Carries new lost (s.complete held) := by
  have answered : (s.unhold held).answered = s.answered := answered_releaseHold _ held
  refine answer (a := ⟨held.ticket, _, held.route, _⟩) (.inl (.inl ⟨held, member, rfl⟩)) ?_
    (congrArg (· ++ _) answered) ?_ ?_
  · rfl
  · intro other listed
    rw [held_complete]
    by_cases same : other.ticket = held.ticket
    · exact .inr same
    · exact .inl (List.mem_filter.mpr ⟨listed, bne_iff_ne.mpr same⟩)
  · intro other listed
    rw [held_complete] at listed
    exact List.mem_of_mem_filter listed

theorem hold {held : HeldRequest} (entitled : s.InHand held.ticket ∨ new held.ticket) :
    s.Carries new lost (s.hold held) := by
  have begins : s.Carries new lost (s.waiting held) := by
    refine ⟨?_, ?_, fun _ member => member, fun _ member => .inl member⟩
    · rintro ticket (⟨other, member, own⟩ | answered)
      · exact .inl (.inl ⟨other, List.mem_append_left _ member, own⟩)
      · exact .inl (.inr answered)
    · rintro ticket (⟨other, member, own⟩ | answered)
      · rcases List.mem_append.mp member with earlier | last
        · exact .inl (.inl ⟨other, earlier, own⟩)
        · rw [List.mem_singleton.mp last] at own
          exact own ▸ entitled
      · exact .inl (.inr answered)
  rw [hold_eq]
  split
  · exact begins
  · exact begins.trans (complete (s.mem_held_waiting held))

/-- What is made of a request that is not held after all. -/
theorem conclude_drain {ticket : Nat} (entitled : s.InHand ticket ∨ new ticket) (route : Route)
    (client : ClientId) {exchange : Exchange}
    (status : Reply.statusOf exchange.outcome = 200) :
    s.Carries new lost
      ((s.drain client exchange).2.conclude ticket route (s.drain client exchange).1) := by
  have drained : s.Carries new lost (s.drain client exchange).2 := of_same rfl rfl
  have still : (s.drain client exchange).2.InHand ticket ∨ new ticket := entitled
  exact drained.trans (conclude still route status)

theorem endBatch (session : Option ClientId) : s.Carries new lost (s.endBatch session) := by
  unfold Server.endBatch
  split <;> exact of_same rfl rfl

theorem consider (t : Transport) {a : Arrival} (entitled : s.InHand a.ticket ∨ new a.ticket)
    (route : Route) (client : ClientId) (index : Nat) (exchange : Exchange) :
    s.Carries new lost (s.consider t a route client index exchange) := by
  have asked : s.Carries new lost (s.asked t a route) := of_same rfl rfl
  have still : (s.asked t a route).InHand a.ticket ∨ new a.ticket := entitled
  rw [consider_eq]
  split
  · exact asked.trans (hold still)
  · exact asked.trans (conclude_drain still route client rfl)

/-- Whatever becomes of a batch, only its own request is new in hand. -/
theorem process (around : Surroundings) {a : Arrival} (own : new a.ticket) (route : Route)
    (batch : Batch) : s.Carries new lost (s.process around a route batch) := by
  have outcome := process_processed around s a route batch
  generalize s.process around a route batch = result at outcome
  have dispatched : ∀ t engine, s.Carries new lost (s.dispatched t batch engine) := by
    intro t engine
    have changed : s.Carries new lost { s with engine } := of_same rfl rfl
    exact changed.trans (endBatch _)
  cases outcome with
  | unserved absent => exact of_same rfl rfl
  | stalled found dispatch => exact of_same rfl rfl
  | unconnected found dispatch connect =>
      exact (dispatched _ _).trans (conclude (.inr own) route rfl)
  | considered found dispatch connect idle =>
      exact (dispatched _ _).trans (consider _ (.inr own) route _ _ _)
  | ready found dispatch connect busy =>
      exact (dispatched _ _).trans (conclude_drain (.inr own) route _ rfl)

/-! ## Other events -/

theorem resume {held : HeldRequest} (member : held ∈ s.held) :
    s.Carries new lost (s.resume held) := by
  have looked : s.Carries new lost
      { s with engine := s.engine.change held.client (·.resume held.ticket) } := of_same rfl rfl
  unfold Server.resume
  simp only []
  split
  · exact looked
  · exact looked.trans (complete member)

theorem unhold {held : HeldRequest} (gone : lost held.ticket) :
    s.Carries new lost (s.unhold held) := by
  have remaining : (s.unhold held).held =
      s.held.filter fun other => other.ticket != held.ticket := held_releaseHold _ held
  have answered : (s.unhold held).answered = s.answered := answered_releaseHold _ held
  refine ⟨?_, ?_, fun _ member => answered ▸ member, fun _ member => .inl (answered ▸ member)⟩
  · rintro ticket (⟨other, member, rfl⟩ | done)
    · by_cases same : other.ticket = held.ticket
      · exact .inr (same ▸ gone)
      · have stays : other ∈ (s.unhold held).held := by
          rw [remaining]
          exact List.mem_filter.mpr ⟨member, bne_iff_ne.mpr same⟩
        exact .inl (.inl ⟨other, stays, rfl⟩)
    · exact .inl (.inr (answered ▸ done))
  · rintro ticket (⟨other, member, own⟩ | done)
    · rw [remaining] at member
      exact .inl (.inl ⟨other, List.mem_of_mem_filter member, own⟩)
    · exact .inl (.inr (answered ▸ done))

theorem drop {ticket : Nat} (gone : lost ticket) : s.Carries new lost (s.drop ticket) := by
  refine Server.drop_induction (s.Carries new lost) (fun _ _ own => unhold (own ▸ gone)) ?_
    (of_same rfl rfl)
  intro next stalled batchOn carried
  have fewer : next.Carries new lost { next with stalled } := of_same rfl rfl
  exact (carried.trans fewer).trans (endBatch batchOn)

theorem sweepTransport (now : Timestamp) (type : ConnectionType) :
    s.Carries new lost (s.sweepTransport now type).2 := by
  unfold Server.sweepTransport
  split <;> exact of_same rfl rfl

theorem sweep (now : Timestamp) : s.Carries new lost (s.sweep now).2 :=
  Server.sweep_induction (s.Carries new lost)
    (fun carried type => carried.trans (sweepTransport now type)) (of_same rfl rfl)

end Carries

end Server

/-! ## Requests that are let in -/

/-- A message gets an answer, unless an extension never answers it. -/
theorem Surroundings.isSome_answers? {around : Surroundings} {r : Request} {batch : Batch}
    (heard : ∀ m ∈ batch, around.intercept r m ≠ .silence) (o : TransportOptions) (e : Engine) :
    (around.answers? o r e batch).1.isSome := by
  induction batch generalizing e with
  | nil => rfl
  | cons m rest inductionHypothesis =>
      have replied : (around.reply? r e m).1.isSome := by
        have own := heard m List.mem_cons_self
        unfold reply?
        cases made : around.intercept r m with
        | pass => rfl
        | answer reply => rfl
        | silence => exact absurd made own
      have answered : ∃ answer changed, around.answer? o r e m = (some answer, changed) := by
        rcases Option.isSome_iff_exists.mp replied with ⟨reply, made⟩
        unfold answer?
        simp only [made, Option.map_some]
        split
        · exact ⟨_, _, rfl⟩
        · exact ⟨_, _, rfl⟩
      rcases answered with ⟨answer, changed, first⟩
      have others := inductionHypothesis (fun m member => heard m (List.mem_cons_of_mem _ member))
        changed
      unfold answers?
      rw [first]
      exact Option.isSome_map.trans others

namespace Server

theorem inHand_hold (s : Server) (held : HeldRequest) : (s.hold held).InHand held.ticket := by
  have there : (s.waiting held).InHand held.ticket := .inl ⟨held, s.mem_held_waiting held, rfl⟩
  have carried : (s.waiting held).Carries (fun _ => False) (fun _ => False)
      ((s.waiting held).complete held) := .complete (s.mem_held_waiting held)
  rw [hold_eq]
  split
  · exact there
  · exact (carried.kept held.ticket there).resolve_right id

/-- A request whose messages all get answers is in hand at once. -/
theorem inHand_process {around : Surroundings} {s : Server} {a : Arrival} {route : Route}
    {batch : Batch} {t : Transport} (found : s.transports.get? route.type = some t)
    (heard : ∀ m ∈ batch, around.intercept a.request m ≠ .silence) :
    (s.process around a route batch).InHand a.ticket := by
  have outcome := process_processed around s a route batch
  generalize s.process around a route batch = result at outcome
  have concluded : ∀ (s : Server) (exchange : Exchange),
      (s.conclude a.ticket route exchange).InHand a.ticket := fun s exchange =>
    .inr ⟨_, List.mem_append_right _ List.mem_cons_self, rfl⟩
  cases outcome with
  | unserved absent =>
      rw [found] at absent
      cases absent
  | @stalled t engine _ dispatch =>
      have answered := Surroundings.isSome_answers? heard t.options (s.opened t batch)
      rw [dispatch] at answered
      cases answered
  | unconnected found dispatch connect => exact concluded _ _
  | considered found dispatch connect idle =>
      rw [consider_eq]
      split
      · exact inHand_hold _ (heldRequest _ _ a route _ _)
      · exact concluded _ _
  | ready found dispatch connect busy => exact concluded _ _

end Server

namespace History

/-- An event loses a request only when its client goes away, and takes up only the next. -/
theorem step_carries (around : Surroundings) (h : History) (event : ServerEvent) :
    h.server.Carries (· < (h.step around event).nextTicket) (fun ticket => event = .drop ticket)
      (h.step around event).server := by
  have next : ∀ intake, h.intake? event = some intake →
      h.nextTicket < (h.step around event).nextTicket := by
    intro intake taken
    unfold nextTicket step
    rw [taken]
    simp
  cases event with
  | request request freshBrowser =>
      simp only [step, History.next]
      rw [Server.receive_eq]
      cases taken : h.server.intake? request with
      | some intake => exact .process around (next intake taken) _ _
      | none =>
          simp only []
          split <;> exact .of_same rfl rfl
  | batch intake freshBrowser => exact .process around (next intake rfl) _ _
  | publish channel data => exact .of_same rfl rfl
  | look ticket =>
      simp only [step, History.next]
      split
      next held found => exact .resume (List.mem_of_find?_eq_some found)
      next => exact .of_same rfl rfl
  | expire ticket =>
      simp only [step, History.next]
      split
      next held found =>
        split
        · exact .complete (List.mem_of_find?_eq_some found)
        · exact .of_same rfl rfl
      next => exact .of_same rfl rfl
  | drop ticket => exact .drop rfl
  | sweep now => exact .sweep now
  | pass span => exact .of_same rfl rfl

/-- The answers on record are good, and only tickets that were given out are in hand. -/
structure Sound (h : History) : Prop where
  numbered : ∀ ticket, h.server.InHand ticket → ticket < h.nextTicket
  good : ∀ a ∈ h.server.answered, Reply.statusOf a.exchange.outcome = 200

theorem Sound.step {h : History} (sound : h.Sound) (around : Surroundings)
    (event : ServerEvent) : (h.step around event).Sound := by
  have carries := h.step_carries around event
  have more : h.nextTicket ≤ (h.step around event).nextTicket := by
    unfold nextTicket History.step
    simp
  constructor
  · intro ticket inHand
    rcases carries.known ticket inHand with earlier | fresh
    · exact Nat.lt_of_lt_of_le (sound.numbered ticket earlier) more
    · exact fresh
  · exact fun a member => (carries.good a member).elim (sound.good a) id

theorem Sound.run {h : History} (sound : h.Sound) (around : Surroundings)
    (events : List ServerEvent) : (h.run around events).Sound :=
  run_induction (fun _ event sound => sound.step around event) sound events

/-- A request stays in hand as long as its client does not go away. -/
theorem inHand_run {h : History} {ticket : Nat} (inHand : h.server.InHand ticket)
    (around : Surroundings) {events : List ServerEvent} (stays : .drop ticket ∉ events) :
    (h.run around events).server.InHand ticket := by
  induction events generalizing h with
  | nil => exact inHand
  | cons event rest inductionHypothesis =>
      have parts := not_or.mp (mt List.mem_cons.mpr stays)
      have still := ((h.step_carries around event).kept ticket inHand).resolve_right
        (Ne.symm parts.1)
      exact inductionHypothesis still parts.2

theorem next_expire {h : History} {ticket : Nat} {held : HeldRequest}
    (found : h.server.heldBy? ticket = some held) (due : held.deadline ≤ h.server.now)
    (around : Surroundings) : h.next around (.expire ticket) = h.server.complete held := by
  unfold next
  simp only [found, if_pos due]

/-- A request in hand is answered at the latest when its time is up. -/
theorem exists_answer {h : History} {ticket : Nat} (inHand : h.server.InHand ticket)
    (around : Surroundings) : ∃ span, ∃ a ∈
      (h.run around [.pass span, .expire ticket]).server.answered, a.ticket = ticket := by
  rcases inHand with ⟨held, member, own⟩ | ⟨a, member, own⟩
  · cases found : h.server.heldBy? ticket with
    | none => exact absurd (beq_iff_eq.mpr own) (List.find?_eq_none.mp found held member)
    | some first =>
        let late := h.step around (.pass first.deadline)
        have expired : (h.run around [.pass first.deadline, .expire ticket]).server =
            late.server.complete first :=
          next_expire (h := late) found (Nat.le_add_left first.deadline h.server.now) around
        refine ⟨first.deadline, ?_⟩
        rw [expired]
        exact ⟨_, List.mem_append_right _ List.mem_cons_self, by simpa using List.find?_some found⟩
  · have moved := h.step_carries around (.pass 0)
    have expired := (h.step around (.pass 0)).step_carries around (.expire ticket)
    exact ⟨0, a, expired.recorded a (moved.recorded a member), own⟩

/-- The response to a request that has been answered. -/
def response? (h : History) (ticket : Nat) : Option Reply :=
  (h.server.answered.find? fun a => a.ticket == ticket).map h.server.replyTo

/-- The response to a request that comes in, if there is one by the time that some more events
have happened. -/
def responseTo? (around : Surroundings) (h : History) (r : Request) (freshBrowser : BrowserId)
    (later : List ServerEvent) : Option Reply :=
  (h.server.receive around { ticket := h.nextTicket, request := r, freshBrowser }).1.or
    (((h.step around (.request r freshBrowser)).run around later).response? h.nextTicket)

theorem Sound.status {h : History} (sound : h.Sound) {ticket : Nat} {response : Reply}
    (responded : h.response? ticket = some response) : response.status = 200 := by
  rcases Option.map_eq_some_iff.mp responded with ⟨a, found, rfl⟩
  exact sound.good a (List.mem_of_find?_eq_some found)

theorem exists_response {h : History} {a : AnsweredRequest} (member : a ∈ h.server.answered) :
    ∃ response, h.response? a.ticket = some response := by
  cases found : h.server.answered.find? fun other => other.ticket == a.ticket with
  | none => exact absurd (beq_self_eq_true _) (List.find?_eq_none.mp found a member)
  | some first => exact ⟨_, congrArg (Option.map h.server.replyTo) found⟩

theorem start_sound {path : String} {endpoint : EndpointContext} {codec : CodecChoice}
    {settings : List (ConnectionType × Except ConfigError TransportOptions)} {start : Server}
    (assembled : Server.assemble path endpoint codec settings = .ok start) :
    ({ server := start } : History).Sound := by
  rcases Server.assemble_spec assembled with ⟨transports, made, _⟩
  subst made
  constructor
  · rintro ticket (⟨_, absent, _⟩ | ⟨_, absent, _⟩) <;> cases absent
  · intro a absent
    cases absent

section Requests

variable {h : History} {r : Request} (addresses : h.server.Addresses r)
  (freshBrowser : BrowserId)

include addresses

/-- A refused request leaves no trace but in the metrics. -/
theorem exists_response_of_refuses (refuses : h.server.Refuses r) :
    ∃ response metrics, response.status = 400 ∧ response.setCookie = [] ∧
      ∀ around, (∀ later, h.responseTo? around r freshBrowser later = some response) ∧
        h.step around (.request r freshBrowser) =
          { h with server := { h.server with metrics } } := by
  let arrival : Arrival := { ticket := h.nextTicket, request := r, freshBrowser }
  rcases Server.Addresses.receive_of_refuses (a := arrival) addresses refuses with
    ⟨response, metrics, status, cookies, received⟩
  have nothing : h.server.intake? r = none := addresses.intake?_eq_none_iff.mpr refuses
  refine ⟨response, metrics, status, cookies, fun around => ⟨fun later => ?_, ?_⟩⟩
  · unfold responseTo?
    rw [received around]
    rfl
  · simp only [step, next, intake?, nothing, Option.toList_none, List.append_nil]
    exact congrArg (fun result => { h with server := result.2 }) (received around)

/-- A request that is let in gets no reply before it is answered. -/
theorem responseTo?_of_intake? {intake : Intake} (taken : h.server.intake? r = some intake)
    (around : Surroundings) (later : List ServerEvent) :
    h.responseTo? around r freshBrowser later =
      ((h.step around (.request r freshBrowser)).run around later).response? h.nextTicket := by
  let arrival : Arrival := { ticket := h.nextTicket, request := r, freshBrowser }
  unfold responseTo?
  rw [(Server.Addresses.receive_of_intake? (a := arrival) addresses taken around).1]
  rfl

/-- A request that is let in is in hand, if its messages all get answers. -/
theorem inHand_step {intake : Intake} (taken : h.server.intake? r = some intake)
    {around : Surroundings}
    (heard : ∀ m ∈ intake.batch, around.intercept intake.request m ≠ .silence) :
    (h.step around (.request r freshBrowser)).server.InHand h.nextTicket := by
  let arrival : Arrival := { ticket := h.nextTicket, request := r, freshBrowser }
  rcases (Server.Addresses.receive_of_intake? (a := arrival) addresses taken around).2 with
    ⟨t, found⟩
  simp only [step, next]
  rw [Server.receive_eq]
  simp only [taken]
  exact Server.inHand_process found heard

end Requests

/-- In every run of a server, a request on its path that uses GET or POST is answered with
status 400 if it is one of those that are refused, and else with status 200.  A refused request
is answered at once and without cookies, and nothing changes by it but the metrics: no session,
no queue, no subscription and no counter.  This is so whatever the surroundings, so that no
extension has been asked and no id minted.  Any other request, unless an extension is silent
about one of its messages, is answered at the latest when its time is up, whatever else happens
but its client going away. -/
theorem run_responds {path : String} {endpoint : EndpointContext} {codec : CodecChoice}
    {settings : List (ConnectionType × Except ConfigError TransportOptions)} {start : Server}
    (assembled : Server.assemble path endpoint codec settings = .ok start)
    (around : Surroundings) (events : List ServerEvent) {r : Request}
    (addresses : (run around { server := start } events).server.Addresses r)
    (freshBrowser : BrowserId) :
    let h := run around { server := start } events
    (∀ later response, h.responseTo? around r freshBrowser later = some response →
        (response.status = 400 ↔ h.server.Refuses r) ∧
          (response.status = 200 ↔ ¬ h.server.Refuses r)) ∧
      (h.server.Refuses r → ∃ response metrics, response.setCookie = [] ∧
        ∀ other, (∀ later, h.responseTo? other r freshBrowser later = some response) ∧
          h.step other (.request r freshBrowser) =
            { h with server := { h.server with metrics } }) ∧
      (∀ a ∈ h.server.answered, a.ticket ≠ h.nextTicket) ∧
      (¬ h.server.Refuses r → ∃ intake, h.server.intake? r = some intake ∧
        ((∀ m ∈ intake.batch, around.intercept intake.request m ≠ .silence) →
          ∀ later, .drop h.nextTicket ∉ later → ∃ span response,
            h.responseTo? around r freshBrowser
              (later ++ [.pass span, .expire h.nextTicket]) = some response)) := by
  intro h
  have sound : h.Sound := (start_sound assembled).run around events
  have fresh : ∀ a ∈ h.server.answered, a.ticket ≠ h.nextTicket := fun a member same =>
    absurd (sound.numbered a.ticket (.inr ⟨a, member, rfl⟩)) (by simp [same])
  by_cases refuses : h.server.Refuses r
  · rcases exists_response_of_refuses addresses freshBrowser refuses with
      ⟨reply, metrics, status, cookies, refused⟩
    refine ⟨?_, fun _ => ⟨reply, metrics, cookies, refused⟩, fresh, fun fine =>
      absurd refuses fine⟩
    intro later response responded
    rw [(refused around).1] at responded
    cases responded
    simp [status, refuses]
  · cases taken : h.server.intake? r with
    | none => exact absurd (addresses.intake?_eq_none_iff.mp taken) refuses
    | some intake =>
        have responds := responseTo?_of_intake? addresses freshBrowser taken around
        refine ⟨?_, fun wrong => absurd wrong refuses, fresh, fun _ => ⟨intake, rfl, ?_⟩⟩
        · intro later response responded
          rw [responds] at responded
          have status := ((sound.step around (.request r freshBrowser)).run around later).status
            responded
          simp [status, refuses]
        · intro heard later stays
          have inHand := inHand_run (inHand_step addresses freshBrowser taken heard) around stays
          rcases exists_answer inHand around with ⟨span, a, member, own⟩
          rcases exists_response member with ⟨response, responded⟩
          rw [own] at responded
          refine ⟨span, response, ?_⟩
          rw [responds, run_append]
          exact responded

/-- The second of two texts in a query does not decode, so that the handshake in the first opens
no session.  The first text by itself is answered. -/
theorem run_responds_to_queries :
    let start : Server :=
      { path := "/"
        transports := .ofList [(.longPolling, .ofOptions {} .compact),
          (.callbackPolling, .ofOptions {} .compact)] }
    let around : Surroundings := { mint := fun n => ⟨String.ofList (List.replicate n 'c')⟩ }
    let query := "/?jsonp=f&message=[%7B%22channel%22:%22/meta/handshake%22%7D]"
    let good : Request := { method := "GET", target := .ofText query }
    let bad : Request := { method := "GET", target := .ofText (query ++ "&message=[") }
    let h := run around { server := start } [.sweep ⟨1⟩, .pass 1]
    Server.assemble "/" {} .default [(.longPolling, .ok {}), (.callbackPolling, .ok {})] =
        .ok start ∧
      (∃ response, response.status = 200 ∧
        ∃ later, responseTo? around h good ⟨"x"⟩ later = some response) ∧
      ∃ response, response.status = 400 ∧ response.setCookie = [] ∧
        (∀ later, responseTo? around h bad ⟨"x"⟩ later = some response) ∧
        (h.step around (.request bad ⟨"x"⟩)).server.engine.sessionCount = 0 := by
  intro start around query good bad h
  have assembled : Server.assemble "/" {} .default
      [(.longPolling, .ok {}), (.callbackPolling, .ok {})] = .ok start := rfl
  have goodAddresses : h.server.Addresses good := ⟨by decide +kernel, .inl rfl⟩
  have badAddresses : h.server.Addresses bad := ⟨by decide +kernel, .inl rfl⟩
  have taken : (h.server.intake? good).isSome = true := by decide +kernel
  have fine : ¬ h.server.Refuses good := by
    intro refuses
    rw [goodAddresses.intake?_eq_none_iff.mpr refuses] at taken
    cases taken
  have refuses : h.server.Refuses bad := by
    have named : bad.parameter? "jsonp" = some "f" := by decide +kernel
    have given : "[" ∈ bad.parameterValues "message" := by decide +kernel
    have malformed : Codec.compact.decode "[" = .error .endInList := by rfl
    have found : (h.server.transports.get? .callbackPolling).map Transport.codec =
        some .compact := by decide +kernel
    rcases Option.map_eq_some_iff.mp found with ⟨t, there, codec⟩
    exact .message rfl there named given (codec ▸ malformed)
  have sessions : h.server.engine.sessionCount = 0 := by decide +kernel
  rcases run_responds assembled around [.sweep ⟨1⟩, .pass 1] goodAddresses ⟨"x"⟩ with
    ⟨goodStatus, _, _, answered⟩
  rcases run_responds assembled around [.sweep ⟨1⟩, .pass 1] badAddresses ⟨"x"⟩ with
    ⟨badStatus, refused, _, _⟩
  rcases answered fine with ⟨intake, _, answers⟩
  rcases answers (fun _ _ silent => by cases silent) [] (by simp) with
    ⟨span, response, responded⟩
  rcases refused refuses with ⟨refusal, metrics, cookies, always⟩
  rcases always around with ⟨responds, stepped⟩
  refine ⟨assembled, ⟨response, (goodStatus _ _ responded).2.mpr fine, _, responded⟩, refusal,
    (badStatus [] _ (responds [])).1.mpr refuses, cookies, responds, ?_⟩
  simp only [h] at sessions ⊢
  rw [stepped]
  exact sessions

end History
end Bayeux
