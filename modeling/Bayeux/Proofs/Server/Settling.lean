import Bayeux.Proofs.Server.Attending
import Bayeux.Proofs.Server.Responding

namespace Bayeux

/-!
# The schedule keeps to its rule

The schedule lets every woken request look, and none of them wakes another.  So when it
moves the clock every task waits, and as it goes from one deadline to the next no timer is
passed.  Hence what the schedule makes of a server is the end of a punctual run.  And no run
is stuck at a deadline: the schedule takes it to any time, and answers on the way whoever's
time is up.
-/

theorem Session.woken_leave_subset (s : Session) (ticket : Nat) :
    (s.leave ticket).woken ⊆ s.woken :=
  ((List.filter_sublist.filter _).map _).subset

namespace Engine

variable {e : Engine} {mint : Nat → ClientId}

/-- The tasks that are marked after a session has changed. -/
theorem mem_woken_change (reachable : e.Reachable mint) (distinct : Function.Injective mint)
    (client : ClientId) (act : SessionAct) (id : ClientId) (ticket : Nat) :
    (id, ticket) ∈ (e.change client act.apply).woken ↔
      ∃ s, e.known? id = some s ∧ ticket ∈ (if id = client then act.apply s else s).woken := by
  rw [(reachable.act client act).mem_woken distinct, known?_change]
  split
  next same => simp [same]
  next => rfl

/-- A change that marks no task of its session marks none at all. -/
theorem woken_change_subset (reachable : e.Reachable mint) (distinct : Function.Injective mint)
    (client : ClientId) {act : SessionAct} (quiet : ∀ s, (act.apply s).woken ⊆ s.woken) :
    (e.change client act.apply).woken ⊆ e.woken := by
  rintro ⟨id, ticket⟩ marked
  rcases (mem_woken_change reachable distinct client act id ticket).mp marked with
    ⟨s, known, own⟩
  apply (reachable.mem_woken distinct id ticket).mpr
  split at own
  · exact ⟨s, known, quiet s own⟩
  · exact ⟨s, known, own⟩

end Engine

namespace Server

variable {s : Server} {mint : Nat → ClientId}

/-! ## Those that were woken -/

theorem woken_complete_subset (reachable : s.engine.Reachable mint)
    (distinct : Function.Injective mint) (held : HeldRequest) :
    (s.complete held).engine.woken ⊆ s.engine.woken := by
  have quietly : ∀ session, ((SessionAct.leave held.ticket).apply session).woken ⊆ session.woken :=
    fun session => session.woken_leave_subset held.ticket
  have drained : ∀ session, (SessionAct.takeQueue.apply session).woken ⊆ session.woken :=
    fun session => List.Subset.refl session.woken
  have left := reachable.act held.client (.leave held.ticket)
  have first := Engine.woken_change_subset reachable distinct held.client quietly
  have second := Engine.woken_change_subset left distinct held.client drained
  rw [engine_complete]
  exact List.Subset.trans second first

/-- A request that looks at its session is not marked any more, and marks no other. -/
theorem mem_woken_resume (reachable : s.engine.Reachable mint)
    (distinct : Function.Injective mint) {held : HeldRequest} {waiting : ClientId × Nat}
    (marked : waiting ∈ (s.resume held).engine.woken) :
    waiting ∈ s.engine.woken ∧ waiting ≠ (held.client, held.ticket) := by
  have looked := reachable.act held.client (.resume held.ticket)
  have still : waiting ∈ (s.engine.change held.client (·.resume held.ticket)).woken := by
    simp only [resume] at marked
    split at marked
    · exact marked
    · exact woken_complete_subset looked distinct held marked
  rcases (Engine.mem_woken_change reachable distinct held.client (.resume held.ticket) _ _).mp
    still with ⟨session, known, own⟩
  rw [reachable.mem_woken distinct]
  split at own
  next same =>
    have parts := (session.mem_woken_resume held.ticket waiting.2).mp own
    exact ⟨⟨session, known, parts.1⟩, fun equal => parts.2 (congrArg Prod.snd equal)⟩
  next other =>
    exact ⟨⟨session, known, own⟩, fun equal => other (congrArg Prod.fst equal)⟩

/-- Whoever has been woken is held. -/
theorem Attends.heldBy?_of_woken (attends : s.Attends mint) (distinct : Function.Injective mint)
    (once : s.TicketsDistinct) {waiting : ClientId × Nat} (marked : waiting ∈ s.engine.woken) :
    ∃ held, s.heldBy? waiting.2 = some held ∧ (held.client, held.ticket) = waiting := by
  rcases (attends.reachable.mem_woken distinct _ _).mp marked with ⟨session, known, own⟩
  have listed : waiting.2 ∈ HeldRequest.ticketsFor s.held waiting.1 := by
    rw [← attends.lists, Engine.waitingOn_of_known? known]
    exact (List.filter_sublist.map Waiter.ticket).subset own
  rcases HeldRequest.mem_ticketsFor.mp listed with ⟨held, member, client, ticket⟩
  refine ⟨held, ?_, Prod.ext client ticket⟩
  rw [← ticket]
  exact HeldRequest.find?_eq_some_of_mem member once

/-! ## Every task waits -/

/-- What the schedule relies on: its lists agree, and no ticket is used twice. -/
structure Tended (s : Server) (mint : Nat → ClientId) : Prop where
  attends : s.Attends mint
  once : s.TicketsDistinct

namespace Tended

theorem resume (tended : s.Tended mint) {held : HeldRequest}
    (found : s.heldBy? held.ticket = some held) : (s.resume held).Tended mint :=
  ⟨tended.attends.resume tended.once (List.mem_of_find?_eq_some found),
    tended.once.resume held⟩

theorem settle (tended : s.Tended mint) : s.settle.Tended mint :=
  settle_induction (Tended · mint) (fun found kept => kept.resume found) tended

theorem expire (tended : s.Tended mint) : s.expire.Tended mint := by
  refine expire_induction (Tended · mint) (fun found _ kept => ?_) tended.once tended
  exact ⟨kept.attends.complete kept.once (List.mem_of_find?_eq_some found),
    kept.once.complete _⟩

/-- After all have looked, nobody is marked. -/
theorem woken_settle (tended : s.Tended mint) (distinct : Function.Injective mint) :
    s.settle.engine.woken = [] := by
  unfold Server.settle
  -- The tasks still to look include all that are marked.
  obtain ⟨pending, same, within⟩ : ∃ pending, s.engine.woken = pending ∧
      s.engine.woken ⊆ pending := ⟨_, rfl, List.Subset.refl _⟩
  rw [same]
  clear same
  induction pending generalizing s with
  | nil => exact List.subset_nil.mp within
  | cons head rest inductionHypothesis =>
      rw [List.foldl_cons]
      split
      next held found =>
        have own : held.ticket = head.2 := by simpa using List.find?_some found
        apply inductionHypothesis (tended.resume (own ▸ found))
        intro waiting marked
        rcases mem_woken_resume tended.attends.reachable distinct marked with ⟨before, other⟩
        refine (List.mem_cons.mp (within before)).resolve_left fun same => ?_
        rcases tended.attends.heldBy?_of_woken distinct tended.once before with
          ⟨request, looks, shape⟩
        rw [same, found] at looks
        cases looks
        exact other shape.symm
      next nobody =>
        apply inductionHypothesis tended
        intro waiting marked
        refine (List.mem_cons.mp (within marked)).resolve_left fun same => ?_
        rcases tended.attends.heldBy?_of_woken distinct tended.once marked with ⟨_, looks, _⟩
        rw [same, nobody] at looks
        cases looks

end Tended

theorem now_resume (s : Server) (held : HeldRequest) : (s.resume held).now = s.now := by
  simp only [resume]
  split
  · rfl
  · exact now_complete _ held

theorem held_resume_subset (s : Server) (held : HeldRequest) :
    (s.resume held).held ⊆ s.held := by
  simp only [resume]
  split
  · exact List.Subset.refl _
  · rw [held_complete]
    exact List.filter_subset_self _

theorem held_settle_subset (s : Server) : s.settle.held ⊆ s.held :=
  settle_induction (·.held ⊆ s.held)
    (fun _ kept => List.Subset.trans (held_resume_subset _ _) kept) (List.Subset.refl _)

theorem now_settle (s : Server) : s.settle.now = s.now :=
  settle_induction (·.now = s.now) (fun _ kept => (now_resume _ _).trans kept) rfl

theorem now_expire (distinct : s.TicketsDistinct) : s.expire.now = s.now :=
  expire_induction (·.now = s.now) (fun _ _ kept => (now_complete _ _).trans kept) distinct rfl

/-- Those that are held when all timers have fired are those whose time is not up. -/
theorem mem_held_expire {held : HeldRequest} (member : held ∈ s.expire.held) :
    held ∈ s.held ∧ s.now < held.deadline := by
  have all : ∀ (due : List HeldRequest) (s : Server), held ∈ (due.foldl complete s).held →
      held ∈ s.held ∧ ∀ other ∈ due, held ≠ other := by
    intro due
    induction due with
    | nil => exact fun s there => ⟨there, List.forall_mem_nil _⟩
    | cons head rest inductionHypothesis =>
        intro s there
        rcases inductionHypothesis (s.complete head) there with ⟨remains, others⟩
        rw [held_complete] at remains
        rcases List.mem_filter.mp remains with ⟨before, different⟩
        refine ⟨before, List.forall_mem_cons.mpr ⟨?_, others⟩⟩
        rintro rfl
        simp at different
  rcases all _ s member with ⟨before, others⟩
  refine ⟨before, Nat.lt_of_not_le fun late => ?_⟩
  exact others held (List.mem_filter.mpr ⟨before, decide_eq_true late⟩) rfl

/-! ## From one deadline to the next -/

/-- A server whose tasks all wait, apart from those whose time is up. -/
structure AtRest (s : Server) (mint : Nat → ClientId) : Prop extends s.Tended mint where
  asleep : s.engine.woken = []

theorem Tended.atRest (tended : s.Tended mint) (distinct : Function.Injective mint) :
    s.settle.AtRest mint :=
  ⟨tended.settle, tended.woken_settle distinct⟩

/-- No timer fires late if every deadline up to some time is met in order. -/
theorem AtRest.foldl_deadlines (atRest : s.AtRest mint) (distinct : Function.Injective mint)
    {deadlines : List Nat} {time : Nat} (sorted : deadlines.Pairwise (· ≤ ·))
    (bounded : ∀ deadline ∈ deadlines, deadline ≤ time)
    (listed : ∀ held ∈ s.held, held.deadline ∈ deadlines ∨ time < held.deadline) :
    let met := deadlines.foldl
      (fun s deadline => ({ s with now := max s.now deadline } : Server).expire.settle) s
    Reaches s met ∧ met.AtRest mint ∧ (∀ held ∈ met.held, time < held.deadline) ∧
      max met.now time = max s.now time := by
  induction deadlines generalizing s with
  | nil =>
      have none : ∀ held ∈ s.held, time < held.deadline := by simpa using listed
      exact ⟨.refl s, atRest, none, rfl⟩
  | cons deadline rest inductionHypothesis =>
      rcases List.pairwise_cons.mp sorted with ⟨least, ordered⟩
      rcases List.forall_mem_cons.mp bounded with ⟨within, later⟩
      have first : ∀ held ∈ s.held, deadline ≤ held.deadline := by
        intro held member
        rcases listed held member with met | beyond
        · rcases List.mem_cons.mp met with same | inRest
          · exact Nat.le_of_eq same.symm
          · exact least _ inRest
        · omega
      have idle : s.now < deadline → s.IsIdle := fun early =>
        ⟨atRest.asleep, fun held member => Nat.lt_of_lt_of_le early (first held member)⟩
      let moved : Server := { s with now := max s.now deadline }
      have tended : moved.Tended mint :=
        ⟨atRest.attends.of_same rfl atRest.attends.reachable fun _ => rfl, atRest.once⟩
      have passed : Reaches s moved := .pass s idle first
      have fired := passed.trans (reaches_expire tended.once)
      have settled := fired.trans (reaches_settle moved.expire)
      have remaining : ∀ held ∈ moved.expire.settle.held,
          held.deadline ∈ rest ∨ time < held.deadline := by
        intro held member
        rcases mem_held_expire (held_settle_subset _ member) with ⟨before, early⟩
        have after : deadline < held.deadline := Nat.lt_of_le_of_lt (Nat.le_max_right _ _) early
        refine (listed held before).imp_left fun met => ?_
        exact (List.mem_cons.mp met).resolve_left (Nat.ne_of_gt after)
      have ⟨reached, rests, beyond, clock⟩ :=
        inductionHypothesis (tended.expire.atRest distinct) ordered later remaining
      refine ⟨settled.trans reached, rests, beyond, clock.trans ?_⟩
      rw [now_settle, now_expire tended.once]
      change max (max s.now deadline) time = max s.now time
      omega

/-- The clock goes to a time from one deadline to the next, and arrives.  Nobody whose time is up
is held then. -/
theorem AtRest.reaches_advanceTo (atRest : s.AtRest mint) (distinct : Function.Injective mint)
    (time : Nat) :
    Reaches s (s.advanceTo time) ∧ (s.advanceTo time).now = max s.now time ∧
      ∀ held ∈ (s.advanceTo time).held, time < held.deadline := by
  have within : ∀ deadline ∈ s.deadlines time, deadline ≤ time := by
    intro deadline listed
    simpa using (List.mem_filter.mp (List.mem_mergeSort.mp listed)).2
  have all : ∀ held ∈ s.held, held.deadline ∈ s.deadlines time ∨ time < held.deadline := by
    intro held member
    refine (Nat.lt_or_ge time held.deadline).symm.imp_left fun due => ?_
    apply List.mem_mergeSort.mpr
    exact List.mem_filter.mpr ⟨List.mem_map_of_mem member, decide_eq_true due⟩
  have sorted : (s.deadlines time).Pairwise (· ≤ ·) := List.pairwise_mergeSort' _ _
  rcases atRest.foldl_deadlines distinct sorted within all with ⟨reached, rests, beyond, clock⟩
  refine ⟨reached.trans (.pass _ (fun early => ⟨rests.asleep, ?_⟩) ?_), clock, beyond⟩
  · exact fun held member => early.trans (beyond held member)
  · exact fun held member => Nat.le_of_lt (beyond held member)

/-- Waiting for an answer is to let time pass, and perhaps to give the request up. -/
theorem AtRest.reaches_awaitAnswer (atRest : s.AtRest mint) (distinct : Function.Injective mint)
    (ticket patience : Nat) : Reaches s (s.awaitAnswer ticket patience) := by
  have givenUp := ((atRest.reaches_advanceTo distinct (s.now + patience)).1.trans
    (.drop _ ticket)).trans (reaches_settle _)
  simp only [awaitAnswer]
  split
  next held found =>
    split
    · exact (atRest.reaches_advanceTo distinct held.deadline).1
    · exact givenUp
  next none =>
    split
    · exact givenUp
    · exact .refl s

/-! ## Requests in hand -/

section Carries

variable {new lost : Nat → Prop}

theorem carries_settle (s : Server) : s.Carries new lost s.settle :=
  settle_induction (s.Carries new lost)
    (fun found carried => carried.trans (.resume (List.mem_of_find?_eq_some found)))
    (.of_same rfl rfl)

theorem carries_advanceTo (once : s.TicketsDistinct) (time : Nat) :
    s.Carries new lost (s.advanceTo time) :=
  advanceTo_induction (s.Carries new lost) (fun _ carried => carried.trans (.of_same rfl rfl))
    (fun found carried => carried.trans (.resume (List.mem_of_find?_eq_some found)))
    (fun found _ carried => carried.trans (.complete (List.mem_of_find?_eq_some found)))
    once (.of_same rfl rfl) time

end Carries

/-- No request gets out of hand while the schedule goes to a time. -/
theorem Tended.inHand_advanceTo (tended : s.Tended mint) (time : Nat) {ticket : Nat}
    (inHand : s.InHand ticket) : (s.settle.advanceTo time).InHand ticket := by
  have carried : s.Carries (fun _ => False) (fun _ => False) (s.settle.advanceTo time) :=
    s.carries_settle.trans (carries_advanceTo tended.settle.once time)
  exact (carried.kept ticket inHand).resolve_right id

end Server

/-- Wherever a run has come to, the schedule may take over.  It makes a punctual run from there,
and the clock goes as far as it is told.  It gets no request out of hand, and holds none whose
time is up. -/
theorem History.run_reaches {path : String} {endpoint : EndpointContext} {codec : CodecChoice}
    {settings : List (ConnectionType × Except ConfigError TransportOptions)} {start : Server}
    (assembled : Server.assemble path endpoint codec settings = .ok start)
    {mint : Nat → ClientId} (distinct : Function.Injective mint) (events : List ServerEvent) :
    let s := (run { mint } { server := start } events).server
    (∀ time,
      let later := s.settle.advanceTo time
      s.Reaches later ∧ later.now = max s.now time ∧
        (∀ held ∈ later.held, time < held.deadline) ∧
        ∀ ticket, s.InHand ticket → later.InHand ticket) ∧
      ∀ ticket patience, s.Reaches (s.settle.awaitAnswer ticket patience) := by
  intro s
  have inOrder := (InOrder.start assembled mint).run distinct events
  have tended : s.Tended mint := ⟨inOrder.attends, inOrder.ticketsDistinct⟩
  have atRest := tended.atRest distinct
  have settled := Server.reaches_settle s
  refine ⟨fun time => ?_, fun ticket patience =>
    settled.trans (atRest.reaches_awaitAnswer distinct ticket patience)⟩
  rcases atRest.reaches_advanceTo distinct time with ⟨reached, clock, beyond⟩
  refine ⟨settled.trans reached, clock.trans ?_, beyond, ?_⟩
  · rw [Server.now_settle]
  · exact fun ticket inHand => tended.inHand_advanceTo time inHand

end Bayeux
