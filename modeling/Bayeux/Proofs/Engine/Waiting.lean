import Bayeux.Proofs.Engine.Bystanders
import Bayeux.Proofs.Engine.Departure
import Bayeux.Proofs.Session.Waiting

namespace Bayeux

/-!
# Who waits for a session

Tasks wait on the list of a session, which they keep while its client departs.  An engine
changes no list by answering or publishing: wake-ups mark the tasks on it, and only a task
that arrives or leaves is added or taken off.
-/

namespace Session

/-- A change of a session after which the same tasks wait for it. -/
def KeepsTickets (f : Session → Session) : Prop :=
  ∀ s, (f s).tickets = s.tickets

theorem keepsTickets_connect : KeepsTickets connect :=
  fun _ => rfl

theorem keepsTickets_drained : KeepsTickets drained :=
  fun _ => rfl

theorem keepsTickets_startBatch : KeepsTickets startBatch :=
  fun _ => rfl

theorem keepsTickets_disconnect : KeepsTickets disconnect :=
  fun _ => tickets_wake _

theorem keepsTickets_deliver (m : Message) : KeepsTickets (·.deliver m) := by
  intro s
  simp only [deliver]
  split
  · exact tickets_wake _
  · rfl

theorem keepsTickets_endBatch : KeepsTickets endBatch := by
  intro s
  unfold endBatch
  split
  · rfl
  · exact tickets_wake _
  · rfl

theorem tickets_await (s : Session) (ticket : Nat) :
    (s.await ticket).tickets = if s.ready then s.tickets else s.tickets ++ [ticket] := by
  unfold await
  split
  · rfl
  · exact s.tickets_enlist ticket

/-- A task that finds nothing stays on the list. -/
theorem tickets_resume (s : Session) (ticket : Nat) :
    (s.resume ticket).tickets =
      if s.ready then s.tickets.filter (· != ticket) else s.tickets := by
  unfold resume
  split
  · exact s.tickets_leave ticket
  · simp only [tickets, List.map_map]
    apply List.map_congr_left
    intro waiter _
    simp only [Function.comp_apply]
    split
    next own => exact own.symm
    next => rfl

/-- A task that has looked is not marked any more, and the marks of others stay. -/
theorem mem_woken_resume (s : Session) (ticket other : Nat) :
    other ∈ (s.resume ticket).woken ↔ other ∈ s.woken ∧ other ≠ ticket := by
  by_cases same : other = ticket
  · subst same
    simp only [ne_eq, not_true_eq_false, and_false, iff_false]
    intro marked
    rcases List.mem_map.mp marked with ⟨waiter, listed, own⟩
    rcases List.mem_filter.mp listed with ⟨inside, woken⟩
    unfold resume at inside
    split at inside
    · simpa [own] using (List.mem_filter.mp inside).2
    · rcases List.mem_map.mp inside with ⟨before, _, rfl⟩
      split at woken
      next => cases woken
      next different =>
        rw [if_neg different] at own
        exact different own
  · rw [and_iff_left same]
    unfold resume
    split
    · exact s.mem_woken_leave same
    · simp only [woken, List.mem_map, List.mem_filter]
      constructor
      · rintro ⟨waiter, ⟨⟨before, listed, rfl⟩, marked⟩, own⟩
        split at own
        next => exact absurd own.symm same
        next different =>
          rw [if_neg different] at marked
          exact ⟨before, ⟨listed, marked⟩, own⟩
      · rintro ⟨waiter, ⟨listed, marked⟩, own⟩
        have different : waiter.ticket ≠ ticket := fun equal => same (own.symm.trans equal)
        exact ⟨waiter, ⟨⟨waiter, listed, if_neg different⟩, marked⟩, own⟩

end Session

/-- A session is connected and not disconnected as before, whatever those who hold on to it
do. -/
theorem SessionAct.flags_apply (act : SessionAct) (s : Session) :
    (act.apply s).connected = s.connected ∧ (act.apply s).disconnected = s.disconnected := by
  cases act with
  | takeQueue | startBatch | leave ticket => exact ⟨rfl, rfl⟩
  | endBatch =>
      simp only [apply, Session.endBatch]
      split <;> exact ⟨rfl, rfl⟩
  | await ticket =>
      simp only [apply, Session.await]
      split <;> exact ⟨rfl, rfl⟩
  | resume ticket =>
      simp only [apply, Session.resume]
      split <;> exact ⟨rfl, rfl⟩

namespace Engine

/-- The tasks that wait for the session of a client, live or departed. -/
def waitingOn (e : Engine) (id : ClientId) : List Nat :=
  ((e.known? id).map Session.tickets).getD []

section Lists

variable (e : Engine)

theorem isWaiting_iff (id : ClientId) (ticket : Nat) :
    e.isWaiting id ticket = true ↔ ticket ∈ e.waitingOn id := by
  unfold isWaiting waitingOn
  cases e.known? id with
  | none => simp
  | some s => simp [Session.isWaiting, Session.tickets]

theorem waitingOn_of_known? {e : Engine} {id : ClientId} {s : Session}
    (known : e.known? id = some s) : e.waitingOn id = s.tickets := by
  unfold waitingOn
  rw [known]
  rfl

theorem waitingOn_change (id other : ClientId) (f : Session → Session) :
    (e.change id f).waitingOn other =
      if other = id then ((e.known? id).map fun s => (f s).tickets).getD []
      else e.waitingOn other := by
  unfold waitingOn
  rw [known?_change]
  by_cases same : other = id
  · rw [if_pos same, if_pos same, Option.map_map]
    rfl
  · rw [if_neg same, if_neg same]

theorem waitingOn_change_of_keepsTickets {f : Session → Session}
    (keeps : Session.KeepsTickets f) (id other : ClientId) :
    (e.change id f).waitingOn other = e.waitingOn other := by
  rw [waitingOn_change]
  split
  next same =>
    rw [same]
    unfold waitingOn
    congr 2
    funext s
    exact keeps s
  next => rfl

theorem waitingOn_change_leave (id other : ClientId) (ticket : Nat) :
    (e.change id (·.leave ticket)).waitingOn other =
      if other = id then (e.waitingOn id).filter (· != ticket) else e.waitingOn other := by
  rw [waitingOn_change]
  split
  next =>
    unfold waitingOn
    cases e.known? id with
    | none => rfl
    | some s => exact s.tickets_leave ticket
  next => rfl

theorem waitingOn_change_await {e : Engine} {id : ClientId} {s : Session}
    (known : e.known? id = some s) (ticket : Nat) (other : ClientId) :
    (e.change id (·.await ticket)).waitingOn other =
      if other = id ∧ s.ready = false then e.waitingOn id ++ [ticket] else e.waitingOn other := by
  rw [waitingOn_change, known, Option.map_some, Option.getD_some, Session.tickets_await,
    waitingOn_of_known? known]
  by_cases same : other = id
  · rw [if_pos same, same, waitingOn_of_known? known]
    cases s.ready <;> simp
  · rw [if_neg same, if_neg (fun both => same both.1)]

theorem waitingOn_change_resume {e : Engine} {id : ClientId} {s : Session}
    (known : e.known? id = some s) (ticket : Nat) (other : ClientId) :
    (e.change id (·.resume ticket)).waitingOn other =
      if other = id ∧ s.ready = true then (e.waitingOn id).filter (· != ticket)
      else e.waitingOn other := by
  rw [waitingOn_change, known, Option.map_some, Option.getD_some, Session.tickets_resume,
    waitingOn_of_known? known]
  by_cases same : other = id
  · rw [if_pos same, same, waitingOn_of_known? known]
    cases s.ready <;> simp
  · rw [if_neg same, if_neg (fun both => same both.1)]

theorem waitingOn_broadcast (m : Message) (id : ClientId) :
    (e.broadcast m).waitingOn id = e.waitingOn id :=
  broadcast_induction (fun next => next.waitingOn id = e.waitingOn id)
    (fun kept client => (waitingOn_change_of_keepsTickets _ (Session.keepsTickets_deliver m)
      client id).trans kept) rfl

theorem known?_depart (s : Session) (id : ClientId) :
    (e.depart s).known? id = if id = s.id then some s.disconnect else e.known? id := by
  unfold depart unsubscribeAll known?
  simp only [Table.get?_erase, Table.get?_insert]
  split <;> rfl

theorem known?_handshake (mint : Nat → ClientId) (m : Message) (id : ClientId) :
    (e.handshake mint m).2.known? id =
      if id = mint e.issued then some { id := mint e.issued } else e.known? id := by
  unfold handshake known?
  simp only [Table.get?_insert]
  split <;> rfl

end Lists

section Answers

variable {mint : Nat → ClientId} {e : Engine}

/-- An answer takes nobody off a list and puts nobody on one. -/
theorem waitingOn_answer (minted : e.Minted mint) (distinct : Function.Injective mint)
    (m : Message) (id : ClientId) : (e.answer mint m).2.waitingOn id = e.waitingOn id := by
  have answered := answer_answered mint e m
  generalize (e.answer mint m).1 = reply, (e.answer mint m).2 = next at answered
  cases answered with
  | refused | subscribed | unsubscribed => rfl
  | opened named =>
      unfold waitingOn
      rw [known?_handshake]
      split
      next own =>
        rw [own, minted.fresh distinct]
        rfl
      next => rfl
  | @connected s named sender =>
      exact e.waitingOn_change_of_keepsTickets Session.keepsTickets_connect s.id id
  | @departed s named sender =>
      rcases known?_of_sender? sender with ⟨own, _, known⟩
      have keyed := minted.keyed own s known
      unfold waitingOn
      rw [known?_depart]
      split
      next same =>
        rw [same, keyed, known]
        exact Session.keepsTickets_disconnect s
      next => rfl
  | relayed application sender => exact e.waitingOn_broadcast (published m) id

theorem waitingOn_answerAll (minted : e.Minted mint) (distinct : Function.Injective mint)
    (batch : Batch) (id : ClientId) :
    (answerAll mint e batch).2.waitingOn id = e.waitingOn id := by
  induction batch generalizing e with
  | nil => rfl
  | cons m rest inductionHypothesis =>
      have answered := (answer_delivers minted distinct m).1
      exact (inductionHypothesis answered).trans (waitingOn_answer minted distinct m id)

end Answers

/-! ## What holds of every engine that a server can come to -/

namespace Reachable

variable {mint : Nat → ClientId} {e : Engine}

theorem minted (reachable : e.Reachable mint) (distinct : Function.Injective mint) :
    e.Minted mint :=
  (reachable.well_kept distinct).1

theorem answerAll (reachable : e.Reachable mint) (batch : Batch) :
    (Engine.answerAll mint e batch).2.Reachable mint := by
  induction batch generalizing e with
  | nil => exact reachable
  | cons m rest inductionHypothesis => exact inductionHypothesis (reachable.answer m)

theorem parts (reachable : e.Reachable mint) (distinct : Function.Injective mint) :
    ∃ opened ended left, e.Parts opened ended left := by
  induction reachable with
  | start => exact ⟨_, _, _, .empty⟩
  | answer reachable m inductionHypothesis =>
      rcases inductionHypothesis with ⟨_, _, _, parts⟩
      exact ⟨_, _, _, parts.answer (reachable.minted distinct) distinct m⟩
  | publish _ channel data inductionHypothesis =>
      rcases inductionHypothesis with ⟨_, _, _, parts⟩
      exact ⟨_, _, _, parts.broadcast { channel, data := some data }⟩
  | act _ id act inductionHypothesis =>
      rcases inductionHypothesis with ⟨_, _, _, parts⟩
      exact ⟨_, _, _, parts.change id act.flags_apply⟩

/-- A session that is live has not been disconnected. -/
theorem disconnected_of_live (reachable : e.Reachable mint) (distinct : Function.Injective mint)
    {id : ClientId} {s : Session} (live : e.session? id = some s) : s.disconnected = false := by
  rcases reachable.parts distinct with ⟨_, _, _, parts⟩
  exact parts.live id s live

theorem nodup_keys_change {e : Engine} (once : e.sessions.keys.Nodup ∧ e.departed.keys.Nodup)
    (id : ClientId) (f : Session → Session) :
    (e.change id f).sessions.keys.Nodup ∧ (e.change id f).departed.keys.Nodup := by
  unfold Engine.change
  split
  · exact ⟨Table.nodup_keys_modify once.1 id f, once.2⟩
  · exact ⟨once.1, Table.nodup_keys_modify once.2 id f⟩

/-- No client has two sessions. -/
theorem nodup_keys (reachable : e.Reachable mint) :
    e.sessions.keys.Nodup ∧ e.departed.keys.Nodup := by
  have broadcast : ∀ {e : Engine}, e.sessions.keys.Nodup ∧ e.departed.keys.Nodup →
      ∀ m, (e.broadcast m).sessions.keys.Nodup ∧ (e.broadcast m).departed.keys.Nodup :=
    fun once m => broadcast_induction
      (fun next => next.sessions.keys.Nodup ∧ next.departed.keys.Nodup)
      (fun kept id => nodup_keys_change kept id (·.deliver m)) once
  induction reachable with
  | start => exact ⟨List.nodup_nil, List.nodup_nil⟩
  | @answer e _ m once =>
      have answered := answer_answered mint e m
      generalize (e.answer mint m).1 = reply, (e.answer mint m).2 = next at answered
      cases answered with
      | refused | subscribed | unsubscribed => exact once
      | opened => exact ⟨Table.nodup_keys_insert once.1 _ _, once.2⟩
      | connected => exact nodup_keys_change once _ _
      | departed =>
          exact ⟨Table.nodup_keys_erase once.1 _, Table.nodup_keys_insert once.2 _ _⟩
      | relayed => exact broadcast once _
  | publish _ channel data once => exact broadcast once _
  | act _ id act once => exact nodup_keys_change once id act.apply

/-- The tasks that a wake-up has reached are those of the sessions that are known. -/
theorem mem_woken (reachable : e.Reachable mint) (distinct : Function.Injective mint)
    (id : ClientId) (ticket : Nat) :
    (id, ticket) ∈ e.woken ↔ ∃ s, e.known? id = some s ∧ ticket ∈ s.woken := by
  rcases reachable.parts distinct with ⟨_, _, _, parts⟩
  have once := reachable.nodup_keys
  have listed : (id, ticket) ∈ e.woken ↔
      ∃ s, (e.sessions.get? id = some s ∨ e.departed.get? id = some s) ∧ ticket ∈ s.woken := by
    simp only [woken, List.mem_flatMap, List.mem_append, List.mem_map, Prod.exists,
      Prod.mk.injEq]
    constructor
    · rintro ⟨own, s, listed, other, marked, rfl, rfl⟩
      exact ⟨s, listed.imp (Table.get?_eq_some_of_mem once.1) (Table.get?_eq_some_of_mem once.2),
        marked⟩
    · rintro ⟨s, found, marked⟩
      exact ⟨id, s, found.imp Table.mem_of_get? Table.mem_of_get?, ticket, marked, rfl, rfl⟩
  rw [listed]
  refine exists_congr fun s => and_congr_left fun _ => ?_
  unfold known?
  constructor
  · rintro (live | gone)
    · exact Option.or_eq_some_iff.mpr (.inl live)
    · exact Option.or_eq_some_iff.mpr (.inr ⟨(parts.ended id s gone).1, gone⟩)
  · intro known
    exact (Option.or_eq_some_iff.mp known).imp (fun live => live) And.right

end Reachable

end Engine
end Bayeux
