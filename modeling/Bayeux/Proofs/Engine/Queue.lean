import Bayeux.Engine
import Bayeux.Proofs.Table

namespace Bayeux

/-!
# Queues and deliveries

A message is delivered by appending it to the queue of a session.  The deliveries of
an engine are listed in the order in which they are made, each with the client whose
queue grows, so that what the engine does to all its queues is said at once.  The queue
of a client stays readable after the client has disconnected, since requests that are
still held for it will take it.
-/

/-- A message that is appended to the queue of a client. -/
structure Delivery where
  client : ClientId
  message : Message

namespace Delivery

/-- The messages delivered to one client, in order. -/
def inbox (deliveries : List Delivery) (id : ClientId) : Batch :=
  (deliveries.filter fun delivery => delivery.client = id).map message

theorem inbox_append (first second : List Delivery) (id : ClientId) :
    inbox (first ++ second) id = inbox first id ++ inbox second id := by
  unfold inbox
  rw [List.filter_append, List.map_append]

theorem inbox_cons (delivery : Delivery) (rest : List Delivery) (id : ClientId) :
    inbox (delivery :: rest) id =
      (if delivery.client = id then [delivery.message] else []) ++ inbox rest id := by
  unfold inbox
  by_cases same : delivery.client = id
  · rw [List.filter_cons, if_pos (decide_eq_true same), if_pos same]
    rfl
  · rw [List.filter_cons, if_neg (by simpa using same), if_neg same]
    rfl

end Delivery

open Delivery (inbox)

/-- Ids of different lengths are different. -/
theorem ClientId.injective_replicate (c : Char) :
    Function.Injective fun n => (⟨String.ofList (List.replicate n c)⟩ : ClientId) := by
  intro first second same
  have lengths := congrArg (fun id : ClientId => id.text.toList.length) same
  simpa using lengths

/-! ## Changes that leave the queue alone -/

namespace Session

/-- A change of a session that touches neither its id nor its queue. -/
def KeepsQueue (f : Session → Session) : Prop :=
  ∀ s, (f s).id = s.id ∧ (f s).queue = s.queue

theorem keepsQueue_connect : KeepsQueue connect :=
  fun _ => ⟨rfl, rfl⟩

theorem keepsQueue_startBatch : KeepsQueue startBatch :=
  fun _ => ⟨rfl, rfl⟩

theorem keepsQueue_endBatch : KeepsQueue endBatch := by
  intro s
  unfold endBatch
  split <;> exact ⟨rfl, rfl⟩

theorem keepsQueue_await (ticket : Nat) : KeepsQueue (·.await ticket) := by
  intro s
  dsimp only [await]
  split <;> exact ⟨rfl, rfl⟩

theorem keepsQueue_leave (ticket : Nat) : KeepsQueue (·.leave ticket) :=
  fun _ => ⟨rfl, rfl⟩

theorem keepsQueue_resume (ticket : Nat) : KeepsQueue (·.resume ticket) := by
  intro s
  dsimp only [resume]
  split <;> exact ⟨rfl, rfl⟩

theorem deliver_id (s : Session) (m : Message) : (s.deliver m).id = s.id := by
  unfold deliver
  simp only []
  split <;> rfl

theorem deliver_queue (s : Session) (m : Message) : (s.deliver m).queue = s.queue ++ [m] := by
  unfold deliver
  simp only []
  split <;> rfl

end Session

namespace Engine

/-! ## The session of an id -/

theorem known?_change (e : Engine) (id other : ClientId) (f : Session → Session) :
    (e.change id f).known? other =
      if other = id then (e.known? id).map f else e.known? other := by
  unfold change known?
  rw [Table.contains_eq]
  cases live : e.sessions.get? id with
  | some s =>
      simp only [Option.isSome_some, if_true, Table.get?_modify, live, Option.map_some]
      by_cases same : other = id
      · rw [if_pos same, if_pos same]
        rfl
      · rw [if_neg same, if_neg same]
  | none =>
      simp only [Option.isSome_none, Bool.false_eq_true, if_false, Table.get?_modify,
        Option.none_or]
      by_cases same : other = id
      · rw [if_pos same, if_pos same, same, live]
        rfl
      · rw [if_neg same, if_neg same]

theorem issued_change (e : Engine) (id : ClientId) (f : Session → Session) :
    (e.change id f).issued = e.issued := by
  unfold change
  split <;> rfl

theorem known?_of_session? {e : Engine} {id : ClientId} {s : Session}
    (live : e.session? id = some s) : e.known? id = some s := by
  unfold session? at live
  unfold known?
  rw [live]
  rfl

theorem known?_of_sender? {e : Engine} {m : Message} {s : Session}
    (live : e.sender? m = some s) : ∃ id, m.clientId = some id ∧ e.known? id = some s := by
  rcases Option.bind_eq_some_iff.mp live with ⟨id, named, found⟩
  exact ⟨id, named, known?_of_session? found⟩

/-! ## Queues -/

/-- What is queued for a client, whether its session is live or departed. -/
def queueOf (e : Engine) (id : ClientId) : Batch :=
  ((e.known? id).map Session.queue).getD []

theorem queueOf_of_session? {e : Engine} {id : ClientId} {s : Session}
    (live : e.session? id = some s) : e.queueOf id = s.queue := by
  unfold queueOf
  rw [known?_of_session? live]
  rfl

theorem queueOf_change (e : Engine) (id other : ClientId) (f : Session → Session) :
    (e.change id f).queueOf other =
      if other = id then ((e.known? id).map fun s => (f s).queue).getD []
      else e.queueOf other := by
  unfold queueOf
  rw [known?_change]
  by_cases same : other = id
  · rw [if_pos same, if_pos same, Option.map_map]
    rfl
  · rw [if_neg same, if_neg same]

theorem queueOf_change_of_keepsQueue (e : Engine) {f : Session → Session}
    (keeps : Session.KeepsQueue f) (id other : ClientId) :
    (e.change id f).queueOf other = e.queueOf other := by
  rw [queueOf_change]
  by_cases same : other = id
  · rw [if_pos same, same]
    unfold queueOf
    congr 2
    funext s
    exact (keeps s).2
  · rw [if_neg same]

theorem queueOf_change_drained (e : Engine) (id other : ClientId) :
    (e.change id Session.drained).queueOf other =
      if other = id then [] else e.queueOf other := by
  rw [queueOf_change]
  by_cases same : other = id
  · rw [if_pos same, if_pos same]
    cases e.known? id <;> rfl
  · rw [if_neg same, if_neg same]

theorem queueOf_change_deliver {e : Engine} {id : ClientId} (known : (e.known? id).isSome)
    (m : Message) (other : ClientId) :
    (e.change id (·.deliver m)).queueOf other =
      e.queueOf other ++ if id = other then [m] else [] := by
  rw [queueOf_change]
  by_cases same : other = id
  · subst same
    rw [if_pos rfl, if_pos rfl]
    unfold queueOf
    cases found : e.known? other with
    | none =>
        rw [found] at known
        cases known
    | some s => exact s.deliver_queue m
  · rw [if_neg same, if_neg (fun equal => same equal.symm), List.append_nil]

/-! ## Ids -/

/-- Every session is stored under its own id, and no id is in use that has not been handed
out. -/
structure Minted (mint : Nat → ClientId) (e : Engine) : Prop where
  keyed : ∀ id s, e.known? id = some s → s.id = id
  issued : ∀ id s, e.known? id = some s → ∃ n < e.issued, id = mint n

namespace Minted

variable {mint : Nat → ClientId} {e : Engine}

theorem empty (mint : Nat → ClientId) : ({} : Engine).Minted mint where
  keyed := fun _ _ absent => by cases absent
  issued := fun _ _ absent => by cases absent

theorem change (minted : e.Minted mint) {f : Session → Session} (id : ClientId)
    (kept : ∀ s, (f s).id = s.id) : (e.change id f).Minted mint := by
  have earlier : ∀ other s, (e.change id f).known? other = some s →
      ∃ old, e.known? other = some old ∧ s.id = old.id := by
    intro other s found
    rw [known?_change] at found
    by_cases same : other = id
    · rw [if_pos same] at found
      rcases Option.map_eq_some_iff.mp found with ⟨old, before, changed⟩
      exact ⟨old, same ▸ before, changed ▸ kept old⟩
    · rw [if_neg same] at found
      exact ⟨s, found, rfl⟩
  constructor
  · intro other s found
    rcases earlier other s found with ⟨old, before, own⟩
    exact own.trans (minted.keyed other old before)
  · intro other s found
    rcases earlier other s found with ⟨old, before, _⟩
    rw [issued_change]
    exact minted.issued other old before

theorem change_of_keepsQueue (minted : e.Minted mint) {f : Session → Session}
    (keeps : Session.KeepsQueue f) (id : ClientId) : (e.change id f).Minted mint :=
  minted.change id fun s => (keeps s).1

/-- No id is in use that has not been handed out. -/
theorem unused (minted : e.Minted mint) (distinct : Function.Injective mint) {n : Nat}
    (later : e.issued ≤ n) : e.known? (mint n) = none := by
  cases found : e.known? (mint n) with
  | none => rfl
  | some s =>
      rcases minted.issued _ s found with ⟨k, earlier, same⟩
      have equal : n = k := distinct same
      omega

/-- The next id is not in use. -/
theorem fresh (minted : e.Minted mint) (distinct : Function.Injective mint) :
    e.known? (mint e.issued) = none :=
  minted.unused distinct (Nat.le_refl _)

end Minted
/-! ## Deliveries -/

/-- The deliveries made when a message is published: one for each live session that is
listed as a subscriber of its channel. -/
def deliveries (e : Engine) (m : Message) : List Delivery :=
  (e.audience m.channel).map fun client => { client, message := m }

/-- The deliveries made when a message of a client is answered.  Only a message on a channel
of an application, from a client with a live session, is passed on. -/
def sent (e : Engine) (m : Message) : List Delivery :=
  if !m.isMeta && (e.sender? m).isSome then e.deliveries (published m) else []

/-- The deliveries made when messages are answered one after the other. -/
def sentAll (mint : Nat → ClientId) : Engine → Batch → List Delivery
  | _, [] => []
  | e, m :: rest => e.sent m ++ sentAll mint (e.answer mint m).2 rest

/-- A step of the engine makes some deliveries and changes no queue otherwise. -/
def Delivers (mint : Nat → ClientId) (e : Engine) (deliveries : List Delivery)
    (next : Engine) : Prop :=
  next.Minted mint ∧ ∀ id, next.queueOf id = e.queueOf id ++ inbox deliveries id

theorem known?_of_mem_audience {e : Engine} {channel : String} {id : ClientId}
    (member : id ∈ e.audience channel) : (e.known? id).isSome := by
  have live := (List.mem_filter.mp member).2
  rw [Table.contains_eq] at live
  unfold known?
  rw [Option.isSome_or, live]
  rfl

/-- What the delivery to each session keeps is kept by a broadcast. -/
theorem broadcast_induction (keeps : Engine → Prop) {m : Message}
    (step : ∀ {e : Engine}, keeps e → ∀ id, keeps (e.change id (·.deliver m))) {e : Engine}
    (start : keeps e) : keeps (e.broadcast m) := by
  unfold broadcast
  generalize e.audience m.channel = clients
  induction clients generalizing e with
  | nil => exact start
  | cons client rest inductionHypothesis => exact inductionHypothesis (step start client)

/-- Publishing appends its deliveries to the queues and changes no other queue. -/
theorem broadcast_delivers {mint : Nat → ClientId} {e : Engine} (minted : e.Minted mint)
    (m : Message) : e.Delivers mint (e.deliveries m) (e.broadcast m) := by
  unfold broadcast deliveries
  have known : ∀ id ∈ e.audience m.channel, (e.known? id).isSome :=
    fun id member => known?_of_mem_audience member
  generalize e.audience m.channel = clients at known
  induction clients generalizing e with
  | nil => exact ⟨minted, fun id => (List.append_nil _).symm⟩
  | cons client rest inductionHypothesis =>
      have delivered : (e.change client (·.deliver m)).Minted mint :=
        minted.change client fun s => s.deliver_id m
      have stillKnown : ∀ id ∈ rest, ((e.change client (·.deliver m)).known? id).isSome := by
        intro id member
        have before := known id (List.mem_cons_of_mem client member)
        rw [known?_change]
        by_cases same : id = client
        · rw [if_pos same, Option.isSome_map, ← same]
          exact before
        · rw [if_neg same]
          exact before
      rcases inductionHypothesis delivered stillKnown with ⟨last, queues⟩
      refine ⟨last, ?_⟩
      intro id
      rw [List.foldl_cons, queues,
        queueOf_change_deliver (known client List.mem_cons_self), List.append_assoc,
        List.map_cons, Delivery.inbox_cons]

/-! ## Answers -/

section Answers

variable {mint : Nat → ClientId} {e : Engine}

/-- Changes of sessions that keep their queues deliver nothing. -/
theorem delivers_nothing {next : Engine} (minted : next.Minted mint)
    (queues : ∀ id, next.queueOf id = e.queueOf id) : e.Delivers mint [] next :=
  ⟨minted, fun id => (queues id).trans (List.append_nil _).symm⟩

theorem handshake_delivers (minted : e.Minted mint) (distinct : Function.Injective mint)
    (m : Message) : e.Delivers mint [] (e.handshake mint m).2 := by
  have fresh := minted.fresh distinct
  have known : ∀ id, (e.handshake mint m).2.known? id =
      if id = mint e.issued then some { id := mint e.issued } else e.known? id := by
    intro id
    unfold handshake known?
    simp only [Table.get?_insert]
    by_cases same : id = mint e.issued
    · rw [if_pos same, if_pos same]
      rfl
    · rw [if_neg same, if_neg same]
  apply delivers_nothing
  · constructor
    · intro id s found
      rw [known] at found
      by_cases same : id = mint e.issued
      · rw [if_pos same] at found
        rw [← Option.some.inj found, same]
      · rw [if_neg same] at found
        exact minted.keyed id s found
    · intro id s found
      rw [known] at found
      change ∃ n < e.issued + 1, id = mint n
      by_cases same : id = mint e.issued
      · exact ⟨e.issued, Nat.lt_succ_self _, same⟩
      · rw [if_neg same] at found
        rcases minted.issued id s found with ⟨n, earlier, own⟩
        exact ⟨n, Nat.lt_succ_of_lt earlier, own⟩
  · intro id
    unfold queueOf
    rw [known]
    by_cases same : id = mint e.issued
    · rw [if_pos same, same, fresh]
      rfl
    · rw [if_neg same]

theorem connect_delivers (minted : e.Minted mint) (m : Message) :
    e.Delivers mint [] (e.connect m).2 := by
  unfold connect
  cases live : e.sender? m with
  | none => exact delivers_nothing minted fun _ => rfl
  | some s =>
      exact delivers_nothing (minted.change_of_keepsQueue Session.keepsQueue_connect s.id)
        (e.queueOf_change_of_keepsQueue Session.keepsQueue_connect s.id)

/-- A session that departs takes its queue along. -/
theorem disconnect_delivers (minted : e.Minted mint) (m : Message) :
    e.Delivers mint [] (e.disconnect m).2 := by
  unfold disconnect
  cases live : e.sender? m with
  | none => exact delivers_nothing minted fun _ => rfl
  | some s =>
      rcases known?_of_sender? live with ⟨id, named, found⟩
      have own : s.id = id := minted.keyed id s found
      have known : ∀ other, (((({ e with
          sessions := e.sessions.erase s.id
          departed := e.departed.insert s.id s.disconnect } : Engine).unsubscribeAll
            s.id).known? other)) = if other = id then some s.disconnect else e.known? other := by
        intro other
        unfold unsubscribeAll known?
        simp only [Table.get?_erase, Table.get?_insert, own]
        by_cases same : other = id
        · rw [if_pos same, if_pos same, if_pos same]
          rfl
        · rw [if_neg same, if_neg same, if_neg same]
      apply delivers_nothing
      · constructor
        · intro other session there
          rw [known] at there
          by_cases same : other = id
          · rw [if_pos same] at there
            rw [← Option.some.inj there, same]
            exact own
          · rw [if_neg same] at there
            exact minted.keyed other session there
        · intro other session there
          rw [known] at there
          by_cases same : other = id
          · rw [same]
            exact minted.issued id s found
          · rw [if_neg same] at there
            exact minted.issued other session there
      · intro other
        unfold queueOf
        rw [known]
        by_cases same : other = id
        · rw [if_pos same, same, found]
          rfl
        · rw [if_neg same]

theorem subscription_delivers (minted : e.Minted mint) (m : Message)
    {apply : Engine → ClientId → String → Engine}
    (sessions : ∀ e id channel, (apply e id channel).sessions = e.sessions)
    (departed : ∀ e id channel, (apply e id channel).departed = e.departed)
    (issued : ∀ e id channel, (apply e id channel).issued = e.issued) :
    e.Delivers mint [] (e.subscription m apply).2 := by
  have known : ∀ id channel, (apply e id channel).known? = e.known? := by
    intro id channel
    unfold known?
    rw [sessions, departed]
  unfold subscription
  simp only []
  split
  · exact delivers_nothing minted fun _ => rfl
  · exact delivers_nothing minted fun _ => rfl
  · apply delivers_nothing
    · constructor
      · rw [known]
        exact minted.keyed
      · rw [known, issued]
        exact minted.issued
    · intro id
      unfold queueOf
      rw [known]

/-- Answering a message appends what is sent by it to the queues of its receivers, and
changes no other queue. -/
theorem answer_delivers (minted : e.Minted mint) (distinct : Function.Injective mint)
    (m : Message) : e.Delivers mint (e.sent m) (e.answer mint m).2 := by
  have silent : m.isMeta = true → e.sent m = [] := by
    intro ofProtocol
    unfold sent
    rw [ofProtocol]
    rfl
  have named : ∀ channel, Channel.isMeta channel = true → m.channel = channel →
      e.sent m = [] := by
    intro channel ofProtocol same
    exact silent ((congrArg Channel.isMeta same).trans ofProtocol)
  unfold answer
  split
  next handshake =>
    rw [named _ (by decide) handshake]
    exact handshake_delivers minted distinct m
  split
  next connect =>
    rw [named _ (by decide) connect]
    exact connect_delivers minted m
  split
  next disconnect =>
    rw [named _ (by decide) disconnect]
    exact disconnect_delivers minted m
  split
  next subscribes =>
    rw [named _ (by decide) subscribes]
    exact subscription_delivers minted m (fun _ _ _ => rfl) (fun _ _ _ => rfl) fun _ _ _ => rfl
  split
  next unsubscribes =>
    rw [named _ (by decide) unsubscribes]
    exact subscription_delivers minted m (fun _ _ _ => rfl) (fun _ _ _ => rfl) fun _ _ _ => rfl
  split
  next unknown =>
    rw [silent unknown]
    exact delivers_nothing minted fun _ => rfl
  next application =>
    have ofApplication : m.isMeta = false := by simpa using application
    unfold relay sent
    rw [ofApplication]
    cases live : e.sender? m with
    | none => exact delivers_nothing minted fun _ => rfl
    | some s => exact broadcast_delivers minted (published m)

/-- Deliveries of a list of messages are those of its messages, in order. -/
theorem answerAll_delivers (minted : e.Minted mint) (distinct : Function.Injective mint)
    (batch : Batch) : e.Delivers mint (sentAll mint e batch) (answerAll mint e batch).2 := by
  induction batch generalizing e with
  | nil => exact delivers_nothing minted fun _ => rfl
  | cons m rest inductionHypothesis =>
      rcases answer_delivers minted distinct m with ⟨answered, queues⟩
      rcases inductionHypothesis answered with ⟨last, later⟩
      refine ⟨last, ?_⟩
      intro id
      change (answerAll mint (e.answer mint m).2 rest).2.queueOf id =
        e.queueOf id ++ inbox (e.sent m ++ sentAll mint (e.answer mint m).2 rest) id
      rw [later, queues, Delivery.inbox_append, List.append_assoc]

end Answers
end Engine
end Bayeux
