import Bayeux.Proofs.Engine.Queue

namespace Bayeux

/-!
# Subscriptions

Who is subscribed to a channel can be told from outside: the answers to the messages that
subscribe, unsubscribe and disconnect say it.  The journal of a run holds what is seen
from outside, its latest entry first, and the relation is read off it alone.  An engine
keeps the same relation in its table of subscribers, so that what it delivers, what it counts
and what it hands out can be said in terms of the journal.
-/

/-- What is done with an engine. -/
inductive EngineEvent where
  /-- A message of a client is answered. -/
  | answer (m : Message)
  | publish (channel : String) (data : Json.Value)
  /-- The queue of a client is taken. -/
  | take (id : ClientId)

/-- What is seen of an event. -/
inductive Occurrence where
  | answered (m reply : Message)
  | published (m : Message) (reached : Nat)
  | taken (id : ClientId) (queue : Batch)

namespace Occurrence

/-- Whether a client is subscribed to a channel, if this is settled by what is seen:
by a message of the client that was answered with success. -/
def settles (id : ClientId) (channel : String) : Occurrence → Option Bool
  | answered m reply =>
    if reply.isSuccessful ∧ m.clientId = some id then
      if m.channel = Channel.disconnect then some false
      else if m.subscription ≠ some channel then none
      else if m.channel = Channel.subscribe then some true
      else if m.channel = Channel.unsubscribe then some false
      else none
    else none
  | _ => none

/-- The relation between clients and channels after what is seen, given the one before. -/
def revise (occurrence : Occurrence) (subscribed : ClientId → String → Bool) (id : ClientId)
    (channel : String) : Bool :=
  (occurrence.settles id channel).getD (subscribed id channel)

/-- The message that is published. -/
def publication? : Occurrence → Option Message
  | answered m reply => if !m.isMeta && reply.isSuccessful then some (Engine.published m) else none
  | published m _ => some m
  | taken _ _ => none

def takenBy (id : ClientId) : Occurrence → Batch
  | taken other queue => if other = id then queue else []
  | _ => []

variable {m reply : Message} {subscribed : ClientId → String → Bool}

theorem revise_of_failed (failed : reply.isSuccessful = false) :
    (answered m reply).revise subscribed = subscribed := by
  funext id channel
  simp [revise, settles, failed]

theorem revise_of_other (stays : m.channel ≠ Channel.disconnect)
    (keeps : m.channel ≠ Channel.subscribe) (holds : m.channel ≠ Channel.unsubscribe) :
    (answered m reply).revise subscribed = subscribed := by
  funext id channel
  simp [revise, settles, stays, keeps, holds]

theorem revise_of_disconnect (named : m.channel = Channel.disconnect)
    (successful : reply.isSuccessful = true) (id : ClientId) (channel : String) :
    (answered m reply).revise subscribed id channel =
      if m.clientId = some id then false else subscribed id channel := by
  by_cases own : m.clientId = some id <;> simp [revise, settles, named, successful, own]

theorem revise_of_subscribe (named : m.channel = Channel.subscribe)
    (successful : reply.isSuccessful = true) (id : ClientId) (channel : String) :
    (answered m reply).revise subscribed id channel =
      if m.clientId = some id ∧ m.subscription = some channel then true
      else subscribed id channel := by
  have distinct : Channel.subscribe ≠ Channel.disconnect := by decide
  by_cases own : m.clientId = some id <;> by_cases target : m.subscription = some channel <;>
    simp [revise, settles, named, successful, own, target, distinct]

theorem revise_of_unsubscribe (named : m.channel = Channel.unsubscribe)
    (successful : reply.isSuccessful = true) (id : ClientId) (channel : String) :
    (answered m reply).revise subscribed id channel =
      if m.clientId = some id ∧ m.subscription = some channel then false
      else subscribed id channel := by
  have distinct : Channel.unsubscribe ≠ Channel.disconnect := by decide
  have other : Channel.unsubscribe ≠ Channel.subscribe := by decide
  by_cases own : m.clientId = some id <;> by_cases target : m.subscription = some channel <;>
    simp [revise, settles, named, successful, own, target, distinct, other]

end Occurrence

/-- What was seen in a run, the latest first. -/
abbrev Journal := List Occurrence

namespace Journal

/-- Whether a client is subscribed to a channel, by the last entry that settles it. -/
def subscribed (id : ClientId) (channel : String) : Journal → Bool
  | [] => false
  | occurrence :: earlier =>
    occurrence.revise (fun id channel => subscribed id channel earlier) id channel

/-- The messages published while a client was subscribed to their channel, in order. -/
def received (id : ClientId) : Journal → Batch
  | [] => []
  | occurrence :: earlier =>
    received id earlier ++
      (occurrence.publication?.filter fun m => subscribed id m.channel earlier).toList

/-- All that was taken from the queue of a client, in order. -/
def taken (id : ClientId) : Journal → Batch
  | [] => []
  | occurrence :: earlier => taken id earlier ++ occurrence.takenBy id

end Journal

open Delivery (inbox)

/-- An engine together with the journal of its run. -/
structure Observed where
  engine : Engine := {}
  journal : Journal := []

namespace Observed

def step (mint : Nat → ClientId) (o : Observed) : EngineEvent → Observed
  | .answer m =>
    let (reply, engine) := o.engine.answer mint m
    { engine, journal := .answered m reply :: o.journal }
  | .publish channel data =>
    let (reached, engine) := o.engine.publish channel data
    { engine, journal := .published { channel, data := some data } reached :: o.journal }
  | .take id =>
    { engine := o.engine.change id Session.drained
      journal := .taken id (o.engine.queueOf id) :: o.journal }

def run (mint : Nat → ClientId) (o : Observed) (events : List EngineEvent) : Observed :=
  events.foldl (step mint) o

/-- Whether a message published on a channel is for a client: its session is live, and the
journal has it subscribed. -/
def Reaches (o : Observed) (channel : String) (id : ClientId) : Prop :=
  (o.engine.session? id).isSome ∧ o.journal.subscribed id channel

instance (o : Observed) (channel : String) (id : ClientId) : Decidable (o.Reaches channel id) :=
  inferInstanceAs (Decidable (_ ∧ _))

end Observed

/-! ## The table of subscribers -/

namespace Engine

/-- The clients listed for a channel. -/
def listed (e : Engine) (channel : String) : List ClientId :=
  e.subscribers.getD channel []

theorem mem_audience {e : Engine} {channel : String} {id : ClientId} :
    id ∈ e.audience channel ↔ id ∈ e.listed channel ∧ (e.session? id).isSome := by
  unfold audience listed session?
  simp only [List.mem_filter, Table.contains_eq]

section Changes

variable (e : Engine) (id : ClientId)

@[simp] theorem subscribers_change (f : Session → Session) :
    (e.change id f).subscribers = e.subscribers := by
  unfold change
  split <;> rfl

/-- Changing a session neither opens nor ends one. -/
@[simp] theorem isSome_session?_change (f : Session → Session) (other : ClientId) :
    ((e.change id f).session? other).isSome = (e.session? other).isSome := by
  unfold change
  split
  · simp only [session?, Table.get?_modify]
    by_cases same : other = id
    · rw [if_pos same, Option.isSome_map, same]
    · rw [if_neg same]
  · rfl

theorem listed_subscribe (channel other : String) :
    (e.subscribe id channel).listed other =
      if other = channel then
        if (e.listed channel).contains id then e.listed channel else e.listed channel ++ [id]
      else e.listed other :=
  Table.getD_insert _ _ _ _ _

theorem listed_unsubscribe (channel other : String) :
    (e.unsubscribe id channel).listed other =
      if other = channel then (e.listed channel).filter (· ≠ id) else e.listed other := by
  simp only [listed, unsubscribe, Table.getD, Table.get?_modify]
  by_cases same : other = channel
  · rw [if_pos same, if_pos same]
    cases e.subscribers.get? channel <;> rfl
  · rw [if_neg same, if_neg same]

/-- A client is taken off every channel, and no entry stays that is empty then. -/
theorem get?_unsubscribeAll (distinct : e.subscribers.keys.Nodup) (channel : String) :
    (e.unsubscribeAll id).subscribers.get? channel =
      ((e.subscribers.get? channel).map fun clients => clients.filter (· ≠ id)).filter
        fun clients => !clients.isEmpty := by
  let rest : Table String (List ClientId) :=
    ⟨e.subscribers.entries.map fun entry => (entry.1, entry.2.filter (· ≠ id))⟩
  have found : rest.get? channel =
      (e.subscribers.get? channel).map fun clients => clients.filter (· ≠ id) :=
    Table.get?_map _ (fun clients : List ClientId => clients.filter (· ≠ id)) channel
  have distinctRest : rest.keys.Nodup := by
    rw [show rest.keys = e.subscribers.keys from
      Table.keys_map _ fun clients : List ClientId => clients.filter (· ≠ id)]
    exact distinct
  change Table.get? ⟨rest.entries.filter fun entry => !entry.2.isEmpty⟩ channel = _
  rw [Table.get?_filter distinctRest fun entry => !entry.2.isEmpty, found]

/-- Dropping the channels without subscribers changes nothing that is listed. -/
theorem listed_unsubscribeAll (distinct : e.subscribers.keys.Nodup) (channel : String) :
    (e.unsubscribeAll id).listed channel = (e.listed channel).filter (· ≠ id) := by
  unfold listed Table.getD
  rw [get?_unsubscribeAll e id distinct]
  cases e.subscribers.get? channel with
  | none => rfl
  | some clients =>
      rw [Option.map_some, Option.getD_some, Option.filter_some]
      cases empty : clients.filter (· ≠ id) with
      | nil => rfl
      | cons first others => rfl

theorem keys_unsubscribeAll (distinct : e.subscribers.keys.Nodup) :
    (e.unsubscribeAll id).subscribers.keys.Nodup := by
  refine List.Nodup.sublist (List.Sublist.map _ List.filter_sublist) ?_
  rw [List.map_map]
  exact distinct

end Changes

/-! ## The table and the relation -/

/-- The table of subscribers holds a relation between clients and channels, in which only
clients with live sessions stand. -/
structure Lists (e : Engine) (subscribed : ClientId → String → Bool) : Prop where
  channels : e.subscribers.keys.Nodup
  once : ∀ channel, (e.listed channel).Nodup
  listed : ∀ id channel, id ∈ e.listed channel ↔ subscribed id channel = true
  live : ∀ id channel, subscribed id channel = true → (e.session? id).isSome

namespace Lists

variable {e next : Engine} {subscribed after : ClientId → String → Bool}

theorem empty : ({} : Engine).Lists fun _ _ => false where
  channels := List.nodup_nil
  once := fun _ => List.nodup_nil
  listed := fun id channel => by simp [Engine.listed, Table.getD]
  live := fun _ _ absurd => by cases absurd

/-- What leaves the table alone and ends no session leaves the relation alone. -/
theorem of_same (lists : e.Lists subscribed) (same : next.subscribers = e.subscribers)
    (sessions : ∀ id, (e.session? id).isSome → (next.session? id).isSome)
    (unsettled : ∀ id channel, after id channel = subscribed id channel) : next.Lists after := by
  have relation : after = subscribed := funext fun id => funext fun channel => unsettled id channel
  have table : next.listed = e.listed := by
    funext channel
    unfold Engine.listed
    rw [same]
  subst relation
  constructor
  · rw [same]
    exact lists.channels
  · rw [table]
    exact lists.once
  · rw [table]
    exact lists.listed
  · exact fun id channel member => sessions id (lists.live id channel member)

theorem change (lists : e.Lists subscribed) (id : ClientId) (f : Session → Session) :
    (e.change id f).Lists subscribed :=
  lists.of_same (e.subscribers_change id f)
    (fun other live => (e.isSome_session?_change id f other).trans live) fun _ _ => rfl

theorem broadcast (lists : e.Lists subscribed) (m : Message) :
    (e.broadcast m).Lists subscribed :=
  broadcast_induction (·.Lists subscribed) (fun kept id => kept.change id (·.deliver m)) lists

theorem subscribe (lists : e.Lists subscribed) {id : ClientId} (live : (e.session? id).isSome)
    (channel : String)
    (settled : ∀ other name, after other name =
      if other = id ∧ name = channel then true else subscribed other name) :
    (e.subscribe id channel).Lists after := by
  constructor
  · exact Table.nodup_keys_insert lists.channels channel _
  · intro name
    rw [listed_subscribe]
    split
    · split
      · exact lists.once channel
      next absent =>
        have new : id ∉ e.listed channel := by simpa using absent
        exact List.nodup_append.mpr ⟨lists.once channel, List.nodup_singleton id,
          fun old member _ single same => new (by simp_all)⟩
    · exact lists.once name
  · intro other name
    rw [listed_subscribe, settled]
    have table := lists.listed
    by_cases same : name = channel
    · subst same
      by_cases own : other = id
      · subst own
        by_cases present : other ∈ e.listed name <;> simp [present]
      · by_cases present : id ∈ e.listed name <;> simp [present, own, table]
    · simp [same, table]
  · intro other name member
    rw [settled] at member
    split at member
    next own => exact own.1 ▸ live
    next => exact lists.live other name member

theorem unsubscribe (lists : e.Lists subscribed) (id : ClientId) (channel : String)
    (settled : ∀ other name, after other name =
      if other = id ∧ name = channel then false else subscribed other name) :
    (e.unsubscribe id channel).Lists after := by
  constructor
  · exact Table.nodup_keys_modify lists.channels channel _
  · intro name
    rw [listed_unsubscribe]
    split
    · exact (lists.once channel).filter _
    · exact lists.once name
  · intro other name
    rw [listed_unsubscribe, settled]
    have table := lists.listed
    by_cases same : name = channel
    · subst same
      by_cases own : other = id <;> simp [own, table]
    · simp [same, table]
  · intro other name member
    rw [settled] at member
    split at member
    · cases member
    · exact lists.live other name member

/-- A session ends, and its client is taken off every channel. -/
theorem depart (lists : e.Lists subscribed) (id : ClientId) (departed : Table ClientId Session)
    (settled : ∀ other name, after other name =
      if other = id then false else subscribed other name) :
    (({ e with sessions := e.sessions.erase id, departed } : Engine).unsubscribeAll id).Lists
      after := by
  let gone : Engine := { e with sessions := e.sessions.erase id, departed }
  have table : ∀ name, (gone.unsubscribeAll id).listed name = (e.listed name).filter (· ≠ id) :=
    gone.listed_unsubscribeAll id lists.channels
  constructor
  · exact gone.keys_unsubscribeAll id lists.channels
  · intro name
    rw [table]
    exact (lists.once name).filter _
  · intro other name
    rw [table, settled]
    have member := lists.listed other name
    by_cases own : other = id
    · simp [own]
    · simpa [own] using member
  · intro other name member
    rw [settled] at member
    split at member
    · cases member
    next others =>
      change ((e.sessions.erase id).get? other).isSome
      rw [Table.get?_erase_of_ne _ others]
      exact lists.live other name member

end Lists

/-! ## Answers -/

section Answers

variable {mint : Nat → ClientId} {e : Engine} {subscribed : ClientId → String → Bool}

/-- The sender of a message is named by it, and its session is live. -/
theorem Minted.sender (minted : e.Minted mint) {m : Message} {s : Session}
    (sender : e.sender? m = some s) :
    m.clientId = some s.id ∧ (e.session? s.id).isSome := by
  rcases Option.bind_eq_some_iff.mp sender with ⟨id, named, found⟩
  have own : s.id = id := minted.keyed id s (known?_of_session? found)
  rw [own]
  exact ⟨named, Option.isSome_of_eq_some found⟩

/-- A change of a subscription is refused, or it is that of the sender to the channel
named. -/
theorem subscription_cases (e : Engine) (m : Message)
    (apply : Engine → ClientId → String → Engine) :
    (e.subscription m apply).1.isSuccessful = false ∧ (e.subscription m apply).2 = e ∨
      ∃ s channel, e.sender? m = some s ∧ m.subscription = some channel ∧
        (e.subscription m apply).1.isSuccessful = true ∧
        (e.subscription m apply).2 = apply e s.id channel := by
  unfold subscription
  cases sender : e.sender? m with
  | none => exact Or.inl ⟨rfl, rfl⟩
  | some s =>
      cases target : m.subscription.filter Channel.isAbsolute with
      | none => exact Or.inl ⟨rfl, rfl⟩
      | some channel =>
          exact Or.inr ⟨s, channel, rfl, (Option.filter_eq_some_iff.mp target).1, rfl, rfl⟩

theorem handshake_lists (lists : e.Lists subscribed) (m : Message)
    (named : m.channel = Channel.handshake) :
    (e.handshake mint m).2.Lists
      ((Occurrence.answered m (e.handshake mint m).1).revise subscribed) := by
  rw [Occurrence.revise_of_other (by rw [named]; decide) (by rw [named]; decide)
    (by rw [named]; decide)]
  refine lists.of_same rfl ?_ fun _ _ => rfl
  intro id live
  change ((e.sessions.insert _ _).get? id).isSome
  rw [Table.get?_insert]
  split
  · rfl
  · exact live

theorem connect_lists (lists : e.Lists subscribed) (m : Message)
    (named : m.channel = Channel.connect) :
    (e.connect m).2.Lists ((Occurrence.answered m (e.connect m).1).revise subscribed) := by
  rw [Occurrence.revise_of_other (by rw [named]; decide) (by rw [named]; decide)
    (by rw [named]; decide)]
  unfold connect
  cases e.sender? m with
  | none => exact lists
  | some s => exact lists.change s.id Session.connect

theorem disconnect_lists (minted : e.Minted mint) (lists : e.Lists subscribed) (m : Message)
    (named : m.channel = Channel.disconnect) :
    (e.disconnect m).2.Lists ((Occurrence.answered m (e.disconnect m).1).revise subscribed) := by
  unfold disconnect
  cases sender : e.sender? m with
  | none =>
      simp only []
      rw [Occurrence.revise_of_failed rfl]
      exact lists
  | some s =>
      have own := (minted.sender sender).1
      refine lists.depart s.id _ fun other channel => ?_
      rw [Occurrence.revise_of_disconnect named rfl, own]
      simp only [Option.some.injEq, eq_comm]

theorem subscribe_lists (minted : e.Minted mint) (lists : e.Lists subscribed) (m : Message)
    (named : m.channel = Channel.subscribe) :
    (e.subscription m subscribe).2.Lists
      ((Occurrence.answered m (e.subscription m subscribe).1).revise subscribed) := by
  rcases e.subscription_cases m subscribe with
    ⟨failed, same⟩ | ⟨s, channel, sender, target, successful, same⟩
  · rw [same, Occurrence.revise_of_failed failed]
    exact lists
  · rcases minted.sender sender with ⟨own, live⟩
    rw [same]
    refine lists.subscribe live channel fun other name => ?_
    rw [Occurrence.revise_of_subscribe named successful, own, target]
    simp only [Option.some.injEq, eq_comm]

theorem unsubscribe_lists (minted : e.Minted mint) (lists : e.Lists subscribed) (m : Message)
    (named : m.channel = Channel.unsubscribe) :
    (e.subscription m unsubscribe).2.Lists
      ((Occurrence.answered m (e.subscription m unsubscribe).1).revise subscribed) := by
  rcases e.subscription_cases m unsubscribe with
    ⟨failed, same⟩ | ⟨s, channel, sender, target, successful, same⟩
  · rw [same, Occurrence.revise_of_failed failed]
    exact lists
  · have own := (minted.sender sender).1
    rw [same]
    refine lists.unsubscribe s.id channel fun other name => ?_
    rw [Occurrence.revise_of_unsubscribe named successful, own, target]
    simp only [Option.some.injEq, eq_comm]

/-- The table keeps up with what the answer says. -/
theorem answer_lists (minted : e.Minted mint) (lists : e.Lists subscribed) (m : Message) :
    (e.answer mint m).2.Lists
      ((Occurrence.answered m (e.answer mint m).1).revise subscribed) := by
  unfold answer
  split
  next handshake => exact handshake_lists lists m handshake
  split
  next connect => exact connect_lists lists m connect
  split
  next disconnect => exact disconnect_lists minted lists m disconnect
  next stays =>
  split
  next subscribes => exact subscribe_lists minted lists m subscribes
  next keeps =>
  split
  next unsubscribes => exact unsubscribe_lists minted lists m unsubscribes
  next holds =>
  rw [Occurrence.revise_of_other stays keeps holds]
  split
  · exact lists
  · unfold relay
    cases e.sender? m with
    | none => exact lists
    | some s => exact lists.broadcast (published m)

/-- A message on a channel of an application is passed on. -/
theorem answer_of_application {m : Message} (application : m.isMeta = false) :
    e.answer mint m = e.relay m := by
  have other : ∀ channel, Channel.isMeta channel = true → m.channel ≠ channel := by
    intro channel ofProtocol same
    rw [← same] at ofProtocol
    exact Bool.false_ne_true (application.symm.trans ofProtocol)
  unfold answer
  rw [if_neg (other _ (by decide)), if_neg (other _ (by decide)), if_neg (other _ (by decide)),
    if_neg (other _ (by decide)), if_neg (other _ (by decide)), if_neg (by simp [application])]

/-- It is answered with success exactly if its sender has a live session. -/
theorem isSuccessful_relay (e : Engine) (m : Message) :
    (e.relay m).1.isSuccessful = (e.sender? m).isSome := by
  unfold relay
  cases e.sender? m <;> rfl

/-- The deliveries of a message are one copy for each client that is subscribed. -/
theorem inbox_deliveries (lists : e.Lists subscribed) (m : Message) (id : ClientId) :
    inbox (e.deliveries m) id = if subscribed id m.channel then [m] else [] := by
  have once : (e.audience m.channel).Nodup := (lists.once m.channel).filter _
  have member : id ∈ e.audience m.channel ↔ subscribed id m.channel = true := by
    rw [mem_audience, lists.listed]
    exact and_iff_left_of_imp (lists.live id m.channel)
  have copies : inbox (e.deliveries m) id =
      List.replicate ((e.audience m.channel).count id) m := by
    unfold deliveries inbox
    rw [List.filter_map, List.map_map, List.count_eq_countP, List.countP_eq_length_filter,
      ← List.map_const']
    rfl
  rw [copies]
  split
  next reached => rw [List.count_eq_one_of_mem once (member.mpr reached), List.replicate_one]
  next missed =>
    rw [List.count_eq_zero_of_not_mem fun there => missed (member.mp there),
      List.replicate_zero]

/-- What an answered message delivers can be told from the answer. -/
theorem inbox_sent (lists : e.Lists subscribed) (m : Message) (id : ClientId) :
    inbox (e.sent m) id =
      ((Occurrence.answered m (e.answer mint m).1).publication?.filter fun m =>
        subscribed id m.channel).toList := by
  unfold sent
  simp only [Occurrence.publication?]
  cases application : m.isMeta with
  | true => rfl
  | false =>
      rw [answer_of_application application, isSuccessful_relay]
      cases (e.sender? m).isSome with
      | false => rfl
      | true =>
          simp only [Bool.not_false, Bool.and_self, if_true]
          rw [inbox_deliveries lists, Option.filter_some]
          split <;> rfl

end Answers
end Engine

/-! ## Runs -/

namespace Observed

/-- The engine routes by the relation of the journal, and what was taken and what is queued
are together what was received. -/
structure Routes (mint : Nat → ClientId) (o : Observed) : Prop where
  minted : o.engine.Minted mint
  lists : o.engine.Lists fun id channel => o.journal.subscribed id channel
  complete : ∀ id, o.journal.taken id ++ o.engine.queueOf id = o.journal.received id

namespace Routes

variable {mint : Nat → ClientId} {o : Observed}

theorem empty (mint : Nat → ClientId) : ({} : Observed).Routes mint where
  minted := .empty mint
  lists := .empty
  complete := fun _ => rfl

theorem answer (routes : o.Routes mint) (distinct : Function.Injective mint) (m : Message) :
    (o.step mint (.answer m)).Routes mint := by
  have delivers := Engine.answer_delivers routes.minted distinct m
  refine ⟨delivers.1, Engine.answer_lists routes.minted routes.lists m, fun id => ?_⟩
  change (o.journal.taken id ++ []) ++ (o.engine.answer mint m).2.queueOf id =
    o.journal.received id ++ _
  rw [List.append_nil, delivers.2, Engine.inbox_sent routes.lists m id, ← List.append_assoc,
    routes.complete]
  rfl

theorem publish (routes : o.Routes mint) (channel : String) (data : Json.Value) :
    (o.step mint (.publish channel data)).Routes mint := by
  let m : Message := { channel, data := some data }
  have delivers := Engine.broadcast_delivers routes.minted m
  refine ⟨delivers.1, routes.lists.broadcast m, fun id => ?_⟩
  change (o.journal.taken id ++ []) ++ (o.engine.broadcast m).queueOf id =
    o.journal.received id ++ ((some m).filter fun m => o.journal.subscribed id m.channel).toList
  rw [List.append_nil, delivers.2, Engine.inbox_deliveries routes.lists, ← List.append_assoc,
    routes.complete, Option.filter_some]
  split <;> rfl

theorem take (routes : o.Routes mint) (id : ClientId) :
    (o.step mint (.take id)).Routes mint := by
  refine ⟨routes.minted.change id fun _ => rfl, routes.lists.change id Session.drained,
    fun other => ?_⟩
  change (o.journal.taken other ++ if id = other then o.engine.queueOf id else []) ++
    (o.engine.change id Session.drained).queueOf other = o.journal.received other ++ []
  rw [Engine.queueOf_change_drained, List.append_nil, ← routes.complete]
  by_cases own : id = other
  · rw [if_pos own, if_pos own.symm, List.append_nil, own]
  · rw [if_neg own, if_neg fun same => own same.symm, List.append_nil]

theorem step (routes : o.Routes mint) (distinct : Function.Injective mint)
    (event : EngineEvent) : (o.step mint event).Routes mint := by
  cases event with
  | answer m => exact routes.answer distinct m
  | publish channel data => exact routes.publish channel data
  | take id => exact routes.take id

theorem run (routes : o.Routes mint) (distinct : Function.Injective mint)
    (events : List EngineEvent) : (o.run mint events).Routes mint := by
  induction events generalizing o with
  | nil => exact routes
  | cons event rest inductionHypothesis =>
      exact inductionHypothesis (routes.step distinct event)

/-- Whoever the journal has subscribed to a channel has a live session. -/
theorem reaches_iff (routes : o.Routes mint) {channel : String} {id : ClientId} :
    o.Reaches channel id ↔ o.journal.subscribed id channel = true :=
  and_iff_right_of_imp (routes.lists.live id channel)

/-- The audience of a channel are those whom the journal has subscribed to it. -/
theorem deliveries (routes : o.Routes mint) (m : Message) (id : ClientId) :
    inbox (o.engine.deliveries m) id = if o.Reaches m.channel id then [m] else [] := by
  rw [Engine.inbox_deliveries routes.lists]
  simp only [routes.reaches_iff]

theorem audience (routes : o.Routes mint) (channel : String) :
    (o.engine.audience channel).length = {id | o.Reaches channel id}.ncard := by
  have same : {id | o.Reaches channel id} = {id | id ∈ o.engine.audience channel} := by
    ext id
    rw [Set.mem_ofPred_eq, Set.mem_ofPred_eq, Engine.mem_audience, routes.lists.listed, and_comm]
    rfl
  have once : (o.engine.audience channel).Nodup := (routes.lists.once channel).filter _
  rw [same, Table.ncard_setOf_mem once]

end Routes

/-- In every run of an engine, what is published on a channel goes once to the queue of
each live session that is subscribed to it by the answers seen so far, and to no other; the
engine counts just these sessions; and what was ever taken from the queue of a client, followed
by what is in it, are the messages published while the client was subscribed to their
channel, in order.  Nothing is assumed of ids but that none is handed out twice. -/
theorem run_routes {mint : Nat → ClientId} (distinct : Function.Injective mint)
    (events : List EngineEvent) :
    let o := ({} : Observed).run mint events
    (∀ channel data,
      (o.engine.publish channel data).1 = {id | o.Reaches channel id}.ncard ∧
        ∀ id, (o.engine.publish channel data).2.queueOf id = o.engine.queueOf id ++
          if o.Reaches channel id then [{ channel, data := some data }] else []) ∧
      (∀ m, m.isMeta = false →
        ((o.engine.answer mint m).1.isSuccessful = (o.engine.sender? m).isSome) ∧
          ((o.engine.sender? m).isSome → ∀ id,
            (o.engine.answer mint m).2.queueOf id = o.engine.queueOf id ++
              if o.Reaches m.channel id then [Engine.published m] else [])) ∧
      ∀ id, o.journal.taken id ++ o.engine.queueOf id = o.journal.received id := by
  intro o
  have routes : o.Routes mint := (Routes.empty mint).run distinct events
  refine ⟨fun channel data => ⟨routes.audience channel, fun id => ?_⟩,
    fun m application => ⟨?_, fun live id => ?_⟩, routes.complete⟩
  · rw [← routes.deliveries { channel, data := some data } id]
    exact (Engine.broadcast_delivers routes.minted { channel, data := some data }).2 id
  · rw [Engine.answer_of_application application, Engine.isSuccessful_relay]
  · have sent : o.engine.sent m = o.engine.deliveries (Engine.published m) := by
      unfold Engine.sent
      rw [application, live]
      rfl
    rw [(Engine.answer_delivers routes.minted distinct m).2, sent, routes.deliveries]
    rfl

/-- The first of two clients subscribes twice and the second once.  The second leaves a channel
that it was never on and then departs with one message in its queue; the first takes
that message and one more, and hears nothing once it has unsubscribed. -/
theorem run_routes_two_clients :
    let mint := fun n => (⟨String.ofList (List.replicate n 'c')⟩ : ClientId)
    let ask := fun id channel subscription => EngineEvent.answer
      { channel, clientId := some ⟨id⟩, subscription := some subscription }
    let say := fun text => EngineEvent.answer
      { channel := "/a", id := some text, clientId := some ⟨""⟩ }
    let handshake := EngineEvent.answer { channel := Channel.handshake }
    let events := [handshake, handshake, ask "" Channel.subscribe "/a",
      ask "" Channel.subscribe "/a", ask "c" Channel.subscribe "/a",
      ask "c" Channel.unsubscribe "/b", say "1", ask "c" Channel.disconnect "", say "2",
      .take ⟨""⟩, ask "" Channel.subscribe "/b", ask "" Channel.unsubscribe "/a", say "3"]
    let o := ({} : Observed).run mint events
    Function.Injective mint ∧
      {id | o.Reaches "/b" id}.ncard = 1 ∧
      (o.journal.taken ⟨""⟩ ++ o.engine.queueOf ⟨""⟩).map Message.id = [some "1", some "2"] ∧
      (o.journal.taken ⟨"c"⟩ ++ o.engine.queueOf ⟨"c"⟩).map Message.id = [some "1"] := by
  intro mint ask say handshake events o
  have distinct : Function.Injective mint := by
    intro first second same
    have lengths := congrArg (fun id : ClientId => id.text.toList.length) same
    simpa [mint] using lengths
  rcases run_routes distinct events with ⟨published, _, complete⟩
  have counted : (o.engine.publish "/b" .null).1 = 1 := by decide +kernel
  have first : (o.journal.received ⟨""⟩).map Message.id = [some "1", some "2"] := by
    decide +kernel
  have second : (o.journal.received ⟨"c"⟩).map Message.id = [some "1"] := by decide +kernel
  exact ⟨distinct, (published "/b" .null).1.symm.trans counted,
    (congrArg (List.map Message.id) (complete ⟨""⟩)).trans first,
    (congrArg (List.map Message.id) (complete ⟨"c"⟩)).trans second⟩

end Observed
end Bayeux
