import Bayeux.Proofs.Engine.Queue

namespace Bayeux

/-!
# What an answer can be

A message is answered in few ways.  It is refused, and then nothing changes.  It opens a
session.  Or it comes from a client with a live session, and then that session is marked
as connected, it departs, one of its subscriptions changes, or the message is passed
on.  The inductive `Answered` has one constructor for each, with all that is known there, so that
what is true of every answer is proved by cases.
-/

/-- A delivery changes nothing but the queue and who has been woken. -/
theorem Session.deliver_eq (s : Session) (m : Message) :
    s.deliver m = { s with queue := s.queue ++ [m], waiters := (s.deliver m).waiters } := by
  unfold deliver
  simp only []
  split <;> rfl

namespace Engine

/-! ## The live session of an id -/

/-- A session that is live is changed among the live ones. -/
theorem change_eq_of_live {e : Engine} {id : ClientId} (live : (e.session? id).isSome)
    (f : Session → Session) :
    e.change id f = { e with sessions := e.sessions.modify id f } :=
  if_pos live

/-- Any other session is changed among those that have departed. -/
theorem change_eq_of_gone {e : Engine} {id : ClientId} (gone : e.session? id = none)
    (f : Session → Session) :
    e.change id f = { e with departed := e.departed.modify id f } := by
  have absent : ¬ e.sessions.contains id = true := by
    rw [Table.contains_eq, show e.sessions.get? id = none from gone]
    exact Bool.false_ne_true
  exact if_neg absent

theorem session?_change (e : Engine) (id other : ClientId) (f : Session → Session) :
    (e.change id f).session? other =
      if other = id then (e.session? id).map f else e.session? other := by
  cases found : e.session? id with
  | some s =>
      rw [change_eq_of_live (Option.isSome_of_eq_some found), ← found]
      exact Table.get?_modify _ _ _ _
  | none =>
      rw [change_eq_of_gone found, Option.map_none]
      split
      next same => exact same ▸ found
      next => rfl

/-- Each session of the audience gets its copy, if nobody is listed twice. -/
theorem session?_broadcast {e : Engine} {m : Message} (once : (e.audience m.channel).Nodup)
    (id : ClientId) : (e.broadcast m).session? id =
      (e.session? id).map fun s => if id ∈ e.audience m.channel then s.deliver m else s := by
  unfold broadcast
  generalize e.audience m.channel = clients at once
  induction clients generalizing e with
  | nil => exact Option.map_id'.symm
  | cons client rest inductionHypothesis =>
      have parts := List.nodup_cons.mp once
      rw [List.foldl_cons, inductionHypothesis parts.2, session?_change]
      by_cases same : id = client
      · subst same
        simp only [if_true, Option.map_map, List.mem_cons_self, parts.1, if_false]
        rfl
      · simp only [if_false, List.mem_cons, same, false_or]

/-! ## The ways to be answered -/

/-- Ends a session, which is kept apart for those who still hold on to it. -/
def depart (e : Engine) (s : Session) : Engine :=
  { e with
    sessions := e.sessions.erase s.id
    departed := e.departed.insert s.id s.disconnect : Engine }.unsubscribeAll s.id

/-- The reply to a message and the engine after it. -/
inductive Answered (mint : Nat → ClientId) (e : Engine) (m : Message) :
    Message → Engine → Prop where
  | refused {reply : Message} (other : m.isHandshake = false)
    (reason : m.isMeta = true ∨ e.sender? m = none)
    (failed : reply.successful = some false) : Answered mint e m reply e
  | opened (named : m.channel = Channel.handshake) :
    Answered mint e m (e.handshake mint m).1 (e.handshake mint m).2
  | connected {s : Session} (named : m.channel = Channel.connect)
    (sender : e.sender? m = some s) :
    Answered mint e m (accept m.reply) (e.change s.id Session.connect)
  | departed {s : Session} (named : m.channel = Channel.disconnect)
    (sender : e.sender? m = some s) : Answered mint e m (accept m.reply) (e.depart s)
  | subscribed {s : Session} {channel : String} (named : m.channel = Channel.subscribe)
    (sender : e.sender? m = some s) (target : m.subscription = some channel) :
    Answered mint e m (accept { m.reply with subscription := m.subscription })
      (e.subscribe s.id channel)
  | unsubscribed {s : Session} {channel : String} (named : m.channel = Channel.unsubscribe)
    (sender : e.sender? m = some s) (target : m.subscription = some channel) :
    Answered mint e m (accept { m.reply with subscription := m.subscription })
      (e.unsubscribe s.id channel)
  | relayed {s : Session} (application : m.isMeta = false) (sender : e.sender? m = some s) :
    Answered mint e m (accept m.reply) (e.broadcast (published m))

section Answers

variable {mint : Nat → ClientId} {e : Engine} {m : Message}

theorem isMeta_of_channel {channel : String} (named : m.channel = channel)
    (ofProtocol : Channel.isMeta channel = true) : m.isMeta = true :=
  (congrArg Channel.isMeta named).trans ofProtocol

theorem isHandshake_of_channel {channel : String} (named : m.channel = channel)
    (other : channel ≠ Channel.handshake) : m.isHandshake = false :=
  beq_eq_false_iff_ne.mpr (named ▸ other)

/-- A change of a subscription is refused, or it is a change for the sender. -/
theorem subscription_answered {channel : String} (named : m.channel = channel)
    (ofProtocol : Channel.isMeta channel = true) (other : channel ≠ Channel.handshake)
    {apply : Engine → ClientId → String → Engine}
    (accepted : ∀ {s : Session} {target : String}, e.sender? m = some s →
      m.subscription = some target → Answered mint e m
        (accept { m.reply with subscription := m.subscription }) (apply e s.id target)) :
    Answered mint e m (e.subscription m apply).1 (e.subscription m apply).2 := by
  have refused : ∀ {reply : Message}, reply.successful = some false → Answered mint e m reply e :=
    .refused (isHandshake_of_channel named other) (.inl (isMeta_of_channel named ofProtocol))
  unfold subscription
  cases sender : e.sender? m with
  | none => exact refused rfl
  | some s =>
      cases target : m.subscription.filter Channel.isAbsolute with
      | none => exact refused rfl
      | some channel => exact accepted sender (Option.filter_eq_some_iff.mp target).1

theorem answer_answered (mint : Nat → ClientId) (e : Engine) (m : Message) :
    Answered mint e m (e.answer mint m).1 (e.answer mint m).2 := by
  unfold answer
  split
  next handshake => exact .opened handshake
  split
  next connect =>
    unfold Engine.connect
    cases sender : e.sender? m with
    | none => exact .refused (isHandshake_of_channel connect (by decide)) (.inr sender) rfl
    | some s => exact .connected connect sender
  split
  next disconnect =>
    unfold Engine.disconnect
    cases sender : e.sender? m with
    | none => exact .refused (isHandshake_of_channel disconnect (by decide)) (.inr sender) rfl
    | some s => exact .departed disconnect sender
  split
  next subscribes =>
    exact subscription_answered subscribes (by decide) (by decide) (.subscribed subscribes)
  split
  next unsubscribes =>
    exact subscription_answered unsubscribes (by decide) (by decide) (.unsubscribed unsubscribes)
  next handshake _ _ _ _ =>
  have other : m.isHandshake = false := beq_eq_false_iff_ne.mpr handshake
  split
  next unknown => exact .refused other (.inl unknown) rfl
  next application =>
    unfold relay
    cases sender : e.sender? m with
    | none => exact .refused other (.inr sender) rfl
    | some s => exact .relayed (Bool.eq_false_iff.mpr application) sender

/-- Without a live session nothing succeeds but a handshake. -/
theorem successful_of_stranger (stranger : e.sender? m = none) (other : m.isHandshake = false) :
    (e.answer mint m).1.successful = some false := by
  have answered := answer_answered mint e m
  generalize (e.answer mint m).1 = reply, (e.answer mint m).2 = next at answered
  cases answered with
  | refused _ _ failed => exact failed
  | opened named =>
      rw [Message.isHandshake, named] at other
      cases other
  | connected _ sender | departed _ sender | subscribed _ sender | unsubscribed _ sender
  | relayed _ sender =>
      rw [stranger] at sender
      cases sender

end Answers
end Engine
end Bayeux
