import Bayeux.Proofs.Engine.Answering

namespace Bayeux

/-!
# What the engine refuses

A message is refused for one of three reasons, which can be read off the message and the live
sessions before anything is done: its channel is unknown to the protocol, its client has no
live session, or it names no channel to subscribe to.  Each operation is judged on
its own: it fails for its reasons and for no others, and where it fails the engine is
returned as it was.
-/

namespace Engine

/-! ## Reasons -/

/-- The channels of the protocol that the engine knows. -/
def knownChannels : List String :=
  [Channel.handshake, Channel.connect, Channel.disconnect, Channel.subscribe, Channel.unsubscribe]

/-- The reasons to refuse a message. -/
inductive Refuses (e : Engine) (m : Message) : Prop where
  | unknownChannel (ofProtocol : m.isMeta = true) (unlisted : m.channel ∉ knownChannels)
  /-- Only a handshake needs no live session. -/
  | unknownClient (other : m.channel ≠ Channel.handshake)
    (gone : ∀ id, m.clientId = some id → e.session? id = none)
  /-- There is nothing to subscribe to, or it does not begin with a slash. -/
  | invalidSubscription
    (changes : m.channel = Channel.subscribe ∨ m.channel = Channel.unsubscribe)
    (live : ∃ id, m.clientId = some id ∧ (e.session? id).isSome)
    (target : ∀ channel, m.subscription = some channel → channel.toList.head? ≠ some '/')

section Senders

variable {e : Engine} {m : Message}

theorem sender?_eq_none_iff :
    e.sender? m = none ↔ ∀ id, m.clientId = some id → e.session? id = none := by
  unfold sender?
  rw [Option.bind_eq_none_iff]

theorem isSome_sender?_iff :
    (e.sender? m).isSome = true ↔ ∃ id, m.clientId = some id ∧ (e.session? id).isSome := by
  unfold sender?
  rw [Option.isSome_bind, Option.any_eq_true]

theorem filter_isAbsolute_eq_none_iff {subscription : Option String} :
    subscription.filter Channel.isAbsolute = none ↔
      ∀ channel, subscription = some channel → channel.toList.head? ≠ some '/' := by
  rw [Option.filter_eq_none_iff]
  unfold Channel.isAbsolute
  simp only [beq_iff_eq]

end Senders

/-! ## Judgements -/

/-- The error code of a client without a live session. -/
def strangerCode : String := "402"

/-- The reply says that the client is unknown. -/
def RejectsClient (reply : Message) : Prop :=
  ∃ error, reply.error = some error ∧ strangerCode.toList <+: error.toList

/-- An operation that fails for these reasons only, and does nothing where it fails.  Whoever
is told to be unknown is also told to start anew. -/
structure Judged (e : Engine) (reasons : Prop) (outcome : Message × Engine) : Prop where
  verdict : outcome.1.isSuccessful = false ↔ reasons
  untouched : outcome.1.isSuccessful = false → outcome.2 = e
  advised : RejectsClient outcome.1 →
    ∃ advice, outcome.1.advice = some advice ∧ advice.reconnect = some .handshake

namespace Judged

variable {e next : Engine} {m reply : Message} {reasons : Prop}

theorem congr {outcome : Message × Engine} (judged : e.Judged reasons outcome) {others : Prop}
    (same : reasons ↔ others) : e.Judged others outcome where
  verdict := judged.verdict.trans same
  untouched := judged.untouched
  advised := judged.advised

theorem accepted (success : reply.isSuccessful = true) (flawless : reply.error = none)
    (allowed : ¬ reasons) : e.Judged reasons (reply, next) where
  verdict := iff_of_false (fun failed => Bool.noConfusion (success.symm.trans failed)) allowed
  untouched := fun failed => Bool.noConfusion (success.symm.trans failed)
  advised := by
    rintro ⟨error, present, _⟩
    rw [flawless] at present
    cases present

theorem stranger (given : reasons) : e.Judged reasons (unknownClient reply, e) where
  verdict := iff_of_true rfl given
  untouched := fun _ => rfl
  advised := fun _ => ⟨_, rfl, rfl⟩

/-- A refusal with another code gives no advice. -/
theorem refused {error : String} (other : ¬ strangerCode.toList <+: error.toList)
    (given : reasons) : e.Judged reasons (refuse reply error, e) where
  verdict := iff_of_true rfl given
  untouched := fun _ => rfl
  advised := by
    rintro ⟨_, present, coded⟩
    cases present
    exact absurd coded other

end Judged

/-! ## Each operation -/

section Operations

variable (e : Engine) (m : Message)

theorem handshake_judged (mint : Nat → ClientId) : e.Judged False (e.handshake mint m) :=
  .accepted rfl rfl id

theorem connect_judged : e.Judged (e.sender? m = none) (e.connect m) := by
  unfold connect
  cases e.sender? m with
  | none => exact .stranger rfl
  | some s => exact .accepted rfl rfl (by simp)

theorem disconnect_judged : e.Judged (e.sender? m = none) (e.disconnect m) := by
  unfold disconnect
  cases e.sender? m with
  | none => exact .stranger rfl
  | some s => exact .accepted rfl rfl (by simp)

/-- The client is looked up before the channel that it names. -/
theorem subscription_judged (apply : Engine → ClientId → String → Engine) :
    e.Judged (e.sender? m = none ∨
      (e.sender? m).isSome ∧ m.subscription.filter Channel.isAbsolute = none)
      (e.subscription m apply) := by
  unfold subscription
  cases e.sender? m with
  | none => exact .stranger (.inl rfl)
  | some s =>
      cases m.subscription.filter Channel.isAbsolute with
      | none => exact .refused (by decide) (.inr ⟨rfl, rfl⟩)
      | some channel => exact .accepted rfl rfl (by simp)

theorem relay_judged : e.Judged (e.sender? m = none) (e.relay m) := by
  unfold relay
  cases e.sender? m with
  | none => exact .stranger rfl
  | some s => exact .accepted rfl rfl (by simp)

end Operations

/-! ## Every message -/

section Answers

variable {e : Engine} {m : Message}

/-- Where the channel is known and asks for no subscription, only the client can be at fault. -/
theorem refuses_iff_of_sender (known : m.isMeta = true → m.channel ∈ knownChannels)
    (other : m.channel ≠ Channel.handshake)
    (plain : m.channel ≠ Channel.subscribe ∧ m.channel ≠ Channel.unsubscribe) :
    e.sender? m = none ↔ e.Refuses m := by
  rw [sender?_eq_none_iff]
  constructor
  · exact .unknownClient other
  · intro refuses
    cases refuses with
    | unknownChannel ofProtocol unlisted => exact absurd (known ofProtocol) unlisted
    | unknownClient _ gone => exact gone
    | invalidSubscription changes => exact absurd changes (not_or.mpr plain)

theorem refuses_iff_of_subscription
    (changes : m.channel = Channel.subscribe ∨ m.channel = Channel.unsubscribe) :
    (e.sender? m = none ∨
      (e.sender? m).isSome ∧ m.subscription.filter Channel.isAbsolute = none) ↔
      e.Refuses m := by
  have listed : m.channel ∈ knownChannels := by
    rcases changes with named | named <;> (rw [named]; decide)
  have other : m.channel ≠ Channel.handshake := by
    rcases changes with named | named <;> (rw [named]; decide)
  rw [sender?_eq_none_iff, isSome_sender?_iff, filter_isAbsolute_eq_none_iff]
  constructor
  · rintro (gone | ⟨live, target⟩)
    · exact .unknownClient other gone
    · exact .invalidSubscription changes live target
  · intro refuses
    cases refuses with
    | unknownChannel _ unlisted => exact absurd listed unlisted
    | unknownClient _ gone => exact .inl gone
    | invalidSubscription _ live target => exact .inr ⟨live, target⟩

/-- Each channel has its operation, and the reasons of the operation are those of the message. -/
theorem answer_judged (e : Engine) (mint : Nat → ClientId) (m : Message) :
    e.Judged (e.Refuses m) (e.answer mint m) := by
  unfold answer
  split
  next named =>
    apply (handshake_judged e m mint).congr
    refine iff_of_false id fun refuses => ?_
    cases refuses with
    | unknownChannel _ unlisted => exact unlisted (named ▸ List.mem_cons_self)
    | unknownClient other _ => exact other named
    | invalidSubscription changes =>
        rw [named] at changes
        revert changes
        decide
  next handshake =>
  split
  next named =>
    refine (connect_judged e m).congr (refuses_iff_of_sender (fun _ => ?_) handshake ?_) <;>
      (rw [named]; decide)
  next connect =>
  split
  next named =>
    refine (disconnect_judged e m).congr (refuses_iff_of_sender (fun _ => ?_) handshake ?_) <;>
      (rw [named]; decide)
  next disconnect =>
  split
  next named =>
    exact (subscription_judged e m subscribe).congr (refuses_iff_of_subscription (.inl named))
  next subscribe =>
  split
  next named =>
    exact (subscription_judged e m Engine.unsubscribe).congr
      (refuses_iff_of_subscription (.inr named))
  next unsubscribe =>
  split
  next ofProtocol =>
    have unlisted : m.channel ∉ knownChannels := by
      simp [knownChannels, handshake, connect, disconnect, subscribe, unsubscribe]
    refine .refused ?_ (.unknownChannel ofProtocol unlisted)
    rw [String.toList_append]
    rintro ⟨rest, same⟩
    have first := congrArg (fun error => error[2]?) same
    revert first
    simp [strangerCode]
  next application =>
    exact (relay_judged e m).congr (refuses_iff_of_sender
      (fun ofProtocol => absurd ofProtocol application) handshake ⟨subscribe, unsubscribe⟩)

end Answers

/-- In every state of the engine a message is refused for the three reasons and for no other, and
then nothing at all has changed: no session, no flag, no queue, no subscription, no id handed
out.  Every reply that says the client is unknown advises it to start anew. -/
theorem answer_refuses_iff (e : Engine) (mint : Nat → ClientId) (m : Message) :
    let outcome := e.answer mint m
    (outcome.1.isSuccessful = false → outcome.2 = e) ∧
      (outcome.1.isSuccessful = false ↔ e.Refuses m) ∧
      (RejectsClient outcome.1 →
        ∃ advice, outcome.1.advice = some advice ∧ advice.reconnect = some .handshake) := by
  have judged := answer_judged e mint m
  exact ⟨judged.untouched, judged.verdict, judged.advised⟩

end Engine
end Bayeux
