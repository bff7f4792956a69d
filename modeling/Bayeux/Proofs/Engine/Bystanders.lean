import Bayeux.Proofs.Engine.Answering
import Bayeux.Proofs.Engine.Subscriptions

namespace Bayeux

/-!
# Sessions that a message does not name

A message acts for the client whose id it carries.  Whatever it asks for, the session of
anybody else is not ended, marked or moved between channels by it.  At most one copy of the
message is added to the end of its queue, and that takes a sender with a live session and a
subscription of the receiver.
-/

/-- What a session offers to those who hold on to it. -/
inductive SessionAct where
  | takeQueue
  | startBatch
  | endBatch
  | await (ticket : Nat)
  | resume (ticket : Nat)
  | leave (ticket : Nat)

namespace SessionAct

def apply : SessionAct → Session → Session
  | takeQueue => Session.drained
  | startBatch => Session.startBatch
  | endBatch => Session.endBatch
  | await ticket => (·.await ticket)
  | resume ticket => (·.resume ticket)
  | leave ticket => (·.leave ticket)

theorem id_apply (act : SessionAct) (s : Session) : (act.apply s).id = s.id := by
  cases act with
  | takeQueue => rfl
  | startBatch => exact (Session.keepsQueue_startBatch s).1
  | endBatch => exact (Session.keepsQueue_endBatch s).1
  | await ticket => exact (Session.keepsQueue_await ticket s).1
  | resume ticket => exact (Session.keepsQueue_resume ticket s).1
  | leave ticket => exact (Session.keepsQueue_leave ticket s).1

end SessionAct

/-- A message settles nothing about clients that it does not name. -/
theorem Occurrence.revise_of_bystander {m : Message} {id : ClientId}
    (other : m.clientId ≠ some id) (reply : Message) (subscribed : ClientId → String → Bool)
    (channel : String) :
    (answered m reply).revise subscribed id channel = subscribed id channel := by
  simp [revise, settles, other]

namespace Engine

/-- The engines that a server can come to, whatever it is sent and whoever waits for
sessions or opens batches on them. -/
inductive Reachable (mint : Nat → ClientId) : Engine → Prop where
  | start : Reachable mint {}
  | answer {e : Engine} (reachable : Reachable mint e) (m : Message) :
    Reachable mint (e.answer mint m).2
  | publish {e : Engine} (reachable : Reachable mint e) (channel : String)
    (data : Json.Value) : Reachable mint (e.publish channel data).2
  | act {e : Engine} (reachable : Reachable mint e) (id : ClientId) (act : SessionAct) :
    Reachable mint (e.change id act.apply)

section Bystanders

variable {mint : Nat → ClientId} {e : Engine}

theorem Reachable.well_kept (distinct : Function.Injective mint) (reachable : e.Reachable mint) :
    e.Minted mint ∧ ∃ subscribed, e.Lists subscribed := by
  induction reachable with
  | start => exact ⟨.empty mint, _, .empty⟩
  | answer _ m inductionHypothesis =>
      rcases inductionHypothesis with ⟨minted, _, lists⟩
      exact ⟨(answer_delivers minted distinct m).1, _, answer_lists minted lists m⟩
  | publish _ channel data inductionHypothesis =>
      rcases inductionHypothesis with ⟨minted, _, lists⟩
      let m : Message := { channel, data := some data }
      exact ⟨(broadcast_delivers minted m).1, _, lists.broadcast m⟩
  | act _ id act inductionHypothesis =>
      rcases inductionHypothesis with ⟨minted, _, lists⟩
      exact ⟨minted.change id act.id_apply, _, lists.change id act.apply⟩

variable {subscribed : ClientId → String → Bool} {m : Message} {id : ClientId}

/-- A client stands on the same channels after the message of another. -/
theorem mem_listed_answer (minted : e.Minted mint) (lists : e.Lists subscribed)
    (other : m.clientId ≠ some id) (channel : String) :
    id ∈ (e.answer mint m).2.listed channel ↔ id ∈ e.listed channel := by
  rw [(answer_lists minted lists m).listed, lists.listed,
    Occurrence.revise_of_bystander other]

/-- Whether a message reaches a client: it is for applications, its sender is live, and the
client stands on its channel. -/
def PassesTo (e : Engine) (m : Message) (id : ClientId) : Prop :=
  m.isMeta = false ∧ (e.sender? m).isSome ∧ id ∈ e.listed m.channel

instance (e : Engine) (m : Message) (id : ClientId) : Decidable (e.PassesTo m id) :=
  inferInstanceAs (Decidable (_ ∧ _ ∧ _))

theorem not_passesTo_of_channel {channel : String} (named : m.channel = channel)
    (ofProtocol : Channel.isMeta channel = true) : ¬ e.PassesTo m id :=
  fun passes =>
    Bool.false_ne_true (passes.1.symm.trans (isMeta_of_channel named ofProtocol))

/-- The message of another changes a live session only by a delivery. -/
theorem session?_answer (minted : e.Minted mint) (lists : e.Lists subscribed)
    (distinct : Function.Injective mint) {s : Session} (live : e.session? id = some s)
    (other : m.clientId ≠ some id) :
    (e.answer mint m).2.session? id =
      some (if e.PassesTo m id then s.deliver (published m) else s) := by
  have answered := answer_answered mint e m
  generalize (e.answer mint m).1 = reply, (e.answer mint m).2 = next at answered
  have notSender : ∀ {sender : Session}, e.sender? m = some sender → id ≠ sender.id :=
    fun sender same => other (same ▸ (minted.sender sender).1)
  cases answered with
  | refused _ reason _ =>
      rw [if_neg, live]
      rintro ⟨application, sender, _⟩
      rcases reason with ofProtocol | stranger
      · exact Bool.false_ne_true (application.symm.trans ofProtocol)
      · rw [stranger] at sender
        cases sender
  | opened named =>
      rw [if_neg (not_passesTo_of_channel named (by decide)), ← live]
      refine (Table.get?_insert _ _ _ _).trans (if_neg ?_)
      rintro rfl
      exact absurd ((known?_of_session? live).symm.trans (minted.fresh distinct)) (by simp)
  | connected named sender =>
      rw [if_neg (not_passesTo_of_channel named (by decide)), ← live, session?_change]
      exact if_neg (notSender sender)
  | departed named sender =>
      rw [if_neg (not_passesTo_of_channel named (by decide)), ← live]
      exact Table.get?_erase_of_ne _ (notSender sender)
  | subscribed named =>
      rw [if_neg (not_passesTo_of_channel named (by decide)), ← live]
      rfl
  | unsubscribed named =>
      rw [if_neg (not_passesTo_of_channel named (by decide)), ← live]
      rfl
  | relayed application sender =>
      have once : (e.audience (published m).channel).Nodup := (lists.once m.channel).filter _
      have reached : id ∈ e.audience (published m).channel ↔ e.PassesTo m id := by
        rw [mem_audience, live, PassesTo, application, sender]
        simp [published]
      rw [session?_broadcast once, live, Option.map_some]
      simp only [reached]

/-- Whatever message an engine answers, in whatever state it can come to, a live session that
the message does not name stays live, connected as it was, not disconnected if it was not, at
the same depth of batches and on the same channels.  Its queue grows at the end by one copy of
the message, if the message reaches it, and stays the same otherwise. -/
theorem answer_spares (distinct : Function.Injective mint) (reachable : e.Reachable mint)
    (m : Message) {id : ClientId} {s : Session} (live : e.session? id = some s)
    (other : m.clientId ≠ some id) :
    let next := (e.answer mint m).2
    (∀ channel, id ∈ next.listed channel ↔ id ∈ e.listed channel) ∧
      ∃ after, next.session? id = some after ∧ after.id = s.id ∧
        after.connected = s.connected ∧ after.disconnected = s.disconnected ∧
        after.batchDepth = s.batchDepth ∧
        after.queue = s.queue ++ if e.PassesTo m id then [published m] else [] := by
  intro next
  rcases reachable.well_kept distinct with ⟨minted, subscribed, lists⟩
  refine ⟨mem_listed_answer minted lists other, _,
    session?_answer minted lists distinct live other, ?_⟩
  split
  · rw [s.deliver_eq]
    exact ⟨rfl, rfl, rfl, rfl, rfl⟩
  · exact ⟨rfl, rfl, rfl, rfl, (List.append_nil _).symm⟩

/-- The first of two clients has a batch open and is subscribed.  What the second says on the
channel is queued for it, and the departure of the second is nothing to it. -/
theorem answer_spares_in_batch :
    let mint := fun n => (⟨String.ofList (List.replicate n 'c')⟩ : ClientId)
    let ask := fun id channel => ({ channel, clientId := some ⟨id⟩, subscription := some "/a" } :
      Message)
    let opened := (({} : Engine).answer mint { channel := Channel.handshake }).2
    let both := (opened.answer mint { channel := Channel.handshake }).2
    let subscribed := (both.answer mint (ask "" Channel.subscribe)).2
    let e := subscribed.change ⟨""⟩ Session.startBatch
    Function.Injective mint ∧ e.Reachable mint ∧
      (∃ after, (e.answer mint (ask "c" "/a")).2.session? ⟨""⟩ = some after ∧
        after.batchDepth = 1 ∧ after.queue = [published (ask "c" "/a")]) ∧
      (e.answer mint (ask "c" Channel.disconnect)).2.sessionCount = 1 ∧
      ∃ after, (e.answer mint (ask "c" Channel.disconnect)).2.session? ⟨""⟩ = some after ∧
        after.batchDepth = 1 ∧ after.queue = [] := by
  intro mint ask opened both subscribed e
  have distinct : Function.Injective mint := ClientId.injective_replicate 'c'
  have reachable : e.Reachable mint :=
    .act (.answer (.answer (.answer .start _) _) _) ⟨""⟩ .startBatch
  have live : e.session? ⟨""⟩ = some { id := ⟨""⟩, batchDepth := 1 } := by rfl
  have passes : e.PassesTo (ask "c" "/a") ⟨""⟩ := by decide +kernel
  have stays : ¬ e.PassesTo (ask "c" Channel.disconnect) ⟨""⟩ := by decide +kernel
  have fewer : (e.answer mint (ask "c" Channel.disconnect)).2.sessionCount = 1 := by
    decide +kernel
  rcases answer_spares distinct reachable (ask "c" "/a") live (by decide) with
    ⟨_, said, saidLive, _, _, _, saidDepth, saidQueue⟩
  rcases answer_spares distinct reachable (ask "c" Channel.disconnect) live (by decide) with
    ⟨_, left, leftLive, _, _, _, leftDepth, leftQueue⟩
  rw [if_pos passes] at saidQueue
  rw [if_neg stays] at leftQueue
  exact ⟨distinct, reachable, ⟨said, saidLive, saidDepth, saidQueue⟩, fewer, left, leftLive,
    leftDepth, leftQueue⟩

end Bystanders
end Engine
end Bayeux
