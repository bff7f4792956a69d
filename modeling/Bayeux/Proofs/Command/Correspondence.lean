import Bayeux.Proofs.Command.Letters
import Mathlib.Data.List.ModifyLast

namespace Bayeux
namespace Command

/-!
# Correspondences

A conversation is run on a clock, and a record is kept of what was sent, when, and what came of
it.  Nothing is assumed about the outcomes of batches, nor about the moment of cancellation.

The record is read as letters.  The predicate `Kept` says that they are in order and that nothing
else was sent; `Tells` adds where the conversation stands, which is known from the last letter.
Every move of a conversation takes the one to the other.
-/

inductive ConversationEvent where
  /-- The outcome of the batch sent last arrives after some milliseconds. -/
  | outcome (delay : Nat) (result : Except Failure Batch)
  /-- The conversation is cancelled after some milliseconds, or at the end of a pause. -/
  | cancel (delay : Nat)
  /-- The pause is over. -/
  | rested

namespace Conversation

/-- Whether a batch is under way. -/
def isAwaiting (c : Conversation) : Bool :=
  match c.phase with
  | .handshaking | .subscribing _ | .publishing _ | .connecting _ | .leaving => true
  | .pausing _ _ | .ended _ => false

/-- How long the conversation pauses. -/
def pauseSpan? (c : Conversation) : Option Nat :=
  match c.phase with
  | .pausing _ span => some span
  | _ => none

/-- A cancellation ends a connect or a pause, and is otherwise only noted. -/
theorem cancel_cases (c : Conversation) :
    (∃ client span, c.phase = .pausing client span ∧ c.pauseSpan? = some span ∧
        c.cancel = { c with cancelled := true }.leave client) ∨
      (∃ client, c.phase = .connecting client ∧ c.pauseSpan? = none ∧
        c.cancel = { c with cancelled := true }.leave client) ∨
      (c.pauseSpan? = none ∧ c.cancel = { c with cancelled := true }) := by
  unfold pauseSpan? cancel
  cases phase : c.phase with
  | pausing client span => exact .inl ⟨client, span, rfl, rfl, rfl⟩
  | connecting client => exact .inr (.inl ⟨client, rfl, rfl, rfl⟩)
  | _ => exact .inr (.inr ⟨rfl, rfl⟩)

theorem pauseSpan?_of_isAwaiting {c : Conversation} (awaiting : c.isAwaiting = true) :
    c.pauseSpan? = none := by
  unfold isAwaiting at awaiting
  unfold pauseSpan?
  cases phase : c.phase with
  | pausing => simp [phase] at awaiting
  | _ => rfl

/-- A batch that is not a connect stays under way when the conversation is cancelled. -/
theorem isAwaiting_cancel {c : Conversation} (awaiting : c.isAwaiting = true)
    (other : ¬ c.isConnecting = true) : c.cancel.isAwaiting = true := by
  rcases c.cancel_cases with ⟨_, _, phase, _⟩ | ⟨client, phase, _⟩ | ⟨_, cancelled⟩
  · simp [isAwaiting, phase] at awaiting
  · simp [isConnecting, phase] at other
  · rw [cancelled]
    exact awaiting

section Cancelled

variable (c : Conversation) (client : ClientId)

theorem cancelled_connect : (c.connect client).cancelled = c.cancelled := by
  unfold connect
  split <;> rfl

theorem cancelled_pause (span : Nat) : (c.pause client span).cancelled = c.cancelled := by
  unfold pause
  split
  · exact c.cancelled_connect client
  · rfl

theorem cancelled_rested : c.rested.cancelled = c.cancelled := by
  unfold rested
  split
  · exact c.cancelled_connect _
  · rfl

theorem cancelled_shaken (replies : Batch) : (c.shaken replies).cancelled = c.cancelled := by
  unfold shaken
  split
  · rfl
  · split
    · split <;> rfl
    · rfl

theorem cancelled_established : (c.established client).cancelled = c.cancelled := by
  unfold established
  split
  · rfl
  · exact c.cancelled_connect client

theorem cancelled_connected (replies : Batch) :
    (c.connected client replies).cancelled = c.cancelled := by
  unfold connected
  extract_lets lines printed
  split
  · exact printed.cancelled_pause client 0
  · split
    · rfl
    · rfl
    · exact printed.cancelled_pause client _

/-- No outcome cancels a conversation. -/
theorem cancelled_outcome (result : Except Failure Batch) :
    (c.outcome result).cancelled = c.cancelled := by
  unfold outcome
  split
  · exact c.cancelled_shaken _
  · exact c.cancelled_established _
  · exact c.cancelled_connect _
  · exact c.cancelled_connected _ _
  · exact c.cancelled_pause _ _
  all_goals rfl

end Cancelled

end Conversation

/-- A conversation, the clock, and the record of what was sent. -/
structure Correspondence where
  conversation : Conversation
  now : Nat := 0
  postings : List Posting := []

namespace Correspondence

/-- The conversation has changed at a time; what it has sent since is put on record. -/
def moveTo (k : Correspondence) (time : Nat) (c : Conversation) : Correspondence where
  conversation := c
  now := time
  postings := k.postings ++
    (c.sent.drop k.conversation.sent.length).map fun batch => { batch, time }

/-- The outcome of the batch sent last is put on record. -/
def answer (k : Correspondence) (time : Nat) (result : Except Failure Batch) : Correspondence :=
  { k with postings := k.postings.modifyLast (·.answered time result) }

def start (channels : List String) (publication : Option (String × Json.Value)) :
    Correspondence :=
  moveTo { conversation := { channels } } 0 (.start channels publication)

def step (k : Correspondence) : ConversationEvent → Correspondence
  | .outcome delay result =>
    if k.conversation.isAwaiting then
      (k.answer (k.now + delay) result).moveTo (k.now + delay) (k.conversation.outcome result)
    else k
  | .cancel delay =>
    k.moveTo (k.now + (k.conversation.pauseSpan?.map (min delay)).getD delay)
      k.conversation.cancel
  | .rested => k.moveTo (k.now + k.conversation.pauseSpan?.getD 0) k.conversation.rested

def run (k : Correspondence) (events : List ConversationEvent) : Correspondence :=
  events.foldl step k

/-! ## What the conversation waits for -/

/-- The phase in which the outcome of a letter is awaited. -/
def awaits (latest : Option ClientId) : Letter → Option Phase
  | .establish _ none => some .handshaking
  | .establish _ (some _) => latest.map .subscribing
  | .publish _ => latest.map .publishing
  | .connect _ => latest.map .connecting
  | .disconnect _ => some .leaving

/-- Where the conversation stands after its last letter. -/
def Stands (k : Correspondence) (latest : Option ClientId) (last : Letter) : Prop :=
  match last.upshot with
  | .awaited => awaits latest last = some k.conversation.phase
  | .failed => ∃ fault, k.conversation.phase = .ended (.error fault)
  | .renewed _ => False
  | .resting time span => span ≠ 0 ∧ k.now = time ∧
      latest.map (Phase.pausing · span) = some k.conversation.phase
  | .finished => k.conversation.phase = .ended (.ok ())

theorem awaits_ne_pausing (latest : Option ClientId) (last : Letter) (client : ClientId)
    (span : Nat) : awaits latest last ≠ some (.pausing client span) := by
  unfold awaits
  split <;> simp

theorem connect_of_awaits {latest : Option ClientId} {last : Letter} {client : ClientId}
    (awaiting : awaits latest last = some (.connecting client)) :
    last.kind = .connect ∧ latest = some client := by
  unfold awaits at awaiting
  split at awaiting
  case h_4 =>
    rcases Option.map_eq_some_iff.mp awaiting with ⟨_, known, same⟩
    cases same
    exact ⟨rfl, known⟩
  all_goals simp at awaiting

/-- The clock does not matter unless a pause is on. -/
theorem Stands.moveTo {k : Correspondence} {latest : Option ClientId} {last : Letter}
    (stands : k.Stands latest last) (going : k.conversation.pauseSpan? = none)
    {c : Conversation} (same : c.phase = k.conversation.phase) (time : Nat) :
    (k.moveTo time c).Stands latest last := by
  unfold Stands at stands ⊢
  simp only [Correspondence.moveTo, same]
  cases upshot : last.upshot with
  | resting =>
      rw [upshot] at stands
      rcases Option.map_eq_some_iff.mp stands.2.2 with ⟨client, _, phase⟩
      simp [Conversation.pauseSpan?, ← phase] at going
  | _ =>
      rw [upshot] at stands
      exact stands

/-! ## The record -/

/-- The record is that of some letters, and nothing was sent that is not on record. -/
structure Filed (k : Correspondence) (letters : List Letter) : Prop where
  postings : k.postings = letters.flatMap Letter.postings
  sent : k.conversation.sent = k.postings.map Posting.batch

theorem map_batch_answer (k : Correspondence) (time : Nat) (result : Except Failure Batch) :
    (k.answer time result).postings.map Posting.batch = k.postings.map Posting.batch := by
  unfold answer
  rcases List.eq_nil_or_concat k.postings with none | ⟨before, posting, split⟩
  · rw [none]
    rfl
  · simp only [split, List.concat_eq_append, List.modifyLast_concat, List.map_append]
    rfl

theorem moveTo_moveTo {k : Correspondence} {c : Conversation}
    (quiet : c.sent = k.conversation.sent) (first second : Nat) (d : Conversation) :
    (k.moveTo first c).moveTo second d = k.moveTo second d := by
  simp [moveTo, quiet]

namespace Filed

variable {k : Correspondence} {letters : List Letter}

theorem answer {closed : List Letter} {last : Letter} (filed : k.Filed (closed ++ [last]))
    (time : Nat) (result : Except Failure Batch) :
    (k.answer time result).Filed (closed ++ [last.answered time result]) := by
  refine ⟨?_, filed.sent.trans (k.map_batch_answer time result).symm⟩
  have something : last.postings ≠ [] := by cases last <;> exact List.cons_ne_nil _ _
  simp only [Correspondence.answer, filed.postings, List.flatMap_append, List.flatMap_singleton,
    Letter.postings_answered]
  exact List.modifyLast_append_of_right_ne_nil _ _ _ something

theorem stay (filed : k.Filed letters) {c : Conversation}
    (quiet : c.sent = k.conversation.sent) (time : Nat) : (k.moveTo time c).Filed letters := by
  have same : (k.moveTo time c).postings = k.postings := by simp [moveTo, quiet]
  exact ⟨same.trans filed.postings, by rw [same]; exact quiet.trans filed.sent⟩

theorem send (filed : k.Filed letters) {c : Conversation} {batch : Batch}
    (sends : c.sent = k.conversation.sent ++ [batch]) (time : Nat) {more : List Letter}
    (longer : more.flatMap Letter.postings =
      letters.flatMap Letter.postings ++ [{ batch, time : Posting }]) :
    (k.moveTo time c).Filed more := by
  have posted : (k.moveTo time c).postings = k.postings ++ [{ batch, time : Posting }] := by
    simp [moveTo, sends]
  refine ⟨by rw [posted, longer, filed.postings], ?_⟩
  rw [posted, List.map_append, ← filed.sent]
  exact sends

end Filed

/-- What holds of a correspondence whose last letter is given. -/
structure Kept (k : Correspondence) (channels : List String)
    (publication : Option (String × Json.Value)) (closed : List Letter) (last : Letter) : Prop
    extends Recorded channels publication closed last where
  filed : k.Filed (closed ++ [last])
  listens : k.conversation.channels = channels
  /-- Until the first session is established, the publication is still to be made. -/
  publishes : k.conversation.publish = if closed = [] then publication else none
  cancelled : last.kind = .disconnect → k.conversation.cancelled = true

/-- What holds of a correspondence after every event. -/
structure Tells (k : Correspondence) (channels : List String)
    (publication : Option (String × Json.Value)) (closed : List Letter) (last : Letter) : Prop
    extends k.Kept channels publication closed last where
  stands : k.Stands (Letter.latest? (closed ++ [last])) last

section Moves

variable {k : Correspondence} {channels : List String}
  {publication : Option (String × Json.Value)} {closed : List Letter} {last : Letter}

namespace Kept

/-- Only the first letter has the publication before it. -/
theorem publish_eq_none (kept : k.Kept channels publication closed last)
    (later : last.kind ≠ .establish) : k.conversation.publish = none := by
  rw [kept.publishes, if_neg fun none => later (kept.kind_of_nil none)]

/-- The outcome arrives of a letter that is not a handshake which is accepted. -/
theorem answer (kept : k.Kept channels publication closed last) (time : Nat)
    (result : Except Failure Batch)
    (refused : ∀ handshake, last = .establish handshake none →
      (handshake.answered time result).accepted? = none) :
    (k.answer time result).Kept channels publication closed (last.answered time result) where
  toRecorded := by
    apply kept.replace (last.kind_answered time result) (last.time_answered time result)
    have carries := (forall_split_append_singleton.mp kept.carries).2
    cases last with
    | establish handshake subscription =>
        cases subscription with
        | none =>
            refine ⟨carries.1, ?_, by simp⟩
            rw [refused handshake rfl]
            rfl
        | some posting => simpa [Letter.Carries, Letter.answered, Posting.answered] using carries
    | publish | connect | disconnect => exact carries
  filed := kept.filed.answer time result
  listens := kept.listens
  publishes := kept.publishes
  cancelled farewell := kept.cancelled ((last.kind_answered time result).symm.trans farewell)

/-- Nothing is sent. -/
theorem stay (kept : k.Kept channels publication closed last) (c : Conversation)
    (quiet : c.sent = k.conversation.sent) (listens : c.channels = k.conversation.channels)
    (publishes : c.publish = k.conversation.publish)
    (cancelled : k.conversation.cancelled = true → c.cancelled = true) (time : Nat) :
    (k.moveTo time c).Kept channels publication closed last where
  toRecorded := kept.toRecorded
  filed := kept.filed.stay quiet time
  listens := listens.trans kept.listens
  publishes := publishes.trans kept.publishes
  cancelled farewell := cancelled (kept.cancelled farewell)

/-- A batch is sent that is a letter of its own. -/
theorem send (kept : k.Kept channels publication closed last) {c : Conversation} {batch : Batch}
    {time : Nat} {next : Letter} (sends : c.sent = k.conversation.sent ++ [batch])
    (listens : c.channels = k.conversation.channels) (publishes : c.publish = none)
    (postings : next.postings = [{ batch, time }])
    (carries : next.Carries channels publication (Letter.latest? (closed ++ [last])))
    (continues : last.Continues next)
    (chosen : next.kind = .publish ↔ k.conversation.publish.isSome)
    (cancelled : next.kind = .disconnect → c.cancelled = true) :
    (k.moveTo time c).Kept channels publication (closed ++ [last]) next where
  toRecorded := by
    apply kept.append carries continues
    rw [chosen, kept.publishes]
    split
    next none => simp [none]
    next some => simp [some]
  filed := by
    apply kept.filed.send sends time
    rw [List.flatMap_append, List.flatMap_singleton, postings]
  listens := listens.trans kept.listens
  publishes := by rw [if_neg (by simp)]; exact publishes
  cancelled := cancelled

/-- The client disconnects. -/
theorem leave (kept : k.Kept channels publication closed last) {client : ClientId}
    (latest : Letter.latest? (closed ++ [last]) = some client)
    (published : k.conversation.publish = none) {c : Conversation}
    (same : { k.conversation with cancelled := true } = c) {time : Nat}
    (continues : last.Continues
      (.disconnect { batch := Conversation.disconnectBatch client, time })) :
    (k.moveTo time (c.leave client)).Tells channels publication (closed ++ [last])
      (.disconnect { batch := Conversation.disconnectBatch client, time }) where
  toKept := by
    subst same
    refine kept.send rfl rfl published rfl ⟨client, latest, rfl⟩ continues ?_ fun _ => rfl
    simp [published]
  stands := rfl

/-- The next connect, or the farewell of a client that was cancelled. -/
theorem connect (kept : k.Kept channels publication closed last) {client : ClientId}
    (latest : Letter.latest? (closed ++ [last]) = some client)
    (published : k.conversation.publish = none) {time span : Nat}
    (upshot : last.upshot = .resting time span) :
    ∃ next, (k.moveTo (time + span) (k.conversation.connect client)).Tells channels publication
      (closed ++ [last]) next := by
  unfold Conversation.connect
  split
  next cancelled =>
    refine ⟨_, kept.leave latest published ?_ ?_⟩
    · rw [← cancelled]
    · unfold Letter.Continues
      rw [upshot]
      exact .inr ⟨rfl, Nat.le_add_right _ _, Nat.le_refl _⟩
  next going =>
    let posting : Posting :=
      { batch := [Conversation.connectMessage client], time := time + span }
    refine ⟨.connect posting, kept.send rfl rfl published rfl ⟨client, latest, rfl⟩ ?_ ?_ ?_, ?_⟩
    · unfold Letter.Continues
      rw [upshot]
      exact .inl ⟨.inl rfl, rfl⟩
    · simp [published]
    · simp
    · exact congrArg (Option.map Phase.connecting) ((Letter.latest?_append_of_none rfl).trans latest)

/-- After a pause, or without one, the client connects again. -/
theorem pause (kept : k.Kept channels publication closed last) {client : ClientId}
    (latest : Letter.latest? (closed ++ [last]) = some client)
    (published : k.conversation.publish = none) {time span : Nat}
    (upshot : last.upshot = .resting time span) :
    ∃ closed last, (k.moveTo time (k.conversation.pause client span)).Tells channels publication
      closed last := by
  unfold Conversation.pause
  split
  next none =>
    subst none
    exact ⟨_, kept.connect latest published upshot⟩
  next long =>
    let paused := { k.conversation with phase := .pausing client span }
    refine ⟨closed, last, kept.stay paused rfl rfl rfl id time, ?_⟩
    unfold Stands
    rw [upshot, latest]
    exact ⟨long, rfl, rfl⟩

/-- What went wrong ends the conversation. -/
theorem fail (kept : k.Kept channels publication closed last) (upshot : last.upshot = .failed)
    (fault : ConnectFault) (time : Nat) :
    (k.moveTo time (k.conversation.fail fault)).Tells channels publication closed last := by
  refine ⟨kept.stay (k.conversation.fail fault) rfl rfl rfl id time, ?_⟩
  unfold Stands
  rw [upshot]
  exact ⟨fault, rfl⟩

/-- A handshake that is accepted is answered by the subscriptions. -/
theorem subscribe {handshake : Posting}
    (kept : k.Kept channels publication closed (.establish handshake none)) (time : Nat)
    {replies : Batch} {client : ClientId} (accepted : accepted? replies = some client) :
    ∃ last, ((k.answer time (.ok replies)).moveTo time (k.conversation.send
      (Conversation.subscribeBatch k.conversation.channels client) (.subscribing client))).Tells
        channels publication closed last := by
  have named : (handshake.answered time (.ok replies)).accepted? = some client := accepted
  let posting : Posting := { batch := Conversation.subscribeBatch channels client, time }
  let next := Letter.establish (handshake.answered time (.ok replies)) (some posting)
  have carries : next.Carries channels publication (Letter.latest? closed) := by
    refine ⟨((forall_split_append_singleton.mp kept.carries).2).1, ?_, ?_⟩
    · rw [named]
      rfl
    · rintro _ ⟨⟩
      exact ⟨_, rfl⟩
  refine ⟨next, ⟨kept.replace rfl rfl carries, ?_, kept.listens, kept.publishes, ?_⟩, ?_⟩
  · have sends : k.conversation.sent ++
        [Conversation.subscribeBatch k.conversation.channels client] =
          k.conversation.sent ++ [posting.batch] := by rw [kept.listens]
    apply (kept.filed.answer time (.ok replies)).send sends
    simp [next, posting, Letter.postings, Letter.answered]
  · simp [next]
  · have known : Letter.latest? (closed ++ [next]) = some client := by
      rw [Letter.latest?_append_singleton]
      change (handshake.answered time (.ok replies)).accepted?.or _ = _
      rw [named]
      rfl
    exact congrArg (Option.map Phase.subscribing) known

/-- After the subscriptions, what is to be published goes out. -/
theorem established (kept : k.Kept channels publication closed last) {client : ClientId}
    (latest : Letter.latest? (closed ++ [last]) = some client) {time : Nat}
    (upshot : last.upshot = .resting time 0) :
    ∃ next, (k.moveTo time (k.conversation.established client)).Tells channels publication
      (closed ++ [last]) next := by
  unfold Conversation.established
  split
  next channel data unpublished =>
    have chosen : publication = some (channel, data) := by
      have publishes := kept.publishes
      rw [unpublished] at publishes
      split at publishes
      · exact publishes.symm
      · cases publishes
    let posting : Posting := { batch := Conversation.publishBatch client channel data, time }
    refine ⟨.publish posting, kept.send rfl rfl rfl rfl ⟨client, channel, data, latest, chosen, rfl⟩
      ?_ ?_ (by simp), ?_⟩
    · unfold Letter.Continues
      rw [upshot]
      exact .inl ⟨.inr rfl, rfl⟩
    · simp [unpublished]
    · exact congrArg (Option.map Phase.publishing) ((Letter.latest?_append_of_none rfl).trans latest)
  next published => exact kept.connect latest published upshot

/-- After a connect the client does as it is advised. -/
theorem connected {posting : Posting}
    (kept : k.Kept channels publication closed (.connect posting)) {client : ClientId}
    (latest : Letter.latest? (closed ++ [.connect posting]) = some client) {time : Nat}
    {replies : Batch}
    (upshot : (Letter.connect posting).upshot =
      .ofAdvice time (Conversation.adviceOf replies)) :
    ∃ closed last, (k.moveTo time (k.conversation.connected client replies)).Tells
      channels publication closed last := by
  have published := kept.publish_eq_none (by simp)
  unfold Conversation.connected
  extract_lets lines printed
  have printedKept : (k.moveTo time printed).Kept channels publication closed (.connect posting) :=
    kept.stay printed rfl rfl rfl id time
  have moved : ∀ c, k.moveTo time c = (k.moveTo time printed).moveTo time c := fun c =>
    (moveTo_moveTo rfl time time c).symm
  rw [moved]
  cases advised : Conversation.adviceOf replies with
  | none =>
      rw [advised] at upshot
      exact printedKept.pause latest published upshot
  | some advice =>
      rw [advised] at upshot
      simp only [Upshot.ofAdvice, Option.bind_some] at upshot
      simp only []
      cases asked : advice.reconnect with
      | none =>
          rw [asked] at upshot
          exact printedKept.pause latest published upshot
      | some reconnect =>
          rw [asked] at upshot
          cases reconnect with
          | retry => exact printedKept.pause latest published upshot
          | never => exact ⟨_, _, printedKept.fail upshot .sentAway time⟩
          | handshake =>
              let posting : Posting := { batch := Conversation.handshakeBatch, time }
              refine ⟨_, .establish posting none, printedKept.send rfl rfl published rfl
                ⟨rfl, rfl, by simp⟩ ?_ ?_ (by simp), rfl⟩
              · unfold Letter.Continues
                rw [upshot]
                exact ⟨rfl, rfl⟩
              · simp [printed, moveTo, published]

end Kept

end Moves

end Correspondence
end Command
end Bayeux
