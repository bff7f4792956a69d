import Bayeux.Proofs.Engine.Queue
import Bayeux.Proofs.Message.Soundness
import Bayeux.Transport.Exchange

namespace Bayeux

/-!
# What the engine sends

A client is sent the replies to its own messages and what is queued for its session.  A
reply carries no data, and only its advice nests, by one level.  A queue holds
nothing but what subscribers see of messages that were relayed.
-/

/-! ## Replies -/

/-- Advice of known members only, with times of 64 bits. -/
structure Advice.IsPlain (a : Advice) : Prop where
  interval : ∀ ms ∈ a.interval, ms < 2 ^ 64
  timeout : ∀ ms ∈ a.timeout, ms < 2 ^ 64
  other : a.other = []

namespace Advice.IsPlain

variable {a : Advice}

theorem empty : ({} : Advice).IsPlain where
  interval _ absent := by cases absent
  timeout _ absent := by cases absent
  other := rfl

theorem canonical (plain : a.IsPlain) : a.Canonical where
  interval := plain.interval
  timeout := plain.timeout
  unnamed _ listed := by
    rw [plain.other] at listed
    cases listed
  other := by
    rw [plain.other]
    exact ⟨rfl, fun _ inside => by cases inside⟩

theorem depth_value_le (plain : a.IsPlain) : a.value.depth ≤ 1 := by
  rw [value_eq, Json.Value.depth, plain.other, List.append_nil]
  apply Nat.succ_le_succ
  rw [Json.Value.memberDepth_le_iff]
  intro member listed
  rcases Json.Members.exists_of_mem_named listed with ⟨field, _, writes, _⟩
  cases field with
  | reconnect | interval | timeout | multipleClients =>
      rcases Option.map_eq_some_iff.mp writes with ⟨value, _, same⟩
      rw [← same]
      exact Nat.le_refl 0

end Advice.IsPlain

namespace Message

/-- A message without data or extensions, with plain advice at most. -/
structure IsReply (m : Message) : Prop where
  data : m.data = none
  ext : m.ext = none
  advice : ∀ a ∈ m.advice, a.IsPlain
  other : m.other = []

namespace IsReply

variable {m : Message}

theorem readable (reply : m.IsReply) : m.Readable where
  data _ known := by
    rw [reply.data] at known
    cases known
  ext _ known := by
    rw [reply.ext] at known
    cases known
  advice a known := (reply.advice a known).canonical
  unnamed _ listed := by
    rw [reply.other] at listed
    cases listed
  other := by
    rw [reply.other]
    exact ⟨rfl, fun _ inside => by cases inside⟩

theorem depth_value_le (reply : m.IsReply) : m.value.depth ≤ 2 := by
  apply Message.depth_value_le
  · intro _ known
    rw [reply.data] at known
    cases known
  · intro _ known
    rw [reply.ext] at known
    cases known
  · exact fun a known => (reply.advice a known).depth_value_le
  · exact fun _ _ => Nat.le_refl 1
  · intro _ listed
    rw [reply.other] at listed
    cases listed

/-- A reply stays one when its advice is changed for other plain advice. -/
theorem adviseWith (reply : m.IsReply) {change : Advice → Advice}
    (plain : ∀ a : Advice, a.IsPlain → (change a).IsPlain) : (m.adviseWith change).IsReply where
  data := reply.data
  ext := reply.ext
  advice a known := by
    rw [← Option.some.inj known]
    apply plain
    cases given : m.advice with
    | none => exact Advice.IsPlain.empty
    | some a => exact reply.advice a given
  other := reply.other

end IsReply
end Message

namespace TransportOptions

variable {m : Message}

theorem mod_size_lt (ms : Nat) : ms % UInt64.size < 2 ^ 64 :=
  Nat.mod_lt ms (by decide)

theorem isReply_adviseConnect (reply : m.IsReply) (o : TransportOptions) :
    (o.adviseConnect m).IsReply := by
  unfold adviseConnect
  split
  · apply reply.adviseWith
    intro a plain
    refine ⟨?_, ?_, plain.other⟩
    · intro ms known
      rcases Option.or_eq_some_iff.mp known with given | ⟨_, own⟩
      · exact plain.interval ms given
      · rw [← Option.some.inj own]
        exact mod_size_lt o.interval
    · intro ms known
      rcases Option.or_eq_some_iff.mp known with given | ⟨_, own⟩
      · exact plain.timeout ms given
      · rw [← Option.some.inj own]
        exact mod_size_lt o.timeout
  · exact reply

theorem isReply_adviseRejected (reply : m.IsReply) (o : TransportOptions)
    (browserKnown : Bool) : (o.adviseRejected browserKnown m).IsReply := by
  have advised : (m.adviseWith fun a => { a with
      multipleClients := if browserKnown then some true else a.multipleClients }).IsReply :=
    reply.adviseWith fun a plain => ⟨plain.interval, plain.timeout, plain.other⟩
  unfold adviseRejected
  simp only []
  split
  · have dismissed := advised.adviseWith fun a plain =>
      (⟨plain.interval, plain.timeout, plain.other⟩ :
        Advice.IsPlain { a with reconnect := some .never })
    exact ⟨dismissed.data, dismissed.ext, dismissed.advice, dismissed.other⟩
  · apply advised.adviseWith
    intro a plain
    refine ⟨?_, plain.timeout, plain.other⟩
    intro ms known
    rw [← Option.some.inj known]
    exact mod_size_lt o.multiSessionInterval

end TransportOptions

namespace Engine

section Answers

variable {e : Engine} {m reply : Message}

theorem isReply_reply (m : Message) : m.reply.IsReply where
  data := rfl
  ext := rfl
  advice _ absent := by cases absent
  other := rfl

theorem isReply_refuse (isReply : reply.IsReply) (error : String) :
    (refuse reply error).IsReply :=
  ⟨isReply.data, isReply.ext, isReply.advice, isReply.other⟩

theorem isReply_accept (isReply : reply.IsReply) : (accept reply).IsReply :=
  ⟨isReply.data, isReply.ext, isReply.advice, isReply.other⟩

/-- Advice to try at once. -/
theorem isPlain_immediate (policy : Reconnect) :
    Advice.IsPlain { reconnect := some policy, interval := some 0 } where
  interval ms known := by
    rw [← Option.some.inj known]
    decide
  timeout _ absent := by cases absent
  other := rfl

theorem isReply_unknownClient (isReply : reply.IsReply) : (unknownClient reply).IsReply where
  data := isReply.data
  ext := isReply.ext
  advice a known := by
    rw [← Option.some.inj known]
    exact isPlain_immediate .handshake
  other := isReply.other

/-- The forms that a reply of the engine has. -/
inductive ReplyForm (mint : Nat → ClientId) (e : Engine) (m : Message) : Message → Prop where
  | opened (opens : m.isHandshake = true) : ReplyForm mint e m (e.handshake mint m).1
  | stranger (subscription : Option String) :
    ReplyForm mint e m (unknownClient { m.reply with subscription })
  | refused (subscription : Option String) (error : String) :
    ReplyForm mint e m (refuse { m.reply with subscription } error)
  | accepted (subscription : Option String) :
    ReplyForm mint e m (accept { m.reply with subscription })

theorem answer_replyForm (e : Engine) (mint : Nat → ClientId) (m : Message) :
    ReplyForm mint e m (e.answer mint m).1 := by
  have changes : ∀ apply, ReplyForm mint e m (e.subscription m apply).1 := by
    intro apply
    unfold subscription
    simp only []
    split
    · exact .stranger _
    · exact .refused _ _
    · exact .accepted _
  unfold answer
  split
  next opens => exact .opened (beq_iff_eq.mpr opens)
  split
  · unfold connect
    split
    · exact .stranger none
    · exact .accepted none
  split
  · unfold disconnect
    split
    · exact .stranger none
    · exact .accepted none
  split
  · exact changes _
  split
  · exact changes _
  split
  · exact .refused none _
  · unfold relay
    split
    · exact .stranger none
    · exact .accepted none

/-- A reply of any form carries nothing of the data of its message. -/
theorem ReplyForm.isReply {mint : Nat → ClientId} {e : Engine} {m reply : Message}
    (form : ReplyForm mint e m reply) : reply.IsReply := by
  have named : ∀ subscription, Message.IsReply { m.reply with subscription } := fun _ =>
    ⟨rfl, rfl, (isReply_reply m).advice, rfl⟩
  cases form with
  | opened opens =>
      refine ⟨rfl, rfl, ?_, rfl⟩
      intro a known
      rw [← Option.some.inj known]
      exact isPlain_immediate .retry
  | stranger subscription => exact isReply_unknownClient (named subscription)
  | refused subscription error => exact isReply_refuse (named subscription) error
  | accepted subscription => exact isReply_accept (named subscription)

end Answers

/-! ## Queues -/

/-- Every queued message is of a kind. -/
def Queues (e : Engine) (kind : Message → Prop) : Prop :=
  ∀ id, ∀ m ∈ e.queueOf id, kind m

namespace Queues

variable {e : Engine} {kind : Message → Prop}

theorem empty (kind : Message → Prop) : ({} : Engine).Queues kind :=
  fun _ _ absent => by cases absent

theorem mono (queues : e.Queues kind) {wider : Message → Prop}
    (le : ∀ m, kind m → wider m) : e.Queues wider :=
  fun id m member => le m (queues id m member)

theorem of_queueOf (queues : e.Queues kind) {next : Engine}
    (same : ∀ id, next.queueOf id = e.queueOf id) : next.Queues kind := by
  intro id m member
  rw [same] at member
  exact queues id m member

theorem change_of_keepsQueue (queues : e.Queues kind) {f : Session → Session}
    (keeps : Session.KeepsQueue f) (id : ClientId) : (e.change id f).Queues kind :=
  queues.of_queueOf (e.queueOf_change_of_keepsQueue keeps id)

theorem change_drained (queues : e.Queues kind) (id : ClientId) :
    (e.change id Session.drained).Queues kind := by
  intro other m member
  rw [queueOf_change_drained] at member
  split at member
  · cases member
  · exact queues other m member

theorem change_deliver (queues : e.Queues kind) {m : Message} (ofKind : kind m)
    (id : ClientId) : (e.change id (·.deliver m)).Queues kind := by
  intro other n member
  rw [queueOf_change] at member
  split at member
  · cases found : e.known? id with
    | none =>
        rw [found] at member
        cases member
    | some s =>
        rw [found, Option.map_some, Option.getD_some, Session.deliver_queue] at member
        rcases List.mem_append.mp member with earlier | last
        · apply queues id n
          unfold queueOf
          rw [found]
          exact earlier
        · rw [List.mem_singleton.mp last]
          exact ofKind
  · exact queues other n member

theorem broadcast (queues : e.Queues kind) {m : Message} (ofKind : kind m) :
    (e.broadcast m).Queues kind :=
  broadcast_induction (·.Queues kind) (fun kept id => kept.change_deliver ofKind id) queues

theorem handshake (queues : e.Queues kind) (mint : Nat → ClientId) (m : Message) :
    (e.handshake mint m).2.Queues kind := by
  intro id n member
  unfold queueOf known? Engine.handshake at member
  simp only [Table.get?_insert] at member
  split at member
  · cases member
  · exact queues id n member

theorem disconnect (queues : e.Queues kind) (m : Message) : (e.disconnect m).2.Queues kind := by
  unfold Engine.disconnect
  cases live : e.sender? m with
  | none => exact queues
  | some s =>
      rcases known?_of_sender? live with ⟨name, _, found⟩
      intro id n member
      unfold queueOf known? unsubscribeAll at member
      simp only [Table.get?_erase, Table.get?_insert] at member
      split at member
      · apply queues name n
        unfold queueOf
        rw [found]
        exact member
      · exact queues id n member

theorem answer (queues : e.Queues kind) (mint : Nat → ClientId) {m : Message}
    (ofKind : kind (published m)) : (e.answer mint m).2.Queues kind := by
  have changes : ∀ {apply : Engine → ClientId → String → Engine},
      (∀ e id channel, (apply e id channel).known? = e.known?) →
        (e.subscription m apply).2.Queues kind := by
    intro apply known
    unfold subscription
    simp only []
    split
    · exact queues
    · exact queues
    · apply queues.of_queueOf
      intro id
      unfold queueOf
      rw [known]
  unfold Engine.answer
  split
  · exact queues.handshake mint m
  split
  · unfold Engine.connect
    split
    · exact queues
    · exact queues.change_of_keepsQueue Session.keepsQueue_connect _
  split
  · exact queues.disconnect m
  split
  · exact changes fun _ _ _ => rfl
  split
  · exact changes fun _ _ _ => rfl
  split
  · exact queues
  · unfold relay
    split
    · exact queues
    · exact queues.broadcast ofKind

end Queues
end Engine

namespace Surroundings

/-- Without extensions, answering a batch yields replies, and the queues grow by what is
relayed of its messages. -/
theorem answers?_sends {kind : Message → Prop} (mint : Nat → ClientId) (o : TransportOptions)
    (r : Request) {batch : Batch} (ofKind : ∀ m ∈ batch, kind (Engine.published m)) :
    ∀ {e : Engine}, e.Queues kind → ∃ answers engine,
      answers? { mint } o r e batch = (some answers, engine) ∧ engine.Queues kind ∧
        ∀ answer ∈ answers, answer.reply.IsReply := by
  induction batch with
  | nil => exact fun {e} queues => ⟨[], e, rfl, queues, List.forall_mem_nil _⟩
  | cons m rest inductionHypothesis =>
      intro e queues
      rcases List.forall_mem_cons.mp ofKind with ⟨first, others⟩
      have isReply := (e.answer_replyForm mint m).isReply
      have one : ∃ answer, answer? { mint } o r e m = (some answer, (e.answer mint m).2) ∧
          answer.reply.IsReply := by
        unfold answer? reply?
        simp only []
        split
        · exact ⟨_, rfl, TransportOptions.isReply_adviseConnect isReply o⟩
        · exact ⟨_, rfl, isReply⟩
      rcases one with ⟨answer, answered, replied⟩
      rcases inductionHypothesis others (queues.answer mint first) with
        ⟨answers, engine, more, last, replies⟩
      refine ⟨answer :: answers, engine, ?_, last, List.forall_mem_cons.mpr ⟨replied, replies⟩⟩
      rw [answers?, answered]
      simp only [more]
      rfl

end Surroundings
end Bayeux
