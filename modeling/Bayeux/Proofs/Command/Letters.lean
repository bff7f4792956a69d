import Bayeux.Command.Conversation
import Mathlib.Computability.RegularExpressions
import Mathlib.Data.List.Chain

namespace Bayeux
namespace Command

/-!
# The letters of a conversation

What a client sends is read as a word.  Each letter stands for what one batch is for, or two: to
establish a session is to shake hands and then, if the handshake is accepted, to subscribe.

The batches alone do not tell which letter they belong to, for a client without channels
subscribes with a batch that is a single connect.  A letter therefore carries its postings, and
each posting carries what came of it.  From these it is computed what has to follow.
-/

/-- A batch that was sent, when, and when the outcome arrived and what it was. -/
structure Posting where
  batch : Batch
  time : Nat
  outcome : Option (Nat × Except Failure Batch) := none

/-- The client that the first handshake reply names, if it is successful. -/
def accepted? (replies : Batch) : Option ClientId :=
  (replies.find? Message.isHandshake).bind fun reply =>
    if reply.isSuccessful then reply.clientId else none

namespace Posting

def accepted? (p : Posting) : Option ClientId :=
  p.outcome.bind fun arrived =>
    match arrived.2 with
    | .ok replies => Command.accepted? replies
    | .error _ => none

def answered (p : Posting) (time : Nat) (result : Except Failure Batch) : Posting :=
  { p with outcome := some (time, result) }

end Posting

/-- What is to be done after a letter. -/
inductive Upshot where
  /-- The outcome has not arrived. -/
  | awaited
  /-- Nothing, because something went wrong. -/
  | failed
  /-- A new session is established at once. -/
  | renewed (time : Nat)
  /-- The next letter is due when some milliseconds have passed. -/
  | resting (time : Nat) (span : Nat)
  /-- Nothing, because all is done. -/
  | finished

/-- A server may advise a client that connects to stay away, to shake hands again or to wait. -/
def Upshot.ofAdvice (time : Nat) (advice : Option Advice) : Upshot :=
  match advice.bind Advice.reconnect with
  | some .never => .failed
  | some .handshake => .renewed time
  | _ => .resting time ((advice.bind Advice.interval).getD 0)

theorem Upshot.ofAdvice_eq_renewed {time other : Nat} {advice : Option Advice} :
    ofAdvice time advice = .renewed other ↔
      time = other ∧ ∃ a, advice = some a ∧ a.reconnect = some .handshake := by
  unfold ofAdvice
  cases advice with
  | none => simp
  | some a =>
      simp only [Option.bind_some, Option.some.injEq, exists_eq_left']
      cases a.reconnect with
      | none => simp
      | some reconnect => cases reconnect <;> simp

inductive Letter where
  | establish (handshake : Posting) (subscription : Option Posting)
  | publish (posting : Posting)
  | connect (posting : Posting)
  | disconnect (posting : Posting)

namespace Letter

inductive Kind where
  | establish
  | publish
  | connect
  | disconnect
deriving DecidableEq

def kind : Letter → Kind
  | establish _ _ => .establish
  | publish _ => .publish
  | connect _ => .connect
  | disconnect _ => .disconnect

def postings : Letter → List Posting
  | establish handshake subscription => handshake :: subscription.toList
  | publish posting | connect posting | disconnect posting => [posting]

/-- When the letter begins. -/
def time : Letter → Nat
  | establish posting _ | publish posting | connect posting | disconnect posting => posting.time

/-- The posting that was made last. -/
def final : Letter → Posting
  | establish handshake none => handshake
  | establish _ (some posting) | publish posting | connect posting | disconnect posting => posting

/-- The client that a handshake has made known. -/
def accepted? : Letter → Option ClientId
  | establish handshake _ => handshake.accepted?
  | publish _ | connect _ | disconnect _ => none

/-- Whether a session was established. -/
def isEstablished : Letter → Bool
  | establish _ (some posting) => posting.outcome.any fun arrived => arrived.2.toBool
  | establish _ none | publish _ | connect _ | disconnect _ => false

/-- The outcome of the last posting arrives. -/
def answered (time : Nat) (result : Except Failure Batch) : Letter → Letter
  | establish handshake none => establish (handshake.answered time result) none
  | establish handshake (some posting) => establish handshake (some (posting.answered time result))
  | publish posting => publish (posting.answered time result)
  | connect posting => connect (posting.answered time result)
  | disconnect posting => disconnect (posting.answered time result)

/-- What an outcome leads to.  A client that could not connect waits for a second. -/
def upshotOf (time : Nat) : Letter → Except Failure Batch → Upshot
  | establish _ none, _ => .failed
  | establish _ (some _), .ok _ | publish _, .ok _ => .resting time 0
  | establish _ (some _), .error _ | publish _, .error _ => .failed
  | connect _, .error _ => .resting time 1000
  | connect _, .ok replies => .ofAdvice time (Conversation.adviceOf replies)
  | disconnect _, _ => .finished

def upshot (letter : Letter) : Upshot :=
  match letter.final.outcome with
  | none => .awaited
  | some (time, result) => letter.upshotOf time result

section Kinds

variable (posting : Posting)

@[simp] theorem kind_establish (subscription : Option Posting) :
    (establish posting subscription).kind = .establish := rfl
@[simp] theorem kind_publish : (publish posting).kind = .publish := rfl
@[simp] theorem kind_connect : (connect posting).kind = .connect := rfl
@[simp] theorem kind_disconnect : (disconnect posting).kind = .disconnect := rfl

end Kinds

section Answered

variable (letter : Letter) (time : Nat) (result : Except Failure Batch)

@[simp] theorem kind_answered : (letter.answered time result).kind = letter.kind := by
  unfold answered
  split <;> rfl

@[simp] theorem time_answered : (letter.answered time result).time = letter.time := by
  unfold answered
  split <;> rfl

theorem upshot_answered :
    (letter.answered time result).upshot = letter.upshotOf time result := by
  unfold answered
  split <;> cases result <;> rfl

/-- Only the answer to a handshake makes a client known. -/
theorem accepted?_answered (later : ∀ handshake, letter ≠ establish handshake none) :
    (letter.answered time result).accepted? = letter.accepted? := by
  unfold answered
  split
  next handshake => exact absurd rfl (later handshake)
  all_goals rfl

theorem postings_answered : (letter.answered time result).postings =
    letter.postings.modifyLast (·.answered time result) := by
  unfold answered
  split <;> rfl

end Answered

/-- Once a session is established, the next letter is due at once. -/
theorem upshot_of_establish {letter : Letter} (kind : letter.kind = .establish) :
    (letter.isEstablished = false ∧ (letter.upshot = .awaited ∨ letter.upshot = .failed)) ∨
      (letter.isEstablished = true ∧ ∃ time, letter.upshot = .resting time 0) := by
  cases letter with
  | publish | connect | disconnect => cases kind
  | establish handshake subscription =>
      cases subscription with
      | none =>
          refine .inl ⟨rfl, ?_⟩
          simp only [upshot, final]
          cases handshake.outcome with
          | none => exact .inl rfl
          | some arrived => exact .inr rfl
      | some posting =>
          simp only [upshot, final, isEstablished]
          cases posting.outcome with
          | none => exact .inl ⟨rfl, .inl rfl⟩
          | some arrived =>
              rcases arrived with ⟨time, failure | replies⟩
              · exact .inl ⟨rfl, .inr rfl⟩
              · exact .inr ⟨rfl, time, rfl⟩

/-- A new handshake is due if the last connect reply advises it, and only then. -/
theorem upshot_connect_eq_renewed {posting : Posting} {time : Nat} :
    (connect posting).upshot = .renewed time ↔
      ∃ replies advice, posting.outcome = some (time, .ok replies) ∧
        Conversation.adviceOf replies = some advice ∧ advice.reconnect = some .handshake := by
  simp only [upshot, final]
  cases posting.outcome with
  | none => simp
  | some arrived =>
      rcases arrived with ⟨arrival, failure | replies⟩
      · simp [upshotOf]
      · simp only [upshotOf, Upshot.ofAdvice_eq_renewed, Option.some.injEq, Prod.mk.injEq,
          Except.ok.injEq]
        constructor
        · rintro ⟨rfl, advice, advised, again⟩
          exact ⟨replies, advice, ⟨rfl, rfl⟩, advised, again⟩
        · rintro ⟨_, advice, ⟨rfl, rfl⟩, advised, again⟩
          exact ⟨rfl, advice, advised, again⟩

/-! ## Words -/

section Words

open RegularExpression Language

/-- A session is established, something may be published, and then the client connects, or
establishes a new session, any number of times. -/
def opening : RegularExpression Kind :=
  char Kind.establish * (1 + char Kind.publish) * (char Kind.connect + char Kind.establish).star

/-- In the end the client may disconnect. -/
def grammar : RegularExpression Kind :=
  opening * (1 + char Kind.disconnect)

variable {word : List Kind}

theorem opening_establish : [Kind.establish] ∈ opening.matches' := by decide

theorem opening_publish : [Kind.establish, Kind.publish] ∈ opening.matches' := by decide

theorem opening_append (opens : word ∈ opening.matches') {kind : Kind}
    (again : kind = .connect ∨ kind = .establish) : word ++ [kind] ∈ opening.matches' := by
  rcases mem_mul.mp opens with ⟨first, begun, rounds, repeated, rfl⟩
  rcases mem_kstar.mp repeated with ⟨parts, rfl, each⟩
  rw [List.append_assoc]
  apply append_mem_mul begun
  refine mem_kstar.mpr ⟨parts ++ [[kind]], by simp, ?_⟩
  refine List.forall_mem_append.mpr ⟨each, List.forall_mem_singleton.mpr ?_⟩
  rcases again with rfl | rfl
  · exact .inl rfl
  · exact .inr rfl

theorem grammar_of_opening (opens : word ∈ opening.matches') : word ∈ grammar.matches' := by
  rw [← List.append_nil word]
  exact append_mem_mul opens (.inl rfl)

theorem grammar_append (opens : word ∈ opening.matches') :
    word ++ [.disconnect] ∈ grammar.matches' :=
  append_mem_mul opens (.inr rfl)

end Words

/-! ## What letters carry -/

/-- The client of the latest handshake that was accepted. -/
def latest? (letters : List Letter) : Option ClientId :=
  (letters.filterMap accepted?).getLast?

theorem latest?_append_singleton (letters : List Letter) (letter : Letter) :
    latest? (letters ++ [letter]) = letter.accepted?.or (latest? letters) := by
  unfold latest?
  rw [List.filterMap_append]
  cases accepted : letter.accepted? with
  | none => simp [accepted]
  | some client => simp [accepted]

theorem latest?_append_of_none {letters : List Letter} {letter : Letter}
    (other : letter.accepted? = none) : latest? (letters ++ [letter]) = latest? letters := by
  rw [latest?_append_singleton, other, Option.none_or]

/-- What is sent in a letter, for the client that is known when it begins.  A handshake that is
accepted is answered at once, by the subscriptions of the client that it names. -/
def Carries (channels : List String) (publication : Option (String × Json.Value))
    (latest : Option ClientId) : Letter → Prop
  | establish handshake subscription =>
    handshake.batch = Conversation.handshakeBatch ∧
      subscription.map Posting.batch =
        handshake.accepted?.map (Conversation.subscribeBatch channels) ∧
      ∀ posting ∈ subscription, ∃ result, handshake.outcome = some (posting.time, result)
  | publish posting => ∃ client channel data, latest = some client ∧
      publication = some (channel, data) ∧
      posting.batch = Conversation.publishBatch client channel data
  | connect posting => ∃ client, latest = some client ∧
      posting.batch = [Conversation.connectMessage client]
  | disconnect posting => ∃ client, latest = some client ∧
      posting.batch = Conversation.disconnectBatch client

/-- What may follow a letter, and when.  A client that is cancelled while it connects or waits
disconnects. -/
def Continues (letter next : Letter) : Prop :=
  match letter.upshot with
  | .awaited => letter.kind = .connect ∧ next.kind = .disconnect
  | .failed | .finished => False
  | .renewed time => next.kind = .establish ∧ next.time = time
  | .resting time span =>
    ((next.kind = .connect ∨ next.kind = .publish) ∧ next.time = time + span) ∨
      (next.kind = .disconnect ∧ time ≤ next.time ∧ next.time ≤ time + span)

/-- What follows an establishment follows a session. -/
theorem Continues.isEstablished {letter next : Letter} (continues : letter.Continues next)
    (kind : letter.kind = .establish) : letter.isEstablished = true := by
  unfold Continues at continues
  rcases upshot_of_establish kind with ⟨_, upshot | upshot⟩ | ⟨established, _⟩
  · rw [upshot] at continues
    cases kind.symm.trans continues.1
  · rw [upshot] at continues
    cases continues
  · exact established

/-- Nothing follows a farewell. -/
theorem Continues.kind_ne_disconnect {letter next : Letter} (continues : letter.Continues next) :
    letter.kind ≠ .disconnect := by
  intro farewell
  cases letter with
  | establish | publish | connect => cases farewell
  | disconnect posting =>
      unfold Continues upshot at continues
      cases arrived : (disconnect posting).final.outcome with
      | none =>
          rw [arrived] at continues
          cases continues.1
      | some outcome =>
          rw [arrived] at continues
          exact continues

end Letter

/-- A statement about each element of a list and those before it. -/
theorem forall_split_append_singleton {α : Type} {P : List α → α → Prop} {list : List α}
    {last : α} :
    (∀ before element after, list ++ [last] = before ++ element :: after → P before element) ↔
      (∀ before element after, list = before ++ element :: after → P before element) ∧
        P list last := by
  constructor
  · intro each
    refine ⟨fun before element after split => ?_, each list last [] rfl⟩
    apply each before element (after ++ [last])
    rw [split, List.append_assoc, List.cons_append]
  · rintro ⟨each, own⟩ before element after split
    rcases List.eq_nil_or_concat after with rfl | ⟨middle, other, rfl⟩
    · rcases List.append_inj' split rfl with ⟨rfl, same⟩
      cases same
      exact own
    · rw [List.concat_eq_append, ← List.cons_append, ← List.append_assoc] at split
      exact each before element middle (List.append_inj' split rfl).1

/-- What holds of the letters so far, the last of which may still be without its outcome. -/
structure Recorded (channels : List String) (publication : Option (String × Json.Value))
    (closed : List Letter) (last : Letter) : Prop where
  carries : ∀ before letter after, closed ++ [last] = before ++ letter :: after →
    letter.Carries channels publication (Letter.latest? before)
  continues : (closed ++ [last]).IsChain Letter.Continues
  opens : last.kind ≠ .disconnect → (closed ++ [last]).map Letter.kind ∈ Letter.opening.matches'
  closes : last.kind = .disconnect → closed.map Letter.kind ∈ Letter.opening.matches'
  first : (closed ++ [last]).head?.map Letter.kind = some .establish
  once : (closed ++ [last]).countP (·.kind = .publish) =
    if closed = [] then 0 else publication.toList.length

namespace Recorded

variable {channels : List String} {publication : Option (String × Json.Value)}
  {closed : List Letter} {last : Letter}

theorem kind_of_nil (recorded : Recorded channels publication closed last) (none : closed = []) :
    last.kind = .establish := by
  have first := recorded.first
  rw [none] at first
  exact Option.some.inj first

/-- The last letter may change, as long as it begins as before. -/
theorem replace (recorded : Recorded channels publication closed last) {other : Letter}
    (kind : other.kind = last.kind) (time : other.time = last.time)
    (carries : other.Carries channels publication (Letter.latest? closed)) :
    Recorded channels publication closed other where
  carries := forall_split_append_singleton.mpr
    ⟨(forall_split_append_singleton.mp recorded.carries).1, carries⟩
  continues := by
    rcases List.isChain_append.mp recorded.continues with ⟨before, _, joined⟩
    refine List.isChain_append.mpr ⟨before, .singleton other, ?_⟩
    intro letter member next own
    have follows := joined letter member last rfl
    cases own
    unfold Letter.Continues at follows ⊢
    rwa [kind, time]
  opens := by simpa [kind] using recorded.opens
  closes := by simpa [kind] using recorded.closes
  first := by
    rw [← recorded.first]
    cases closed <;> simp [kind]
  once := by simpa [kind] using recorded.once

/-- Another letter may follow if the last one leads to it. -/
theorem append (recorded : Recorded channels publication closed last) {next : Letter}
    (carries : next.Carries channels publication (Letter.latest? (closed ++ [last])))
    (continues : last.Continues next)
    (chosen : next.kind = .publish ↔ closed = [] ∧ publication.isSome) :
    Recorded channels publication (closed ++ [last]) next := by
  have opens := recorded.opens continues.kind_ne_disconnect
  refine ⟨forall_split_append_singleton.mpr ⟨recorded.carries, carries⟩, ?_, ?_, fun _ => opens,
    ?_, ?_⟩
  · refine List.isChain_append.mpr ⟨recorded.continues, .singleton next, ?_⟩
    intro letter member other own
    cases own
    rw [List.getLast?_concat] at member
    cases member
    exact continues
  · intro stays
    rw [List.map_append]
    cases kind : next.kind with
    | disconnect => exact absurd kind stays
    | connect | establish =>
        simp only [List.map_cons, List.map_nil, kind]
        exact Letter.opening_append opens (by simp)
    | publish =>
        rcases chosen.mp kind with ⟨rfl, _⟩
        simp only [List.nil_append, List.map_cons, List.map_nil, kind, recorded.kind_of_nil rfl]
        exact Letter.opening_publish
  · rw [List.head?_append, Option.map_or, recorded.first]
    rfl
  · rw [List.countP_append, recorded.once, List.countP_singleton]
    simp only [chosen, List.append_ne_nil_of_right_ne_nil closed (List.cons_ne_nil last []),
      if_false]
    by_cases none : closed = []
    · cases publication <;> simp [none]
    · simp [none]

end Recorded

end Command
end Bayeux
