import Bayeux.Proofs.Engine.Answering
import Bayeux.Proofs.Engine.Subscriptions

namespace Bayeux

/-!
# Sessions that have ended

A handshake opens a session, and a message that disconnects its client ends it if it is
answered with success.  The journal of a run says when either happens.  The engine agrees:
its live sessions are those that were opened and have not ended, and a session that has
ended stays disconnected, stands on no channel and answers to no message any more.
-/

namespace Occurrence

/-- Whether a session begins. -/
def opens : Occurrence → Bool
  | answered m _ => m.isHandshake
  | _ => false

/-- Whether a session ends. -/
def ends : Occurrence → Bool
  | answered m reply => m.channel == Channel.disconnect && reply.isSuccessful
  | _ => false

/-- Whether the session of a client ends. -/
def endsFor (id : ClientId) : Occurrence → Bool
  | answered m reply => ends (answered m reply) && m.clientId == some id
  | _ => false

theorem ends_of_other {m reply : Message} (other : m.channel ≠ Channel.disconnect) :
    (answered m reply).ends = false := by
  simp [ends, other]

end Occurrence

namespace Journal

/-- How many sessions have begun. -/
def opened (journal : Journal) : Nat :=
  journal.countP Occurrence.opens

/-- How many sessions have ended. -/
def ended (journal : Journal) : Nat :=
  journal.countP Occurrence.ends

/-- Whether the session of a client has ended at any time. -/
def hasLeft (journal : Journal) (id : ClientId) : Bool :=
  journal.any (Occurrence.endsFor id)

theorem opened_cons (occurrence : Occurrence) (earlier : Journal) :
    opened (occurrence :: earlier) = opened earlier + if occurrence.opens then 1 else 0 :=
  List.countP_cons

theorem ended_cons (occurrence : Occurrence) (earlier : Journal) :
    ended (occurrence :: earlier) = ended earlier + if occurrence.ends then 1 else 0 :=
  List.countP_cons

end Journal

namespace Engine

/-- The sessions that were opened are live or have ended, those of the clients that have
left among the latter. -/
structure Parts (e : Engine) (opened ended : Nat) (left : ClientId → Bool) : Prop where
  once : e.sessions.keys.Nodup
  counted : e.sessionCount + ended = opened
  live : ∀ id s, e.session? id = some s → s.disconnected = false
  ended : ∀ id s, e.departed.get? id = some s →
    e.session? id = none ∧ s.connected = false ∧ s.disconnected = true
  left : ∀ id, left id = true → (e.departed.get? id).isSome

namespace Parts

variable {e : Engine} {opened ended : Nat} {left : ClientId → Bool}

theorem empty : ({} : Engine).Parts 0 0 fun _ => false where
  once := List.nodup_nil
  counted := rfl
  live _ _ absent := by cases absent
  ended _ _ absent := by cases absent
  left _ absent := by cases absent

/-- Only the tables of sessions matter. -/
theorem of_same (parts : e.Parts opened ended left) {next : Engine}
    (sessions : next.sessions = e.sessions) (departed : next.departed = e.departed) :
    next.Parts opened ended left := by
  have live : next.session? = e.session? := by
    unfold session?
    rw [sessions]
  refine ⟨sessions ▸ parts.once, ?_, live ▸ parts.live, ?_, departed ▸ parts.left⟩
  · unfold sessionCount
    rw [sessions]
    exact parts.counted
  · rw [live, departed]
    exact parts.ended

/-! ## Changes of one session -/

/-- A live session may change in all but being disconnected. -/
theorem change_of_live (parts : e.Parts opened ended left) {id : ClientId}
    (live : (e.session? id).isSome) {f : Session → Session}
    (keeps : ∀ s, (f s).disconnected = s.disconnected) :
    (e.change id f).Parts opened ended left := by
  have changed := change_eq_of_live live f
  have departed : (e.change id f).departed = e.departed := by rw [changed]
  constructor
  · rw [changed]
    exact Table.nodup_keys_modify parts.once id f
  · rw [changed, sessionCount, Table.size_modify parts.once]
    exact parts.counted
  · intro other s found
    rw [session?_change] at found
    split at found
    · rcases Option.map_eq_some_iff.mp found with ⟨old, before, same⟩
      rw [← same, keeps]
      exact parts.live id old before
    · exact parts.live other s found
  · intro other s found
    rw [departed] at found
    rcases parts.ended other s found with ⟨gone, flags⟩
    refine ⟨?_, flags⟩
    rw [session?_change]
    split
    next same =>
      rw [← same, gone] at live
      cases live
    next => exact gone
  · intro other leaves
    rw [departed]
    exact parts.left other leaves

/-- A session that has ended may change in all but its two flags. -/
theorem change_of_ended (parts : e.Parts opened ended left) {id : ClientId}
    (gone : e.session? id = none) {f : Session → Session}
    (keeps : ∀ s, (f s).connected = s.connected ∧ (f s).disconnected = s.disconnected) :
    (e.change id f).Parts opened ended left := by
  rw [change_eq_of_gone gone]
  refine ⟨parts.once, parts.counted, parts.live, ?_, ?_⟩
  · intro other s found
    rw [Table.get?_modify] at found
    split at found
    next same =>
      rcases Option.map_eq_some_iff.mp found with ⟨old, before, changed⟩
      rcases parts.ended id old before with ⟨absent, connected, disconnected⟩
      rw [same, ← changed, (keeps old).1, (keeps old).2]
      exact ⟨absent, connected, disconnected⟩
    next => exact parts.ended other s found
  · intro other leaves
    rw [Table.get?_modify]
    split
    next same => exact Option.isSome_map.trans (parts.left id (same ▸ leaves))
    next => exact parts.left other leaves

theorem change (parts : e.Parts opened ended left) (id : ClientId) {f : Session → Session}
    (keeps : ∀ s, (f s).connected = s.connected ∧ (f s).disconnected = s.disconnected) :
    (e.change id f).Parts opened ended left := by
  cases found : e.session? id with
  | some s => exact parts.change_of_live (Option.isSome_of_eq_some found) fun s => (keeps s).2
  | none => exact parts.change_of_ended found keeps

theorem broadcast (parts : e.Parts opened ended left) (m : Message) :
    (e.broadcast m).Parts opened ended left := by
  refine broadcast_induction (·.Parts opened ended left) (fun kept id => kept.change id ?_) parts
  intro s
  rw [s.deliver_eq m]
  exact ⟨rfl, rfl⟩

/-! ## Beginning and end -/

theorem handshake {mint : Nat → ClientId} (parts : e.Parts opened ended left)
    (minted : e.Minted mint) (distinct : Function.Injective mint) (m : Message) :
    (e.handshake mint m).2.Parts (opened + 1) ended left := by
  have fresh := Option.or_eq_none_iff.mp (minted.fresh distinct)
  have found : ∀ id, (e.handshake mint m).2.session? id =
      if id = mint e.issued then some { id := mint e.issued } else e.session? id :=
    fun id => Table.get?_insert _ _ _ _
  constructor
  · exact Table.nodup_keys_insert parts.once _ _
  · change (e.sessions.insert _ _).size + ended = opened + 1
    rw [Table.size_insert_of_get?_eq_none fresh.1, Nat.add_right_comm]
    exact congrArg Nat.succ parts.counted
  · intro id s there
    rw [found] at there
    split at there
    · rw [← Option.some.inj there]
    · exact parts.live id s there
  · intro id s there
    rcases parts.ended id s there with ⟨gone, flags⟩
    refine ⟨?_, flags⟩
    rw [found]
    split
    next own =>
      rw [own] at there
      exact absurd (fresh.2.symm.trans there) (by simp)
    next => exact gone
  · exact parts.left

theorem depart (parts : e.Parts opened ended left) {s : Session}
    (live : (e.session? s.id).isSome) :
    (e.depart s).Parts opened (ended + 1) fun id => s.id == id || left id := by
  have found : ∀ id, (e.depart s).session? id = if id = s.id then none else e.session? id :=
    fun id => Table.get?_erase _ _ _
  have departed : ∀ id, (e.depart s).departed.get? id =
      if id = s.id then some s.disconnect else e.departed.get? id :=
    fun id => Table.get?_insert _ _ _ _
  constructor
  · exact Table.nodup_keys_erase parts.once s.id
  · have fewer : (e.depart s).sessionCount + 1 = e.sessionCount :=
      Table.size_erase_add_one parts.once live
    rw [← parts.counted, ← fewer]
    omega
  · intro id other there
    rw [found] at there
    split at there
    · cases there
    · exact parts.live id other there
  · intro id other there
    rw [departed] at there
    rw [found]
    split at there
    next own =>
      rw [if_pos own, ← Option.some.inj there]
      exact ⟨rfl, rfl, rfl⟩
    next others =>
      rw [if_neg others]
      exact parts.ended id other there
  · intro id leaves
    rw [departed]
    split
    next => rfl
    next others =>
      rcases Bool.or_eq_true_iff.mp leaves with own | earlier
      · exact absurd (beq_iff_eq.mp own).symm others
      · exact parts.left id earlier

/-- What the answer to a message says of sessions is what becomes of them. -/
theorem answer {mint : Nat → ClientId} (parts : e.Parts opened ended left)
    (minted : e.Minted mint) (distinct : Function.Injective mint) (m : Message) :
    let seen := Occurrence.answered m (e.answer mint m).1
    (e.answer mint m).2.Parts (opened + if seen.opens then 1 else 0)
      (ended + if seen.ends then 1 else 0) fun id => seen.endsFor id || left id := by
  have answered := answer_answered mint e m
  generalize (e.answer mint m).1 = reply, (e.answer mint m).2 = next at answered
  have quiet : m.isHandshake = false → (Occurrence.answered m reply).ends = false →
      next.Parts opened ended left →
        let seen := Occurrence.answered m reply
        next.Parts (opened + if seen.opens then 1 else 0) (ended + if seen.ends then 1 else 0)
          fun id => seen.endsFor id || left id := by
    intro other stays kept
    simpa [Occurrence.opens, Occurrence.endsFor, other, stays] using kept
  cases answered with
  | refused other reason failed =>
      exact quiet other (by simp [Occurrence.ends, Message.isSuccessful, failed]) parts
  | opened named =>
      have stays : (Occurrence.answered m (e.handshake mint m).1).ends = false :=
        Occurrence.ends_of_other (by rw [named]; decide)
      have begins : m.isHandshake = true := beq_iff_eq.mpr named
      simpa only [Occurrence.opens, Occurrence.endsFor, begins, stays, Bool.false_eq_true, if_false,
        if_true, Nat.add_zero, Bool.false_and, Bool.false_or] using
          parts.handshake minted distinct m
  | connected named sender =>
      apply quiet (isHandshake_of_channel named (by decide))
        (Occurrence.ends_of_other (by rw [named]; decide))
      exact parts.change_of_live (minted.sender sender).2 fun _ => rfl
  | @departed s named sender =>
      rcases minted.sender sender with ⟨own, live⟩
      have leaves : (Occurrence.answered m (accept m.reply)).ends = true := by
        simp [Occurrence.ends, named, Message.isSuccessful, accept]
      have other := isHandshake_of_channel (m := m) named (by decide)
      have itself : ∀ id, Occurrence.endsFor id (.answered m (accept m.reply)) = (s.id == id) := by
        intro id
        simp [Occurrence.endsFor, leaves, own]
      simpa only [Occurrence.opens, other, leaves, itself, Bool.false_eq_true, if_false, if_true,
        Nat.add_zero] using parts.depart live
  | subscribed named sender target =>
      exact quiet (isHandshake_of_channel named (by decide))
        (Occurrence.ends_of_other (by rw [named]; decide)) (parts.of_same rfl rfl)
  | unsubscribed named sender target =>
      exact quiet (isHandshake_of_channel named (by decide))
        (Occurrence.ends_of_other (by rw [named]; decide)) (parts.of_same rfl rfl)
  | relayed application sender =>
      have other : ∀ channel, Channel.isMeta channel = true → m.channel ≠ channel :=
        fun channel ofProtocol named =>
          Bool.false_ne_true (application.symm.trans (isMeta_of_channel named ofProtocol))
      exact quiet (beq_eq_false_iff_ne.mpr (other _ (by decide)))
        (Occurrence.ends_of_other (other _ (by decide))) (parts.broadcast (published m))

end Parts
end Engine

/-! ## Runs -/

namespace Observed

/-- The sessions of the engine are as the journal says. -/
structure Remembers (mint : Nat → ClientId) (o : Observed) : Prop where
  routes : o.Routes mint
  parts : o.engine.Parts o.journal.opened o.journal.ended o.journal.hasLeft

namespace Remembers

variable {mint : Nat → ClientId} {o : Observed}

theorem empty (mint : Nat → ClientId) : ({} : Observed).Remembers mint where
  routes := .empty mint
  parts := .empty

theorem step (remembers : o.Remembers mint) (distinct : Function.Injective mint)
    (event : EngineEvent) : (o.step mint event).Remembers mint := by
  refine ⟨remembers.routes.step distinct event, ?_⟩
  cases event with
  | answer m =>
      have answered := remembers.parts.answer remembers.routes.minted distinct m
      simp only [Observed.step, Journal.opened_cons, Journal.ended_cons]
      exact answered
  | publish channel data => exact remembers.parts.broadcast { channel, data := some data }
  | take id => exact remembers.parts.change id fun _ => ⟨rfl, rfl⟩

theorem run (remembers : o.Remembers mint) (distinct : Function.Injective mint)
    (events : List EngineEvent) : (o.run mint events).Remembers mint := by
  induction events generalizing o with
  | nil => exact remembers
  | cons event rest inductionHypothesis =>
      exact inductionHypothesis (remembers.step distinct event)

end Remembers

/-- In every run of an engine, only clients with live sessions stand on channels, no live
session is disconnected, and there are as many as were opened and have not ended.  Once a client
has been disconnected with success, however long ago, its session is not connected but
disconnected, it stands on no channel, and every message that names it fails, unless it is a
handshake.  Nothing is assumed of ids but that none is handed out twice. -/
theorem run_departs {mint : Nat → ClientId} (distinct : Function.Injective mint)
    (events : List EngineEvent) :
    let o := ({} : Observed).run mint events
    (∀ channel, ∀ id ∈ o.engine.listed channel, (o.engine.session? id).isSome) ∧
      (∀ id s, o.engine.session? id = some s → s.disconnected = false) ∧
      o.engine.sessionCount + o.journal.ended = o.journal.opened ∧
      ∀ id, o.journal.hasLeft id = true →
        (∃ s, o.engine.known? id = some s ∧ s.connected = false ∧ s.disconnected = true) ∧
          (∀ channel, id ∉ o.engine.listed channel) ∧
          ∀ m, m.clientId = some id → m.isHandshake = false →
            (o.engine.answer mint m).1.successful = some false := by
  intro o
  have remembers : o.Remembers mint := (Remembers.empty mint).run distinct events
  have parts := remembers.parts
  have lists := remembers.routes.lists
  have live : ∀ channel, ∀ id ∈ o.engine.listed channel, (o.engine.session? id).isSome :=
    fun channel id member => lists.live id channel ((lists.listed id channel).mp member)
  refine ⟨live, parts.live, parts.counted, ?_⟩
  intro id left
  rcases Option.isSome_iff_exists.mp (parts.left id left) with ⟨s, found⟩
  rcases parts.ended id s found with ⟨gone, flags⟩
  refine ⟨⟨s, ?_, flags⟩, ?_, ?_⟩
  · unfold Engine.known?
    rw [show o.engine.sessions.get? id = none from gone, found]
    rfl
  · intro channel member
    have there := live channel id member
    rw [gone] at there
    cases there
  · intro m named other
    apply Engine.successful_of_stranger _ other
    unfold Engine.sender?
    rw [named, Option.bind_some, gone]

/-- The first of two clients connects, subscribes and leaves.  It may then ask for what it likes:
it stays away, and the other session is the only one. -/
theorem run_departs_for_good :
    let mint := fun n => (⟨String.ofList (List.replicate n 'c')⟩ : ClientId)
    let ask := fun channel => EngineEvent.answer
      { channel, clientId := some ⟨""⟩, subscription := some "/a" }
    let handshake := EngineEvent.answer { channel := Channel.handshake }
    let events := [handshake, handshake, ask Channel.connect, ask Channel.subscribe,
      ask Channel.disconnect, ask Channel.disconnect, ask Channel.connect,
      ask Channel.subscribe, .publish "/a" .null]
    let o := ({} : Observed).run mint events
    Function.Injective mint ∧ o.journal.hasLeft ⟨""⟩ = true ∧ o.engine.sessionCount = 1 ∧
      (∃ s, o.engine.known? ⟨""⟩ = some s ∧ s.connected = false ∧ s.disconnected = true) ∧
      ⟨""⟩ ∉ o.engine.listed "/a" ∧
      (o.engine.answer mint { channel := "/a", clientId := some ⟨""⟩ }).1.successful =
        some false := by
  intro mint ask handshake events o
  have distinct : Function.Injective mint := ClientId.injective_replicate 'c'
  have left : o.journal.hasLeft ⟨""⟩ = true := by decide +kernel
  have opened : o.journal.opened = 2 := by decide +kernel
  have ended : o.journal.ended = 1 := by decide +kernel
  rcases run_departs distinct events with ⟨_, _, counted, departs⟩
  rcases departs ⟨""⟩ left with ⟨flags, unlisted, fails⟩
  refine ⟨distinct, left, ?_, flags, unlisted "/a", ?_⟩
  · have total : o.engine.sessionCount + o.journal.ended = o.journal.opened := counted
    rw [ended, opened] at total
    exact Nat.succ_inj.mp total
  · simp only [o]
    exact fails { channel := "/a", clientId := some ⟨""⟩ } rfl (by decide)

end Observed
end Bayeux
