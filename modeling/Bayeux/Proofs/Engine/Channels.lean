import Bayeux.Proofs.Engine.Departure

namespace Bayeux

/-!
# Entries of channels

The table of subscribers has an entry for a channel from the first subscription to it until a
session ends and nobody is subscribed to it any more.  A client that unsubscribes leaves the
entry behind, be it the last one or not.  So the journal tells which channels have an
entry: those that somebody was subscribed to since a session last ended.
-/

/-! ## What the journal tells -/

/-- Whether a client unsubscribes from a channel. -/
def Occurrence.leaves (channel : String) : Occurrence → Bool
  | answered m reply =>
    m.channel == Channel.unsubscribe && m.subscription == some channel && reply.isSuccessful
  | _ => false

/-- A client that is on a channel no more unsubscribed from it or ended its session. -/
theorem Occurrence.leaves_of_settles {occurrence : Occurrence} {id : ClientId} {channel : String}
    (settled : occurrence.settles id channel = some false) (stays : occurrence.ends = false) :
    occurrence.leaves channel = true := by
  cases occurrence with
  | answered m reply =>
      simp only [settles] at settled
      split at settled
      next own =>
        split at settled
        next disconnects =>
          rw [ends, disconnects, own.1] at stays
          cases stays
        split at settled
        next => cases settled
        next target =>
        split at settled
        next => cases settled
        split at settled
        next unsubscribes => simp [leaves, unsubscribes, own.1, not_not.mp target]
        next => cases settled
      next => cases settled
  | published | taken => cases settled

namespace Journal

variable {channel : String} {journal : Journal} {occurrence : Occurrence}

/-- Somebody was subscribed to a channel at a time since which no session has ended. -/
def Recalls (channel : String) (journal : Journal) : Prop :=
  ∃ later earlier, journal = later ++ earlier ∧
    (∀ occurrence ∈ later, occurrence.ends = false) ∧
    ∃ id, subscribed id channel earlier = true

theorem not_recalls_nil : ¬ Recalls channel [] := by
  rintro ⟨later, earlier, split, _, id, member⟩
  rw [(List.append_eq_nil_iff.mp split.symm).2] at member
  cases member

theorem recalls_cons :
    Recalls channel (occurrence :: journal) ↔
      (∃ id, subscribed id channel (occurrence :: journal) = true) ∨
        occurrence.ends = false ∧ Recalls channel journal := by
  constructor
  · rintro ⟨later, earlier, split, stays, member⟩
    cases later with
    | nil => exact .inl (split ▸ member)
    | cons first later =>
        obtain ⟨rfl, rfl⟩ := List.cons.inj split
        obtain ⟨stays, earlierStays⟩ := List.forall_mem_cons.mp stays
        exact .inr ⟨stays, later, earlier, rfl, earlierStays, member⟩
  · rintro (member | ⟨stays, later, earlier, rfl, laterStays, member⟩)
    · exact ⟨[], occurrence :: journal, rfl, fun _ absent => absurd absent List.not_mem_nil, member⟩
    · have allStay : ∀ other ∈ occurrence :: later, other.ends = false :=
        List.forall_mem_cons.mpr ⟨stays, laterStays⟩
      exact ⟨occurrence :: later, earlier, rfl, allStay, member⟩

/-- A channel is recalled without a subscriber only if a client unsubscribed from it since a
session last ended. -/
theorem exists_leaves_of_recalls (recalled : Recalls channel journal)
    (vacant : ∀ id, ¬ subscribed id channel journal = true) :
    ∃ occurrence ∈ journal.takeWhile fun seen => !seen.ends, occurrence.leaves channel = true := by
  induction journal with
  | nil => exact absurd recalled not_recalls_nil
  | cons occurrence earlier inductionHypothesis =>
      rcases recalls_cons.mp recalled with ⟨id, member⟩ | ⟨stays, recalled⟩
      · exact absurd member (vacant id)
      · rw [List.takeWhile_cons, stays, Bool.not_false, if_pos rfl]
        by_cases before : ∃ id, subscribed id channel earlier = true
        · obtain ⟨id, member⟩ := before
          have settled : occurrence.settles id channel = some false := by
            have missing := vacant id
            rw [subscribed, Occurrence.revise] at missing
            cases settles : occurrence.settles id channel with
            | none =>
                rw [settles] at missing
                exact absurd member missing
            | some joined =>
                rw [settles] at missing
                exact congrArg some (Bool.eq_false_iff.mpr missing)
          exact ⟨occurrence, List.mem_cons_self, Occurrence.leaves_of_settles settled stays⟩
        · obtain ⟨other, among, leaves⟩ := inductionHypothesis recalled (not_exists.mp before)
          exact ⟨other, List.mem_cons_of_mem _ among, leaves⟩

end Journal

/-! ## What an engine keeps -/

namespace Engine

variable {mint : Nat → ClientId} {e : Engine} {m : Message} {channel : String}

theorem contains_of_listed (listed : e.listed channel ≠ []) :
    e.subscribers.contains channel = true := by
  rw [Table.contains_eq]
  cases found : e.subscribers.get? channel with
  | some clients => rfl
  | none =>
      rw [Engine.listed, Table.getD, found] at listed
      exact absurd rfl listed

theorem contains_subscribe (e : Engine) (id : ClientId) (target channel : String) :
    (e.subscribe id target).subscribers.contains channel =
      if channel = target then true else e.subscribers.contains channel := by
  rw [Table.contains_eq, subscribe, Table.get?_insert, apply_ite Option.isSome]
  rfl

theorem mem_listed_subscribe (e : Engine) (id : ClientId) (channel : String) :
    id ∈ (e.subscribe id channel).listed channel := by
  rw [listed_subscribe, if_pos rfl]
  split
  next present => exact List.contains_iff_mem.mp present
  next => exact List.mem_append_right _ List.mem_cons_self

/-- Who unsubscribes leaves the entry of the channel behind. -/
theorem contains_unsubscribe (e : Engine) (id : ClientId) (target channel : String) :
    (e.unsubscribe id target).subscribers.contains channel = e.subscribers.contains channel := by
  rw [Table.contains_eq, unsubscribe, Table.get?_modify]
  split
  next same => rw [Option.isSome_map, same, Table.contains_eq]
  next => rfl

/-- Who departs leaves no entry behind that is empty. -/
theorem contains_unsubscribeAll (distinct : e.subscribers.keys.Nodup) (id : ClientId)
    (channel : String) :
    (e.unsubscribeAll id).subscribers.contains channel = true ↔
      (e.unsubscribeAll id).listed channel ≠ [] := by
  refine ⟨?_, contains_of_listed⟩
  rw [Table.contains_eq, listed, Table.getD, get?_unsubscribeAll e id distinct]
  intro present
  obtain ⟨clients, found⟩ := Option.isSome_iff_exists.mp present
  have kept := (Option.filter_eq_some_iff.mp found).2
  rw [found, Option.getD_some]
  rintro rfl
  cases kept

theorem subscribers_broadcast (e : Engine) (m : Message) :
    (e.broadcast m).subscribers = e.subscribers :=
  broadcast_induction (·.subscribers = e.subscribers)
    (fun kept id => (subscribers_change _ id _).trans kept) rfl

/-- What keeps all entries keeps those of the channels that have a subscriber. -/
theorem contains_iff_of_same {next : Engine} {seen : Occurrence} (stays : seen.ends = false)
    (same : next.subscribers.contains channel = e.subscribers.contains channel) :
    next.subscribers.contains channel = true ↔
      next.listed channel ≠ [] ∨ seen.ends = false ∧ e.subscribers.contains channel = true := by
  rw [← same]
  exact ⟨fun kept => .inr ⟨stays, kept⟩, fun cases => cases.elim contains_of_listed And.right⟩

/-- After an answer the channels with a subscriber have an entry, and so have, unless a session
has ended, those that had one before. -/
theorem contains_answer (distinct : e.subscribers.keys.Nodup) (mint : Nat → ClientId) (m : Message)
    (channel : String) :
    let seen := Occurrence.answered m (e.answer mint m).1
    let next := (e.answer mint m).2
    next.subscribers.contains channel = true ↔
      next.listed channel ≠ [] ∨ seen.ends = false ∧ e.subscribers.contains channel = true := by
  have answered := answer_answered mint e m
  generalize (e.answer mint m).1 = reply, (e.answer mint m).2 = next at answered
  cases answered with
  | refused other reason failed =>
      exact contains_iff_of_same (by simp [Occurrence.ends, Message.isSuccessful, failed]) rfl
  | opened named =>
      exact contains_iff_of_same (Occurrence.ends_of_other (by rw [named]; decide)) rfl
  | @connected s named sender =>
      apply contains_iff_of_same (Occurrence.ends_of_other (by rw [named]; decide))
      rw [subscribers_change]
  | @departed s named sender =>
      have leaves : (Occurrence.answered m (accept m.reply)).ends = true := by
        simp [Occurrence.ends, named, Message.isSuccessful, accept]
      have kept := contains_unsubscribeAll (e := { e with
        sessions := e.sessions.erase s.id
        departed := e.departed.insert s.id s.disconnect : Engine }) distinct s.id channel
      refine kept.trans ⟨.inl, fun cases => cases.resolve_right ?_⟩
      rintro ⟨stays, _⟩
      rw [leaves] at stays
      cases stays
  | @subscribed s target named sender aimed =>
      by_cases own : channel = target
      · subst own
        have listed := List.ne_nil_of_mem (e.mem_listed_subscribe s.id channel)
        exact iff_of_true (contains_of_listed listed) (.inl listed)
      · apply contains_iff_of_same (Occurrence.ends_of_other (by rw [named]; decide))
        rw [contains_subscribe, if_neg own]
  | @unsubscribed s target named sender aimed =>
      exact contains_iff_of_same (Occurrence.ends_of_other (by rw [named]; decide))
        (e.contains_unsubscribe s.id target channel)
  | relayed application sender =>
      have other : m.channel ≠ Channel.disconnect := fun named =>
        Bool.false_ne_true (application.symm.trans (isMeta_of_channel named (by decide)))
      apply contains_iff_of_same (Occurrence.ends_of_other other)
      rw [subscribers_broadcast]

end Engine

/-! ## Runs -/

namespace Observed

/-- The channels that have an entry are those that the journal recalls. -/
structure Stores (mint : Nat → ClientId) (o : Observed) : Prop where
  routes : o.Routes mint
  recalled : ∀ channel, o.engine.subscribers.contains channel = true ↔ o.journal.Recalls channel

namespace Routes

variable {mint : Nat → ClientId} {o : Observed} {channel : String}

theorem listed_ne_nil_iff (routes : o.Routes mint) :
    o.engine.listed channel ≠ [] ↔ ∃ id, o.journal.subscribed id channel = true := by
  rw [Ne, List.eq_nil_iff_forall_not_mem, not_forall_not]
  exact exists_congr fun id => routes.lists.listed id channel

end Routes

namespace Stores

variable {mint : Nat → ClientId} {o : Observed}

theorem empty (mint : Nat → ClientId) : ({} : Observed).Stores mint where
  routes := .empty mint
  recalled _ := iff_of_false nofun Journal.not_recalls_nil

/-- One more entry of the journal says of every entry of the table whether it is kept. -/
theorem of_kept (stores : o.Stores mint) {next : Observed} {seen : Occurrence}
    (routes : next.Routes mint) (journal : next.journal = seen :: o.journal)
    (kept : ∀ channel, next.engine.subscribers.contains channel = true ↔
      next.engine.listed channel ≠ [] ∨
        seen.ends = false ∧ o.engine.subscribers.contains channel = true) :
    next.Stores mint := by
  refine ⟨routes, fun channel => ?_⟩
  rw [kept, routes.listed_ne_nil_iff, stores.recalled, journal, Journal.recalls_cons]

theorem step (stores : o.Stores mint) (distinct : Function.Injective mint)
    (event : EngineEvent) : (o.step mint event).Stores mint := by
  have routes := stores.routes.step distinct event
  cases event with
  | answer m =>
      exact stores.of_kept routes rfl (Engine.contains_answer stores.routes.lists.channels mint m)
  | publish channel data =>
      have same := o.engine.subscribers_broadcast { channel, data := some data }
      exact stores.of_kept routes rfl fun name =>
        Engine.contains_iff_of_same rfl (congrArg (Table.contains · name) same)
  | take id =>
      have same := o.engine.subscribers_change id Session.drained
      exact stores.of_kept routes rfl fun name =>
        Engine.contains_iff_of_same rfl (congrArg (Table.contains · name) same)

theorem run (stores : o.Stores mint) (distinct : Function.Injective mint)
    (events : List EngineEvent) : (o.run mint events).Stores mint := by
  induction events generalizing o with
  | nil => exact stores
  | cons event rest inductionHypothesis =>
      exact inductionHypothesis (stores.step distinct event)

/-- There are no more entries than subscriptions and channels that are recalled in vain. -/
theorem size_le (stores : o.Stores mint) :
    o.engine.subscribers.size ≤
      {s : String × ClientId | o.Reaches s.1 s.2}.ncard +
        {channel | o.journal.Recalls channel ∧ ∀ id, ¬ o.Reaches channel id}.ncard := by
  let live := {s : String × ClientId | o.Reaches s.1 s.2}
  let stale := {channel | o.journal.Recalls channel ∧ ∀ id, ¬ o.Reaches channel id}
  have finite : live.Finite := by
    refine (List.finite_toSet (o.engine.subscribers.keys.flatMap fun channel =>
      (o.engine.listed channel).map (channel, ·))).subset ?_
    rintro ⟨channel, id⟩ reached
    have listed := (stores.routes.lists.listed id channel).mpr reached.2
    have kept := Engine.contains_of_listed (List.ne_nil_of_mem listed)
    exact List.mem_flatMap.mpr ⟨channel, Table.contains_iff_mem_keys.mp kept,
      List.mem_map.mpr ⟨id, listed, rfl⟩⟩
  have split : {channel | o.engine.subscribers.contains channel = true} ⊆
      Prod.fst '' live ∪ stale := by
    intro channel kept
    by_cases reached : ∃ id, o.Reaches channel id
    · obtain ⟨id, reached⟩ := reached
      exact .inl ⟨(channel, id), reached, rfl⟩
    · exact .inr ⟨(stores.recalled channel).mp kept, not_exists.mp reached⟩
  have stored : stale.Finite := by
    refine (List.finite_toSet o.engine.subscribers.keys).subset ?_
    rintro channel ⟨recalled, _⟩
    exact Table.contains_iff_mem_keys.mp ((stores.recalled channel).mpr recalled)
  calc o.engine.subscribers.size
      = {channel | o.engine.subscribers.contains channel = true}.ncard :=
        (Table.ncard_contains stores.routes.lists.channels).symm
    _ ≤ (Prod.fst '' live ∪ stale).ncard :=
        Set.ncard_le_ncard split ((finite.image Prod.fst).union stored)
    _ ≤ (Prod.fst '' live).ncard + stale.ncard := Set.ncard_union_le _ _
    _ ≤ live.ncard + stale.ncard := Nat.add_le_add_right (Set.ncard_image_le finite) _

end Stores

/-- In every run of an engine, the channels that have an entry are those that somebody was
subscribed to since a session last ended.  If nobody is subscribed to such a channel any more, a
client unsubscribed from it since then.  So there are no more entries than live subscriptions and
channels that were left in this way.  Nothing is assumed of ids but that none is handed out
twice. -/
theorem run_keeps_channels {mint : Nat → ClientId} (distinct : Function.Injective mint)
    (events : List EngineEvent) :
    let o := ({} : Observed).run mint events
    (∀ channel, o.engine.subscribers.contains channel = true ↔ o.journal.Recalls channel) ∧
      (∀ channel, o.engine.subscribers.contains channel = true → (∀ id, ¬ o.Reaches channel id) →
        ∃ occurrence ∈ o.journal.takeWhile fun seen => !seen.ends,
          occurrence.leaves channel = true) ∧
      o.engine.subscribers.size ≤
        {s : String × ClientId | o.Reaches s.1 s.2}.ncard +
          {channel | o.journal.Recalls channel ∧ ∀ id, ¬ o.Reaches channel id}.ncard := by
  intro o
  have stores : o.Stores mint := (Stores.empty mint).run distinct events
  refine ⟨stores.recalled, fun channel kept vacant => ?_, stores.size_le⟩
  refine Journal.exists_leaves_of_recalls ((stores.recalled channel).mp kept) fun id member => ?_
  exact vacant id (stores.routes.reaches_iff.mpr member)

/-- The only client subscribes to a channel and unsubscribes from it.  The entry stays, though
there is no subscription. -/
theorem run_keeps_channels_empty :
    let mint := fun n => (⟨String.ofList (List.replicate n 'c')⟩ : ClientId)
    let ask := fun channel => EngineEvent.answer
      { channel, clientId := some ⟨""⟩, subscription := some "/a" }
    let events := [EngineEvent.answer { channel := Channel.handshake }, ask Channel.subscribe,
      ask Channel.unsubscribe]
    let o := ({} : Observed).run mint events
    Function.Injective mint ∧ o.engine.subscribers.size = 1 ∧ o.journal.Recalls "/a" ∧
      (∀ channel id, ¬ o.Reaches channel id) ∧
      ∃ occurrence ∈ o.journal.takeWhile fun seen => !seen.ends,
        occurrence.leaves "/a" = true := by
  intro mint ask events o
  have distinct : Function.Injective mint := ClientId.injective_replicate 'c'
  have routes : o.Routes mint := (Routes.empty mint).run distinct events
  have stored : o.engine.subscribers.entries = [("/a", [])] := by decide +kernel
  have kept : o.engine.subscribers.contains "/a" = true := by decide +kernel
  have nobody : ∀ channel id, ¬ o.Reaches channel id := by
    intro channel id reached
    have listed := (routes.lists.listed id channel).mpr reached.2
    rw [Engine.listed, Table.getD, Table.get?, stored] at listed
    by_cases same : "/a" = channel <;> simp [same] at listed
  obtain ⟨recalled, left, _⟩ := run_keeps_channels distinct events
  exact ⟨distinct, congrArg List.length stored, (recalled "/a").mp kept, nobody,
    left "/a" kept (nobody "/a")⟩

end Observed
end Bayeux
