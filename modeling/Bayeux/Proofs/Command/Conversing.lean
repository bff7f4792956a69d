import Bayeux.Command.Connect
import Bayeux.Proofs.Command.Correspondence

namespace Bayeux
namespace Command

/-!
# Every conversation is well spoken

Each event of a correspondence is one of its moves, so after every run the record is a word whose
letters carry what they should, and each of which follows from the one before.  A rehearsal is
such a run, with the outcomes and the cancellation of its script.
-/

namespace Correspondence

section Events

variable {k : Correspondence} {channels : List String}
  {publication : Option (String × Json.Value)} {closed : List Letter} {last : Letter}

/-- The first reply to a handshake decides. -/
theorem shaken_eq (c : Conversation) (replies : Batch) :
    match accepted? replies with
    | some client => c.shaken replies =
        c.send (Conversation.subscribeBatch c.channels client) (.subscribing client)
    | none => ∃ fault, c.shaken replies = c.fail fault := by
  unfold accepted? Conversation.shaken
  cases replies.find? Message.isHandshake with
  | none => exact ⟨_, rfl⟩
  | some reply =>
      simp only [Option.bind_some]
      by_cases successful : reply.isSuccessful
      · simp only [if_pos successful]
        cases reply.clientId with
        | none => exact ⟨_, rfl⟩
        | some client => rfl
      · simp only [if_neg successful]
        exact ⟨_, rfl⟩

namespace Tells

/-- A batch is under way exactly if its outcome is awaited. -/
theorem awaits_of_isAwaiting (tells : k.Tells channels publication closed last)
    (awaiting : k.conversation.isAwaiting = true) : last.upshot = .awaited ∧
      awaits (Letter.latest? (closed ++ [last])) last = some k.conversation.phase := by
  have stands := tells.stands
  unfold Stands at stands
  unfold Conversation.isAwaiting at awaiting
  split at stands
  next upshot => exact ⟨upshot, stands⟩
  · rcases stands with ⟨fault, ended⟩
    simp [ended] at awaiting
  · cases stands
  · rcases Option.map_eq_some_iff.mp stands.2.2 with ⟨client, _, pausing⟩
    simp [← pausing] at awaiting
  · simp [stands] at awaiting

/-- The outcome of the batch that is under way. -/
theorem outcome (tells : k.Tells channels publication closed last)
    (awaiting : k.conversation.isAwaiting = true) (time : Nat) (result : Except Failure Batch) :
    ∃ closed last, ((k.answer time result).moveTo time (k.conversation.outcome result)).Tells
      channels publication closed last := by
  have awaits := (tells.awaits_of_isAwaiting awaiting).2
  have kept := tells.toKept
  have answered := kept.answer time result
  have upshot := last.upshot_answered time result
  have known : (∀ handshake, last ≠ .establish handshake none) →
      Letter.latest? (closed ++ [last.answered time result]) = Letter.latest? (closed ++ [last]) :=
    fun later => by
      rw [Letter.latest?_append_singleton, Letter.latest?_append_singleton,
        last.accepted?_answered time result later]
  cases last with
  | establish handshake subscription =>
      cases subscription with
      | none =>
          simp only [Conversation.outcome, ← Option.some.inj awaits]
          cases result with
          | error failure =>
              exact ⟨_, _, (answered fun _ shape => by cases shape; rfl).fail upshot (.exchange failure) time⟩
          | ok replies =>
              have shaken := shaken_eq k.conversation replies
              cases accepted : accepted? replies with
              | none =>
                  rw [accepted] at shaken
                  rcases shaken with ⟨fault, refused⟩
                  simp only [refused]
                  refine ⟨_, _, (answered fun _ shape => ?_).fail upshot fault time⟩
                  cases shape
                  exact accepted
              | some client =>
                  rw [accepted] at shaken
                  simp only [shaken]
                  exact ⟨closed, kept.subscribe time accepted⟩
      | some posting =>
          rcases Option.map_eq_some_iff.mp awaits with ⟨client, latest, phase⟩
          have answered := answered nofun
          simp only [Conversation.outcome, ← phase]
          cases result with
          | error failure => exact ⟨_, _, answered.fail upshot (.exchange failure) time⟩
          | ok replies => exact ⟨_, answered.established ((known nofun).trans latest) upshot⟩
  | publish posting =>
      rcases Option.map_eq_some_iff.mp awaits with ⟨client, latest, phase⟩
      have answered := answered nofun
      simp only [Conversation.outcome, ← phase]
      cases result with
      | error failure => exact ⟨_, _, answered.fail upshot (.exchange failure) time⟩
      | ok replies =>
          have published := kept.publish_eq_none nofun
          exact ⟨_, answered.connect ((known nofun).trans latest) published upshot⟩
  | connect posting =>
      rcases Option.map_eq_some_iff.mp awaits with ⟨client, latest, phase⟩
      have answered := answered nofun
      have latest := (known nofun).trans latest
      simp only [Conversation.outcome, ← phase]
      cases result with
      | error failure => exact answered.pause latest (kept.publish_eq_none nofun) upshot
      | ok replies => exact answered.connected latest upshot
  | disconnect posting =>
      simp only [Conversation.outcome, ← Option.some.inj awaits]
      let ended := { k.conversation with phase := .ended (.ok ()) }
      refine ⟨_, _, (answered nofun).stay ended rfl rfl rfl id time, ?_⟩
      unfold Stands
      rw [upshot]
      rfl

/-- Where a pause is on, the last letter is a connect, and its pause is the one that is on. -/
theorem pausing (tells : k.Tells channels publication closed last) {client : ClientId}
    {span : Nat} (phase : k.conversation.phase = .pausing client span) :
    last.upshot = .resting k.now span ∧
      Letter.latest? (closed ++ [last]) = some client ∧ k.conversation.publish = none := by
  have stands := tells.stands
  unfold Stands at stands
  rw [phase] at stands
  cases upshot : last.upshot with
  | awaited =>
      rw [upshot] at stands
      exact absurd stands (awaits_ne_pausing _ last client span)
  | failed =>
      rw [upshot] at stands
      rcases stands with ⟨fault, ended⟩
      cases ended
  | finished | renewed =>
      rw [upshot] at stands
      cases stands
  | resting time pause =>
      rw [upshot] at stands
      rcases stands with ⟨long, rfl, known⟩
      rcases Option.map_eq_some_iff.mp known with ⟨_, latest, same⟩
      cases same
      refine ⟨rfl, latest, tells.publish_eq_none fun kind => ?_⟩
      rcases Letter.upshot_of_establish kind with ⟨_, other | other⟩ | ⟨_, _, other⟩
      · cases upshot.symm.trans other
      · cases upshot.symm.trans other
      · cases upshot.symm.trans other
        exact long rfl

theorem cancel (tells : k.Tells channels publication closed last) (delay : Nat) :
    ∃ closed last, (k.step (.cancel delay)).Tells channels publication closed last := by
  have kept := tells.toKept
  simp only [Correspondence.step]
  rcases k.conversation.cancel_cases with
    ⟨client, span, phase, paused, cancelled⟩ | ⟨client, phase, going, cancelled⟩ | ⟨going, cancelled⟩
  · rcases tells.pausing phase with ⟨upshot, latest, published⟩
    rw [paused, cancelled]
    refine ⟨_, _, kept.leave latest published rfl ?_⟩
    unfold Letter.Continues
    rw [upshot]
    exact .inr ⟨rfl, Nat.le_add_right _ _, Nat.add_le_add_left (Nat.min_le_right _ _) _⟩
  · have awaiting : k.conversation.isAwaiting = true := by simp [Conversation.isAwaiting, phase]
    rcases tells.awaits_of_isAwaiting awaiting with ⟨upshot, awaits⟩
    rw [phase] at awaits
    rcases connect_of_awaits awaits with ⟨kind, latest⟩
    have published := kept.publish_eq_none (by simp [kind])
    rw [going, cancelled]
    refine ⟨_, _, kept.leave latest published rfl ?_⟩
    unfold Letter.Continues
    rw [upshot]
    exact ⟨kind, rfl⟩
  · rw [going, cancelled]
    let cancelled := { k.conversation with cancelled := true }
    refine ⟨closed, last, kept.stay cancelled rfl rfl rfl (fun _ => rfl) _, ?_⟩
    exact tells.stands.moveTo going rfl _

theorem rested (tells : k.Tells channels publication closed last) :
    ∃ closed last, (k.step .rested).Tells channels publication closed last := by
  cases phase : k.conversation.phase with
  | pausing client span =>
      rcases tells.pausing phase with ⟨upshot, latest, published⟩
      have connected := tells.toKept.connect latest published upshot
      simp only [Correspondence.step, Conversation.pauseSpan?, Conversation.rested, phase]
      exact ⟨_, connected⟩
  | _ =>
      have same : k.step .rested = k := by
        simp [Correspondence.step, Conversation.pauseSpan?, Conversation.rested, phase, moveTo]
      rw [same]
      exact ⟨_, _, tells⟩

theorem step (tells : k.Tells channels publication closed last) (event : ConversationEvent) :
    ∃ closed last, (k.step event).Tells channels publication closed last := by
  cases event with
  | outcome delay result =>
      simp only [Correspondence.step]
      split
      next awaiting => exact tells.outcome awaiting _ result
      next => exact ⟨_, _, tells⟩
  | cancel delay => exact tells.cancel delay
  | rested => exact tells.rested

theorem start (channels : List String) (publication : Option (String × Json.Value)) :
    ∃ last, (Correspondence.start channels publication).Tells channels publication [] last := by
  let handshake : Posting := { batch := Conversation.handshakeBatch, time := 0 }
  refine ⟨.establish handshake none, ⟨⟨?_, .singleton _, fun _ => Letter.opening_establish, nofun,
    rfl, rfl⟩, ⟨rfl, rfl⟩, rfl, rfl, nofun⟩, rfl⟩
  exact forall_split_append_singleton.mpr ⟨by simp, rfl, rfl, nofun⟩

theorem run (tells : k.Tells channels publication closed last)
    (events : List ConversationEvent) :
    ∃ closed last, (k.run events).Tells channels publication closed last := by
  induction events generalizing k closed last with
  | nil => exact ⟨_, _, tells⟩
  | cons event rest inductionHypothesis =>
      rcases tells.step event with ⟨_, _, next⟩
      exact inductionHypothesis next

/-- A session is renewed after a connect if its reply advises that, and only then. -/
theorem establish_iff (tells : k.Tells channels publication closed last)
    {before after : List Letter} {posting : Posting}
    (split : closed ++ [last] = before ++ .connect posting :: after) :
    (∃ next rest, after = next :: rest ∧ next.kind = .establish) ↔
      ∃ time replies advice, posting.outcome = some (time, .ok replies) ∧
        Conversation.adviceOf replies = some advice ∧ advice.reconnect = some .handshake := by
  have renewed : (∃ time replies advice, posting.outcome = some (time, .ok replies) ∧
      Conversation.adviceOf replies = some advice ∧ advice.reconnect = some .handshake) ↔
        ∃ time, (Letter.connect posting).upshot = .renewed time := by
    simp only [Letter.upshot_connect_eq_renewed]
  rw [renewed]
  have chain := tells.continues
  rw [split] at chain
  have follows : ∀ next rest, after = next :: rest → (Letter.connect posting).Continues next := by
    rintro next rest rfl
    exact (List.isChain_append_cons_cons.mp chain).2.1
  constructor
  · rintro ⟨next, rest, shape, kind⟩
    have continues := follows next rest shape
    unfold Letter.Continues at continues
    cases upshot : (Letter.connect posting).upshot with
    | renewed time => exact ⟨time, rfl⟩
    | awaited =>
        rw [upshot] at continues
        cases kind.symm.trans continues.2
    | failed | finished =>
        rw [upshot] at continues
        cases continues
    | resting =>
        rw [upshot] at continues
        rcases continues with ⟨other | other, _⟩ | ⟨other, _⟩ <;> cases kind.symm.trans other
  · rintro ⟨time, upshot⟩
    cases after with
    | nil =>
        rcases List.append_inj' split rfl with ⟨_, same⟩
        cases same
        have stands := tells.stands
        unfold Stands at stands
        rw [upshot] at stands
        cases stands
    | cons next rest =>
        have continues := follows next rest rfl
        unfold Letter.Continues at continues
        rw [upshot] at continues
        exact ⟨next, rest, rfl, continues.1⟩

/-- The publication is made once the first session is established, and only then. -/
theorem countP_publish (tells : k.Tells channels publication closed last) :
    (closed ++ [last]).countP (·.kind = .publish) =
      if publication.isSome ∧ (closed ++ [last]).head?.any Letter.isEstablished then 1 else 0 := by
  rw [tells.once]
  cases closed with
  | nil =>
      -- An established session is never the last letter, for the next one is due at once.
      have unfinished : last.isEstablished = false := by
        rcases Letter.upshot_of_establish (tells.kind_of_nil rfl) with ⟨not, _⟩ | ⟨_, time, upshot⟩
        · exact not
        · have stands := tells.stands
          unfold Stands at stands
          rw [upshot] at stands
          exact absurd rfl stands.1
      simp [unfinished]
  | cons first rest =>
      have established : first.isEstablished = true := by
        have kind := Option.some.inj tells.first
        have chain := tells.continues
        cases rest with
        | nil => exact (List.isChain_cons_cons.mp chain).1.isEstablished kind
        | cons second rest => exact (List.isChain_cons_cons.mp chain).1.isEstablished kind
      cases publication <;> simp [established]

theorem cancelled_of_mem (tells : k.Tells channels publication closed last) {posting : Posting}
    (member : .disconnect posting ∈ closed ++ [last]) : k.conversation.cancelled = true := by
  rcases List.append_of_mem member with ⟨before, after, split⟩
  have chain := tells.continues
  rw [split] at chain
  cases after with
  | nil =>
      rcases List.append_inj' split rfl with ⟨_, same⟩
      cases same
      exact tells.cancelled rfl
  | cons next rest =>
      exact absurd rfl (List.isChain_append_cons_cons.mp chain).2.1.kind_ne_disconnect

end Tells

end Events

/-- A conversation is cancelled by nothing else. -/
theorem cancel_mem_of_cancelled {k : Correspondence} {events : List ConversationEvent}
    (going : k.conversation.cancelled = false)
    (cancelled : (k.run events).conversation.cancelled = true) :
    ∃ delay, .cancel delay ∈ events := by
  induction events generalizing k with
  | nil => cases going.symm.trans cancelled
  | cons event rest inductionHypothesis =>
      cases event with
      | cancel delay => exact ⟨delay, List.mem_cons_self⟩
      | outcome delay result =>
          have still : (k.step (.outcome delay result)).conversation.cancelled = false := by
            simp only [step]
            split
            · exact (k.conversation.cancelled_outcome result).trans going
            · exact going
          rcases inductionHypothesis still cancelled with ⟨moment, member⟩
          exact ⟨moment, List.mem_cons_of_mem _ member⟩
      | rested =>
          have still : (k.step .rested).conversation.cancelled = false :=
            k.conversation.cancelled_rested.trans going
          rcases inductionHypothesis still cancelled with ⟨moment, member⟩
          exact ⟨moment, List.mem_cons_of_mem _ member⟩

/-- Whatever is answered and whenever the conversation is cancelled, the batches that were sent
are a word: a session is established, something may be published, and then the client connects
or establishes a new session, any number of times, and in the end it may disconnect.  The
publication is made once, if there is one and the first session was established.  Whatever is sent
carries the client of the latest handshake that was accepted.  Each letter follows from the one
before, at the time that is due, and where the conversation stands follows from the last.  A
session is established anew after a connect exactly if the last connect reply advises that.  And a
client disconnects only if it was cancelled. -/
theorem run_follows (channels : List String) (publication : Option (String × Json.Value))
    (events : List ConversationEvent) :
    let k := (start channels publication).run events
    ∃ letters : List Letter,
      k.postings = letters.flatMap Letter.postings ∧
      k.conversation.sent = k.postings.map Posting.batch ∧
      letters.map Letter.kind ∈ Letter.grammar.matches' ∧
      letters.countP (·.kind = .publish) =
        (if publication.isSome ∧ letters.head?.any Letter.isEstablished then 1 else 0) ∧
      (∀ before letter after, letters = before ++ letter :: after →
        letter.Carries channels publication (Letter.latest? before)) ∧
      letters.IsChain Letter.Continues ∧
      (∀ last ∈ letters.getLast?, k.Stands (Letter.latest? letters) last) ∧
      (∀ before posting after, letters = before ++ .connect posting :: after →
        ((∃ next rest, after = next :: rest ∧ next.kind = .establish) ↔
          ∃ time replies advice, posting.outcome = some (time, .ok replies) ∧
            Conversation.adviceOf replies = some advice ∧ advice.reconnect = some .handshake)) ∧
      ∀ posting, .disconnect posting ∈ letters → ∃ delay, .cancel delay ∈ events := by
  intro k
  rcases Tells.start channels publication with ⟨first, begun⟩
  rcases begun.run events with ⟨closed, last, tells⟩
  refine ⟨closed ++ [last], tells.filed.postings, tells.filed.sent, ?_, tells.countP_publish,
    tells.carries, tells.continues, ?_, fun before posting after => tells.establish_iff,
    fun posting member => cancel_mem_of_cancelled rfl (tells.cancelled_of_mem member)⟩
  · by_cases farewell : last.kind = .disconnect
    · rw [List.map_append, List.map_singleton, farewell]
      exact Letter.grammar_append (tells.closes farewell)
    · exact Letter.grammar_of_opening (tells.opens farewell)
  · intro letter own
    rw [List.getLast?_concat] at own
    cases own
    exact tells.stands

/-! ## Rehearsals -/

/-- A correspondence has come to where a recital is. -/
structure Keeps (k : Correspondence) (r : Recital) : Prop where
  conversation : k.conversation = r.conversation
  now : k.now = r.now

namespace Keeps

variable {k : Correspondence} {r : Recital}

/-- A cancellation that is due by some time is made then, unless a pause ends before. -/
theorem cancel (keeps : k.Keeps r) {time : Nat} (due : r.isDue time = true)
    (late : r.now ≤ time) (during : ∀ span ∈ r.conversation.pauseSpan?, time ≤ r.now + span) :
    r.cancel.now ≤ time ∧ ∃ delay, (k.step (.cancel delay)).Keeps r.cancel := by
  rcases Bool.and_eq_true_iff.mp due with ⟨_, set⟩
  rcases (Option.any_eq_true _ _).mp set with ⟨moment, planned, early⟩
  have early := of_decide_eq_true early
  have clock : r.cancel.now = max r.now moment := by simp [Recital.cancel, planned]
  refine ⟨by omega, max r.now moment - r.now, congrArg Conversation.cancel keeps.conversation, ?_⟩
  change k.now + (k.conversation.pauseSpan?.map (min _)).getD _ = r.cancel.now
  rw [keeps.now, keeps.conversation, clock]
  cases paused : r.conversation.pauseSpan? with
  | none =>
      simp only [Option.map_none, Option.getD_none]
      omega
  | some span =>
      have within := during span paused
      simp only [Option.map_some, Option.getD_some]
      omega

theorem outcome (keeps : k.Keeps r) (awaiting : r.conversation.isAwaiting = true) {time : Nat}
    (late : r.now ≤ time) (result : Except Failure Batch) :
    (k.step (.outcome (time - r.now) result)).Keeps
      { r with now := time, conversation := r.conversation.outcome result } := by
  have reached : k.now + (time - r.now) = time := by
    rw [keeps.now]
    omega
  simp only [Correspondence.step, keeps.conversation, awaiting, if_true, reached]
  exact ⟨rfl, rfl⟩

/-- The outcome of a batch arrives, or a cancellation comes before it, or both. -/
theorem arrive (keeps : k.Keeps r) (awaiting : r.conversation.isAwaiting = true) {time : Nat}
    (late : r.now ≤ time) (result : Except Failure Batch) :
    ∃ events, (k.run events).Keeps (r.arrive time result) := by
  unfold Recital.arrive
  split
  next due =>
    have during : ∀ span ∈ r.conversation.pauseSpan?, time ≤ r.now + span := by
      rw [Conversation.pauseSpan?_of_isAwaiting awaiting]
      exact nofun
    rcases keeps.cancel due late during with ⟨early, delay, cancelled⟩
    extract_lets stopped
    split
    · exact ⟨[.cancel delay], cancelled⟩
    next elsewhere =>
      have still : r.cancel.conversation.isAwaiting = true :=
        Conversation.isAwaiting_cancel awaiting elsewhere
      exact ⟨[.cancel delay, .outcome (time - r.cancel.now) result],
        cancelled.outcome still early result⟩
  · exact ⟨[.outcome (time - r.now) result], keeps.outcome awaiting late result⟩

theorem exchange (keeps : k.Keeps r) (awaiting : r.conversation.isAwaiting = true)
    (batch : Batch) : ∃ events, (k.run events).Keeps (r.exchange batch) := by
  unfold Recital.exchange
  split
  · exact keeps.arrive awaiting (Nat.le_refl _) _
  next turns =>
    extract_lets turn sooner heard
    have hears : k.Keeps heard := ⟨keeps.conversation, keeps.now⟩
    split
    · extract_lets reply
      exact hears.arrive awaiting (Nat.le_refl _) _
    · exact hears.arrive awaiting (Nat.le_add_right _ _) _

theorem step (keeps : k.Keeps r) : ∃ events, (k.run events).Keeps r.step := by
  unfold Recital.step
  split
  · exact ⟨[], keeps⟩
  next client span phase =>
    split
    next due =>
      have during : ∀ pause ∈ r.conversation.pauseSpan?, r.now + span ≤ r.now + pause := by
        simp [Conversation.pauseSpan?, phase]
      rcases keeps.cancel due (Nat.le_add_right _ _) during with ⟨_, delay, cancelled⟩
      exact ⟨[.cancel delay], cancelled⟩
    · refine ⟨[.rested], congrArg Conversation.rested keeps.conversation, ?_⟩
      change k.now + k.conversation.pauseSpan?.getD 0 = r.now + span
      simp [keeps.now, keeps.conversation, Conversation.pauseSpan?, phase]
  next going resting =>
    apply keeps.exchange
    unfold Conversation.isAwaiting
    cases phase : r.conversation.phase with
    | pausing client span => exact absurd phase (resting client span)
    | ended result => exact absurd phase (going result)
    | _ => rfl

theorem run (keeps : k.Keeps r) (fuel : Nat) : ∃ events, (k.run events).Keeps (r.run fuel) := by
  induction fuel generalizing k r with
  | zero => exact ⟨[], keeps⟩
  | succ fuel inductionHypothesis =>
      rcases keeps.step with ⟨earlier, next⟩
      rcases inductionHypothesis next with ⟨later, last⟩
      refine ⟨earlier ++ later, ?_⟩
      rw [Correspondence.run, List.foldl_append]
      exact last

end Keeps

/-- A rehearsal is a run of its conversation, so all that holds of every run holds of it. -/
theorem exists_run_rehearse (client : Client) (channels : List String)
    (publication : Option (String × Json.Value)) (script : Option (List Turn)) :
    ∃ events, ((start channels publication).run events).Keeps
      (Recital.rehearse client (.start channels publication) script) :=
  Keeps.run ⟨rfl, rfl⟩ _

end Correspondence
end Command
end Bayeux
