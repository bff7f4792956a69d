import Bayeux.Client.Basic
import Bayeux.Proofs.Table

namespace Bayeux

/-!
# What listeners are told

Replies, failures and the client's own giving up arrive in any order, and each may cross the
others.  What becomes of a batch can be told from the order alone: the first event after it
that settles its exchange decides, and all later ones come too late.  The client finds this
out by keeping the exchanges that are not settled in a table; whoever takes an entry out of the
table reports it.
-/

/-- What is done with a client. -/
inductive ClientEvent where
  | send (listener : String) (batch : Batch) (hasRuntime : Bool)
  /-- The request of an exchange comes to its end. -/
  | complete (exchange : Nat) (result : Except Failure Batch)
  | abort
  | terminate

/-- How an exchange ends if it is still open when an event happens. -/
def ClientEvent.settles (exchange : Nat) : ClientEvent → Option (Except Failure Batch)
  | send _ _ _ => none
  | complete other result => if other = exchange then some result else none
  | abort | terminate => some (.error .aborted)

theorem ClientEvent.settles_self (exchange : Nat) (result : Except Failure Batch) :
    (complete exchange result).settles exchange = some result :=
  if_pos rfl

theorem ClientEvent.settles_of_ne {exchange other : Nat} (distinct : exchange ≠ other)
    (result : Except Failure Batch) : (complete other result).settles exchange = none :=
  if_neg distinct.symm

/-- What the listener of an exchange is told when it ends. -/
def PendingExchange.told (p : PendingExchange) : Except Failure Batch → Report
  | .ok replies => .messages p.listener replies
  | .error failure => .failure p.listener failure p.batch

/-- A batch that a client was given to send. -/
structure Submission extends PendingExchange where
  /-- The number of its exchange, if the client was not terminated. -/
  exchange? : Option Nat
  outcome? : Option (Except Failure Batch)

namespace Submission

/-- What its listener is told in the end. -/
def told? (s : Submission) : Option Report :=
  s.outcome?.map s.told

/-- What its listener is told at the beginning. -/
def announced? (s : Submission) : Option Report :=
  s.exchange?.map fun _ => .sending s.listener s.batch

/-- The entry of a batch that has no outcome. -/
def open? (s : Submission) : Option (Nat × PendingExchange) :=
  if s.outcome?.isSome then none
  else s.exchange?.map fun exchange => (exchange, s.toPendingExchange)

/-- What becomes of a pending batch. -/
def ofEntry (later : List ClientEvent) (entry : Nat × PendingExchange) : Submission :=
  ⟨entry.2, some entry.1, later.findSome? (ClientEvent.settles entry.1)⟩

theorem ofEntry_of_settled {event : ClientEvent} {entry : Nat × PendingExchange}
    {result : Except Failure Batch} (settled : event.settles entry.1 = some result)
    (later : List ClientEvent) :
    ofEntry (event :: later) entry = ⟨entry.2, some entry.1, some result⟩ := by
  unfold ofEntry
  rw [List.findSome?_cons, settled]

theorem map_ofEntry_of_unsettled {event : ClientEvent} {entries : List (Nat × PendingExchange)}
    (unsettled : ∀ entry ∈ entries, event.settles entry.1 = none) (later : List ClientEvent) :
    entries.map (ofEntry (event :: later)) = entries.map (ofEntry later) := by
  apply List.map_congr_left
  intro entry listed
  unfold ofEntry
  rw [List.findSome?_cons, unsettled entry listed]

end Submission

/-- The batches given to a client, with what becomes of them.  Exchanges are numbered in
turn. -/
def submissions (terminated : Bool) (exchanges : Nat) : List ClientEvent → List Submission
  | [] => []
  | .send listener batch hasRuntime :: later =>
    if terminated then
      { listener, batch, exchange? := none, outcome? := some (.error .terminated) } ::
        submissions true exchanges later
    else
      { listener, batch
        exchange? := some exchanges
        outcome? :=
          if hasRuntime then later.findSome? (ClientEvent.settles exchanges)
          else some (.error (.http "no async runtime")) } ::
        submissions false (exchanges + 1) later
  | .terminate :: later => submissions true exchanges later
  | .complete _ _ :: later => submissions terminated exchanges later
  | .abort :: later => submissions terminated exchanges later

section Submissions

variable (exchanges : Nat) (listener : String) (batch : Batch) (later : List ClientEvent)

theorem submissions_refused (hasRuntime : Bool) :
    submissions true exchanges (.send listener batch hasRuntime :: later) =
      ⟨⟨listener, batch⟩, none, some (.error .terminated)⟩ :: submissions true exchanges later :=
  rfl

theorem submissions_sent :
    submissions false exchanges (.send listener batch true :: later) =
      .ofEntry later (exchanges, ⟨listener, batch⟩) :: submissions false (exchanges + 1) later :=
  rfl

theorem submissions_stranded :
    submissions false exchanges (.send listener batch false :: later) =
      ⟨⟨listener, batch⟩, some exchanges, some (.error (.http "no async runtime"))⟩ ::
        submissions false (exchanges + 1) later :=
  rfl

end Submissions

namespace Client

def step (c : Client) : ClientEvent → Client
  | .send listener batch hasRuntime => (c.send listener batch hasRuntime).2
  | .complete exchange result => c.complete exchange result
  | .abort => c.abort
  | .terminate => c.terminate

def run (c : Client) (events : List ClientEvent) : Client :=
  events.foldl step c

/-- The reports of outcomes. -/
def outcomes (c : Client) : List Report :=
  c.reports.filter fun r => r.outcome?.isSome

/-- The other reports: that a batch is about to be sent. -/
def announcements (c : Client) : List Report :=
  c.reports.filter fun r => r.outcome?.isNone

/-! ## The table of pending exchanges -/

/-- Every pending exchange is listed once, and under a number that was given out; those
before a certain number are over. -/
structure Keeps (c : Client) (since : Nat) : Prop where
  once : c.pending.keys.Nodup
  started : since ≤ c.exchanges
  numbered : ∀ exchange ∈ c.pending.keys, since ≤ exchange ∧ exchange < c.exchanges
  ended : c.terminated = true → c.pending = ∅

theorem complete_eq (c : Client) (exchange : Nat) (result : Except Failure Batch) :
    c.complete exchange result =
      match c.pending.get? exchange with
      | some p => { c with pending := c.pending.erase exchange }.report (p.told result)
      | none => c := by
  cases result <;> rfl

theorem fail_first {c : Client} {first : Nat × PendingExchange}
    {rest : List (Nat × PendingExchange)} (listed : c.pending.entries = first :: rest)
    (once : c.pending.keys.Nodup) (cause : Failure) :
    c.fail first.1 cause = { c with
      pending := ⟨rest⟩
      reports := c.reports ++ [first.2.told (.error cause)] } := by
  have found : c.pending.get? first.1 = some first.2 :=
    Table.get?_eq_some_of_mem once (listed ▸ List.mem_cons_self)
  have whole : c.pending = ⟨first :: rest⟩ := Table.ext_entries listed
  rw [whole] at once
  have absent : (Table.mk rest).get? first.1 = none :=
    (Table.get?_eq_none_iff _ _).mpr (List.nodup_cons.mp once).1
  have erased : c.pending.erase first.1 = ⟨rest⟩ := whole ▸ Table.erase_cons absent first.2
  unfold fail
  rw [found, ← erased]
  rfl

/-- The client after it has given up: every pending exchange has failed. -/
def cleared (c : Client) : Client :=
  { c with
    pending := ∅
    reports := c.reports ++ c.pending.entries.map fun entry => entry.2.told (.error .aborted) }

theorem abort_eq {c : Client} (once : c.pending.keys.Nodup) : c.abort = c.cleared := by
  unfold abort cleared Table.keys
  generalize listed : c.pending.entries = entries
  induction entries generalizing c with
  | nil =>
      have none : c.pending = ∅ := Table.ext_entries listed
      rw [List.map_nil, List.map_nil, List.append_nil, ← none]
      rfl
  | cons first rest inductionHypothesis =>
      have whole : c.pending = ⟨first :: rest⟩ := Table.ext_entries listed
      rw [List.map_cons, List.foldl_cons, fail_first listed once,
        inductionHypothesis (List.nodup_cons.mp (whole ▸ once)).2 rfl, List.map_cons,
        List.append_assoc]
      rfl

theorem terminate_eq {c : Client} (once : c.pending.keys.Nodup) :
    c.terminate = { c.cleared with terminated := true } :=
  abort_eq (c := { c with terminated := true }) once

/-- There is nothing left to give up a second time. -/
theorem cleared_cleared (c : Client) : c.cleared.cleared = c.cleared :=
  congrArg (fun reports => { c.cleared with reports }) (List.append_nil _)

/-! ## What an event can do -/

/-- The client after an event. -/
inductive Moves (c : Client) : ClientEvent → Client → Prop where
  | refused {listener : String} {batch : Batch} {hasRuntime : Bool} (halted : c.terminated = true) :
    Moves c (.send listener batch hasRuntime) (c.report (.failure listener .terminated batch))
  | sent {listener : String} {batch : Batch} (running : c.terminated = false) :
    Moves c (.send listener batch true) { c with
      exchanges := c.exchanges + 1
      pending := c.pending.insert c.exchanges { listener, batch }
      reports := c.reports ++ [.sending listener batch] }
  | stranded {listener : String} {batch : Batch} (running : c.terminated = false) :
    Moves c (.send listener batch false) { c with
      exchanges := c.exchanges + 1
      reports := c.reports ++
        [.sending listener batch, .failure listener (.http "no async runtime") batch] }
  | completed {exchange : Nat} {result : Except Failure Batch} {p : PendingExchange}
    (found : c.pending.get? exchange = some p) :
    Moves c (.complete exchange result)
      ({ c with pending := c.pending.erase exchange }.report (p.told result))
  | late {exchange : Nat} {result : Except Failure Batch}
    (absent : c.pending.get? exchange = none) : Moves c (.complete exchange result) c
  | aborted : Moves c .abort c.cleared
  | terminated : Moves c .terminate { c.cleared with terminated := true }

namespace Keeps

variable {c next : Client} {since : Nat} {event : ClientEvent}

theorem fresh (keeps : c.Keeps since) : c.pending.get? c.exchanges = none :=
  (Table.get?_eq_none_iff _ _).mpr fun member =>
    Nat.lt_irrefl _ (keeps.numbered c.exchanges member).2

theorem moves (keeps : c.Keeps since) (event : ClientEvent) : c.Moves event (c.step event) := by
  cases event with
  | send listener batch hasRuntime =>
      change c.Moves _ (c.send listener batch hasRuntime).2
      unfold send
      cases ended : c.terminated with
      | true => exact .refused ended
      | false =>
          cases hasRuntime with
          | true => exact .sent ended
          | false =>
              have undone := Table.erase_insert keeps.fresh { listener, batch }
              simp only [Bool.false_eq_true, if_false, fail, Table.get?_insert_self, report,
                undone, List.append_assoc]
              exact .stranded ended
  | complete exchange result =>
      change c.Moves _ (c.complete exchange result)
      rw [complete_eq]
      cases found : c.pending.get? exchange with
      | some p => exact .completed found
      | none => exact .late found
  | abort =>
      change c.Moves _ c.abort
      rw [abort_eq keeps.once]
      exact .aborted
  | terminate =>
      change c.Moves _ c.terminate
      rw [terminate_eq keeps.once]
      exact .terminated

theorem step (keeps : c.Keeps since) (event : ClientEvent) : (c.step event).Keeps since := by
  have moves := keeps.moves event
  generalize c.step event = next at moves
  cases moves with
  | refused halted => exact ⟨keeps.once, keeps.started, keeps.numbered, keeps.ended⟩
  | sent running =>
      refine ⟨Table.nodup_keys_insert keeps.once _ _, Nat.le_succ_of_le keeps.started, ?_, ?_⟩
      · intro exchange member
        rcases List.mem_cons.mp member with own | earlier
        · rw [own]
          exact ⟨keeps.started, Nat.lt_succ_self _⟩
        · rw [Table.erase_of_get?_eq_none keeps.fresh] at earlier
          have before := keeps.numbered exchange earlier
          exact ⟨before.1, Nat.lt_succ_of_lt before.2⟩
      · intro halted
        exact absurd (running.symm.trans halted) Bool.false_ne_true
  | stranded running =>
      refine ⟨keeps.once, Nat.le_succ_of_le keeps.started, ?_, keeps.ended⟩
      intro exchange member
      have before := keeps.numbered exchange member
      exact ⟨before.1, Nat.lt_succ_of_lt before.2⟩
  | @completed exchange result p found =>
      refine ⟨Table.nodup_keys_erase keeps.once _, keeps.started, ?_, ?_⟩
      · intro other member
        rw [show (({ c with pending := c.pending.erase exchange } : Client).report
          (p.told result)).pending.keys = _ from c.pending.keys_erase exchange] at member
        exact keeps.numbered other (List.mem_filter.mp member).1
      · intro halted
        rw [keeps.ended halted] at found
        cases found
  | late absent => exact keeps
  | aborted => exact ⟨List.nodup_nil, keeps.started, fun _ absent => (nomatch absent), fun _ => rfl⟩
  | terminated =>
      exact ⟨List.nodup_nil, keeps.started, fun _ absent => (nomatch absent), fun _ => rfl⟩

theorem run (keeps : c.Keeps since) (events : List ClientEvent) : (c.run events).Keeps since := by
  induction events generalizing c with
  | nil => exact keeps
  | cons event rest inductionHypothesis => exact inductionHypothesis (keeps.step event)

end Keeps

/-! ## What becomes of every batch -/

/-- The batches that are pending and those given to the client later, with what becomes of
them. -/
def fates (c : Client) (events : List ClientEvent) : List Submission :=
  c.pending.entries.map (Submission.ofEntry events) ++
    submissions c.terminated c.exchanges events

/-- A client has told the outcomes of some batches, and the others are still to come. -/
def Tells (c next : Client) (before after : List Submission) : Prop :=
  ∃ settled : List Submission, (∀ s ∈ settled, s.outcome?.isSome) ∧
    before.Perm (settled ++ after) ∧
    next.outcomes = c.outcomes ++ settled.filterMap Submission.told?

namespace Tells

variable {c next last : Client} {before between after : List Submission}

theorem nothing (same : next.outcomes = c.outcomes) (fates : before.Perm after) :
    c.Tells next before after :=
  ⟨[], fun _ absent => (nomatch absent), fates, same.trans (List.append_nil _).symm⟩

theorem one (p : PendingExchange) (exchange? : Option Nat) (result : Except Failure Batch)
    (told : next.outcomes = c.outcomes ++ [p.told result])
    (fates : before.Perm (⟨p, exchange?, some result⟩ :: after)) :
    c.Tells next before after := by
  refine ⟨[⟨p, exchange?, some result⟩], ?_, fates, told⟩
  intro s member
  rw [List.mem_singleton.mp member]
  rfl

theorem trans (first : c.Tells next before between) (second : next.Tells last between after) :
    c.Tells last before after := by
  rcases first with ⟨earlier, earlierSettled, split, earlierTold⟩
  rcases second with ⟨later, laterSettled, splitAgain, laterTold⟩
  refine ⟨earlier ++ later, ?_, ?_, ?_⟩
  · intro s member
    exact (List.mem_append.mp member).elim (earlierSettled s) (laterSettled s)
  · rw [List.append_assoc]
    exact split.trans (splitAgain.append_left earlier)
  · rw [laterTold, earlierTold, List.filterMap_append, List.append_assoc]

end Tells

theorem outcomes_of_reports {c next : Client} (told : List Report)
    (reports : next.reports = c.reports ++ told) :
    next.outcomes = c.outcomes ++ told.filter fun r => r.outcome?.isSome := by
  unfold outcomes
  rw [reports, List.filter_append]

theorem announcements_of_reports {c next : Client} (told : List Report)
    (reports : next.reports = c.reports ++ told) :
    next.announcements = c.announcements ++ told.filter fun r => r.outcome?.isNone := by
  unfold announcements
  rw [reports, List.filter_append]

theorem isSome_outcome?_told (p : PendingExchange) (result : Except Failure Batch) :
    (p.told result).outcome?.isSome := by
  cases result <;> rfl

theorem isSome_outcome?_of_cleared (entries : List (Nat × PendingExchange)) :
    ∀ r ∈ entries.map fun entry => entry.2.told (.error .aborted), r.outcome?.isSome := by
  intro r member
  rcases List.mem_map.mp member with ⟨entry, _, rfl⟩
  exact isSome_outcome?_told _ _

/-- An event that settles whatever is open tells the outcome to every listener. -/
theorem tells_of_cleared {c next : Client} {event : ClientEvent}
    (settles : ∀ exchange, event.settles exchange = some (.error .aborted))
    (reports : next.reports = c.cleared.reports) (later : List ClientEvent)
    (after : List Submission) :
    c.Tells next (c.pending.entries.map (Submission.ofEntry (event :: later)) ++ after) after := by
  have settled : ∀ entry : Nat × PendingExchange, Submission.ofEntry (event :: later) entry =
      ⟨entry.2, some entry.1, some (.error .aborted)⟩ :=
    fun entry => Submission.ofEntry_of_settled (settles entry.1) later
  refine ⟨_, ?_, .refl _, ?_⟩
  · intro s member
    rcases List.mem_map.mp member with ⟨entry, _, same⟩
    rw [← same, settled]
    rfl
  · rw [outcomes_of_reports _ reports, List.filterMap_map, List.filter_eq_self.mpr
      (isSome_outcome?_of_cleared c.pending.entries)]
    have told : Submission.told? ∘ Submission.ofEntry (event :: later) =
          fun entry => some (entry.2.told (.error .aborted)) := by
        funext entry
        rw [Function.comp_apply, settled]
        rfl
    rw [told, List.filterMap_eq_map']

theorem Keeps.tells {c : Client} {since : Nat} (keeps : c.Keeps since) (event : ClientEvent)
    (later : List ClientEvent) :
    c.Tells (c.step event) (c.fates (event :: later)) ((c.step event).fates later) := by
  have moves := keeps.moves event
  generalize c.step event = next at moves
  unfold fates
  have unsettled : (∀ entry ∈ c.pending.entries, event.settles entry.1 = none) →
      c.pending.entries.map (Submission.ofEntry (event :: later)) =
        c.pending.entries.map (Submission.ofEntry later) :=
    fun none => Submission.map_ofEntry_of_unsettled none later
  cases moves with
  | @refused listener batch _ halted =>
      rw [unsettled fun _ _ => rfl, halted, submissions_refused, ← halted]
      exact .one ⟨listener, batch⟩ none (.error .terminated)
        (outcomes_of_reports [.failure listener .terminated batch] rfl) List.perm_middle
  | @sent listener batch running =>
      rw [unsettled fun _ _ => rfl, running, submissions_sent, Table.insert,
        Table.erase_of_get?_eq_none keeps.fresh]
      exact .nothing ((outcomes_of_reports [.sending listener batch] rfl).trans
        (List.append_nil _)) List.perm_middle
  | @stranded listener batch running =>
      rw [unsettled fun _ _ => rfl, running, submissions_stranded]
      exact .one ⟨listener, batch⟩ (some c.exchanges) (.error (.http "no async runtime"))
        (outcomes_of_reports [.sending listener batch, .failure listener
          (.http "no async runtime") batch] rfl) List.perm_middle
  | @completed exchange result p found =>
      have front := (Table.perm_entries keeps.once found).map
        (Submission.ofEntry (.complete exchange result :: later))
      have others : (c.pending.erase exchange).entries.map
          (Submission.ofEntry (.complete exchange result :: later)) =
            (c.pending.erase exchange).entries.map (Submission.ofEntry later) := by
        apply Submission.map_ofEntry_of_unsettled
        intro entry listed
        exact ClientEvent.settles_of_ne
          (Table.ne_of_mem (c.pending.get?_erase_self exchange) listed) result
      rw [List.map_cons, others,
        Submission.ofEntry_of_settled (ClientEvent.settles_self exchange result)] at front
      have told : (p.told result).outcome?.isSome := isSome_outcome?_told p result
      exact .one p (some exchange) result ((outcomes_of_reports [p.told result] rfl).trans
        (congrArg _ (List.filter_cons_of_pos told))) (front.append_right _)
  | @late exchange result absent =>
      refine .nothing rfl ?_
      rw [unsettled fun entry listed =>
        ClientEvent.settles_of_ne (Table.ne_of_mem absent listed) result]
      exact .refl _
  | aborted => exact tells_of_cleared (fun _ => rfl) rfl later _
  | terminated => exact tells_of_cleared (fun _ => rfl) rfl later _

/-- Without further events, what is pending stays without an outcome. -/
theorem fates_nil (c : Client) :
    c.fates [] = c.pending.entries.map fun entry => ⟨entry.2, some entry.1, none⟩ :=
  List.append_nil _

theorem Keeps.run_tells {c : Client} {since : Nat} (keeps : c.Keeps since)
    (events : List ClientEvent) :
    c.Tells (c.run events) (c.fates events) ((c.run events).fates []) := by
  induction events generalizing c with
  | nil => exact .nothing rfl (.refl _)
  | cons event later inductionHypothesis =>
      exact (keeps.tells event later).trans (inductionHypothesis (keeps.step event))

/-! ## What begins -/

/-- The exchanges begun by a client up to some time and those to be begun later, with their
announcements. -/
structure Begins (c next : Client) (before after : List Submission) : Prop where
  announced : c.announcements ++ before.filterMap Submission.announced? =
    next.announcements ++ after.filterMap Submission.announced?
  numbered : List.range c.exchanges ++ before.filterMap Submission.exchange? =
    List.range next.exchanges ++ after.filterMap Submission.exchange?

namespace Begins

variable {c next last : Client} {before between after : List Submission}

/-- Nothing begins where only outcomes are told. -/
theorem nothing (told : List Report) (settled : ∀ r ∈ told, r.outcome?.isSome)
    (reports : next.reports = c.reports ++ told) (exchanges : next.exchanges = c.exchanges)
    (announced : before.filterMap Submission.announced? = after.filterMap Submission.announced?)
    (numbered : before.filterMap Submission.exchange? = after.filterMap Submission.exchange?) :
    c.Begins next before after := by
  have silent : told.filter (fun r => r.outcome?.isNone) = [] :=
    List.filter_eq_nil_iff.mpr fun r member => by
      rw [← Option.not_isSome, settled r member]
      exact Bool.false_ne_true
  constructor
  · rw [announcements_of_reports told reports, silent, List.append_nil, announced]
  · rw [exchanges, numbered]

/-- An exchange begins. -/
theorem one {s : Submission} (told : List Report) (numbered : s.exchange? = some c.exchanges)
    (reports : next.reports = c.reports ++ told)
    (exchanges : next.exchanges = c.exchanges + 1)
    (announced : told.filter (fun r => r.outcome?.isNone) = [.sending s.listener s.batch]) :
    c.Begins next (s :: after) after := by
  have own : s.announced? = some (.sending s.listener s.batch) := by
    unfold Submission.announced?
    rw [numbered]
    rfl
  constructor
  · rw [announcements_of_reports told reports, announced, List.filterMap_cons_some own,
      List.append_cons]
  · rw [exchanges, List.range_succ, List.filterMap_cons_some numbered, List.append_cons]

theorem trans (first : c.Begins next before between) (second : next.Begins last between after) :
    c.Begins last before after :=
  ⟨first.announced.trans second.announced, first.numbered.trans second.numbered⟩

end Begins

theorem Keeps.begins {c : Client} {since : Nat} (keeps : c.Keeps since) (event : ClientEvent)
    (later : List ClientEvent) :
    c.Begins (c.step event) (submissions c.terminated c.exchanges (event :: later))
      (submissions (c.step event).terminated (c.step event).exchanges later) := by
  have moves := keeps.moves event
  generalize c.step event = next at moves
  cases moves with
  | @refused listener batch _ halted =>
      rw [halted, submissions_refused, ← halted]
      exact .nothing [.failure listener .terminated batch] (by simp [Report.outcome?]) rfl rfl
        rfl rfl
  | @sent listener batch running =>
      rw [running, submissions_sent]
      exact .one [.sending listener batch] rfl rfl rfl rfl
  | @stranded listener batch running =>
      rw [running, submissions_stranded]
      exact .one [.sending listener batch, .failure listener (.http "no async runtime") batch]
        rfl rfl rfl rfl
  | @completed exchange result p found =>
      refine .nothing [p.told result] ?_ rfl rfl rfl rfl
      intro r member
      rw [List.mem_singleton.mp member]
      exact isSome_outcome?_told p result
  | late absent =>
      exact .nothing [] (fun _ absent => (nomatch absent)) (List.append_nil _).symm rfl rfl rfl
  | aborted => exact .nothing _ (isSome_outcome?_of_cleared c.pending.entries) rfl rfl rfl rfl
  | terminated => exact .nothing _ (isSome_outcome?_of_cleared c.pending.entries) rfl rfl rfl rfl

theorem Keeps.run_begins {c : Client} {since : Nat} (keeps : c.Keeps since)
    (events : List ClientEvent) :
    c.Begins (c.run events) (submissions c.terminated c.exchanges events) [] := by
  induction events generalizing c with
  | nil => exact ⟨rfl, rfl⟩
  | cons event later inductionHypothesis =>
      exact (keeps.begins event later).trans (inductionHypothesis (keeps.step event))

/-! ## After giving up -/

theorem Keeps.empty (url : Net.Url) (options : ClientOptions) (codec : Codec) :
    ({ url, options, codec } : Client).Keeps 0 where
  once := List.nodup_nil
  started := Nat.zero_le _
  numbered _ absent := nomatch absent
  ended _ := rfl

/-- Giving up leaves none of the exchanges so far. -/
theorem Keeps.cleared {c : Client} {since : Nat} (keeps : c.Keeps since) :
    c.abort.Keeps c.exchanges := by
  rw [abort_eq keeps.once]
  exact ⟨List.nodup_nil, Nat.le_refl _, fun _ absent => (nomatch absent), fun _ => rfl⟩

theorem Keeps.complete_of_lt {c : Client} {since : Nat} (keeps : c.Keeps since) {exchange : Nat}
    (earlier : exchange < since) (result : Except Failure Batch) :
    c.complete exchange result = c := by
  have absent : c.pending.get? exchange = none :=
    (Table.get?_eq_none_iff _ _).mpr fun member =>
      Nat.not_le_of_lt earlier (keeps.numbered exchange member).1
  rw [complete_eq, absent]

/-- A client that is terminated stays so. -/
theorem Keeps.run_terminated {c : Client} {since : Nat} (keeps : c.Keeps since)
    (halted : c.terminated = true) (events : List ClientEvent) :
    (c.run events).terminated = true := by
  induction events generalizing c with
  | nil => exact halted
  | cons event later inductionHypothesis =>
      refine inductionHypothesis (keeps.step event) ?_
      have moves := keeps.moves event
      generalize c.step event = next at moves
      cases moves with
      | terminated => rfl
      | _ => exact halted

/-- However sending, replies, failures, giving up and termination follow one another, a client
announces a batch when it sends it and tells the outcome once, to the listener of the batch: what
the first later event says that settles the exchange.  What has no outcome is pending, and
nothing else is.  Giving up fails whatever is pending with the batch that was sent, and doing it
again does nothing; what arrives for these exchanges afterwards, at whatever time, is not
reported.  Once a client is terminated, nothing is ever pending again, and every further batch
fails at once without being announced. -/
theorem run_reports (url : Net.Url) (options : ClientOptions) (codec : Codec)
    (events : List ClientEvent) :
    let c := ({ url, options, codec } : Client).run events
    let all := submissions false 0 events
    c.announcements = all.filterMap Submission.announced? ∧
      c.outcomes.Perm (all.filterMap Submission.told?) ∧
      c.pending.entries.Perm (all.filterMap Submission.open?) ∧
      List.range c.exchanges = all.filterMap Submission.exchange? ∧
      (c.abort.reports = c.reports ++ c.pending.entries.map fun entry =>
        .failure entry.2.listener .aborted entry.2.batch) ∧
      c.abort.pending = ∅ ∧ c.abort.abort = c.abort ∧
      (∀ later, let d := c.abort.run later
        ∀ exchange < c.exchanges, ∀ result, d.complete exchange result = d) ∧
      ∀ later, let d := c.terminate.run later
        d.pending = ∅ ∧ ∀ listener batch hasRuntime,
          d.send listener batch hasRuntime =
            (none, d.report (.failure listener .terminated batch)) := by
  intro c all
  have start := Keeps.empty url options codec
  have keeps : c.Keeps 0 := start.run events
  have begins := start.run_begins events
  rcases start.run_tells events with ⟨settled, isSettled, fates, told⟩
  have cleared := abort_eq keeps.once
  refine ⟨(begins.announced.trans (List.append_nil _)).symm, ?_, ?_,
    (begins.numbered.trans (List.append_nil _)).symm, congrArg reports cleared,
    congrArg pending cleared, ?_, ?_, ?_⟩
  · have untold : (c.fates []).filterMap Submission.told? = [] := by
      rw [fates_nil, List.filterMap_map]
      exact List.filterMap_eq_nil_iff.mpr fun _ _ => rfl
    have parts := fates.filterMap Submission.told?
    rw [List.filterMap_append, untold, List.append_nil] at parts
    rw [told]
    exact parts.symm
  · have opened : (c.fates []).filterMap Submission.open? = c.pending.entries := by
      rw [fates_nil, List.filterMap_map]
      exact List.filterMap_some
    have closed : settled.filterMap Submission.open? = [] :=
      List.filterMap_eq_nil_iff.mpr fun s member => if_pos (isSettled s member)
    have parts := fates.filterMap Submission.open?
    rw [List.filterMap_append, closed, List.nil_append, opened] at parts
    exact parts.symm
  · have again : c.cleared.abort = c.cleared.cleared := abort_eq List.nodup_nil
    rw [cleared, again, cleared_cleared]
  · exact fun later exchange before result =>
      (keeps.cleared.run later).complete_of_lt before result
  · intro later d
    have halted : c.terminate.terminated = true := congrArg terminated (terminate_eq keeps.once)
    have stays : c.terminate.Keeps 0 := keeps.step .terminate
    have ended : d.terminated = true := stays.run_terminated halted later
    refine ⟨(stays.run later).ended ended, ?_⟩
    intro listener batch hasRuntime
    exact if_pos ended

end Client
end Bayeux
