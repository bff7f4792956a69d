import Bayeux.Admission.Permits
import Bayeux.Proofs.Admission.Counting

namespace Bayeux

/-!
# Permits and their ledger

The ledger is the plainest account of permits: who holds one, and for which browser.
A browser gets another permit as long as it has fewer than the limit.  The ledger
has no counters that could be wrong, no strikes and no clock, and a sweep does
nothing to it.  Main statement: in every run permits are issued, refused and given back
as the ledger says, the counters are those of the ledger, and no counter underflows.
-/

/-- What can happen to permits, in any order. -/
inductive PermitEvent where
  /-- A permit is asked for.  If it is issued, one that the holder already had ends. -/
  | ask (browser : BrowserId) (holder : String)
  /-- The permit of a holder is released or dropped. -/
  | giveBack (holder : String)
  | sweep (now : Timestamp)
deriving DecidableEq, Repr

/-- What is told about an event. -/
inductive PermitAnswer where
  | issued (replaced : Bool)
  | refused
  /-- The holder has no permit. -/
  | absent
  | ended (fault : Option Admission.Underflow)
deriving DecidableEq, Repr

namespace PermitEvent

def isSweep : PermitEvent → Bool
  | sweep _ => true
  | _ => false

/-- The answers to a list of events and the last state, for any account of permits. -/
def trace {σ : Type} (step : σ → PermitEvent → Option PermitAnswer × σ) :
    σ → List PermitEvent → List PermitAnswer × σ
  | state, [] => ([], state)
  | state, event :: rest =>
    let (answer, next) := step state event
    let (answers, last) := trace step next rest
    (answer.toList ++ answers, last)

/-- A relation that every step keeps, with equal answers, is kept by whole runs. -/
theorem trace_related {σ τ : Type} {first : σ → PermitEvent → Option PermitAnswer × σ}
    {second : τ → PermitEvent → Option PermitAnswer × τ} {related : σ → τ → Prop}
    (step : ∀ s t event, related s t →
      (first s event).1 = (second t event).1 ∧ related (first s event).2 (second t event).2)
    (s : σ) (t : τ) (start : related s t) (events : List PermitEvent) :
    (trace first s events).1 = (trace second t events).1 ∧
      related (trace first s events).2 (trace second t events).2 := by
  induction events generalizing s t with
  | nil => exact ⟨rfl, start⟩
  | cons event rest inductionHypothesis =>
      have here := step s t event start
      have later := inductionHypothesis _ _ here.2
      simp only [trace]
      rw [here.1, later.1]
      exact ⟨rfl, later.2⟩

end PermitEvent

namespace Permits

/-- No permits yet, under a limit. -/
def ofLimit (limit : SessionLimit) (maxInterval : Nat) : Permits :=
  { admission := { limit, maxInterval } }

def step (p : Permits) : PermitEvent → Option PermitAnswer × Permits
  | .ask browser holder =>
    let (issued, next) := p.issue browser holder
    (some (match issued with
      | some replaced => .issued replaced
      | none => .refused), next)
  | .giveBack holder =>
    let (outcome, next) := p.giveBack holder
    (some (match outcome with
      | some fault => .ended fault
      | none => .absent), next)
  | .sweep now => (none, (p.sweep now).2)

end Permits

/-- The permits that are live, by their holders. -/
structure PermitLedger where
  limit : SessionLimit
  live : Table String BrowserId := ∅
deriving Repr

namespace PermitLedger

/-- How many permits of a browser are live. -/
def count (l : PermitLedger) (browser : BrowserId) : Nat :=
  l.live.tally browser

def step (l : PermitLedger) : PermitEvent → Option PermitAnswer × PermitLedger
  | .ask browser holder =>
    if l.limit.admits (l.count browser) then
      (some (.issued (l.live.contains holder)),
        { l with live := l.live.insert holder browser })
    else (some .refused, l)
  | .giveBack holder =>
    if l.live.contains holder then
      (some (.ended none), { l with live := l.live.erase holder })
    else (some .absent, l)
  | .sweep _ => (none, l)

theorem step_limit (l : PermitLedger) (event : PermitEvent) :
    (l.step event).2.limit = l.limit := by
  cases event with
  | ask browser holder =>
      simp only [step]
      split <;> rfl
  | giveBack holder =>
      simp only [step]
      split <;> rfl
  | sweep now => rfl

theorem trace_limit (l : PermitLedger) (events : List PermitEvent) :
    (PermitEvent.trace step l events).2.limit = l.limit := by
  induction events generalizing l with
  | nil => rfl
  | cons event rest inductionHypothesis =>
      simp only [PermitEvent.trace]
      exact (inductionHypothesis _).trans (l.step_limit event)

/-- No permit of a ledger ends with a fault. -/
theorem trace_sound (l : PermitLedger) (events : List PermitEvent)
    (fault : Admission.Underflow) :
    .ended (some fault) ∉ (PermitEvent.trace step l events).1 := by
  induction events generalizing l with
  | nil => exact List.not_mem_nil
  | cons event rest inductionHypothesis =>
      simp only [PermitEvent.trace]
      intro member
      rcases List.mem_append.mp member with here | later
      · cases event with
        | ask browser holder =>
            simp only [step] at here
            split at here <;> simp at here
        | giveBack holder =>
            simp only [step] at here
            split at here <;> simp at here
        | sweep now => cases here
      · exact inductionHypothesis _ later

/-- A ledger does not notice which of the events are sweeps. -/
theorem trace_without_sweeps (l : PermitLedger) (events : List PermitEvent) :
    PermitEvent.trace step l (events.filter fun event => !event.isSweep) =
      PermitEvent.trace step l events := by
  induction events generalizing l with
  | nil => rfl
  | cons event rest inductionHypothesis =>
      cases event with
      | sweep now =>
          rw [List.filter_cons_of_neg (by simp [PermitEvent.isSweep]), inductionHypothesis]
          rfl
      | ask browser holder =>
          rw [List.filter_cons_of_pos (by simp [PermitEvent.isSweep])]
          simp only [PermitEvent.trace, inductionHypothesis]
      | giveBack holder =>
          rw [List.filter_cons_of_pos (by simp [PermitEvent.isSweep])]
          simp only [PermitEvent.trace, inductionHypothesis]

end PermitLedger

namespace Permits

/-- The permits are those of the ledger, and the admission table counts them. -/
structure Follows (p : Permits) (l : PermitLedger) : Prop where
  limit : p.admission.limit = l.limit
  held : p.held = l.live
  distinct : l.live.keys.Nodup
  tallies : p.admission.Tallies l.count
  sound : p.metrics.get? .admissionUnderflows = none

theorem follows_ofLimit (limit : SessionLimit) (maxInterval : Nat) :
    (ofLimit limit maxInterval).Follows { limit } where
  limit := rfl
  held := rfl
  distinct := List.nodup_nil
  tallies := Admission.tallies_zero limit maxInterval
  sound := rfl

/-- Whoever has a permit of a counted browser gives it back without a fault. -/
theorem giveBack_spec {p : Permits} {tally : BrowserId → Nat}
    (tallies : p.admission.Tallies tally) {holder : String} {browser : BrowserId}
    (found : p.held.get? holder = some browser) (counted : 0 < tally browser) :
    (p.giveBack holder).1 = some none ∧
      (p.giveBack holder).2.held = p.held.erase holder ∧
      (p.giveBack holder).2.metrics = p.metrics ∧
      (p.giveBack holder).2.admission.limit = p.admission.limit ∧
      (p.giveBack holder).2.admission.Tallies (Admission.lowered tally browser) := by
  rcases Admission.release_spec tallies counted with ⟨released, outcome, limit, lower⟩
  unfold giveBack release
  simp only [found, outcome]
  exact ⟨trivial, trivial, rfl, limit, lower⟩

/-- A new permit is counted; an old one of the same holder is counted no longer. -/
theorem count_replaced {l : PermitLedger} (distinct : l.live.keys.Nodup) {holder : String}
    {old : BrowserId} (found : l.live.get? holder = some old) (browser other : BrowserId) :
    Admission.lowered (Admission.raised l.count browser) old other =
      PermitLedger.count { l with live := l.live.insert holder browser } other := by
  have erased := Table.tally_erase_add distinct found other
  unfold PermitLedger.count
  rw [Admission.lowered_apply, Admission.raised_apply, Table.tally_insert]
  omega

theorem count_added {l : PermitLedger} {holder : String}
    (absent : l.live.get? holder = none) (browser other : BrowserId) :
    Admission.raised l.count browser other =
      PermitLedger.count { l with live := l.live.insert holder browser } other := by
  unfold PermitLedger.count
  rw [Admission.raised_apply, Table.tally_insert, Table.erase_of_get?_eq_none absent]

theorem count_erased {l : PermitLedger} (distinct : l.live.keys.Nodup) {holder : String}
    {browser : BrowserId} (found : l.live.get? holder = some browser) (other : BrowserId) :
    Admission.lowered l.count browser other =
      PermitLedger.count { l with live := l.live.erase holder } other := by
  have erased := Table.tally_erase_add distinct found other
  rw [Admission.lowered_apply]
  change l.live.tally other - _ = (l.live.erase holder).tally other
  omega

theorem ask_follows {p : Permits} {l : PermitLedger} (follows : p.Follows l)
    (browser : BrowserId) (holder : String) :
    (p.step (.ask browser holder)).1 = (l.step (.ask browser holder)).1 ∧
      (p.step (.ask browser holder)).2.Follows (l.step (.ask browser holder)).2 := by
  have asked := Admission.acquire_spec follows.tallies browser
  have limit := (p.admission.acquire_limit browser).trans follows.limit
  rw [follows.limit] at asked
  by_cases room : l.limit.admits (l.count browser) = true
  · rw [if_pos room, room] at asked
    cases found : l.live.get? holder with
    | none =>
        have absent : p.held.get? holder = none := by rw [follows.held, found]
        simp only [step, issue, acquire, asked.1, if_true, giveBack, absent,
          PermitLedger.step, room, Table.contains_eq, found]
        refine ⟨rfl, ?_⟩
        exact {
          limit := limit
          held := congrArg (·.insert holder browser) follows.held
          distinct := Table.nodup_keys_insert follows.distinct holder browser
          tallies := Admission.tallies_congr asked.2 (count_added found browser)
          sound := (Metrics.acquired_underflows _ _ _).trans follows.sound }
    | some old =>
        have held : ({ p with
            admission := (p.admission.acquire browser).2
            metrics := p.metrics.acquired (p.admission.acquire browser).2.limit true } :
              Permits).held.get? holder = some old := by rw [← found, ← follows.held]
        have counted : 0 < Admission.raised l.count browser old := by
          rw [Admission.raised_apply]
          exact Nat.add_pos_left (Table.tally_pos found) _
        rcases giveBack_spec asked.2 held counted with ⟨answer, erased, metrics, kept, tallies⟩
        simp only [step, issue, acquire, asked.1, if_true, PermitLedger.step, room,
          Table.contains_eq, found]
        rw [answer]
        refine ⟨rfl, ?_⟩
        exact {
          limit := kept.trans limit
          held := by
            apply Table.ext_entries
            change (holder, browser) :: (Table.erase (Permits.held _) holder).entries = _
            rw [erased, follows.held]
            have twice := Table.erase_of_get?_eq_none (l.live.get?_erase_self holder)
            rw [twice]
            rfl
          distinct := Table.nodup_keys_insert follows.distinct holder browser
          tallies := Admission.tallies_congr tallies (count_replaced follows.distinct found browser)
          sound := by
            rw [metrics]
            exact (Metrics.acquired_underflows _ _ _).trans follows.sound }
  · have refused : l.limit.admits (l.count browser) = false := Bool.eq_false_iff.mpr room
    rw [refused] at asked
    simp only [step, issue, acquire, asked.1, Bool.false_eq_true, if_false,
      PermitLedger.step, refused]
    refine ⟨trivial, ?_⟩
    exact {
      limit := limit
      held := follows.held
      distinct := follows.distinct
      tallies := asked.2
      sound := (Metrics.acquired_underflows _ _ _).trans follows.sound }

theorem giveBack_follows {p : Permits} {l : PermitLedger} (follows : p.Follows l)
    (holder : String) :
    (p.step (.giveBack holder)).1 = (l.step (.giveBack holder)).1 ∧
      (p.step (.giveBack holder)).2.Follows (l.step (.giveBack holder)).2 := by
  cases found : l.live.get? holder with
  | none =>
      have absent : p.held.get? holder = none := by rw [follows.held, found]
      simp only [step, giveBack, absent, PermitLedger.step, Table.contains_eq, found]
      exact ⟨rfl, follows⟩
  | some browser =>
      have held : p.held.get? holder = some browser := by rw [follows.held, found]
      rcases giveBack_spec follows.tallies held (Table.tally_pos found) with
        ⟨answer, erased, metrics, kept, tallies⟩
      simp only [step, PermitLedger.step, Table.contains_eq, found]
      rw [answer]
      refine ⟨rfl, ?_⟩
      exact {
        limit := kept.trans follows.limit
        held := erased.trans (congrArg (·.erase holder) follows.held)
        distinct := Table.nodup_keys_erase follows.distinct holder
        tallies := Admission.tallies_congr tallies (count_erased follows.distinct found)
        sound := metrics ▸ follows.sound }

/-- Every step is answered as the ledger says and keeps the counters in line with it. -/
theorem step_follows (p : Permits) (l : PermitLedger) (event : PermitEvent)
    (follows : p.Follows l) :
    (p.step event).1 = (l.step event).1 ∧ (p.step event).2.Follows (l.step event).2 := by
  cases event with
  | ask browser holder => exact ask_follows follows browser holder
  | giveBack holder => exact giveBack_follows follows holder
  | sweep now =>
      refine ⟨rfl, ?_⟩
      exact {
        limit := (p.admission.sweep_limit now).trans follows.limit
        held := follows.held
        distinct := follows.distinct
        tallies := Admission.sweep_spec follows.tallies now
        sound := (Metrics.swept_underflows _ _ _).trans follows.sound }

/-- Permits behave like their ledger in every run: they are issued and given back as
the ledger says, and no counter underflows.  Under a numeric limit the counters are
those of the ledger and stay within the limit, and without one the table stays
empty.  Leaving out the sweeps of a run changes none of this. -/
theorem trace_eq_ledger (value : Int) (maxInterval : Nat) (events : List PermitEvent) :
    let limit := SessionLimit.ofInt value
    let permits := PermitEvent.trace step (ofLimit limit maxInterval) events
    let ledger := PermitEvent.trace PermitLedger.step { limit } events
    let unswept := PermitEvent.trace step (ofLimit limit maxInterval)
      (events.filter fun event => !event.isSweep)
    permits.1 = ledger.1 ∧
      permits.2.held = ledger.2.live ∧
      (∀ fault, .ended (some fault) ∉ permits.1) ∧
      permits.2.metrics.get? .admissionUnderflows = none ∧
      (∀ max, limit = .atMost max → ∀ browser,
        (permits.2.admission.count? browser).getD 0 = ledger.2.count browser ∧
          ledger.2.count browser ≤ max) ∧
      ((∀ max, limit ≠ .atMost max) →
        permits.2.admission.counts = ∅ ∧ permits.2.admission.strikes = ∅) ∧
      unswept.1 = permits.1 ∧
      unswept.2.held = permits.2.held ∧
      ∀ browser, (unswept.2.admission.count? browser).getD 0 =
        (permits.2.admission.count? browser).getD 0 := by
  intro limit permits ledger unswept
  have start := follows_ofLimit limit maxInterval
  have run := PermitEvent.trace_related step_follows _ _ start events
  have quiet := PermitEvent.trace_related step_follows _ _ start
    (events.filter fun event => !event.isSweep)
  rw [PermitLedger.trace_without_sweeps] at quiet
  have follows : permits.2.Follows ledger.2 := run.2
  have kept : ledger.2.limit = limit := PermitLedger.trace_limit { limit } events
  refine ⟨run.1, follows.held, ?_, follows.sound, ?_, ?_, ?_, ?_, ?_⟩
  · intro fault member
    exact PermitLedger.trace_sound { limit } events fault (run.1 ▸ member)
  · intro max numeric browser
    have limited : permits.2.admission.limit = .atMost max :=
      follows.limit.trans (kept.trans numeric)
    exact (Admission.tallies_atMost_iff limited _).mp follows.tallies browser
  · intro free
    apply (Admission.tallies_free_iff _ _).mp follows.tallies
    rintro ⟨max, numeric⟩
    exact free max (kept.symm.trans (follows.limit.symm.trans numeric))
  · exact quiet.1.trans run.1.symm
  · exact quiet.2.held.trans follows.held.symm
  · exact Admission.getD_eq_of_tallies quiet.2.tallies follows.tallies
      (quiet.2.limit.trans follows.limit.symm)

end Permits
end Bayeux
