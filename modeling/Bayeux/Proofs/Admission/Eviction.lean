import Bayeux.Proofs.Admission.Sweeping
import Mathlib.Algebra.Group.Nat.Defs
import Mathlib.Data.List.Perm.Basic

namespace Bayeux

/-!
# When an idle browser is evicted

A browser that is registered is struck once by every sweep, until its strikes exceed
the threshold.  The threshold is computed anew by each sweep from the time since the last
one, the strikes are a number of 32 bits that wraps, and all registered browsers share the
sweep.  This module follows one browser through sweeps at a regular distance: an
operation on somebody else does not move it, a sweep moves it by one strike, and by induction
the number of the sweep says where it stands.
-/

namespace Admission

/-- Neither table lists a browser twice. -/
structure Distinct (a : Admission) : Prop where
  counts : a.counts.keys.Nodup
  strikes : a.strikes.keys.Nodup

theorem distinct_empty (limit : SessionLimit) (maxInterval : Nat) :
    Distinct { limit, maxInterval } where
  counts := List.nodup_nil
  strikes := List.nodup_nil

/-! ## Operations on one browser -/

/-- What an operation on one browser leaves alone: the clock, the settings, and whatever the
tables say of the others. -/
structure Concerns (a : Admission) (browser : BrowserId) (next : Admission) : Prop where
  distinct : a.Distinct → next.Distinct
  maxInterval : next.maxInterval = a.maxInterval
  lastSweep : next.lastSweep = a.lastSweep
  counts : ∀ other, other ≠ browser → next.counts.get? other = a.counts.get? other
  strikes : ∀ other, other ≠ browser → next.strikes.get? other = a.strikes.get? other

namespace Concerns

variable {a next last : Admission} {browser : BrowserId}

theorem refl (a : Admission) (browser : BrowserId) : a.Concerns browser a where
  distinct := id
  maxInterval := rfl
  lastSweep := rfl
  counts := fun _ _ => rfl
  strikes := fun _ _ => rfl

theorem trans (first : a.Concerns browser next) (second : next.Concerns browser last) :
    a.Concerns browser last where
  distinct := second.distinct ∘ first.distinct
  maxInterval := second.maxInterval.trans first.maxInterval
  lastSweep := second.lastSweep.trans first.lastSweep
  counts := fun other different =>
    (second.counts other different).trans (first.counts other different)
  strikes := fun other different =>
    (second.strikes other different).trans (first.strikes other different)

theorem count (a : Admission) (browser : BrowserId) (held : Nat) :
    a.Concerns browser { a with counts := a.counts.insert browser held } where
  distinct := fun distinct =>
    { distinct with counts := Table.nodup_keys_insert distinct.counts browser held }
  maxInterval := rfl
  lastSweep := rfl
  counts := fun _ different => Table.get?_insert_of_ne a.counts different held
  strikes := fun _ _ => rfl

theorem register (a : Admission) (browser : BrowserId) :
    a.Concerns browser (a.register browser) where
  distinct := fun distinct =>
    { distinct with strikes := Table.nodup_keys_insert distinct.strikes browser 0 }
  maxInterval := rfl
  lastSweep := rfl
  counts := fun _ _ => rfl
  strikes := fun _ different => Table.get?_insert_of_ne a.strikes different 0

theorem unregister (a : Admission) (browser : BrowserId) :
    a.Concerns browser { a with strikes := a.strikes.erase browser } where
  distinct := fun distinct =>
    { distinct with strikes := Table.nodup_keys_erase distinct.strikes browser }
  maxInterval := rfl
  lastSweep := rfl
  counts := fun _ _ => rfl
  strikes := fun _ different => Table.get?_erase_of_ne a.strikes different

end Concerns

theorem acquire_concerns (a : Admission) (browser : BrowserId) :
    a.Concerns browser (a.acquire browser).2 := by
  -- whether or not it was idle, the browser may have been taken off the register
  have taken : ∀ held, a.Concerns browser { a with
      counts := a.counts.insert browser held
      strikes := if a.counts.getD browser 0 = 0 then a.strikes.erase browser
        else a.strikes } := by
    intro held
    split
    · exact (Concerns.count a browser held).trans (Concerns.unregister _ browser)
    · exact Concerns.count a browser held
  unfold acquire
  split
  · exact Concerns.refl a browser
  · exact Concerns.refl a browser
  next max _ =>
    simp only []
    by_cases granted : a.counts.getD browser 0 + 1 ≤ max
    · rw [if_pos granted]
      exact taken _
    · rw [if_neg granted]
      by_cases idle : a.counts.getD browser 0 = 0
      · simp only [if_pos idle] at taken ⊢
        exact (taken _).trans (Concerns.register _ browser)
      · simp only [if_neg idle] at taken ⊢
        exact taken _

theorem releaseQuietly_concerns (a : Admission) (browser : BrowserId) :
    a.Concerns browser (a.releaseQuietly browser) := by
  unfold releaseQuietly release
  split
  next released outcome =>
    split at outcome
    · cases outcome
      exact Concerns.refl a browser
    · cases outcome
    next held _ =>
      cases outcome
      split
      · exact (Concerns.count a browser held).trans (Concerns.register _ browser)
      · exact Concerns.count a browser held
  · exact Concerns.refl a browser

/-- A browser that gives back its only connection is registered anew, whatever strikes it had
when it was idle before. -/
theorem releaseQuietly_last {a : Admission} {browser : BrowserId}
    (last : a.counts.get? browser = some 1) :
    (a.releaseQuietly browser).counts.get? browser = some 0 ∧
      (a.releaseQuietly browser).strikes.get? browser = some 0 := by
  unfold releaseQuietly release
  rw [last]
  exact ⟨Table.get?_insert_self a.counts browser 0, Table.get?_insert_self a.strikes browser 0⟩

/-- There is nothing to give back for a browser that is idle or unknown. -/
theorem releaseQuietly_idle {a : Admission} {browser : BrowserId}
    (idle : a.counts.getD browser 0 = 0) : a.releaseQuietly browser = a := by
  unfold releaseQuietly release
  unfold Table.getD at idle
  cases found : a.counts.get? browser with
  | none => rfl
  | some held =>
      rw [found] at idle
      cases idle
      rfl

/-! ## Sweeps -/

theorem sweepAfter_distinct {a : Admission} (distinct : a.Distinct) (elapsed : Nat) :
    (a.sweepAfter elapsed).2.Distinct where
  counts := distinct.counts.sublist (List.filter_sublist.map _)
  strikes := by
    let kept : Table BrowserId Nat :=
      ⟨a.strikes.entries.filter fun entry => !a.expires elapsed entry.2⟩
    have fewer : kept.keys.Nodup := distinct.strikes.sublist (List.filter_sublist.map _)
    rw [← Table.keys_map kept fun strikes => (strikes + 1) % UInt32.size] at fewer
    exact fewer

theorem sweep_distinct {a : Admission} (distinct : a.Distinct) (now : Timestamp) :
    (a.sweep now).2.Distinct := by
  have timed : ({ a with lastSweep := now } : Admission).Distinct := { distinct with }
  unfold sweep
  cases a.elapsed? now with
  | none => exact timed
  | some elapsed => exact sweepAfter_distinct timed elapsed

theorem sweep_maxInterval (a : Admission) (now : Timestamp) :
    (a.sweep now).2.maxInterval = a.maxInterval := by
  unfold sweep
  split <;> rfl

/-- The browsers whose counter is gone. -/
def removed (before after : Admission) : List BrowserId :=
  before.counts.keys.filter fun browser => (after.count? browser).isNone

theorem mem_removed (before after : Admission) (browser : BrowserId) :
    browser ∈ removed before after ↔
      (before.count? browser).isSome ∧ after.count? browser = none := by
  unfold removed
  rw [List.mem_filter, Option.isNone_iff_eq_none, Option.isSome_iff_ne_none]
  exact and_congr_left fun _ =>
    (not_iff_not.mpr (before.counts.get?_eq_none_iff browser)).trans not_not |>.symm

theorem count_removed {before : Admission} (distinct : before.Distinct) (after : Admission)
    (browser : BrowserId) :
    (removed before after).count browser =
      if (before.count? browser).isSome ∧ after.count? browser = none then 1 else 0 := by
  have once : (removed before after).Nodup := distinct.counts.filter _
  rw [once.count]
  exact if_congr (mem_removed before after browser) rfl rfl

/-- A sweep returns how many counters it removes. -/
theorem sweepAfter_fst {a : Admission} (distinct : a.Distinct) (elapsed : Nat) :
    (a.sweepAfter elapsed).1 = (removed a (a.sweepAfter elapsed).2).length := by
  have once : (a.evicted elapsed).Nodup :=
    (distinct.strikes.sublist (List.filter_sublist.map _)).filter _
  have others : (removed a (a.sweepAfter elapsed).2).Nodup := distinct.counts.filter _
  have same : (a.evicted elapsed).Perm (removed a (a.sweepAfter elapsed).2) := by
    rw [List.perm_ext_iff_of_nodup once others]
    intro browser
    rw [mem_evicted distinct.strikes, mem_removed]
    unfold count?
    rw [get?_counts_sweepAfter distinct.strikes]
    cases exceeds : (a.strikes.get? browser).any (a.expires elapsed) with
    | false => simp [Option.isSome_iff_ne_none]
    | true =>
        by_cases idle : a.counts.get? browser = some 0
        · simp [idle]
        · simp [idle, Option.isSome_iff_ne_none]
  exact same.length_eq

theorem sweep_fst {a : Admission} (distinct : a.Distinct) (now : Timestamp) :
    (a.sweep now).1 = (removed a (a.sweep now).2).length := by
  have timed : ({ a with lastSweep := now } : Admission).Distinct := { distinct with }
  unfold sweep
  cases a.elapsed? now with
  | some elapsed => exact sweepAfter_fst timed elapsed
  | none =>
      have nobody : removed a { a with lastSweep := now } = [] := by
        apply List.filter_eq_nil_iff.mpr
        intro browser listed absent
        exact (a.counts.get?_eq_none_iff browser).mp (Option.isNone_iff_eq_none.mp absent) listed
      rw [nobody]
      rfl

/-! ## Runs of operations and sweeps -/

theorem step_distinct {a : Admission} (distinct : a.Distinct) (event : AdmissionEvent) :
    (a.step event).Distinct := by
  cases event with
  | acquire browser => exact (a.acquire_concerns browser).distinct distinct
  | release browser => exact (a.releaseQuietly_concerns browser).distinct distinct
  | sweep now => exact sweep_distinct distinct now

theorem step_maxInterval (a : Admission) (event : AdmissionEvent) :
    (a.step event).maxInterval = a.maxInterval := by
  cases event with
  | acquire browser => exact (a.acquire_concerns browser).maxInterval
  | release browser => exact (a.releaseQuietly_concerns browser).maxInterval
  | sweep now => exact a.sweep_maxInterval now

theorem run_distinct {a : Admission} (distinct : a.Distinct) (events : List AdmissionEvent) :
    (a.run events).Distinct := by
  induction events generalizing a with
  | nil => exact distinct
  | cons event rest inductionHypothesis => exact inductionHypothesis (step_distinct distinct event)

theorem run_maxInterval (a : Admission) (events : List AdmissionEvent) :
    (a.run events).maxInterval = a.maxInterval := by
  induction events generalizing a with
  | nil => rfl
  | cons event rest inductionHypothesis =>
      exact (inductionHypothesis (a.step event)).trans (a.step_maxInterval event)

/-! ## Where one browser stands -/

/-- A browser is idle with a number of strikes since the last sweep, or, with `none`, it has
left both tables. -/
structure Stands (a : Admission) (browser : BrowserId) (now : Timestamp)
    (strikes : Option Nat) : Prop where
  distinct : a.Distinct
  lastSweep : a.lastSweep = now
  counted : a.counts.get? browser = strikes.map fun _ => 0
  registered : a.strikes.get? browser = strikes

end Admission

/-- Whether a browser that is idle stays so: it is not admitted, and nobody sweeps.  It may
be released once too often. -/
def AdmissionEvent.leaves (browser : BrowserId) : AdmissionEvent → Bool
  | .acquire other => other != browser
  | .release _ => true
  | .sweep _ => false

namespace Admission

namespace Stands

variable {a : Admission} {browser : BrowserId} {now : Timestamp} {strikes : Option Nat}

theorem of_concerns (stands : a.Stands browser now strikes) {other : BrowserId}
    {next : Admission} (concerns : a.Concerns other next) (different : browser ≠ other) :
    next.Stands browser now strikes where
  distinct := concerns.distinct stands.distinct
  lastSweep := concerns.lastSweep.trans stands.lastSweep
  counted := (concerns.counts browser different).trans stands.counted
  registered := (concerns.strikes browser different).trans stands.registered

theorem step (stands : a.Stands browser now strikes) {event : AdmissionEvent}
    (leaves : event.leaves browser = true) : (a.step event).Stands browser now strikes := by
  cases event with
  | acquire other =>
      have different : other ≠ browser := bne_iff_ne.mp leaves
      exact stands.of_concerns (a.acquire_concerns other) different.symm
  | release other =>
      by_cases same : other = browser
      · have idle : a.counts.getD other 0 = 0 := by
          unfold Table.getD
          rw [same, stands.counted]
          cases strikes <;> rfl
        have unchanged : a.step (.release other) = a := releaseQuietly_idle idle
        rw [unchanged]
        exact stands
      · exact stands.of_concerns (a.releaseQuietly_concerns other) fun equal => same equal.symm
  | sweep time => cases leaves

theorem run (stands : a.Stands browser now strikes) {events : List AdmissionEvent}
    (leave : ∀ event ∈ events, event.leaves browser = true) :
    (a.run events).Stands browser now strikes := by
  induction events generalizing a with
  | nil => exact stands
  | cons event rest inductionHypothesis =>
      have here := stands.step (leave event List.mem_cons_self)
      exact inductionHypothesis here fun other member =>
        leave other (List.mem_cons_of_mem event member)

/-- A sweep that measures some time evicts the browser or strikes it once. -/
theorem sweep (stands : a.Stands browser now strikes) {later : Timestamp} {elapsed : Nat}
    (measured : a.elapsed? later = some elapsed) :
    (a.sweep later).2.Stands browser later
      ((strikes.filter fun strikes => !a.expires elapsed strikes).map
        fun strikes => (strikes + 1) % UInt32.size) := by
  let timed : Admission := { a with lastSweep := later }
  have swept : a.sweep later = timed.sweepAfter elapsed := sweep_of_measured measured
  have distinct : timed.Distinct := { stands.distinct with }
  have registered : timed.strikes.get? browser = strikes := stands.registered
  have counted : timed.counts.get? browser = strikes.map fun _ => 0 := stands.counted
  have judged : timed.expires elapsed = a.expires elapsed := rfl
  rw [swept]
  refine { distinct := sweepAfter_distinct distinct elapsed, lastSweep := rfl,
           counted := ?_, registered := ?_ }
  · rw [get?_counts_sweepAfter distinct.strikes, registered, counted, judged]
    cases strikes with
    | none => rfl
    | some strikes =>
        cases exceeds : a.expires elapsed strikes <;> simp [Option.filter, exceeds]
  · rw [get?_strikes_sweepAfter distinct.strikes, registered, judged]

end Stands

/-! ## Sweeps at a regular distance -/

/-- The time since the last sweep, if sweeps follow at a distance that a signed number can
hold. -/
theorem elapsed?_of_regular {a : Admission} {last period : Nat} (timed : a.lastSweep = ⟨last⟩)
    (started : 0 < last) (positive : 0 < period) (short : period < 2 ^ 63) :
    a.elapsed? ⟨last + period⟩ = some period := by
  have distance : Timestamp.since ⟨last + period⟩ a.lastSweep = period := by
    rw [timed]
    unfold Timestamp.since
    have advanced : ((last + period : Nat) : Int) - (last : Nat) = period := by omega
    simp only [advanced]
    have size : UInt64.size = 18446744073709551616 := rfl
    have low : -((UInt64.size : Int) / 2) ≤ period := by omega
    have high : (period : Int) < ((UInt64.size : Int) + 1) / 2 := by omega
    exact Int.bmod_eq_of_le low high
  unfold elapsed?
  simp only [distance]
  have advances : ¬ (a.lastSweep.millis = 0 ∨ (period : Int) ≤ 0) := by
    rw [timed]
    simp only []
    omega
  rw [if_neg advances, Int.toNat_natCast]

/-- The number of regular sweeps that an idle browser survives. -/
def patience (maxInterval period : Nat) : Nat :=
  min (2 * maxInterval) (2 ^ 64 - 1) / period

theorem threshold_eq_patience (a : Admission) (period : Nat) :
    a.threshold period = patience a.maxInterval period := by
  unfold threshold patience
  have size : UInt64.size = 18446744073709551616 := rfl
  have capped : min (2 * min a.maxInterval (UInt64.size - 1)) (UInt64.size - 1) =
      min (2 * a.maxInterval) (2 ^ 64 - 1) := by omega
  rw [capped]

/-- An idle browser survives so many sweeps if it is patient enough, or if its strikes, which
stop at the largest number of 32 bits, cannot exceed the threshold. -/
abbrev Survives (patience sweeps : Nat) : Prop :=
  sweeps ≤ patience ∨ 2 ^ 32 - 1 ≤ patience

/-- The strikes that an idle browser has after so many regular sweeps, if it is still there. -/
def strikesAfter (patience sweeps : Nat) : Option Nat :=
  if Survives patience sweeps then some (sweeps % UInt32.size) else none

theorem strikesAfter_succ (patience sweeps : Nat) :
    strikesAfter patience (sweeps + 1) =
      ((strikesAfter patience sweeps).filter fun strikes =>
        !decide (patience < struck strikes)).map fun strikes => (strikes + 1) % UInt32.size := by
  have size : UInt32.size = 4294967296 := rfl
  unfold strikesAfter struck
  simp only [size]
  by_cases here : Survives patience sweeps
  · rw [if_pos here]
    by_cases next : Survives patience (sweeps + 1)
    · have below : ¬ patience < min (sweeps % 4294967296 + 1) (4294967296 - 1) := by
        rcases next with enough | unreachable <;> omega
      rw [if_pos next]
      simp [Option.filter, below]
    · have last := not_or.mp next
      have exceeds : patience < min (sweeps % 4294967296 + 1) (4294967296 - 1) := by
        rcases here with enough | unreachable <;> omega
      rw [if_neg next]
      simp [Option.filter, exceeds]
  · have gone : ¬ Survives patience (sweeps + 1) := by
      have before := not_or.mp here
      exact not_or.mpr ⟨by omega, before.2⟩
    rw [if_neg here, if_neg gone]
    rfl

/-- Sweeps at a regular distance after a start, with operations before, between and after. -/
def timetable (start period : Nat) (between : Nat → List AdmissionEvent) :
    Nat → List AdmissionEvent
  | 0 => between 0
  | sweeps + 1 =>
      timetable start period between sweeps ++
        .sweep ⟨start + (sweeps + 1) * period⟩ :: between (sweeps + 1)

theorem run_append (a : Admission) (first second : List AdmissionEvent) :
    a.run (first ++ second) = (a.run first).run second :=
  List.foldl_append

namespace Stands

variable {a : Admission} {browser : BrowserId}

theorem count?_eq {now : Timestamp} {bound sweeps : Nat}
    (stands : a.Stands browser now (strikesAfter bound sweeps)) :
    a.count? browser = if Survives bound sweeps then some 0 else none := by
  unfold count?
  rw [stands.counted]
  unfold strikesAfter
  split <;> rfl

theorem isSweeping_eq {now : Timestamp} {bound sweeps : Nat}
    (stands : a.Stands browser now (strikesAfter bound sweeps)) :
    a.isSweeping browser = decide (Survives bound sweeps) := by
  rw [Admission.isSweeping_eq, stands.registered]
  unfold strikesAfter
  split
  next survives => exact (decide_eq_true survives).symm
  next evicted => exact (decide_eq_false evicted).symm

/-- One more regular sweep. -/
theorem sweep_regular {start period sweeps : Nat}
    (stands : a.Stands browser ⟨start + sweeps * period⟩
      (strikesAfter (patience a.maxInterval period) sweeps))
    (started : 0 < start) (positive : 0 < period) (short : period < 2 ^ 63) :
    (a.sweep ⟨start + (sweeps + 1) * period⟩).2.Stands browser
      ⟨start + (sweeps + 1) * period⟩
      (strikesAfter (patience a.maxInterval period) (sweeps + 1)) := by
  have next : start + (sweeps + 1) * period = start + sweeps * period + period := by
    rw [Nat.succ_mul, Nat.add_assoc]
  have measured :=
    elapsed?_of_regular stands.lastSweep (Nat.add_pos_left started _) positive short
  have swept := stands.sweep measured
  unfold expires at swept
  rw [a.threshold_eq_patience, ← strikesAfter_succ] at swept
  rw [next]
  exact swept

/-- By induction over the sweeps: what happens in between leaves the browser where it stands. -/
theorem run_timetable {start period : Nat} {between : Nat → List AdmissionEvent}
    (stands : a.Stands browser ⟨start⟩ (some 0)) (started : 0 < start) (positive : 0 < period)
    (short : period < 2 ^ 63)
    (leave : ∀ sweeps, ∀ event ∈ between sweeps, event.leaves browser = true) (sweeps : Nat) :
    (a.run (timetable start period between sweeps)).Stands browser ⟨start + sweeps * period⟩
      (strikesAfter (patience a.maxInterval period) sweeps) := by
  induction sweeps with
  | zero =>
      have fresh : strikesAfter (patience a.maxInterval period) 0 = some 0 :=
        if_pos (Or.inl (Nat.zero_le _))
      rw [fresh, Nat.zero_mul, Nat.add_zero]
      exact stands.run (leave 0)
  | succ sweeps inductionHypothesis =>
      have interval := a.run_maxInterval (timetable start period between sweeps)
      rw [← interval] at inductionHypothesis
      have swept := inductionHypothesis.sweep_regular started positive short
      rw [interval] at swept
      unfold timetable
      rw [run_append]
      exact swept.run (leave (sweeps + 1))

end Stands

/-- In every run, a browser that gives back its only connection after a sweep starts over without
strikes.  Under regular sweeps, and whatever happens to the other browsers in between, it
stays idle and registered for exactly as many sweeps as its patience says, and the next sweep
evicts it and counts it once.  If the patience reaches the largest number of 32 bits it is
never evicted.  A sweep returns the number of browsers whose counter it removes. -/
theorem run_evicts_after_patience (limit : SessionLimit) (maxInterval : Nat)
    (events : List AdmissionEvent) (browser : BrowserId) (start period : Nat)
    (between : Nat → List AdmissionEvent) (started : 0 < start) (positive : 0 < period)
    (short : period < 2 ^ 63)
    (timed : (run { limit, maxInterval } events).lastSweep = ⟨start⟩)
    (last : (run { limit, maxInterval } events).count? browser = some 1)
    (leave : ∀ sweeps, ∀ event ∈ between sweeps, event.leaves browser = true) :
    let idle := (run { limit, maxInterval } events).step (.release browser)
    let before sweeps := idle.run (timetable start period between sweeps)
    let swept sweeps := (before sweeps).sweep ⟨start + (sweeps + 1) * period⟩
    let bound := patience maxInterval period
    (idle.count? browser = some 0 ∧ idle.strikes.get? browser = some 0) ∧
      ∀ sweeps,
        ((before sweeps).count? browser = if Survives bound sweeps then some 0 else none) ∧
        ((before sweeps).isSweeping browser = decide (Survives bound sweeps)) ∧
        ((swept sweeps).2.count? browser =
          if Survives bound (sweeps + 1) then some 0 else none) ∧
        ((swept sweeps).2.isSweeping browser = decide (Survives bound (sweeps + 1))) ∧
        (swept sweeps).1 = (removed (before sweeps) (swept sweeps).2).length ∧
        (removed (before sweeps) (swept sweeps).2).count browser =
          if sweeps = bound ∧ bound < 2 ^ 32 - 1 then 1 else 0 := by
  intro idle before swept bound
  have released := releaseQuietly_last last
  have concerns := (run { limit, maxInterval } events).releaseQuietly_concerns browser
  have distinct : idle.Distinct :=
    concerns.distinct (run_distinct (distinct_empty limit maxInterval) events)
  have interval : idle.maxInterval = maxInterval :=
    concerns.maxInterval.trans (run_maxInterval _ events)
  have fresh : idle.Stands browser ⟨start⟩ (some 0) :=
    { distinct, lastSweep := concerns.lastSweep.trans timed,
      counted := released.1, registered := released.2 }
  refine ⟨released, fun sweeps => ?_⟩
  have still := fresh.run_timetable started positive short leave sweeps
  have unhurried : (before sweeps).maxInterval = maxInterval :=
    (run_maxInterval idle _).trans interval
  rw [interval, ← unhurried] at still
  have next := still.sweep_regular started positive short
  rw [unhurried] at still next
  refine ⟨still.count?_eq, still.isSweeping_eq, next.count?_eq, next.isSweeping_eq,
    sweep_fst still.distinct _, ?_⟩
  rw [count_removed still.distinct]
  have gone : ((before sweeps).count? browser).isSome ∧ (swept sweeps).2.count? browser = none ↔
      sweeps = bound ∧ bound < 2 ^ 32 - 1 := by
    rw [still.count?_eq, next.count?_eq]
    by_cases here : Survives bound sweeps
    · by_cases later : Survives bound (sweeps + 1)
      · rw [if_pos here, if_pos later]
        refine iff_of_false (fun both => nomatch both.2) ?_
        rcases later with enough | unreachable <;> omega
      · have spent := not_or.mp later
        rw [if_pos here, if_neg later]
        refine iff_of_true ⟨rfl, rfl⟩ ?_
        rcases here with enough | unreachable <;> omega
    · have spent := not_or.mp here
      rw [if_neg here]
      exact iff_of_false (fun both => nomatch both.1) (by omega)
  exact if_congr gone rfl rfl

/-- A browser that was struck, came back and left again, among operations of another one. -/
theorem run_evicts_after_patience_returned :
    let events : List AdmissionEvent := [.sweep ⟨1000⟩, .acquire ⟨"b"⟩, .release ⟨"b"⟩,
      .sweep ⟨1010⟩, .acquire ⟨"c"⟩, .acquire ⟨"b"⟩]
    let between (_ : Nat) : List AdmissionEvent :=
      [.release ⟨"c"⟩, .release ⟨"b"⟩, .acquire ⟨"c"⟩]
    let idle := (run { limit := .atMost 2, maxInterval := 10 } events).step (.release ⟨"b"⟩)
    let before sweeps := idle.run (timetable 1010 10 between sweeps)
    idle.strikes.get? ⟨"b"⟩ = some 0 ∧ (before 2).count? ⟨"b"⟩ = some 0 ∧
      (before 3).count? ⟨"b"⟩ = none := by
  intro events between idle before
  have evicted := run_evicts_after_patience (.atMost 2) 10 events ⟨"b"⟩ 1010 10 between (by decide)
    (by decide) (by decide) (by decide +kernel) (by decide +kernel) fun _ => by decide +kernel
  exact ⟨evicted.1.2, (evicted.2 2).1, (evicted.2 3).1⟩

end Admission
end Bayeux
