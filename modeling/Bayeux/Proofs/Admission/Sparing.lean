import Bayeux.Proofs.Admission.Eviction

namespace Bayeux

/-!
# One sweep of any tables

The two tables need not agree.  A browser may be registered though it holds connections or has
no counter, and any time may have been recorded.  What a single sweep does is told here without
the history of the tables: from the time on the clock alone, whether it measures anything, and
for each browser from its own two entries, what becomes of them.
-/

/-! ## The distance that is measured -/

namespace Timestamp

variable {later earlier : Timestamp}

/-- Times of 64 bits are apart by a positive distance if the later one is ahead by less than
half of their range, or if it is behind by more than that. -/
theorem since_pos_iff (held : earlier.millis < 2 ^ 64) (given : later.millis < 2 ^ 64) :
    0 < later.since earlier ↔
      earlier.millis < later.millis ∧ later.millis < earlier.millis + 2 ^ 63 ∨
        later.millis + 2 ^ 63 < earlier.millis := by
  have size : UInt64.size = 18446744073709551616 := rfl
  unfold since Int.bmod
  simp only [size]
  split <;> omega

/-- A positive distance leads from the earlier time to the later one on a clock of 64 bits. -/
theorem add_since_of_pos (given : later.millis < 2 ^ 64) (positive : 0 < later.since earlier) :
    (later.since earlier).toNat < 2 ^ 63 ∧
      (earlier.millis + (later.since earlier).toNat) % 2 ^ 64 = later.millis := by
  have size : UInt64.size = 18446744073709551616 := rfl
  unfold since Int.bmod at *
  simp only [size] at *
  split at positive <;> omega

end Timestamp

namespace Admission

variable {a : Admission} {now : Timestamp} {elapsed : Nat}

theorem elapsed?_eq_none_iff :
    a.elapsed? now = none ↔ a.lastSweep.millis = 0 ∨ now.since a.lastSweep ≤ 0 := by
  unfold elapsed?
  simp only []
  split
  next skipped => exact iff_of_true rfl skipped
  next measured => exact iff_of_false nofun measured

theorem elapsed?_eq_some_iff :
    a.elapsed? now = some elapsed ↔ a.lastSweep.millis ≠ 0 ∧ 0 < now.since a.lastSweep ∧
      elapsed = (now.since a.lastSweep).toNat := by
  unfold elapsed?
  simp only []
  split
  next skipped =>
    refine iff_of_false nofun fun measured => ?_
    rcases skipped with first | still
    · exact measured.1 first
    · exact absurd measured.2.1 (Int.not_lt.mpr still)
  next measured =>
    obtain ⟨recorded, positive⟩ := not_or.mp measured
    rw [Option.some.injEq, eq_comm]
    exact ⟨fun same => ⟨recorded, Int.not_le.mp positive, same⟩, fun parts => parts.2.2⟩

theorem elapsed_pos (measured : a.elapsed? now = some elapsed) : 0 < elapsed := by
  obtain ⟨_, positive, rfl⟩ := elapsed?_eq_some_iff.mp measured
  omega

/-- From any tables and at any time, a sweep only records the time if there was none before, or
if the clock stands still, has gone back by at most half of its range, or has advanced by half
of it.  In all other cases it measures a time that is not zero.  So a clock that has gone back
by more than half of its range passes for one that has advanced. -/
theorem sweep_eq_of_times (a : Admission) (now : Timestamp)
    (held : a.lastSweep.millis < 2 ^ 64) (given : now.millis < 2 ^ 64) :
    let last := a.lastSweep.millis
    let recorded : Admission := { a with lastSweep := now }
    (last = 0 ∨ now.millis ≤ last ∧ last ≤ now.millis + 2 ^ 63 ∨ last + 2 ^ 63 ≤ now.millis →
      a.sweep now = (0, recorded)) ∧
    (last ≠ 0 → last < now.millis ∧ now.millis < last + 2 ^ 63 ∨ now.millis + 2 ^ 63 < last →
      ∃ elapsed, 0 < elapsed ∧ elapsed < 2 ^ 63 ∧ (last + elapsed) % 2 ^ 64 = now.millis ∧
        a.sweep now = recorded.sweepAfter elapsed) ∧
    ∀ elapsed, a.elapsed? now = some elapsed → elapsed ≠ 0 := by
  intro last recorded
  have advances := Timestamp.since_pos_iff held given
  refine ⟨fun skips => ?_, fun started measures => ?_, fun elapsed measured =>
    (elapsed_pos measured).ne'⟩
  · apply sweep_of_unmeasured
    rw [elapsed?_eq_none_iff, ← Int.not_lt, advances]
    omega
  · have positive := advances.mpr measures
    have measured := elapsed?_eq_some_iff.mpr ⟨started, positive, rfl⟩
    obtain ⟨short, leads⟩ := Timestamp.add_since_of_pos given positive
    exact ⟨_, elapsed_pos measured, short, leads, sweep_of_measured measured⟩

/-- The clock stands at the end of its range.  If it goes back by half of it nothing happens; if it
goes back to one it seems to have advanced by two, and an idle browser is evicted. -/
theorem sweep_eq_of_times_wrapped :
    let a : Admission :=
      { limit := .atMost 1, maxInterval := 0, counts := ⟨[(⟨"b"⟩, 0)]⟩
        strikes := ⟨[(⟨"b"⟩, 0)]⟩, lastSweep := ⟨2 ^ 64 - 1⟩ }
    a.sweep ⟨2 ^ 63 - 1⟩ = (0, { a with lastSweep := ⟨2 ^ 63 - 1⟩ }) ∧ (a.sweep ⟨1⟩).1 = 1 := by
  intro a
  constructor
  · exact (sweep_eq_of_times a ⟨2 ^ 63 - 1⟩ (by decide) (by decide)).1 (Or.inr (Or.inl (by decide)))
  · obtain ⟨elapsed, _, short, leads, swept⟩ :=
      (sweep_eq_of_times a ⟨1⟩ (by decide) (by decide)).2.1 (by decide) (Or.inr (by decide))
    have two : elapsed = 2 := by
      simp only [a] at leads
      omega
    rw [swept, two]
    decide

/-! ## What becomes of two entries -/

/-- Whether a sweep at a time finds that a browser has been struck too often: one strike more
exceeds the number of sweeps that it is allowed. -/
def IsOverdue (a : Admission) (now : Timestamp) (browser : BrowserId) : Prop :=
  ∃ elapsed strikes, a.elapsed? now = some elapsed ∧ a.strikes.get? browser = some strikes ∧
    patience a.maxInterval elapsed < min (strikes + 1) (2 ^ 32 - 1)

theorem expires_iff (strikes : Nat) :
    a.expires elapsed strikes = true ↔
      patience a.maxInterval elapsed < min (strikes + 1) (2 ^ 32 - 1) := by
  unfold expires
  rw [decide_eq_true_iff, threshold_eq_patience]
  rfl

theorem not_isOverdue_of_unmeasured (unmeasured : a.elapsed? now = none) (browser : BrowserId) :
    ¬ a.IsOverdue now browser := by
  rintro ⟨elapsed, _, measured, _⟩
  rw [unmeasured] at measured
  cases measured

theorem isOverdue_iff_of_measured (measured : a.elapsed? now = some elapsed)
    (browser : BrowserId) :
    a.IsOverdue now browser ↔ (a.strikes.get? browser).any (a.expires elapsed) = true := by
  rw [Option.any_eq_true]
  constructor
  · rintro ⟨other, strikes, same, registered, exceeds⟩
    rw [measured] at same
    cases same
    exact ⟨strikes, registered, (expires_iff strikes).mpr exceeds⟩
  · rintro ⟨strikes, registered, exceeds⟩
    exact ⟨elapsed, strikes, measured, registered, (expires_iff strikes).mp exceeds⟩

/-- A sweep keeps every counter but those that stand at zero and are overdue. -/
theorem count?_sweep_eq_some_iff (distinct : a.strikes.keys.Nodup) (browser : BrowserId)
    (count : Nat) :
    (a.sweep now).2.count? browser = some count ↔
      a.count? browser = some count ∧ ¬ (count = 0 ∧ a.IsOverdue now browser) := by
  unfold count?
  cases measured : a.elapsed? now with
  | none =>
      rw [sweep_of_unmeasured measured]
      exact (and_iff_left fun both => not_isOverdue_of_unmeasured measured browser both.2).symm
  | some elapsed =>
      let timed : Admission := { a with lastSweep := now }
      have kept : (timed.sweepAfter elapsed).2.counts.get? browser =
          if (a.strikes.get? browser).any (a.expires elapsed) && a.counts.get? browser == some 0
          then none else a.counts.get? browser :=
        get?_counts_sweepAfter (a := timed) distinct elapsed browser
      rw [sweep_of_measured measured, isOverdue_iff_of_measured measured, kept]
      split
      next gone =>
        obtain ⟨overdue, idle⟩ := Bool.and_eq_true_iff.mp gone
        refine iff_of_false (Option.some_ne_none count).symm ?_
        rintro ⟨found, spared⟩
        rw [eq_of_beq idle] at found
        exact spared ⟨(Option.some.inj found).symm, overdue⟩
      next stays =>
        refine (and_iff_left_of_imp ?_).symm
        rintro found ⟨rfl, overdue⟩
        exact stays (Bool.and_eq_true_iff.mpr ⟨overdue, beq_iff_eq.mpr found⟩)

/-- A sweep that measures some time strikes everyone who stays registered. -/
theorem get?_strikes_sweep_eq_some_iff (distinct : a.strikes.keys.Nodup) (browser : BrowserId)
    (strikes : Nat) :
    (a.sweep now).2.strikes.get? browser = some strikes ↔
      ¬ a.IsOverdue now browser ∧ ∃ before, a.strikes.get? browser = some before ∧
        strikes = if (a.elapsed? now).isSome then (before + 1) % 2 ^ 32 else before := by
  cases measured : a.elapsed? now with
  | none =>
      rw [sweep_of_unmeasured measured,
        and_iff_right (not_isOverdue_of_unmeasured measured browser)]
      change a.strikes.get? browser = some strikes ↔ _
      simp
  | some elapsed =>
      let timed : Admission := { a with lastSweep := now }
      have struck : (timed.sweepAfter elapsed).2.strikes.get? browser =
          ((a.strikes.get? browser).filter fun strikes => !a.expires elapsed strikes).map
            fun strikes => (strikes + 1) % 2 ^ 32 :=
        get?_strikes_sweepAfter (a := timed) distinct elapsed browser
      rw [sweep_of_measured measured, isOverdue_iff_of_measured measured, struck]
      cases a.strikes.get? browser with
      | none => simp
      | some before =>
          cases exceeds : a.expires elapsed before with
          | true => simp [Option.filter, exceeds]
          | false => simp [Option.filter, exceeds, eq_comm]

/-- The counters that are gone, in number. -/
theorem length_removed {before : Admission} (distinct : before.Distinct) (after : Admission) :
    (removed before after).length =
      {browser | (before.count? browser).isSome ∧ after.count? browser = none}.ncard := by
  have same : {browser | (before.count? browser).isSome ∧ after.count? browser = none} =
      {browser | browser ∈ removed before after} := by
    ext browser
    rw [Set.mem_ofPred_eq, Set.mem_ofPred_eq, mem_removed]
  have once : (removed before after).Nodup := distinct.counts.filter _
  rw [same, Table.ncard_setOf_mem once]

/-- Whatever the tables hold, a sweep keeps every counter as it is, except that it removes
those that stand at zero if the strikes of their browser exceed the threshold.  It takes just
the browsers whose strikes exceed the threshold off the register, and the others are struck once
if it measures any time.  It adds nothing to either table, and it returns how many counters it
removes. -/
theorem sweep_spares {a : Admission} (distinct : a.Distinct) (now : Timestamp) :
    let after := (a.sweep now).2
    (∀ browser count, after.count? browser = some count ↔
      a.count? browser = some count ∧ ¬ (count = 0 ∧ a.IsOverdue now browser)) ∧
    (∀ browser strikes, after.strikes.get? browser = some strikes ↔
      ¬ a.IsOverdue now browser ∧ ∃ before, a.strikes.get? browser = some before ∧
        strikes = if (a.elapsed? now).isSome then (before + 1) % 2 ^ 32 else before) ∧
    (a.sweep now).1 =
      {browser | (a.count? browser).isSome ∧ after.count? browser = none}.ncard := by
  intro after
  refine ⟨count?_sweep_eq_some_iff distinct.strikes,
    get?_strikes_sweep_eq_some_iff distinct.strikes, ?_⟩
  rw [sweep_fst distinct now]
  exact length_removed distinct after

/-- The strikes of the first browser are left from before it came back, the second has none, the
third has no counter and as many strikes as there can be, and only the fourth is both idle and
overdue. -/
theorem sweep_spares_stale :
    let a : Admission :=
      { limit := .atMost 1, maxInterval := 1
        counts := ⟨[(⟨"a"⟩, 1), (⟨"b"⟩, 0), (⟨"d"⟩, 0)]⟩
        strikes := ⟨[(⟨"a"⟩, 7), (⟨"c"⟩, 2 ^ 32 - 1), (⟨"d"⟩, 2)]⟩, lastSweep := ⟨5⟩ }
    let after := (a.sweep ⟨6⟩).2
    a.Distinct ∧ a.IsOverdue ⟨6⟩ ⟨"a"⟩ ∧ after.count? ⟨"a"⟩ = some 1 ∧
      after.count? ⟨"b"⟩ = some 0 ∧ after.strikes.get? ⟨"a"⟩ = none ∧
      {browser | (a.count? browser).isSome ∧ after.count? browser = none}.ncard = 1 := by
  intro a after
  have distinct : a.Distinct := ⟨by decide, by decide⟩
  have overdue : a.IsOverdue ⟨6⟩ ⟨"a"⟩ := ⟨1, 7, by decide, by decide, by decide⟩
  obtain ⟨counts, strikes, evicted⟩ := sweep_spares distinct ⟨6⟩
  refine ⟨distinct, overdue, (counts _ _).mpr ⟨by decide, fun both => absurd both.1 (by decide)⟩,
    (counts _ _).mpr ⟨by decide, ?_⟩, ?_, ?_⟩
  · have unregistered : a.strikes.get? ⟨"b"⟩ = none := by decide
    rintro ⟨_, _, _, _, registered, _⟩
    rw [unregistered] at registered
    cases registered
  · cases found : after.strikes.get? ⟨"a"⟩ with
    | none => rfl
    | some strikes' => exact absurd overdue ((strikes _ _).mp found).1
  · rw [← evicted]
    decide

end Admission
end Bayeux
