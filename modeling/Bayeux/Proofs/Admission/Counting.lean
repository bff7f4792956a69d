import Bayeux.Admission
import Bayeux.Proofs.Table
import Mathlib.Logic.Function.Basic

namespace Bayeux

/-!
# Admission as counting

An admission table keeps counters, strikes and the time of the last sweep.  To whoever asks
to be let in it is a bounded counter for each browser: an absent counter reads
as zero, and neither strikes nor sweeps are seen.  The predicate `Tallies`
compares a table with such a count, and every operation is described by what
it does to the count.
-/

/-- Whether a limit lets one more connection in beside those that are held. -/
def SessionLimit.admits : SessionLimit → Nat → Bool
  | unlimited, _ => true
  | deny, _ => false
  | atMost max, held => decide (held < max)

namespace Admission

/-- The table counts what `tally` counts, within the limit.  Without a numeric limit it
stays empty. -/
def Tallies (a : Admission) (tally : BrowserId → Nat) : Prop :=
  match a.limit with
  | .atMost max => ∀ browser, a.counts.getD browser 0 = tally browser ∧ tally browser ≤ max
  | _ => a.counts = ∅ ∧ a.strikes = ∅

/-- One more connection of a browser. -/
def raised (tally : BrowserId → Nat) (browser : BrowserId) : BrowserId → Nat :=
  Function.update tally browser (tally browser + 1)

/-- One connection of a browser less. -/
def lowered (tally : BrowserId → Nat) (browser : BrowserId) : BrowserId → Nat :=
  Function.update tally browser (tally browser - 1)

theorem raised_apply (tally : BrowserId → Nat) (browser other : BrowserId) :
    raised tally browser other = tally other + if browser = other then 1 else 0 := by
  unfold raised
  by_cases same : other = browser
  · subst same
    rw [Function.update_self, if_pos rfl]
  · rw [Function.update_of_ne same, if_neg (fun equal => same equal.symm), Nat.add_zero]

theorem lowered_apply (tally : BrowserId → Nat) (browser other : BrowserId) :
    lowered tally browser other = tally other - if browser = other then 1 else 0 := by
  unfold lowered
  by_cases same : other = browser
  · subst same
    rw [Function.update_self, if_pos rfl]
  · rw [Function.update_of_ne same, if_neg (fun equal => same equal.symm), Nat.sub_zero]

theorem tallies_atMost_iff {a : Admission} {max : Nat} (numeric : a.limit = .atMost max)
    (tally : BrowserId → Nat) :
    a.Tallies tally ↔
      ∀ browser, a.counts.getD browser 0 = tally browser ∧ tally browser ≤ max := by
  unfold Tallies
  rw [numeric]

/-- A limit that is no number needs no counters. -/
theorem tallies_free_iff {a : Admission} (free : ¬ ∃ max, a.limit = .atMost max)
    (tally : BrowserId → Nat) : a.Tallies tally ↔ a.counts = ∅ ∧ a.strikes = ∅ := by
  unfold Tallies
  cases limited : a.limit with
  | unlimited => rfl
  | deny => rfl
  | atMost max => exact False.elim (free ⟨max, limited⟩)

theorem tallies_congr {a : Admission} {first second : BrowserId → Nat}
    (tallies : a.Tallies first) (same : ∀ browser, first browser = second browser) :
    a.Tallies second := by
  have equal : first = second := funext same
  rwa [equal] at tallies

/-- Tables that count the same read the same. -/
theorem getD_eq_of_tallies {a b : Admission} {tally : BrowserId → Nat} (first : a.Tallies tally)
    (second : b.Tallies tally) (limit : a.limit = b.limit) (browser : BrowserId) :
    a.counts.getD browser 0 = b.counts.getD browser 0 := by
  by_cases numeric : ∃ max, a.limit = .atMost max
  · rcases numeric with ⟨max, limited⟩
    rw [((tallies_atMost_iff limited tally).mp first browser).1,
      ((tallies_atMost_iff (limit ▸ limited) tally).mp second browser).1]
  · rw [((tallies_free_iff numeric tally).mp first).1,
      ((tallies_free_iff (limit ▸ numeric) tally).mp second).1]

/-- A table without entries counts nothing. -/
theorem tallies_zero (limit : SessionLimit) (maxInterval : Nat) :
    Tallies { limit, maxInterval } fun _ => 0 := by
  cases limit with
  | unlimited => exact ⟨rfl, rfl⟩
  | deny => exact ⟨rfl, rfl⟩
  | atMost max => exact fun _ => ⟨rfl, Nat.zero_le max⟩

/-! ## Acquiring -/

theorem acquire_limit (a : Admission) (browser : BrowserId) :
    (a.acquire browser).2.limit = a.limit := by
  unfold acquire
  split
  · rfl
  · rfl
  · simp only []
    split
    · rfl
    · split <;> rfl

/-- Without a numeric limit the answer is always the same and nothing is counted. -/
theorem acquire_of_free (a : Admission) (free : ¬ ∃ max, a.limit = .atMost max)
    (browser : BrowserId) (held : Nat) : a.acquire browser = (a.limit.admits held, a) := by
  unfold acquire
  cases limited : a.limit with
  | unlimited => rfl
  | deny => rfl
  | atMost max => exact False.elim (free ⟨max, limited⟩)

/-- A granted request raises the count by one, and a refused one leaves it as it was,
although it touches the counter. -/
theorem acquire_spec {a : Admission} {tally : BrowserId → Nat} (tallies : a.Tallies tally)
    (browser : BrowserId) :
    (a.acquire browser).1 = a.limit.admits (tally browser) ∧
      (a.acquire browser).2.Tallies
        (if a.limit.admits (tally browser) then raised tally browser else tally) := by
  by_cases numeric : ∃ max, a.limit = .atMost max
  · rcases numeric with ⟨max, limited⟩
    have counted := (tallies_atMost_iff limited tally).mp tallies
    have held := (counted browser).1
    have numeric := (a.acquire_limit browser).trans limited
    rw [tallies_atMost_iff numeric, limited]
    by_cases room : tally browser < max
    · have granted : tally browser + 1 ≤ max := room
      simp only [acquire, limited, held, SessionLimit.admits, granted, room, if_true,
        decide_true, true_and]
      intro other
      rw [Table.getD_insert, raised_apply]
      by_cases same : other = browser
      · subst same
        simp only [if_true]
        exact ⟨trivial, granted⟩
      · have different : ¬ browser = other := fun equal => same equal.symm
        simp only [if_neg same, if_neg different, Nat.add_zero]
        exact counted other
    · have refused : ¬ tally browser + 1 ≤ max := room
      simp only [acquire, limited, held, SessionLimit.admits, refused, room, if_false,
        decide_false, Bool.false_eq_true, true_and]
      intro other
      -- registering for a sweep is not seen by the counters
      have written : ∀ b : Admission, (b.register browser).counts = b.counts := fun _ => rfl
      have same : (a.counts.insert browser (tally browser)).getD other 0 = tally other := by
        rw [Table.getD_insert]
        by_cases equal : other = browser
        · rw [if_pos equal, equal]
        · rw [if_neg equal]
          exact (counted other).1
      refine ⟨?_, (counted other).2⟩
      by_cases idle : tally browser = 0
      · rw [if_pos idle, written]
        exact same
      · rw [if_neg idle]
        exact same
  · have unchanged := a.acquire_of_free numeric browser (tally browser)
    have empty := (tallies_free_iff numeric tally).mp tallies
    rw [unchanged]
    exact ⟨rfl, (tallies_free_iff numeric _).mpr empty⟩

/-! ## Releasing -/

/-- A release after a matching acquisition succeeds and lowers the count by one. -/
theorem release_spec {a : Admission} {tally : BrowserId → Nat} (tallies : a.Tallies tally)
    {browser : BrowserId} (held : 0 < tally browser) :
    ∃ released, a.release browser = .ok released ∧ released.limit = a.limit ∧
      released.Tallies (lowered tally browser) := by
  by_cases numeric : ∃ max, a.limit = .atMost max
  · rcases numeric with ⟨max, limited⟩
    have counted := (tallies_atMost_iff limited tally).mp tallies
    have here := (counted browser).1
    rcases Nat.exists_eq_succ_of_ne_zero (Nat.pos_iff_ne_zero.mp held) with ⟨rest, succ⟩
    have found : a.counts.get? browser = some (rest + 1) := by
      unfold Table.getD at here
      rw [succ] at here
      cases entry : a.counts.get? browser with
      | none =>
          rw [entry] at here
          cases here
      | some value =>
          rw [entry] at here
          exact congrArg some here
    have lower : ∀ other, (a.counts.insert browser rest).getD other 0 =
        lowered tally browser other := by
      intro other
      rw [Table.getD_insert, lowered_apply]
      by_cases same : other = browser
      · subst same
        rw [if_pos rfl, if_pos rfl, succ]
        rfl
      · rw [if_neg same, if_neg (fun equal => same equal.symm), Nat.sub_zero]
        exact (counted other).1
    have bounded : ∀ other, lowered tally browser other ≤ max := by
      intro other
      rw [lowered_apply]
      exact Nat.le_trans (Nat.sub_le _ _) (counted other).2
    unfold release
    rw [found]
    have kept : (if rest = 0 then
          register { a with counts := a.counts.insert browser rest } browser
        else { a with counts := a.counts.insert browser rest }).limit = a.limit := by
      split <;> rfl
    refine ⟨_, rfl, kept, ?_⟩
    rw [tallies_atMost_iff (kept.trans limited)]
    intro other
    refine ⟨?_, bounded other⟩
    split <;> exact lower other
  · have empty := (tallies_free_iff numeric tally).mp tallies
    refine ⟨a, ?_, rfl, (tallies_free_iff numeric _).mpr empty⟩
    unfold release
    rw [empty.1]
    rfl

/-- Whoever holds a connection gives it back without a fault. -/
theorem releaseQuietly_spec {a : Admission} {tally : BrowserId → Nat}
    (tallies : a.Tallies tally) {browser : BrowserId} (held : 0 < tally browser) :
    (a.releaseQuietly browser).limit = a.limit ∧
      (a.releaseQuietly browser).Tallies (lowered tally browser) := by
  rcases release_spec tallies held with ⟨released, outcome, limit, lower⟩
  unfold releaseQuietly
  rw [outcome]
  exact ⟨limit, lower⟩

/-! ## Sweeping -/

theorem sweep_of_unmeasured {a : Admission} {now : Timestamp}
    (unmeasured : a.elapsed? now = none) : a.sweep now = (0, { a with lastSweep := now }) := by
  unfold sweep
  rw [unmeasured]

theorem sweep_of_measured {a : Admission} {now : Timestamp} {elapsed : Nat}
    (measured : a.elapsed? now = some elapsed) :
    a.sweep now = ({ a with lastSweep := now } : Admission).sweepAfter elapsed := by
  unfold sweep
  rw [measured]

theorem sweep_limit (a : Admission) (now : Timestamp) : (a.sweep now).2.limit = a.limit := by
  unfold sweep
  split <;> rfl

/-- Only counters at zero are removed, so an absent counter reads as it did before. -/
theorem sweepAfter_getD (a : Admission) (elapsed : Nat) (browser : BrowserId) :
    (a.sweepAfter elapsed).2.counts.getD browser 0 = a.counts.getD browser 0 := by
  simp only [sweepAfter]
  generalize leaving : (a.strikes.entries.filter _).map (·.1) = names
  unfold Table.getD
  rw [Table.get?_filter_keys a.counts fun key =>
    !(names.filter fun browser => a.counts.get? browser == some 0).contains key]
  by_cases evicted : browser ∈ names.filter fun browser => a.counts.get? browser == some 0
  · have idle : a.counts.get? browser = some 0 :=
      beq_iff_eq.mp (List.mem_filter.mp evicted).2
    rw [List.contains_iff_mem.mpr evicted, idle]
    rfl
  · have kept : (names.filter fun browser => a.counts.get? browser == some 0).contains
        browser = false := by
      apply Bool.eq_false_iff.mpr
      intro contained
      exact evicted (List.contains_iff_mem.mp contained)
    rw [kept]
    rfl

/-- A sweep at any time leaves the count as it is. -/
theorem sweep_spec {a : Admission} {tally : BrowserId → Nat} (tallies : a.Tallies tally)
    (now : Timestamp) : (a.sweep now).2.Tallies tally := by
  by_cases numeric : ∃ max, a.limit = .atMost max
  · rcases numeric with ⟨max, limited⟩
    rw [tallies_atMost_iff limited] at tallies
    rw [tallies_atMost_iff ((a.sweep_limit now).trans limited)]
    intro browser
    refine ⟨?_, (tallies browser).2⟩
    unfold sweep
    split
    · exact (tallies browser).1
    · rw [sweepAfter_getD]
      exact (tallies browser).1
  · have empty := (tallies_free_iff numeric tally).mp tallies
    apply (tallies_free_iff (by rwa [sweep_limit]) tally).mpr
    unfold sweep
    split
    · exact empty
    · simp only [sweepAfter, empty.1, empty.2]
      exact ⟨rfl, rfl⟩

end Admission

/-! ## The record of underflows -/

namespace Metrics

theorem add_underflows (metrics : Metrics) {metric : Metric}
    (other : metric ≠ .admissionUnderflows) (amount : Int) :
    (metrics.add metric amount).get? .admissionUnderflows =
      metrics.get? .admissionUnderflows :=
  metrics.get?_insert_of_ne (fun same => other same.symm) _

theorem acquired_underflows (metrics : Metrics) (limit : SessionLimit) (granted : Bool) :
    (metrics.acquired limit granted).get? .admissionUnderflows =
      metrics.get? .admissionUnderflows := by
  cases limit with
  | unlimited => rfl
  | deny => rfl
  | atMost max => cases granted <;> exact metrics.add_underflows (by decide) _

theorem swept_underflows (metrics : Metrics) (elapsed : Option Nat) (evicted : Nat) :
    (metrics.swept elapsed evicted).get? .admissionUnderflows =
      metrics.get? .admissionUnderflows := by
  cases elapsed with
  | none => rfl
  | some span =>
      unfold Metrics.swept
      rw [add_underflows _ (by decide), add_underflows _ (by decide)]

end Metrics

end Bayeux
