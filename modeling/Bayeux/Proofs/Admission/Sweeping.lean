import Bayeux.Proofs.Admission.Counting

namespace Bayeux

/-!
# Who is registered for sweeping

A browser is registered for sweeping exactly while its counter stands at zero.  The
counters and the register are two tables, and each operation changes them at different
points: an acquisition takes the browser off the register before it knows whether
it will be granted, and an eviction removes the browser from both.  The predicate
`Registers` says that the tables agree, and every operation keeps it, a release
without a matching acquisition included.
-/

namespace Admission

/-- The table has a numeric limit that no counter exceeds, and exactly the browsers
whose counter stands at zero are registered. -/
structure Registers (a : Admission) (max : Nat) : Prop where
  limit : a.limit = .atMost max
  /-- No browser is registered twice. -/
  distinct : a.strikes.keys.Nodup
  bounded : ∀ browser count, a.count? browser = some count → count ≤ max
  idle : ∀ browser, a.isSweeping browser = true ↔ a.count? browser = some 0

theorem isSweeping_eq (a : Admission) (browser : BrowserId) :
    a.isSweeping browser = (a.strikes.get? browser).isSome := rfl

theorem registers_empty (max maxInterval : Nat) :
    Registers { limit := .atMost max, maxInterval } max where
  limit := rfl
  distinct := List.nodup_nil
  bounded := fun _ _ absent => by cases absent
  idle := fun _ => iff_of_false (fun registered => by cases registered) fun found => by cases found

namespace Registers

variable {a : Admission} {max : Nat}

/-- A browser that holds connections is not registered. -/
theorem get?_strikes_eq_none (registers : a.Registers max) {browser : BrowserId}
    (held : a.counts.getD browser 0 ≠ 0) : a.strikes.get? browser = none := by
  cases registered : a.strikes.get? browser with
  | none => rfl
  | some strikes =>
      have idle := (registers.idle browser).mp (by rw [isSweeping_eq, registered]; rfl)
      unfold count? at idle
      unfold Table.getD at held
      rw [idle] at held
      exact absurd rfl held

/-- One counter may be written if its browser is registered afterwards just when it
stands at zero, and no other browser is concerned. -/
theorem of_write (registers : a.Registers max) {next : Admission} {browser : BrowserId}
    {count : Nat} (limit : next.limit = a.limit)
    (counts : next.counts = a.counts.insert browser count) (low : count ≤ max)
    (distinct : next.strikes.keys.Nodup)
    (own : (next.strikes.get? browser).isSome = true ↔ count = 0)
    (others : ∀ other, other ≠ browser → next.strikes.get? other = a.strikes.get? other) :
    next.Registers max := by
  have counted : ∀ other, next.count? other =
      if other = browser then some count else a.count? other := by
    intro other
    unfold count?
    rw [counts, Table.get?_insert]
  refine { limit := limit.trans registers.limit, distinct, bounded := ?_, idle := ?_ }
  · intro other found here
    rw [counted] at here
    by_cases same : other = browser
    · rw [if_pos same] at here
      exact Option.some.inj here ▸ low
    · rw [if_neg same] at here
      exact registers.bounded other found here
  · intro other
    rw [counted, isSweeping_eq]
    by_cases same : other = browser
    · rw [if_pos same, same, own, Option.some.injEq]
    · rw [if_neg same, others other same]
      exact registers.idle other

/-- A counter may be written at zero together with a registration, whatever the
register said of the browser before. -/
theorem of_register (registers : a.Registers max) {next : Admission} {browser : BrowserId}
    {strikes : Table BrowserId Nat} (limit : next.limit = a.limit)
    (counts : next.counts = a.counts.insert browser 0)
    (registered : next.strikes = strikes.insert browser 0) (distinct : strikes.keys.Nodup)
    (others : ∀ other, other ≠ browser → strikes.get? other = a.strikes.get? other) :
    next.Registers max := by
  apply registers.of_write limit counts (Nat.zero_le max)
  · rw [registered]
    exact Table.nodup_keys_insert distinct browser 0
  · rw [registered, Table.get?_insert_self]
    exact iff_of_true rfl rfl
  · intro other different
    rw [registered, Table.get?_insert_of_ne strikes different, others other different]

/-! ## Acquiring and releasing -/

/-- Before an acquisition is decided its browser is off the register. -/
theorem get?_taken_off (registers : a.Registers max) (browser other : BrowserId) :
    (if a.counts.getD browser 0 = 0 then a.strikes.erase browser else a.strikes).get? other =
      if other = browser then none else a.strikes.get? other := by
  by_cases idle : a.counts.getD browser 0 = 0
  · rw [if_pos idle, Table.get?_erase]
  · rw [if_neg idle]
    by_cases same : other = browser
    · rw [if_pos same, same, registers.get?_strikes_eq_none idle]
    · rw [if_neg same]

theorem acquire (registers : a.Registers max) (browser : BrowserId) :
    (a.acquire browser).2.Registers max := by
  have off := registers.get?_taken_off browser
  have distinct : (if a.counts.getD browser 0 = 0 then a.strikes.erase browser
      else a.strikes).keys.Nodup := by
    split
    · exact Table.nodup_keys_erase registers.distinct browser
    · exact registers.distinct
  have others : ∀ other, other ≠ browser → _ = a.strikes.get? other :=
    fun other different => (off other).trans (if_neg different)
  have gone : ∀ count : Nat, 0 < count → (((if a.counts.getD browser 0 = 0 then
      a.strikes.erase browser else a.strikes).get? browser).isSome = true ↔ count = 0) := by
    intro count positive
    rw [off browser, if_pos rfl]
    exact iff_of_false (by simp) (Nat.pos_iff_ne_zero.mp positive)
  unfold Admission.acquire
  rw [registers.limit]
  simp only []
  by_cases granted : a.counts.getD browser 0 + 1 ≤ max
  · rw [if_pos granted]
    exact registers.of_write registers.limit.symm rfl granted distinct
      (gone _ (Nat.succ_pos _)) others
  · rw [if_neg granted]
    by_cases idle : a.counts.getD browser 0 = 0
    · -- a rejection that gives back the only increment registers its browser again
      rw [if_pos idle] at distinct others
      simp only [if_pos idle]
      exact registers.of_register registers.limit.symm (congrArg (a.counts.insert browser) idle)
        rfl distinct others
    · have low : a.counts.getD browser 0 ≤ max := by
        cases found : a.counts.get? browser with
        | none =>
            unfold Table.getD
            rw [found]
            exact Nat.zero_le max
        | some held =>
            unfold Table.getD
            rw [found]
            exact registers.bounded browser held found
      have still := gone _ (Nat.pos_of_ne_zero idle)
      rw [if_neg idle] at distinct others still
      simp only [if_neg idle]
      exact registers.of_write registers.limit.symm rfl low distinct still others

theorem releaseQuietly (registers : a.Registers max) (browser : BrowserId) :
    (a.releaseQuietly browser).Registers max := by
  unfold Admission.releaseQuietly Admission.release
  cases found : a.counts.get? browser with
  | none => exact registers
  | some held =>
      have low : held ≤ max := registers.bounded browser held found
      cases held with
      | zero => exact registers
      | succ rest =>
          have held : a.counts.getD browser 0 ≠ 0 := by
            unfold Table.getD
            rw [found]
            exact Nat.succ_ne_zero rest
          have less : rest ≤ max := Nat.le_of_succ_le low
          by_cases last : rest = 0
          · simp only [if_pos last]
            exact registers.of_register rfl (congrArg (a.counts.insert browser) last) rfl
              registers.distinct fun _ _ => rfl
          · simp only [if_neg last]
            have absent : (a.strikes.get? browser).isSome = true ↔ rest = 0 := by
              rw [registers.get?_strikes_eq_none held]
              exact iff_of_false (by simp) last
            exact registers.of_write rfl rfl less registers.distinct absent fun _ _ => rfl

end Registers

/-! ## Sweeping -/

/-- Whether a sweep evicts a browser with these strikes, if it is idle. -/
def expires (a : Admission) (elapsed strikes : Nat) : Bool :=
  a.threshold elapsed < struck strikes

/-- A sweep takes those who exceed the threshold off the register and strikes the
others. -/
theorem get?_strikes_sweepAfter {a : Admission} (distinct : a.strikes.keys.Nodup) (elapsed : Nat)
    (browser : BrowserId) :
    (a.sweepAfter elapsed).2.strikes.get? browser =
      ((a.strikes.get? browser).filter fun strikes => !a.expires elapsed strikes).map
        fun strikes => (strikes + 1) % UInt32.size := by
  rw [← Table.get?_filter distinct fun entry => !a.expires elapsed entry.2]
  exact Table.get?_map ⟨_⟩ (fun strikes => (strikes + 1) % UInt32.size) browser

/-- The browsers whose counters a sweep removes: they exceed the threshold and stand at zero. -/
def evicted (a : Admission) (elapsed : Nat) : List BrowserId :=
  ((a.strikes.entries.filter fun entry => a.expires elapsed entry.2).map (·.1)).filter
    fun browser => a.counts.get? browser == some 0

theorem mem_evicted {a : Admission} (distinct : a.strikes.keys.Nodup) (elapsed : Nat)
    (browser : BrowserId) :
    browser ∈ a.evicted elapsed ↔
      (a.strikes.get? browser).any (a.expires elapsed) = true ∧
        a.counts.get? browser = some 0 := by
  have left : browser ∈ (a.strikes.entries.filter fun entry =>
      a.expires elapsed entry.2).map (·.1) ↔
        (a.strikes.get? browser).any (a.expires elapsed) = true := by
    rw [Option.any_eq_true]
    constructor
    · intro member
      rcases List.mem_map.mp member with ⟨entry, listed, rfl⟩
      rcases List.mem_filter.mp listed with ⟨registered, exceeds⟩
      exact ⟨entry.2, Table.get?_eq_some_of_mem distinct registered, exceeds⟩
    · rintro ⟨strikes, registered, exceeds⟩
      exact List.mem_map.mpr
        ⟨_, List.mem_filter.mpr ⟨Table.mem_of_get? registered, exceeds⟩, rfl⟩
  unfold evicted
  rw [List.mem_filter, left, beq_iff_eq]

/-- A sweep removes the counters that stand at zero of those who exceed the threshold. -/
theorem get?_counts_sweepAfter {a : Admission} (distinct : a.strikes.keys.Nodup) (elapsed : Nat)
    (browser : BrowserId) :
    (a.sweepAfter elapsed).2.counts.get? browser =
      if (a.strikes.get? browser).any (a.expires elapsed) && a.counts.get? browser == some 0
      then none else a.counts.get? browser := by
  have gone : (a.evicted elapsed).contains browser =
      ((a.strikes.get? browser).any (a.expires elapsed) && a.counts.get? browser == some 0) := by
    rw [Bool.eq_iff_iff, List.contains_iff_mem, Bool.and_eq_true, beq_iff_eq]
    exact mem_evicted distinct elapsed browser
  have kept : (a.sweepAfter elapsed).2.counts.get? browser =
      if !(a.evicted elapsed).contains browser then a.counts.get? browser else none :=
    Table.get?_filter_keys a.counts (fun browser => !(a.evicted elapsed).contains browser) browser
  rw [kept, gone]
  cases ((a.strikes.get? browser).any (a.expires elapsed) && a.counts.get? browser == some 0) <;>
    rfl

namespace Registers

variable {a : Admission} {max : Nat}

/-- Whoever exceeds the threshold leaves both tables, since its counter stands at
zero, and all others stay in both. -/
theorem sweepAfter (registers : a.Registers max) (elapsed : Nat) :
    (a.sweepAfter elapsed).2.Registers max where
  limit := registers.limit
  distinct := by
    let kept : Table BrowserId Nat :=
      ⟨a.strikes.entries.filter fun entry => !a.expires elapsed entry.2⟩
    have fewer : kept.keys.Nodup := registers.distinct.sublist (List.filter_sublist.map _)
    rw [← Table.keys_map kept fun strikes => (strikes + 1) % UInt32.size] at fewer
    exact fewer
  bounded := by
    intro browser count found
    unfold count? at found
    rw [get?_counts_sweepAfter registers.distinct] at found
    split at found
    · cases found
    · exact registers.bounded browser count found
  idle := by
    intro browser
    have agree := registers.idle browser
    rw [isSweeping_eq] at agree ⊢
    unfold count? at agree ⊢
    rw [get?_strikes_sweepAfter registers.distinct, get?_counts_sweepAfter registers.distinct,
      Option.isSome_map]
    cases registered : a.strikes.get? browser with
    | none => simpa [registered] using agree
    | some strikes =>
        rw [registered] at agree
        rw [agree.mp rfl]
        cases exceeds : a.expires elapsed strikes <;> simp [exceeds]

theorem sweep (registers : a.Registers max) (now : Timestamp) :
    (a.sweep now).2.Registers max := by
  have timed : ({ a with lastSweep := now } : Admission).Registers max :=
    { registers with }
  unfold Admission.sweep
  cases a.elapsed? now with
  | none => exact timed
  | some elapsed => exact timed.sweepAfter elapsed

end Registers
end Admission

/-! ## Runs -/

/-- What is asked of an admission table.  A release need not match an acquisition. -/
inductive AdmissionEvent where
  | acquire (browser : BrowserId)
  | release (browser : BrowserId)
  | sweep (now : Timestamp)
deriving DecidableEq, Repr

namespace Admission

def step (a : Admission) : AdmissionEvent → Admission
  | .acquire browser => (a.acquire browser).2
  | .release browser => a.releaseQuietly browser
  | .sweep now => (a.sweep now).2

def run (a : Admission) (events : List AdmissionEvent) : Admission :=
  events.foldl step a

theorem step_registers {a : Admission} {max : Nat} (registers : a.Registers max)
    (event : AdmissionEvent) : (a.step event).Registers max := by
  cases event with
  | acquire browser => exact registers.acquire browser
  | release browser => exact registers.releaseQuietly browser
  | sweep now => exact registers.sweep now

theorem run_registers {a : Admission} {max : Nat} (registers : a.Registers max)
    (events : List AdmissionEvent) : (a.run events).Registers max := by
  induction events generalizing a with
  | nil => exact registers
  | cons event rest inductionHypothesis =>
      exact inductionHypothesis (step_registers registers event)

/-- In every run under a numeric limit, zero included, the browsers that are registered for
sweeping are those whose counter stands at zero: no idle counter is missed, and no browser that
holds a connection or has no counter is swept.  No counter exceeds the limit on the way, so an
acquisition never counts beyond one more than it. -/
theorem run_isSweeping_iff (max maxInterval : Nat) (events : List AdmissionEvent)
    (browser : BrowserId) :
    let last := run { limit := .atMost max, maxInterval } events
    (last.isSweeping browser = true ↔ last.count? browser = some 0) ∧
      ∀ count, last.count? browser = some count → count ≤ max := by
  intro last
  have registers : last.Registers max := run_registers (registers_empty max maxInterval) events
  exact ⟨registers.idle browser, registers.bounded browser⟩

/-- Under a limit of zero every refused browser is left idle and registered. -/
example :
    (run { limit := .atMost 0, maxInterval := 5 } [.acquire ⟨"b"⟩]).isSweeping ⟨"b"⟩ = true := by
  decide

end Admission
end Bayeux
