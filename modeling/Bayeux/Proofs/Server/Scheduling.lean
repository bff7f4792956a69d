import Bayeux.Proofs.Server.Holding
import Bayeux.Server.Schedule

namespace Bayeux

/-!
# The schedule among all runs

The schedule lets every woken request look before the clock moves, and moves the clock
from one deadline to the next.  Each of its steps is made of events, so it is one order among
all that a run allows.

A run is punctual if it keeps to the rule behind the schedule: the clock moves only while
every task waits, and not past a timer that has not fired.
-/

namespace HeldRequest

/-- Where no ticket is used twice, a request is found by its own. -/
theorem find?_eq_some_of_mem {requests : List HeldRequest} {held : HeldRequest}
    (member : held ∈ requests) (distinct : (requests.map ticket).Nodup) :
    (requests.find? fun other => other.ticket == held.ticket) = some held := by
  induction requests with
  | nil => cases member
  | cons head rest inductionHypothesis =>
      have parts := List.nodup_cons.mp distinct
      rw [List.find?_cons]
      rcases List.mem_cons.mp member with same | later
      · rw [same, beq_self_eq_true]
      · have different : (head.ticket == held.ticket) = false := by
          apply beq_eq_false_iff_ne.mpr
          intro equal
          exact parts.1 (List.mem_map.mpr ⟨held, later, equal.symm⟩)
        rw [different]
        exact inductionHypothesis later parts.2

end HeldRequest

namespace Server

/-- Every task waits: none has been woken, and no timer is due. -/
structure IsIdle (s : Server) : Prop where
  asleep : s.engine.woken = []
  early : ∀ held ∈ s.held, s.now < held.deadline

instance (s : Server) : Decidable s.IsIdle :=
  decidable_of_iff (s.engine.woken = [] ∧ ∀ held ∈ s.held, s.now < held.deadline)
    ⟨fun both => ⟨both.1, both.2⟩, fun idle => ⟨idle.asleep, idle.early⟩⟩

/-- Whether an event keeps to the schedule.  Time passes only while every task waits, and at the
most up to the first deadline. -/
def Allows (s : Server) : ServerEvent → Prop
  | .pass span => s.IsIdle ∧ ∀ held ∈ s.held, s.now + span ≤ held.deadline
  | .request .. | .batch .. | .publish .. | .look _ | .expire _ | .drop _ | .sweep _ => True

instance (s : Server) (event : ServerEvent) : Decidable (s.Allows event) :=
  match event with
  | .pass _ => inferInstanceAs (Decidable (_ ∧ _))
  | .request .. | .batch .. | .publish .. | .look _ | .expire _ | .drop _ | .sweep _ =>
    inferInstanceAs (Decidable True)

end Server

namespace History

/-- Every event of a run keeps to the schedule. -/
def Punctual (around : Surroundings) : History → List ServerEvent → Prop
  | _, [] => True
  | h, event :: rest => h.server.Allows event ∧ Punctual around (h.step around event) rest

instance decidablePunctual (around : Surroundings) : (h : History) →
    (events : List ServerEvent) → Decidable (h.Punctual around events)
  | _, [] => inferInstanceAs (Decidable True)
  | h, event :: rest =>
    have := decidablePunctual around (h.step around event) rest
    inferInstanceAs (Decidable (_ ∧ _))

theorem punctual_append {around : Surroundings} {h : History}
    {earlier later : List ServerEvent} :
    h.Punctual around (earlier ++ later) ↔
      h.Punctual around earlier ∧ (h.run around earlier).Punctual around later := by
  induction earlier generalizing h with
  | nil => exact (true_and _).symm.to_iff
  | cons event rest inductionHypothesis =>
      exact (and_congr_right fun _ => inductionHypothesis).trans and_assoc.symm

end History

namespace Server

/-- Some events that bring no request and keep to the schedule make one server of another. -/
def Reaches (s t : Server) : Prop :=
  ∀ around intakes, ∃ events, History.Punctual around { server := s, intakes } events ∧
    History.run around { server := s, intakes } events = { server := t, intakes }

namespace Reaches

variable {s t : Server}

theorem refl (s : Server) : Reaches s s :=
  fun _ _ => ⟨[], trivial, rfl⟩

theorem trans {u : Server} (first : Reaches s t) (second : Reaches t u) : Reaches s u := by
  intro around intakes
  rcases first around intakes with ⟨earlier, punctual, reached⟩
  rcases second around intakes with ⟨later, onTime, last⟩
  refine ⟨earlier ++ later, ?_, ?_⟩
  · rw [History.punctual_append, reached]
    exact ⟨punctual, onTime⟩
  · rw [History.run_append, reached, last]

/-- What can be reached from the server of a history is the server of a later one. -/
theorem exists_run {h : History} (reaches : Reaches h.server t) (around : Surroundings) :
    ∃ more, h.Punctual around more ∧ (h.run around more).server = t := by
  rcases reaches around h.intakes with ⟨more, punctual, reached⟩
  exact ⟨more, punctual, congrArg History.server reached⟩

theorem of_event (event : ServerEvent) (allowed : s.Allows event)
    (step : ∀ around intakes, History.step around { server := s, intakes } event =
      { server := t, intakes := intakes ++ [] }) : Reaches s t := by
  intro around intakes
  refine ⟨[event], ⟨allowed, trivial⟩, ?_⟩
  change History.step around { server := s, intakes } event = _
  rw [step, List.append_nil]

theorem look {held : HeldRequest} (found : s.heldBy? held.ticket = some held) :
    Reaches s (s.resume held) := by
  apply of_event (.look held.ticket) trivial
  intro around intakes
  unfold History.step History.next
  simp only [found]
  rfl

theorem expire {held : HeldRequest} (found : s.heldBy? held.ticket = some held)
    (due : held.deadline ≤ s.now) : Reaches s (s.complete held) := by
  apply of_event (.expire held.ticket) trivial
  intro around intakes
  unfold History.step History.next
  simp only [found, if_pos due]
  rfl

theorem drop (s : Server) (ticket : Nat) : Reaches s (s.drop ticket) :=
  of_event (.drop ticket) trivial fun _ _ => rfl

/-- The clock moves to a time that no timer comes before. -/
theorem pass (s : Server) {time : Nat} (idle : s.now < time → s.IsIdle)
    (first : ∀ held ∈ s.held, time ≤ held.deadline) :
    Reaches s { s with now := max s.now time } := by
  by_cases later : s.now < time
  · have moved : s.now + (time - s.now) = max s.now time := by omega
    have allowed : s.Allows (.pass (time - s.now)) := by
      refine ⟨idle later, fun held member => ?_⟩
      have bound := first held member
      omega
    rw [← moved]
    exact of_event (.pass (time - s.now)) allowed fun _ _ => rfl
  · rw [Nat.max_eq_left (Nat.le_of_not_lt later)]
    exact refl s

end Reaches

/-- No ticket is used for two held requests. -/
def TicketsDistinct (s : Server) : Prop :=
  (s.held.map HeldRequest.ticket).Nodup

theorem held_releaseHold (s : Server) (held : HeldRequest) :
    (s.releaseHold held).held = s.held := by
  unfold releaseHold
  split <;> rfl

theorem now_releaseHold (s : Server) (held : HeldRequest) : (s.releaseHold held).now = s.now := by
  unfold releaseHold
  split <;> rfl

theorem answered_releaseHold (s : Server) (held : HeldRequest) :
    (s.releaseHold held).answered = s.answered := by
  unfold releaseHold
  split <;> rfl

theorem held_complete (s : Server) (held : HeldRequest) :
    (s.complete held).held = s.held.filter fun other => other.ticket != held.ticket :=
  held_releaseHold _ held

theorem now_complete (s : Server) (held : HeldRequest) : (s.complete held).now = s.now :=
  now_releaseHold _ held

namespace TicketsDistinct

variable {s : Server}

theorem of_sublist (distinct : s.TicketsDistinct) {t : Server}
    (fewer : t.held.Sublist s.held) : t.TicketsDistinct :=
  List.Nodup.sublist (fewer.map HeldRequest.ticket) distinct

theorem complete (distinct : s.TicketsDistinct) (held : HeldRequest) :
    (s.complete held).TicketsDistinct := by
  apply distinct.of_sublist
  rw [held_complete]
  exact List.filter_sublist

theorem resume (distinct : s.TicketsDistinct) (held : HeldRequest) :
    (s.resume held).TicketsDistinct := by
  have looked : TicketsDistinct
      { s with engine := s.engine.change held.client (·.resume held.ticket) } := distinct
  unfold Server.resume
  simp only []
  split
  · exact looked
  · exact looked.complete held

end TicketsDistinct

/-! ## The steps of the schedule -/

/-- What is kept when a held request looks is kept when all that were woken look. -/
theorem settle_induction (keeps : Server → Prop)
    (look : ∀ {s : Server} {held : HeldRequest}, s.heldBy? held.ticket = some held →
      keeps s → keeps (s.resume held))
    {s : Server} (start : keeps s) : keeps s.settle := by
  unfold settle
  generalize s.engine.woken = marked
  induction marked generalizing s with
  | nil => exact start
  | cons waiting rest inductionHypothesis =>
      rw [List.foldl_cons]
      apply inductionHypothesis
      split
      next held found =>
        have own : held.ticket = waiting.2 := by simpa using List.find?_some found
        exact look (own ▸ found) start
      next => exact start

/-- What is kept when a timer fires is kept when the timers of all requests whose time is up
fire one after the other. -/
theorem expire_induction (keeps : Server → Prop)
    (expire : ∀ {s : Server} {held : HeldRequest}, s.heldBy? held.ticket = some held →
      held.deadline ≤ s.now → keeps s → keeps (s.complete held))
    {s : Server} (distinct : s.TicketsDistinct) (start : keeps s) : keeps s.expire := by
  have all : ∀ (due : List HeldRequest) (s : Server), s.TicketsDistinct → keeps s →
      (due.map HeldRequest.ticket).Nodup →
        (∀ held ∈ due, held ∈ s.held ∧ held.deadline ≤ s.now) → keeps (due.foldl complete s) := by
    intro due
    induction due with
    | nil => exact fun s _ kept _ _ => kept
    | cons head rest inductionHypothesis =>
        intro s distinct kept once waiting
        have parts := List.nodup_cons.mp once
        rcases waiting head List.mem_cons_self with ⟨member, late⟩
        have first := expire (HeldRequest.find?_eq_some_of_mem member distinct) late kept
        apply inductionHypothesis _ (distinct.complete head) first parts.2
        intro held later
        rcases waiting held (List.mem_cons_of_mem head later) with ⟨there, time⟩
        have different : (held.ticket != head.ticket) = true := by
          apply bne_iff_ne.mpr
          intro equal
          exact parts.1 (List.mem_map.mpr ⟨held, later, equal⟩)
        rw [held_complete, now_complete]
        exact ⟨List.mem_filter.mpr ⟨there, different⟩, time⟩
  apply all _ s distinct start
  · exact List.Nodup.sublist (List.filter_sublist.map HeldRequest.ticket) distinct
  · intro held member
    rcases List.mem_filter.mp member with ⟨there, late⟩
    exact ⟨there, of_decide_eq_true late⟩

/-- What is kept when the clock moves, when a held request looks and when a timer fires is kept
while the clock goes to a time from one deadline to the next. -/
theorem advanceTo_induction (keeps : Server → Prop)
    (pass : ∀ {s : Server} (time : Nat), keeps s → keeps { s with now := max s.now time })
    (look : ∀ {s : Server} {held : HeldRequest}, s.heldBy? held.ticket = some held →
      keeps s → keeps (s.resume held))
    (expire : ∀ {s : Server} {held : HeldRequest}, s.heldBy? held.ticket = some held →
      held.deadline ≤ s.now → keeps s → keeps (s.complete held))
    {s : Server} (distinct : s.TicketsDistinct) (start : keeps s) (time : Nat) :
    keeps (s.advanceTo time) := by
  unfold advanceTo
  apply pass
  generalize s.deadlines time = deadlines
  induction deadlines generalizing s with
  | nil => exact start
  | cons deadline rest inductionHypothesis =>
      let moved : Server := { s with now := max s.now deadline }
      have once : moved.expire.TicketsDistinct :=
        expire_induction TicketsDistinct (fun _ _ kept => kept.complete _) distinct distinct
      have fired : keeps moved.expire := expire_induction keeps expire distinct (pass deadline start)
      exact inductionHypothesis (settle_induction TicketsDistinct (fun _ kept => kept.resume _) once)
        (settle_induction keeps look fired)

theorem reaches_settle (s : Server) : Reaches s s.settle :=
  settle_induction (Reaches s) (fun found reached => reached.trans (.look found)) (.refl s)

theorem reaches_expire {s : Server} (distinct : s.TicketsDistinct) : Reaches s s.expire :=
  expire_induction (Reaches s) (fun found due reached => reached.trans (.expire found due))
    distinct (.refl s)

end Server
end Bayeux
