import Bayeux.Proofs.Table
import Bayeux.Session

namespace Bayeux

/-!
# No wake-up is lost

A wake-up reaches the tasks that are on the list of a session and is not kept for later
ones.  A task therefore puts itself on the list first, looks at the session next, and goes
to sleep only when it has found nothing.  Here these are separate steps, the two things
that a task looks at included, and anything may happen between any two of them.  A
wait that nothing interrupts is `Session.await`, and one that goes on after a
wake-up is `Session.resume`.
-/

/-- How far a waiting task has come. -/
inductive Stage where
  /-- About to be put on the list. -/
  | arriving
  /-- On the list, about to see whether the session is disconnected. -/
  | checking
  /-- On the list, about to see whether anything is queued. -/
  | counting
  | asleep
  /-- Woken and off the list, about to see whether the session is disconnected. -/
  | rechecking
  /-- Woken and off the list, about to see whether anything is queued. -/
  | recounting
deriving DecidableEq, Repr

/-- Whether a task is on the list of its session. -/
def Stage.isListed : Stage → Bool
  | checking | counting | asleep => true
  | arriving | rechecking | recounting => false

/-- Whether a task on the list has seen that the session was not disconnected. -/
def Stage.hasChecked : Stage → Bool
  | counting | asleep => true
  | arriving | checking | rechecking | recounting => false

theorem Stage.isListed_of_hasChecked {stage : Stage} (checked : stage.hasChecked = true) :
    stage.isListed = true := by
  cases stage <;> first | rfl | cases checked

/-- On a list where no task is named twice, a task may be taken off and put at the end, or have
its mark taken away in its place. -/
theorem Waiter.perm_renewed {waiters : List Waiter} {ticket : Nat}
    (distinct : (waiters.map Waiter.ticket).Nodup) (member : ticket ∈ waiters.map Waiter.ticket) :
    List.Perm (waiters.filter (fun waiter => waiter.ticket != ticket) ++ [Waiter.mk ticket false])
      (waiters.map fun waiter => if waiter.ticket = ticket then ⟨ticket, false⟩ else waiter) := by
  induction waiters with
  | nil => cases member
  | cons head rest inductionHypothesis =>
      have parts := List.nodup_cons.mp distinct
      rw [List.map_cons]
      by_cases own : head.ticket = ticket
      · have others : ∀ waiter ∈ rest, waiter.ticket ≠ ticket := by
          intro waiter listed same
          exact parts.1 (List.mem_map.mpr ⟨waiter, listed, same.trans own.symm⟩)
        have kept : rest.filter (fun waiter => waiter.ticket != ticket) = rest :=
          List.filter_eq_self.mpr fun waiter listed => bne_iff_ne.mpr (others waiter listed)
        have unchanged : rest.map (fun waiter =>
            if waiter.ticket = ticket then ⟨ticket, false⟩ else waiter) = rest :=
          (List.map_congr_left fun waiter listed => if_neg (others waiter listed)).trans
            (List.map_id rest)
        rw [List.filter_cons_of_neg (by simp [own]), kept, unchanged, if_pos own]
        exact List.perm_append_singleton _ rest
      · have later : ticket ∈ rest.map Waiter.ticket :=
          (List.mem_cons.mp member).resolve_left fun same => own same.symm
        rw [List.filter_cons, if_pos (bne_iff_ne.mpr own), if_neg own]
        exact (inductionHypothesis parts.2 later).cons head

namespace Session

/-- Puts a task on the list. -/
def enlist (s : Session) (ticket : Nat) : Session :=
  { s with waiters := s.waiters ++ [{ ticket }] }

/-- The tasks on the list. -/
def tickets (s : Session) : List Nat :=
  s.waiters.map Waiter.ticket

/-! ## The list -/

theorem tickets_wake (s : Session) : s.wake.tickets = s.tickets := by
  unfold tickets wake
  rw [List.map_map]
  rfl

/-- A wake-up reaches everyone on the list. -/
theorem woken_wake (s : Session) : s.wake.woken = s.wake.tickets := by
  have all : s.wake.waiters.filter Waiter.woken = s.wake.waiters := by
    apply List.filter_eq_self.mpr
    intro waiter member
    rcases List.mem_map.mp member with ⟨earlier, _, rfl⟩
    rfl
  unfold woken
  rw [all]
  rfl

theorem tickets_enlist (s : Session) (ticket : Nat) :
    (s.enlist ticket).tickets = s.tickets ++ [ticket] := by
  unfold tickets enlist
  rw [List.map_append]
  rfl

theorem tickets_leave (s : Session) (ticket : Nat) :
    (s.leave ticket).tickets = s.tickets.filter (· != ticket) := by
  unfold tickets leave
  rw [List.filter_map]
  rfl

theorem woken_enlist (s : Session) (ticket : Nat) : (s.enlist ticket).woken = s.woken := by
  unfold woken enlist
  rw [List.filter_append, List.map_append]
  exact List.append_nil _

theorem mem_woken_leave (s : Session) {ticket other : Nat} (different : other ≠ ticket) :
    other ∈ (s.leave ticket).woken ↔ other ∈ s.woken := by
  unfold woken leave
  constructor
  · intro member
    rcases List.mem_map.mp member with ⟨waiter, listed, same⟩
    rcases List.mem_filter.mp listed with ⟨inside, marked⟩
    exact List.mem_map.mpr
      ⟨waiter, List.mem_filter.mpr ⟨List.mem_of_mem_filter inside, marked⟩, same⟩
  · intro member
    rcases List.mem_map.mp member with ⟨waiter, listed, rfl⟩
    rcases List.mem_filter.mp listed with ⟨inside, marked⟩
    have stays : (waiter.ticket != ticket) = true := bne_iff_ne.mpr different
    exact List.mem_map.mpr
      ⟨waiter, List.mem_filter.mpr ⟨List.mem_filter.mpr ⟨inside, stays⟩, marked⟩, rfl⟩

/-- Nobody leaves who is not on the list. -/
theorem leave_eq_self {s : Session} {ticket : Nat} (absent : ticket ∉ s.tickets) :
    s.leave ticket = s := by
  have kept : s.waiters.filter (fun waiter => waiter.ticket != ticket) = s.waiters := by
    apply List.filter_eq_self.mpr
    intro waiter member
    apply bne_iff_ne.mpr
    intro same
    exact absent (List.mem_map.mpr ⟨waiter, member, same⟩)
  unfold leave
  rw [kept]

theorem leave_enlist {s : Session} {ticket : Nat} (absent : ticket ∉ s.tickets) :
    (s.enlist ticket).leave ticket = s := by
  have alone : (s.enlist ticket).leave ticket = s.leave ticket := by
    unfold leave enlist
    simp
  rw [alone, leave_eq_self absent]

/-- Going back to sleep in one's place and waiting anew at the end of the list differ only in
the order of the list. -/
theorem await_leave_resume {s : Session} {ticket : Nat} (distinct : s.tickets.Nodup)
    (member : ticket ∈ s.tickets) :
    (s.leave ticket).await ticket =
        { s.resume ticket with waiters := ((s.leave ticket).await ticket).waiters } ∧
      ((s.leave ticket).await ticket).waiters.Perm (s.resume ticket).waiters := by
  have same : (s.leave ticket).ready = s.ready := rfl
  unfold await resume
  rw [same]
  cases s.ready with
  | true => exact ⟨rfl, List.Perm.refl _⟩
  | false => exact ⟨rfl, Waiter.perm_renewed distinct member⟩

end Session

/-- A session with the tasks that wait for it. -/
structure Vigil where
  session : Session
  /-- How far each waiting task has come. -/
  stages : Table Nat Stage := ∅
  /-- The tasks whose wait has come to its end, the latest last. -/
  returned : List Nat := []

/-- What happens to a session and to the tasks that wait for it. -/
inductive VigilEvent where
  | deliver (m : Message)
  | takeQueue
  | startBatch
  | endBatch
  | disconnect
  /-- A task begins to wait. -/
  | arrive (ticket : Nat)
  /-- A task takes its next step. -/
  | proceed (ticket : Nat)
  /-- A task is dropped. -/
  | giveUp (ticket : Nat)

namespace Vigil

def enter (v : Vigil) (ticket : Nat) (stage : Stage) : Vigil :=
  { v with stages := v.stages.insert ticket stage }

/-- The end of a task, whatever it came to. -/
def dismiss (v : Vigil) (ticket : Nat) : Vigil :=
  { v with session := v.session.leave ticket, stages := v.stages.erase ticket }

def finish (v : Vigil) (ticket : Nat) : Vigil :=
  { v.dismiss ticket with returned := v.returned ++ [ticket] }

/-- What a task does next where it is.  One that is asleep does nothing until a wake-up has
reached it, and one that has found nothing after a wake-up begins again. -/
def act (v : Vigil) (ticket : Nat) : Stage → Vigil
  | .arriving => { v with session := v.session.enlist ticket }.enter ticket .checking
  | .checking =>
    if v.session.disconnected then v.finish ticket else v.enter ticket .counting
  | .counting =>
    if v.session.queue.isEmpty then v.enter ticket .asleep else v.finish ticket
  | .asleep =>
    if ticket ∈ v.session.woken then (v.dismiss ticket).enter ticket .rechecking else v
  | .rechecking =>
    if v.session.disconnected then v.finish ticket else v.enter ticket .recounting
  | .recounting =>
    if v.session.queue.isEmpty then v.enter ticket .arriving else v.finish ticket

/-- The next step of a task, if it waits at all. -/
def proceed (v : Vigil) (ticket : Nat) : Vigil :=
  match v.stages.get? ticket with
  | none => v
  | some stage => v.act ticket stage

def step (v : Vigil) : VigilEvent → Vigil
  | .deliver m => { v with session := v.session.deliver m }
  | .takeQueue => { v with session := v.session.drained }
  | .startBatch => { v with session := v.session.startBatch }
  | .endBatch => { v with session := v.session.endBatch }
  | .disconnect => { v with session := v.session.disconnect }
  | .arrive ticket =>
    match v.stages.get? ticket with
    | none => v.enter ticket .arriving
    | some _ => v
  | .proceed ticket => v.proceed ticket
  | .giveUp ticket => v.dismiss ticket

def run (v : Vigil) (events : List VigilEvent) : Vigil :=
  events.foldl step v

theorem session_enter (v : Vigil) (ticket : Nat) (stage : Stage) :
    (v.enter ticket stage).session = v.session := rfl

theorem get?_enter (v : Vigil) (ticket other : Nat) (stage : Stage) :
    (v.enter ticket stage).stages.get? other =
      if other = ticket then some stage else v.stages.get? other :=
  v.stages.get?_insert ticket other stage

theorem get?_dismiss (v : Vigil) (ticket other : Nat) :
    (v.dismiss ticket).stages.get? other = if other = ticket then none else v.stages.get? other :=
  v.stages.get?_erase ticket other

theorem proceed_of_absent {v : Vigil} {ticket : Nat} (absent : v.stages.get? ticket = none) :
    v.proceed ticket = v := by
  unfold proceed
  rw [absent]

theorem proceed_of_stage {v : Vigil} {ticket : Nat} {stage : Stage}
    (found : v.stages.get? ticket = some stage) : v.proceed ticket = v.act ticket stage := by
  unfold proceed
  rw [found]

/-- A task is asleep, and no wake-up has reached it since. -/
def Sleeps (v : Vigil) (ticket : Nat) : Prop :=
  v.stages.get? ticket = some .asleep ∧ ticket ∉ v.session.woken

/-- No task has a step to take. -/
def Rests (v : Vigil) : Prop :=
  ∀ ticket, v.proceed ticket = v

/-- Nobody sleeps through anything.  A task that goes to sleep has looked twice, so what
it saw first has to be kept in mind as soon as it has been seen. -/
structure Attentive (v : Vigil) : Prop where
  distinct : v.session.tickets.Nodup
  listed : ∀ ticket, ticket ∈ v.session.tickets ↔
    ∃ stage, v.stages.get? ticket = some stage ∧ stage.isListed = true
  present : ∀ ticket stage, v.stages.get? ticket = some stage → stage.hasChecked = true →
    ticket ∉ v.session.woken → v.session.disconnected = false
  idle : ∀ ticket, v.Sleeps ticket → v.session.queue = [] ∨ 0 < v.session.batchDepth

namespace Attentive

variable {v : Vigil}

theorem empty (id : ClientId) : Attentive { session := { id } } where
  distinct := List.nodup_nil
  listed := fun _ => iff_of_false List.not_mem_nil (by rintro ⟨_, found, _⟩; cases found)
  present := fun _ _ found => by cases found
  idle := fun _ sleeps => by cases sleeps.1

/-! ## Changes of the session -/

/-- After a wake-up nobody on the list sleeps on. -/
theorem of_wake (attentive : v.Attentive) {s : Session} (tickets : s.tickets = v.session.tickets)
    (woken : s.woken = s.tickets) : Attentive { v with session := s } := by
  have reached : ∀ ticket stage, v.stages.get? ticket = some stage → stage.isListed = true →
      ticket ∈ s.woken := by
    intro ticket stage found listed
    rw [woken, tickets]
    exact (attentive.listed ticket).mpr ⟨stage, found, listed⟩
  exact
    { distinct := tickets ▸ attentive.distinct
      listed := fun ticket => (congrArg (ticket ∈ ·) tickets).to_iff.trans (attentive.listed ticket)
      present := fun ticket stage found checked unreached =>
        absurd (reached ticket stage found (Stage.isListed_of_hasChecked checked)) unreached
      idle := fun ticket sleeps => absurd (reached ticket _ sleeps.1 rfl) sleeps.2 }

/-- A change that wakes nobody must leave sleepers nothing to be woken for. -/
theorem of_quiet (attentive : v.Attentive) {s : Session} (waiters : s.waiters = v.session.waiters)
    (disconnected : s.disconnected = v.session.disconnected)
    (idle : v.session.queue = [] ∨ 0 < v.session.batchDepth → s.queue = [] ∨ 0 < s.batchDepth) :
    Attentive { v with session := s } := by
  have tickets : s.tickets = v.session.tickets := congrArg (List.map Waiter.ticket) waiters
  have woken : s.woken = v.session.woken := by
    unfold Session.woken
    rw [waiters]
  exact
    { distinct := tickets ▸ attentive.distinct
      listed := fun ticket => (congrArg (ticket ∈ ·) tickets).to_iff.trans (attentive.listed ticket)
      present := fun ticket stage found checked unreached =>
        disconnected.trans (attentive.present ticket stage found checked (woken ▸ unreached))
      idle := fun ticket sleeps => idle (attentive.idle ticket ⟨sleeps.1, woken ▸ sleeps.2⟩) }

theorem deliver (attentive : v.Attentive) (m : Message) :
    (v.step (.deliver m)).Attentive := by
  unfold step Session.deliver
  by_cases closed : v.session.batchDepth = 0
  · simp only [if_pos closed]
    exact attentive.of_wake (Session.tickets_wake _) (Session.woken_wake _)
  · simp only [if_neg closed]
    exact attentive.of_quiet rfl rfl fun _ => Or.inr (Nat.pos_of_ne_zero closed)

theorem endBatch (attentive : v.Attentive) : (v.step .endBatch).Attentive := by
  unfold step Session.endBatch
  cases depth : v.session.batchDepth with
  | zero => exact attentive
  | succ rest =>
      cases rest with
      | zero => exact attentive.of_wake (Session.tickets_wake _) (Session.woken_wake _)
      | succ open_ => exact attentive.of_quiet rfl rfl fun _ => Or.inr (Nat.succ_pos open_)

/-! ## Steps of the tasks -/

/-- A task may move on where it is, on the list or off it, if it has seen what its new
place says. -/
theorem enter (attentive : v.Attentive) {ticket : Nat} {stage : Stage}
    (listed : stage.isListed = true ↔ ticket ∈ v.session.tickets)
    (present : stage.hasChecked = true → ticket ∉ v.session.woken →
      v.session.disconnected = false)
    (idle : stage = .asleep → v.session.queue = []) :
    (v.enter ticket stage).Attentive where
  distinct := attentive.distinct
  listed := by
    intro other
    change other ∈ v.session.tickets ↔ _
    rw [get?_enter]
    by_cases same : other = ticket
    · simpa [same] using listed.symm
    · rw [if_neg same]
      exact attentive.listed other
  present := by
    intro other place found checked unreached
    rw [get?_enter] at found
    split at found
    next same =>
      cases found
      exact present checked (same ▸ unreached)
    next => exact attentive.present other place found checked unreached
  idle := by
    rintro other ⟨found, unreached⟩
    rw [get?_enter] at found
    split at found
    next => exact Or.inl (idle (Option.some.inj found))
    next => exact attentive.idle other ⟨found, unreached⟩

theorem not_mem_tickets (attentive : v.Attentive) {ticket : Nat}
    (off : ∀ stage, v.stages.get? ticket = some stage → stage.isListed = false) :
    ticket ∉ v.session.tickets := by
  intro member
  rcases (attentive.listed ticket).mp member with ⟨stage, found, listed⟩
  exact absurd ((off stage found).symm.trans listed) Bool.false_ne_true

/-- A task puts itself on the list before it looks at anything. -/
theorem enlist (attentive : v.Attentive) {ticket : Nat} (absent : ticket ∉ v.session.tickets) :
    ({ v with session := v.session.enlist ticket }.enter ticket .checking).Attentive where
  distinct := by
    change (v.session.enlist ticket).tickets.Nodup
    rw [Session.tickets_enlist]
    apply List.Nodup.append attentive.distinct (List.nodup_singleton ticket)
    exact List.disjoint_singleton.mpr absent
  listed := by
    intro other
    change other ∈ (v.session.enlist ticket).tickets ↔ _
    rw [Session.tickets_enlist, List.mem_append, List.mem_singleton, get?_enter]
    by_cases same : other = ticket
    · simp [same, Stage.isListed]
    · rw [if_neg same, or_iff_left same]
      exact attentive.listed other
  present := by
    intro other stage found checked unreached
    rw [get?_enter] at found
    split at found
    next => cases found; cases checked
    next =>
      exact attentive.present other stage found checked (v.session.woken_enlist ticket ▸ unreached)
  idle := by
    rintro other ⟨found, unreached⟩
    rw [get?_enter] at found
    split at found
    next => cases found
    next => exact attentive.idle other ⟨found, v.session.woken_enlist ticket ▸ unreached⟩

theorem dismiss (attentive : v.Attentive) (ticket : Nat) : (v.dismiss ticket).Attentive where
  distinct := by
    change (v.session.leave ticket).tickets.Nodup
    rw [Session.tickets_leave]
    exact attentive.distinct.filter _
  listed := by
    intro other
    change other ∈ (v.session.leave ticket).tickets ↔ _
    rw [Session.tickets_leave, List.mem_filter, bne_iff_ne, get?_dismiss]
    by_cases same : other = ticket
    · simp [same]
    · rw [if_neg same, and_iff_left same]
      exact attentive.listed other
  present := by
    intro other stage found checked unreached
    rw [get?_dismiss] at found
    split at found
    next => cases found
    next different =>
      have before := mt (v.session.mem_woken_leave different).mpr unreached
      exact attentive.present other stage found checked before
  idle := by
    rintro other ⟨found, unreached⟩
    rw [get?_dismiss] at found
    split at found
    next => cases found
    next different =>
      exact attentive.idle other ⟨found, mt (v.session.mem_woken_leave different).mpr unreached⟩

theorem finish (attentive : v.Attentive) (ticket : Nat) : (v.finish ticket).Attentive :=
  { attentive.dismiss ticket with }

theorem act (attentive : v.Attentive) {ticket : Nat} {stage : Stage}
    (found : v.stages.get? ticket = some stage) : (v.act ticket stage).Attentive := by
  have place : stage.isListed = true ↔ ticket ∈ v.session.tickets := by
    rw [attentive.listed ticket, found]
    simp
  cases stage with
  | arriving => exact attentive.enlist (mt place.mpr (by decide))
  | checking =>
      unfold Vigil.act
      cases gone : v.session.disconnected with
      | true => exact attentive.finish ticket
      | false => exact attentive.enter place (fun _ _ => gone) (fun same => by cases same)
  | counting =>
      unfold Vigil.act
      cases nothing : v.session.queue.isEmpty with
      | true =>
          exact attentive.enter place (fun _ => attentive.present ticket _ found rfl)
            fun _ => List.isEmpty_iff.mp nothing
      | false => exact attentive.finish ticket
  | asleep =>
      unfold Vigil.act
      by_cases reached : ticket ∈ v.session.woken
      · have off : ticket ∉ (v.dismiss ticket).session.tickets := by
          unfold Vigil.dismiss
          rw [Session.tickets_leave]
          simp
        simp only [if_pos reached]
        exact (attentive.dismiss ticket).enter (iff_of_false (by decide) off)
          (fun checked => by cases checked) (fun same => by cases same)
      · simp only [if_neg reached]
        exact attentive
  | rechecking =>
      unfold Vigil.act
      cases v.session.disconnected with
      | true => exact attentive.finish ticket
      | false =>
          exact attentive.enter place (fun checked => by cases checked) (fun same => by cases same)
  | recounting =>
      unfold Vigil.act
      cases v.session.queue.isEmpty with
      | true =>
          exact attentive.enter place (fun checked => by cases checked) (fun same => by cases same)
      | false => exact attentive.finish ticket

theorem proceed (attentive : v.Attentive) (ticket : Nat) : (v.proceed ticket).Attentive := by
  cases found : v.stages.get? ticket with
  | none =>
      rw [proceed_of_absent found]
      exact attentive
  | some stage =>
      rw [proceed_of_stage found]
      exact attentive.act found

end Attentive

/-! ## Runs -/

theorem step_attentive {v : Vigil} (attentive : v.Attentive) (event : VigilEvent) :
    (v.step event).Attentive := by
  cases event with
  | deliver m => exact attentive.deliver m
  | takeQueue => exact attentive.of_quiet rfl rfl fun _ => Or.inl rfl
  | startBatch => exact attentive.of_quiet rfl rfl fun _ => Or.inr (Nat.succ_pos _)
  | endBatch => exact attentive.endBatch
  | disconnect => exact attentive.of_wake (Session.tickets_wake _) (Session.woken_wake _)
  | arrive ticket =>
      simp only [step]
      cases found : v.stages.get? ticket with
      | some stage => exact attentive
      | none =>
          have absent := attentive.not_mem_tickets fun stage here => by
            rw [found] at here
            cases here
          exact attentive.enter (iff_of_false (by decide) absent) (fun checked => by cases checked)
            (fun same => by cases same)
  | proceed ticket => exact attentive.proceed ticket
  | giveUp ticket => exact attentive.dismiss ticket

theorem run_attentive {v : Vigil} (attentive : v.Attentive) (events : List VigilEvent) :
    (v.run events).Attentive := by
  induction events generalizing v with
  | nil => exact attentive
  | cons event rest inductionHypothesis =>
      exact inductionHypothesis (step_attentive attentive event)

/-- A step ends at most one wait, that of the task that takes it, and only while the session is
ready.  A task that has waited before is no exception. -/
theorem returned_step (v : Vigil) (event : VigilEvent) :
    (v.step event).returned = v.returned ∨
      ∃ ticket, event = .proceed ticket ∧ (v.step event).returned = v.returned ++ [ticket] ∧
        v.session.ready = true := by
  cases event with
  | deliver | takeQueue | startBatch | endBatch | disconnect | giveUp => exact Or.inl rfl
  | arrive ticket =>
      left
      simp only [step]
      split <;> rfl
  | proceed ticket =>
      simp only [step]
      cases found : v.stages.get? ticket with
      | none =>
          rw [proceed_of_absent found]
          exact Or.inl rfl
      | some stage =>
          rw [proceed_of_stage found]
          unfold Session.ready
          cases stage with
          | arriving => exact Or.inl rfl
          | asleep =>
              left
              simp only [act]
              split <;> rfl
          | checking | rechecking =>
              simp only [act]
              split
              next gone => exact Or.inr ⟨ticket, rfl, rfl, by rw [gone, Bool.true_or]⟩
              next => exact Or.inl rfl
          | counting | recounting =>
              simp only [act]
              split
              next => exact Or.inl rfl
              next something =>
                have filled : v.session.queue.isEmpty = false := Bool.eq_false_iff.mpr something
                exact Or.inr ⟨ticket, rfl, rfl, by rw [filled, Bool.not_false, Bool.or_true]⟩

/-- A task that has no step to take is asleep, and nothing has woken it. -/
theorem sleeps_of_proceed_eq {v : Vigil} {ticket : Nat} {stage : Stage}
    (found : v.stages.get? ticket = some stage) (still : v.proceed ticket = v) :
    v.Sleeps ticket := by
  have same : (v.act ticket stage).stages.get? ticket = some stage := by
    rw [← proceed_of_stage found, still, found]
  cases stage with
  | arriving => simp [act, get?_enter] at same
  | asleep =>
      refine ⟨found, ?_⟩
      intro reached
      simp [act, reached, get?_enter] at same
  | checking | rechecking | counting | recounting =>
      simp only [act] at same
      split at same <;> simp [finish, get?_enter, get?_dismiss] at same

/-- In every run of a session with any number of waiting tasks, whatever comes between the
steps of each: who sleeps on unwoken has nothing to be woken for, because the session is not
disconnected, and nothing is queued unless a batch is open.  So when no batch is
open and no task has a step to take, nobody waits for a session that is ready.  And every wait,
be it the first of its task or a later one, comes to its end by a step of that task, and only
while the session is ready. -/
theorem run_wakes (id : ClientId) (events : List VigilEvent) :
    let v := run { session := { id } } events
    (∀ ticket, v.Sleeps ticket →
      v.session.disconnected = false ∧ (v.session.queue = [] ∨ 0 < v.session.batchDepth)) ∧
      (v.Rests → v.session.batchDepth = 0 →
        (v.session.queue ≠ [] ∨ v.session.disconnected = true) →
          ∀ ticket, v.stages.get? ticket = none) ∧
      ∀ event, (v.step event).returned = v.returned ∨
        ∃ ticket, event = .proceed ticket ∧ (v.step event).returned = v.returned ++ [ticket] ∧
          (v.session.queue ≠ [] ∨ v.session.disconnected = true) := by
  intro v
  have attentive : v.Attentive := run_attentive (.empty id) events
  have alert : ∀ ticket, v.Sleeps ticket →
      v.session.disconnected = false ∧ (v.session.queue = [] ∨ 0 < v.session.batchDepth) :=
    fun ticket sleeps =>
      ⟨attentive.present ticket _ sleeps.1 rfl sleeps.2, attentive.idle ticket sleeps⟩
  refine ⟨alert, ?_, ?_⟩
  · intro rests closed due ticket
    cases found : v.stages.get? ticket with
    | none => rfl
    | some stage =>
        rcases alert ticket (sleeps_of_proceed_eq found (rests ticket)) with ⟨there, nothing⟩
        rcases due with queued | gone
        · exact absurd (nothing.resolve_right (by omega)) queued
        · exact absurd (there.symm.trans gone) Bool.false_ne_true
  · intro event
    refine (returned_step v event).imp_right ?_
    rintro ⟨ticket, same, grown, ready⟩
    refine ⟨ticket, same, grown, ?_⟩
    rcases Bool.or_eq_true_iff.mp ready with gone | queued
    · exact Or.inr gone
    · left
      simpa using queued

/-! ## Waits that nothing interrupts -/

/-- The steps of a task, with nothing in between. -/
def steps (ticket count : Nat) : List VigilEvent :=
  List.replicate count (.proceed ticket)

/-- Nothing more is done for a task whose wait is over. -/
theorem run_steps_of_absent {v : Vigil} {ticket : Nat} (absent : v.stages.get? ticket = none)
    (count : Nat) : v.run (steps ticket count) = v := by
  induction count with
  | zero => rfl
  | succ count inductionHypothesis =>
      change (v.proceed ticket).run (steps ticket count) = v
      rw [proceed_of_absent absent]
      exact inductionHypothesis

/-- A look at the session takes two steps.  If the session is ready the wait is over, and
else a task on the list goes to sleep and one off the list begins again. -/
theorem run_look {v : Vigil} {ticket : Nat} {stage : Stage} (last : Stage)
    (found : v.stages.get? ticket = some stage)
    (kind : stage = .checking ∧ last = .asleep ∨ stage = .rechecking ∧ last = .arriving) :
    (v.run (steps ticket 2)).session =
        (if v.session.ready then v.session.leave ticket else v.session) ∧
      (v.run (steps ticket 2)).stages.get? ticket =
        if v.session.ready then none else some last := by
  have finished : ∀ w : Vigil, (w.finish ticket).stages.get? ticket = none :=
    fun w => (w.get?_dismiss ticket ticket).trans (if_pos rfl)
  have entered : ∀ (w : Vigil) (place : Stage),
      (w.enter ticket place).stages.get? ticket = some place :=
    fun w place => (w.get?_enter ticket ticket place).trans (if_pos rfl)
  have first : v.run (steps ticket 2) = (v.proceed ticket).proceed ticket := rfl
  rw [first, proceed_of_stage found]
  unfold Session.ready
  rcases kind with ⟨rfl, rfl⟩ | ⟨rfl, rfl⟩
  all_goals
    simp only [act]
    cases v.session.disconnected with
    | true =>
        simp only [if_true, Bool.true_or]
        rw [proceed_of_absent (finished v)]
        exact ⟨rfl, finished v⟩
    | false =>
        simp only [Bool.false_eq_true, if_false, Bool.false_or]
        rw [proceed_of_stage (entered v _)]
        simp only [act, session_enter]
        by_cases nothing : v.session.queue.isEmpty = true
        · simp only [nothing, if_true, Bool.not_true, Bool.false_eq_true, if_false]
          exact ⟨rfl, entered _ _⟩
        · simp only [nothing, Bool.not_false, Bool.false_eq_true, if_false, if_true]
          exact ⟨rfl, finished _⟩

theorem session_run_arriving {v : Vigil} {ticket : Nat}
    (arriving : v.stages.get? ticket = some .arriving) (absent : ticket ∉ v.session.tickets) :
    (v.run (steps ticket 3)).session = v.session.await ticket := by
  let listed := { v with session := v.session.enlist ticket }.enter ticket .checking
  have checking : listed.stages.get? ticket = some .checking :=
    (Vigil.get?_enter _ ticket ticket .checking).trans (if_pos rfl)
  have looks := (run_look .asleep checking (Or.inl ⟨rfl, rfl⟩)).1
  change ((v.proceed ticket).run (steps ticket 2)).session = _
  rw [proceed_of_stage arriving]
  refine looks.trans ?_
  change (if v.session.ready then (v.session.enlist ticket).leave ticket
    else v.session.enlist ticket) = _
  rw [Session.leave_enlist absent]
  rfl

/-- A task that begins to wait and is not interrupted does what `Session.await` does. -/
theorem session_run_arrive {v : Vigil} (attentive : v.Attentive) {ticket : Nat}
    (fresh : v.stages.get? ticket = none) :
    (v.run (.arrive ticket :: steps ticket 3)).session = v.session.await ticket := by
  have absent : ticket ∉ v.session.tickets := attentive.not_mem_tickets fun stage found => by
    rw [fresh] at found
    cases found
  have begun : v.step (.arrive ticket) = v.enter ticket .arriving := by
    simp only [step, fresh]
  change ((v.step (.arrive ticket)).run (steps ticket 3)).session = _
  rw [begun]
  exact session_run_arriving ((v.get?_enter ticket ticket .arriving).trans (if_pos rfl)) absent

/-- A task that was woken and is not interrupted leaves the list and waits anew, which is
what `Session.resume` does but for its place on the list. -/
theorem session_run_woken {v : Vigil} (attentive : v.Attentive) {ticket : Nat}
    (asleep : v.stages.get? ticket = some .asleep) (reached : ticket ∈ v.session.woken) :
    let last := (v.run (steps ticket 6)).session
    last = { v.session.resume ticket with waiters := last.waiters } ∧
      last.waiters.Perm (v.session.resume ticket).waiters := by
  let roused := (v.dismiss ticket).enter ticket .rechecking
  let looked := roused.run (steps ticket 2)
  have off : ticket ∉ (v.session.leave ticket).tickets := by
    rw [Session.tickets_leave]
    simp
  have rechecking : roused.stages.get? ticket = some .rechecking :=
    (Vigil.get?_enter _ ticket ticket .rechecking).trans (if_pos rfl)
  have looks := run_look .arriving rechecking (Or.inr ⟨rfl, rfl⟩)
  change looked.session = (if v.session.ready then (v.session.leave ticket).leave ticket
    else v.session.leave ticket) ∧ looked.stages.get? ticket =
      if v.session.ready then none else some .arriving at looks
  rw [Session.leave_eq_self off, ite_self] at looks
  have last : (v.run (steps ticket 6)).session = (v.session.leave ticket).await ticket := by
    have wakes : v.proceed ticket = roused := by
      rw [proceed_of_stage asleep]
      simp only [act, if_pos reached]
      rfl
    change (((v.proceed ticket).run (steps ticket 2)).run (steps ticket 3)).session = _
    rw [wakes]
    cases ready : v.session.ready with
    | true =>
        rw [ready] at looks
        rw [run_steps_of_absent looks.2]
        exact looks.1.trans (if_pos ready).symm
    | false =>
        rw [ready] at looks
        have again := session_run_arriving looks.2 (looks.1 ▸ off)
        rwa [looks.1] at again
  have member : ticket ∈ v.session.tickets := (attentive.listed ticket).mpr ⟨_, asleep, rfl⟩
  simp only [last]
  exact Session.await_leave_resume attentive.distinct member

end Vigil
end Bayeux
