import Bayeux.Proofs.Server.Attending

namespace Bayeux

/-!
# What an event does to requests

Of all that an event may change, this is what the requests see of it.  One that comes in is
dealt with.  One that is held is answered, because its time is up or because it looked at its
session and that was ready, or its client drops it.  Nothing else begins, ends or answers a
request.
-/

namespace Server

/-- A held request is answered with what is queued for its client. -/
theorem answered_complete (s : Server) (held : HeldRequest) :
    (s.complete held).answered = s.answered ++
      [{ ticket := held.ticket, time := s.now, route := held.route
         exchange :=
          { session := some held.client
            queued := s.engine.queueOf held.client
            replies := held.replies
            cookies := held.cookies } }] := by
  have queue : (s.unhold held).engine.queueOf held.client = s.engine.queueOf held.client := by
    rw [engine_unhold]
    exact s.engine.queueOf_change_of_keepsQueue (Session.keepsQueue_leave held.ticket) _ _
  have answered : (s.unhold held).answered = s.answered := answered_releaseHold _ held
  have now : (s.unhold held).now = s.now := now_releaseHold _ held
  unfold Engine.queueOf at queue
  unfold complete drain conclude
  simp only [answered, now, queue]
  rfl

/-- To answer a held request is to take the queue of its client, and no other. -/
theorem queueOf_complete (s : Server) (held : HeldRequest) (id : ClientId) :
    (s.complete held).engine.queueOf id =
      if id = held.client then [] else s.engine.queueOf id := by
  rw [engine_complete, Engine.queueOf_change_drained,
    Engine.queueOf_change_of_keepsQueue _ (Session.keepsQueue_leave held.ticket)]

theorem held_drop (s : Server) (ticket : Nat) :
    (s.drop ticket).held = s.held.filter fun held => held.ticket != ticket := by
  have closed : ∀ (t : Server) (stalled : List StalledRequest) (batchOn : Option ClientId),
      ({ t with stalled }.endBatch batchOn).held = t.held :=
    fun t stalled batchOn => by cases batchOn <;> rfl
  unfold drop
  cases found : s.heldBy? ticket with
  | some held =>
      have own : held.ticket = ticket := by simpa using List.find?_some found
      have kept : (s.unhold held).held = s.held.filter fun held => held.ticket != ticket :=
        own ▸ held_releaseHold _ held
      simp only []
      split
      · exact (closed _ _ _).trans kept
      · exact kept
  | none =>
      have kept : s.held = s.held.filter fun held => held.ticket != ticket := by
        refine (List.filter_eq_self.mpr fun held member => ?_).symm
        simpa using List.find?_eq_none.mp found held member
      simp only []
      split
      · exact (closed _ _ _).trans kept
      · exact kept

theorem answered_drop (s : Server) (ticket : Nat) : (s.drop ticket).answered = s.answered :=
  Server.drop_induction (fun next => next.answered = s.answered)
    (fun held _ _ => answered_releaseHold _ held)
    (fun _ batchOn same => by cases batchOn <;> exact same) rfl

theorem now_drop (s : Server) (ticket : Nat) : (s.drop ticket).now = s.now :=
  Server.drop_induction (fun next => next.now = s.now)
    (fun held _ _ => now_releaseHold _ held)
    (fun _ batchOn same => by cases batchOn <;> exact same) rfl

theorem Dealt.now {mint : Nat → ClientId} {s next : Server} {a : Arrival} {route : Route}
    {batch : Batch} (dealt : Dealt mint s a route batch next) : next.now = s.now := by
  cases dealt with
  | unserved => rfl
  | suspended | rejected | delivered | taken => exact s.now_served mint _ batch

end Server

namespace History

/-- What an event makes of the requests. -/
inductive Handled (mint : Nat → ClientId) (h : History) (event : ServerEvent) (next : Server) :
    Prop where
  | quiet (held : next.held = h.server.held) (answered : next.answered = h.server.answered)
  | dealt {intake : Intake} {freshBrowser : BrowserId} (taken : h.intake? event = some intake)
    (dealt : Server.Dealt mint h.server
      { ticket := h.nextTicket, request := intake.request, freshBrowser } intake.route
      intake.batch next)
  | completed {held : HeldRequest} (member : held ∈ h.server.held)
    (reason : held.deadline ≤ h.server.now ∨
      ∃ session, h.server.engine.known? held.client = some session ∧ session.ready = true)
    (remaining : next.held = h.server.held.filter fun other => other.ticket != held.ticket)
    (answered : next.answered = h.server.answered ++
      [{ ticket := held.ticket, time := h.server.now, route := held.route
         exchange :=
          { session := some held.client
            queued := h.server.engine.queueOf held.client
            replies := held.replies
            cookies := held.cookies } }])
    (queues : ∀ id, next.engine.queueOf id =
      if id = held.client then [] else h.server.engine.queueOf id)
  | dropped {ticket : Nat} (drops : event = .drop ticket)
    (remaining : next.held = h.server.held.filter fun held => held.ticket != ticket)
    (answered : next.answered = h.server.answered)

variable {mint : Nat → ClientId} {h : History}
  {settings : ConnectionType → Option TransportOptions}

theorem step_handled (inOrder : h.InOrder mint settings) (distinct : Function.Injective mint)
    (event : ServerEvent) : Handled mint h event (h.step { mint } event).server := by
  have attends := inOrder.attends
  have comesIn : ∀ {intake : Intake}, h.intake? event = some intake → ∀ freshBrowser,
      Handled mint h event (h.server.process { mint }
        { ticket := h.nextTicket, request := intake.request, freshBrowser } intake.route
        intake.batch) := fun taken freshBrowser =>
    .dealt taken (Server.process_dealt attends.reachable distinct _ _ _)
  cases event with
  | request request freshBrowser =>
      simp only [step, next]
      rw [Server.receive_eq]
      split
      next intake taken => exact comesIn taken freshBrowser
      next => split <;> exact .quiet rfl rfl
  | batch intake freshBrowser => exact comesIn rfl freshBrowser
  | publish channel data => exact .quiet rfl rfl
  | look ticket =>
      simp only [step, next]
      split
      next held found =>
        have member := List.mem_of_find?_eq_some found
        rcases attends.exists_session member with ⟨session, known⟩
        rw [attends.resume_eq member known]
        split
        next ready =>
          have queues := Engine.queueOf_change_of_keepsQueue h.server.engine
            (Session.keepsQueue_resume held.ticket) held.client
          refine .completed member (.inr ⟨session, known, ready⟩) (Server.held_complete _ held) ?_ ?_
          · rw [Server.answered_complete, queues]
          · intro id
            rw [Server.queueOf_complete, queues]
        next => exact .quiet rfl rfl
      next => exact .quiet rfl rfl
  | expire ticket =>
      simp only [step, next]
      split
      next held found =>
        split
        next due =>
          exact .completed (List.mem_of_find?_eq_some found) (.inl due)
            (Server.held_complete _ held) (Server.answered_complete _ held)
            (Server.queueOf_complete _ held)
        next => exact .quiet rfl rfl
      next => exact .quiet rfl rfl
  | drop ticket =>
      exact .dropped rfl (Server.held_drop _ ticket) (Server.answered_drop _ ticket)
  | sweep now =>
      have same : (h.server.sweep now).2.held = h.server.held ∧
          (h.server.sweep now).2.answered = h.server.answered := by
        apply Server.sweep_induction
          (fun next => next.held = h.server.held ∧ next.answered = h.server.answered)
        · intro next kept type
          unfold Server.sweepTransport
          split <;> exact kept
        · exact ⟨rfl, rfl⟩
      exact .quiet same.1 same.2
  | pass span => exact .quiet rfl rfl

/-- The clock moves only when time passes. -/
theorem now_step (inOrder : h.InOrder mint settings) (distinct : Function.Injective mint)
    (event : ServerEvent) :
    (h.step { mint } event).server.now =
      h.server.now + match event with
        | .pass span => span
        | _ => 0 := by
  have attends := inOrder.attends
  have comesIn : ∀ a route batch,
      (h.server.process { mint } a route batch).now = h.server.now := fun a route batch =>
    (Server.process_dealt attends.reachable distinct a route batch).now
  cases event with
  | request request freshBrowser =>
      simp only [step, next]
      rw [Server.receive_eq]
      split
      · exact comesIn _ _ _
      · split <;> rfl
  | batch intake freshBrowser => exact comesIn _ _ _
  | publish channel data => rfl
  | look ticket =>
      simp only [step, next]
      split
      next held found =>
        unfold Server.resume
        simp only []
        split
        · rfl
        · exact Server.now_complete _ held
      next => rfl
  | expire ticket =>
      simp only [step, next]
      split
      next held found =>
        split
        · exact Server.now_complete _ held
        · rfl
      next => rfl
  | drop ticket => exact h.server.now_drop ticket
  | sweep now =>
      change (h.server.sweep now).2.now = h.server.now
      apply Server.sweep_induction (fun next => next.now = h.server.now)
      · intro next kept type
        unfold Server.sweepTransport
        split <;> exact kept
      · rfl
  | pass span => rfl

end History
end Bayeux
