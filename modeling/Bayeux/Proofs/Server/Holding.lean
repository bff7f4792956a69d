import Bayeux.Proofs.Admission.Counting
import Bayeux.Proofs.Server.Processing
import Mathlib.Data.List.Nodup

namespace Bayeux

/-!
# Accounts of held requests

Three records speak of the requests that a server holds: the list of held requests, the
counters of the admission tables, and the notices of suspension and resumption.
The predicate `Accounts` ties them together.  Between a counter and the list there
are moments when they differ by one request, which is then pending: it has been
admitted and is not held yet, or is held no longer and not released yet.
-/

namespace Notice

/-- The request whose suspension is announced. -/
def suspended? : Notice → Option HeldRequest
  | suspended held _ => some held
  | resumed _ _ => none

/-- The request whose resumption is announced. -/
def resumed? : Notice → Option HeldRequest
  | suspended _ _ => none
  | resumed held _ => some held

end Notice

/-- How many requests of a list are of a connection type and counted for a browser.
One without a known browser is counted for none. -/
def HeldRequest.holds (requests : List HeldRequest) (type : ConnectionType)
    (browser : BrowserId) : Nat :=
  requests.countP fun held => held.route.type = type ∧ held.browser = some browser

namespace HeldRequest

theorem holds_cons (held : HeldRequest) (requests : List HeldRequest) (type : ConnectionType)
    (browser : BrowserId) :
    holds (held :: requests) type browser = holds requests type browser +
      if held.route.type = type ∧ held.browser = some browser then 1 else 0 := by
  unfold holds
  rw [List.countP_cons]
  simp only [decide_eq_true_eq]

theorem holds_perm {first second : List HeldRequest} (same : first.Perm second)
    (type : ConnectionType) (browser : BrowserId) :
    holds first type browser = holds second type browser :=
  same.countP_eq _

/-- A request leaves a list in which its ticket is unique. -/
theorem perm_cons_filter {held : HeldRequest} {requests : List HeldRequest}
    (member : held ∈ requests) (distinct : (requests.map ticket).Nodup) :
    requests.Perm (held :: requests.filter fun other => other.ticket != held.ticket) := by
  induction requests with
  | nil => cases member
  | cons head rest inductionHypothesis =>
      have parts : head.ticket ∉ rest.map ticket ∧ (rest.map ticket).Nodup :=
        List.nodup_cons.mp distinct
      rcases List.mem_cons.mp member with same | later
      · subst same
        have kept : rest.filter (fun other => other.ticket != held.ticket) = rest := by
          apply List.filter_eq_self.mpr
          intro other listed
          apply bne_iff_ne.mpr
          intro equal
          exact parts.1 (List.mem_map.mpr ⟨other, listed, equal⟩)
        rw [List.filter_cons_of_neg (by simp), kept]
      · have different : head.ticket ≠ held.ticket := by
          intro equal
          exact parts.1 (List.mem_map.mpr ⟨held, later, equal.symm⟩)
        have kept : (head.ticket != held.ticket) = true := bne_iff_ne.mpr different
        rw [List.filter_cons, if_pos kept]
        exact ((inductionHypothesis later parts.2).cons head).trans (List.Perm.swap held head _)

end HeldRequest

open HeldRequest (holds)

/-- Asking for a hold counts one more connection if the browser is known and the
limit allows it, and changes nothing but counters. -/
theorem Transport.grant_spec {t : Transport} {tally : BrowserId → Nat}
    (tallies : t.admission.Tallies tally) (r : Request) (browser : Option BrowserId) :
    (t.grant r browser).2 = { t with admission := (t.grant r browser).2.admission } ∧
      (t.grant r browser).2.admission.limit = t.admission.limit ∧
      (t.grant r browser).2.admission.Tallies fun other =>
        tally other + if (t.grant r browser).1 ∧ browser = some other then 1 else 0 := by
  cases browser with
  | none =>
      refine ⟨rfl, rfl, Admission.tallies_congr tallies ?_⟩
      intro other
      rw [if_neg (fun both => by cases both.2), Nat.add_zero]
  | some browser =>
      have spec := Admission.acquire_spec tallies browser
      refine ⟨rfl, t.admission.acquire_limit browser, ?_⟩
      have granted : (t.grant r (some browser)).1 = t.admission.limit.admits (tally browser) :=
        spec.1
      rw [granted]
      apply Admission.tallies_congr spec.2
      intro other
      by_cases room : t.admission.limit.admits (tally browser) = true
      · rw [if_pos room, Admission.raised_apply]
        simp only [room, true_and, Option.some.injEq]
      · rw [if_neg room, if_neg (fun both => room both.1), Nat.add_zero]

namespace Server

/-- The requests whose suspension was announced, in order. -/
def suspensions (s : Server) : List HeldRequest :=
  s.notices.filterMap Notice.suspended?

/-- The requests whose resumption was announced, in order. -/
def resumptions (s : Server) : List HeldRequest :=
  s.notices.filterMap Notice.resumed?

/-- The settings of a transport, which never change. -/
def optionsOf? (s : Server) (type : ConnectionType) : Option TransportOptions :=
  (s.transports.get? type).map Transport.options

/-- A request was held for the browser that its own data resolve to. -/
def Resolved (settings : ConnectionType → Option TransportOptions) (intakes : List Intake)
    (held : HeldRequest) : Prop :=
  ∃ intake o, intakes[held.ticket]? = some intake ∧ held.route = intake.route ∧
    settings held.route.type = some o ∧ held.browser = intake.request.browser? o.identity

/-- The list of held requests, the counters and the notices agree.  The counters may count
pending requests beside those that are held. -/
structure Accounts (s : Server) (settings : ConnectionType → Option TransportOptions)
    (intakes : List Intake) (pending : List HeldRequest) : Prop where
  configured : ∀ type, s.optionsOf? type = settings type
  /-- Whatever was suspended has been resumed or is held. -/
  paired : s.suspensions.Perm (s.resumptions ++ s.held)
  distinct : (s.suspensions.map HeldRequest.ticket).Nodup
  resolved : ∀ held ∈ s.suspensions, Resolved settings intakes held
  limited : ∀ type t, s.transports.get? type = some t → t.admission.limit = t.options.limit
  counted : ∀ type t, s.transports.get? type = some t →
    t.admission.Tallies (holds (pending ++ s.held) type)
  sound : s.metrics.get? .admissionUnderflows = none

namespace Accounts

variable {s : Server} {settings : ConnectionType → Option TransportOptions}
  {intakes : List Intake} {pending : List HeldRequest}

/-- Only notices, held requests, transports and the count of underflows matter. -/
theorem of_same (accounts : s.Accounts settings intakes pending) {other : Server}
    (held : other.held = s.held) (notices : other.notices = s.notices)
    (transports : other.transports = s.transports)
    (underflows : other.metrics.get? .admissionUnderflows =
      s.metrics.get? .admissionUnderflows) : other.Accounts settings intakes pending := by
  have suspended : other.suspensions = s.suspensions :=
    congrArg (List.filterMap Notice.suspended?) notices
  have resumed : other.resumptions = s.resumptions :=
    congrArg (List.filterMap Notice.resumed?) notices
  constructor
  · unfold optionsOf?
    rw [transports]
    exact accounts.configured
  · rw [suspended, resumed, held]
    exact accounts.paired
  · rw [suspended]
    exact accounts.distinct
  · rw [suspended]
    exact accounts.resolved
  · rw [transports]
    exact accounts.limited
  · rw [transports, held]
    exact accounts.counted
  · rw [underflows]
    exact accounts.sound

/-- The record of what transports were given only grows. -/
theorem later (accounts : s.Accounts settings intakes pending) (more : List Intake) :
    s.Accounts settings (intakes ++ more) pending where
  configured := accounts.configured
  paired := accounts.paired
  distinct := accounts.distinct
  resolved := by
    intro held member
    rcases accounts.resolved held member with ⟨intake, o, found, rest⟩
    have bound : held.ticket < intakes.length := (List.getElem?_eq_some_iff.mp found).1
    exact ⟨intake, o, (List.getElem?_append_left bound).trans found, rest⟩
  limited := accounts.limited
  counted := accounts.counted
  sound := accounts.sound

theorem ticket_lt (accounts : s.Accounts settings intakes pending) {held : HeldRequest}
    (member : held ∈ s.suspensions) : held.ticket < intakes.length := by
  rcases accounts.resolved held member with ⟨intake, o, found, _⟩
  exact (List.getElem?_eq_some_iff.mp found).1

theorem held_distinct (accounts : s.Accounts settings intakes pending) :
    (s.held.map HeldRequest.ticket).Nodup := by
  have all := (accounts.paired.map HeldRequest.ticket).nodup_iff.mp accounts.distinct
  rw [List.map_append] at all
  exact (List.nodup_append.mp all).2.1

/-- A transport counts anew, and all else stays. -/
theorem recount (accounts : s.Accounts settings intakes pending) {type : ConnectionType}
    {t : Transport} (found : s.transports.get? type = some t) {admission : Admission}
    (limit : admission.limit = t.admission.limit) {metrics : Metrics}
    (underflows : metrics.get? .admissionUnderflows = s.metrics.get? .admissionUnderflows)
    {nowPending : List HeldRequest}
    (tallies : admission.Tallies (holds (nowPending ++ s.held) type))
    (others : ∀ other, other ≠ type → ∀ browser,
      holds (pending ++ s.held) other browser = holds (nowPending ++ s.held) other browser) :
    Accounts
      { s with transports := s.transports.insert type { t with admission }, metrics := metrics }
      settings intakes nowPending := by
  have options : ∀ other, ((s.transports.insert type { t with admission }).get? other).map
      Transport.options = s.optionsOf? other := by
    intro other
    unfold optionsOf?
    rw [Table.get?_insert]
    by_cases same : other = type
    · rw [if_pos same, same, found]
      rfl
    · rw [if_neg same]
  constructor
  · exact fun other => (options other).trans (accounts.configured other)
  · exact accounts.paired
  · exact accounts.distinct
  · exact accounts.resolved
  · intro other changed there
    rw [Table.get?_insert] at there
    by_cases same : other = type
    · rw [if_pos same] at there
      have equal := Option.some.inj there
      subst equal
      exact limit.trans (accounts.limited type t found)
    · rw [if_neg same] at there
      exact accounts.limited other changed there
  · intro other changed there
    rw [Table.get?_insert] at there
    by_cases same : other = type
    · rw [if_pos same] at there
      have equal := Option.some.inj there
      subst equal
      subst same
      exact tallies
    · rw [if_neg same] at there
      exact Admission.tallies_congr (accounts.counted other changed there) (others other same)
  · exact underflows.trans accounts.sound

/-! ## Beginning a hold -/

/-- A request that was let in is pending, and one that was turned away is not. -/
theorem grant (accounts : s.Accounts settings intakes []) (held : HeldRequest) {t : Transport}
    (found : s.transports.get? held.route.type = some t) (r : Request) :
    Accounts
      { s with
        transports := s.transports.insert held.route.type (t.grant r held.browser).2
        metrics := if held.browser.isSome then
            s.metrics.acquired t.options.limit (t.grant r held.browser).1
          else s.metrics }
      settings intakes (if (t.grant r held.browser).1 then [held] else []) := by
  have counted := accounts.counted held.route.type t found
  rcases t.grant_spec counted r held.browser with ⟨kept, limit, tallies⟩
  have pending : ∀ type browser,
      holds ((if (t.grant r held.browser).1 then [held] else []) ++ s.held) type browser =
        holds ([] ++ s.held) type browser +
          if (t.grant r held.browser).1 ∧ held.route.type = type ∧ held.browser = some browser
          then 1 else 0 := by
    intro type browser
    by_cases granted : (t.grant r held.browser).1 = true
    · simp only [granted, if_true, true_and, List.singleton_append, HeldRequest.holds_cons,
        List.nil_append]
    · rw [if_neg granted, if_neg (fun all => granted all.1), Nat.add_zero]
  rw [kept]
  apply accounts.recount found limit
  · split
    · exact Metrics.acquired_underflows _ _ _
    · rfl
  · apply Admission.tallies_congr tallies
    intro browser
    rw [pending]
    simp only [true_and]
  · intro other different browser
    rw [pending, if_neg (fun all => different all.2.1.symm), Nat.add_zero]

/-- A pending request is held, under a ticket that was not used before. -/
theorem suspend {held : HeldRequest} (accounts : s.Accounts settings intakes [held])
    (fresh : ∀ earlier ∈ s.suspensions, earlier.ticket ≠ held.ticket)
    (resolved : Resolved settings intakes held) (engine : Engine) (connected : Bool) :
    Accounts
      { s with
        held := s.held ++ [held]
        engine := engine
        notices := s.notices ++ [Notice.suspended held connected]
        metrics := s.metrics.add .heldConnections 1 } settings intakes [] := by
  have suspended : (s.notices ++ [Notice.suspended held connected]).filterMap
      Notice.suspended? = s.suspensions ++ [held] := List.filterMap_append
  have resumed : (s.notices ++ [Notice.suspended held connected]).filterMap
      Notice.resumed? = s.resumptions ++ [] := List.filterMap_append
  rw [List.append_nil] at resumed
  constructor
  · exact accounts.configured
  · unfold suspensions resumptions
    rw [suspended, resumed, ← List.append_assoc]
    exact accounts.paired.append_right [held]
  · unfold suspensions
    rw [suspended, List.map_append]
    apply List.nodup_append.mpr
    refine ⟨accounts.distinct, by simp, ?_⟩
    intro ticket earlier other later same
    rcases List.mem_map.mp earlier with ⟨old, member, equal⟩
    exact fresh old member (equal.trans (same.trans (List.mem_singleton.mp later)))
  · unfold suspensions
    rw [suspended]
    intro other member
    rcases List.mem_append.mp member with old | new
    · exact accounts.resolved other old
    · rw [List.mem_singleton.mp new]
      exact resolved
  · exact accounts.limited
  · intro type t found
    apply Admission.tallies_congr (accounts.counted type t found)
    intro browser
    exact HeldRequest.holds_perm List.perm_append_comm type browser
  · exact (Metrics.add_underflows _ (by decide) _).trans accounts.sound

/-! ## Ending a hold -/

/-- A request that is held no longer is pending until it is released. -/
theorem leave (accounts : s.Accounts settings intakes []) {held : HeldRequest}
    (member : held ∈ s.held) (engine : Engine) (connected : Bool) :
    Accounts
      { s with
        held := s.held.filter fun other => other.ticket != held.ticket
        engine := engine
        notices := s.notices ++ [Notice.resumed held connected]
        metrics := s.metrics.add .heldConnections (-1) } settings intakes [held] := by
  have suspended : (s.notices ++ [Notice.resumed held connected]).filterMap
      Notice.suspended? = s.suspensions ++ [] := List.filterMap_append
  have resumed : (s.notices ++ [Notice.resumed held connected]).filterMap
      Notice.resumed? = s.resumptions ++ [held] := List.filterMap_append
  rw [List.append_nil] at suspended
  have left := HeldRequest.perm_cons_filter member accounts.held_distinct
  constructor
  · exact accounts.configured
  · unfold suspensions resumptions
    rw [suspended, resumed, List.append_assoc]
    exact accounts.paired.trans (left.append_left _)
  · unfold suspensions
    rw [suspended]
    exact accounts.distinct
  · unfold suspensions
    rw [suspended]
    exact accounts.resolved
  · exact accounts.limited
  · intro type t found
    apply Admission.tallies_congr (accounts.counted type t found)
    intro browser
    exact HeldRequest.holds_perm left type browser
  · exact (Metrics.add_underflows _ (by decide) _).trans accounts.sound

/-- Releasing a pending request succeeds. -/
theorem releaseHold {held : HeldRequest} (accounts : s.Accounts settings intakes [held]) :
    (s.releaseHold held).Accounts settings intakes [] := by
  unfold Server.releaseHold
  split
  next browser t known found =>
    have counted := accounts.counted held.route.type t found
    have here : 0 < holds ([held] ++ s.held) held.route.type browser := by
      rw [List.singleton_append, HeldRequest.holds_cons, if_pos ⟨rfl, known⟩]
      exact Nat.succ_pos _
    rcases Admission.release_spec counted here with ⟨released, outcome, _, _⟩
    rcases Admission.releaseQuietly_spec counted here with ⟨limit, tallies⟩
    apply accounts.recount found limit
    · rw [outcome]
      rfl
    · apply Admission.tallies_congr tallies
      intro other
      rw [Admission.lowered_apply, List.singleton_append, HeldRequest.holds_cons, known]
      simp only [true_and, Option.some.injEq, Nat.add_sub_cancel, List.nil_append]
    · intro other different b
      rw [List.singleton_append, HeldRequest.holds_cons,
        if_neg (fun both => different both.1.symm)]
      rfl
  next uncounted =>
    constructor
    · exact accounts.configured
    · exact accounts.paired
    · exact accounts.distinct
    · exact accounts.resolved
    · exact accounts.limited
    · intro type t found
      apply Admission.tallies_congr (accounts.counted type t found)
      intro browser
      rw [List.singleton_append, HeldRequest.holds_cons, if_neg]
      · rfl
      · rintro ⟨same, known⟩
        exact uncounted browser t known (same ▸ found)
    · exact accounts.sound

theorem unhold (accounts : s.Accounts settings intakes []) {held : HeldRequest}
    (member : held ∈ s.held) : (s.unhold held).Accounts settings intakes [] :=
  (accounts.leave member _ _).releaseHold

theorem conclude (accounts : s.Accounts settings intakes pending) (ticket : Nat) (route : Route)
    (exchange : Exchange) : (s.conclude ticket route exchange).Accounts settings intakes pending :=
  accounts.of_same rfl rfl rfl (Metrics.add_underflows _ (by simp) _)

theorem drain (accounts : s.Accounts settings intakes pending) (client : ClientId)
    (exchange : Exchange) : (s.drain client exchange).2.Accounts settings intakes pending :=
  accounts.of_same rfl rfl rfl rfl

theorem complete (accounts : s.Accounts settings intakes []) {held : HeldRequest}
    (member : held ∈ s.held) : (s.complete held).Accounts settings intakes [] :=
  ((accounts.unhold member).drain held.client
    { replies := held.replies, cookies := held.cookies }).conclude _ _ _

/-! ## Processing a batch -/

theorem hold {held : HeldRequest} (accounts : s.Accounts settings intakes [held])
    (fresh : ∀ earlier ∈ s.suspensions, earlier.ticket ≠ held.ticket)
    (resolved : Resolved settings intakes held) : (s.hold held).Accounts settings intakes [] := by
  have waiting : (s.waiting held).Accounts settings intakes [] :=
    accounts.suspend fresh resolved _ _
  rw [hold_eq]
  split
  · exact waiting
  · exact waiting.complete (s.mem_held_waiting held)

/-- A connect that is considered for a hold is held under its own ticket, or answered. -/
theorem consider (accounts : s.Accounts settings intakes []) {t : Transport} {a : Arrival}
    {intake : Intake} (found : s.transports.get? intake.route.type = some t)
    (fresh : ∀ earlier ∈ s.suspensions, earlier.ticket ≠ a.ticket)
    (position : intakes[a.ticket]? = some intake) (request : intake.request = a.request)
    (client : ClientId) (index : Nat) (exchange : Exchange) :
    (s.consider t a intake.route client index exchange).Accounts settings intakes [] := by
  have asked : (s.asked t a intake.route).Accounts settings intakes
      (if (t.grant a.request (a.request.browser? t.options.identity)).1 then
        [s.heldRequest t a intake.route client exchange] else []) :=
    accounts.grant (s.heldRequest t a intake.route client exchange) found a.request
  rw [consider_eq]
  split
  next granted =>
    rw [if_pos granted] at asked
    apply asked.hold fresh
    have configured : settings intake.route.type = some t.options := by
      rw [← accounts.configured]
      unfold optionsOf?
      rw [found]
      rfl
    refine ⟨intake, t.options, position, rfl, configured, ?_⟩
    rw [request]
    rfl
  next refused =>
    rw [if_neg refused] at asked
    exact (asked.drain _ _).conclude _ _ _

/-- Whatever becomes of a batch, the accounts are kept. -/
theorem process (accounts : s.Accounts settings intakes []) (around : Surroundings) {a : Arrival}
    {intake : Intake} (ticket : a.ticket = intakes.length) (request : intake.request = a.request) :
    (s.process around a intake.route intake.batch).Accounts settings (intakes ++ [intake]) [] := by
  have grown := accounts.later [intake]
  have fresh : ∀ earlier ∈ s.suspensions, earlier.ticket ≠ a.ticket := by
    intro earlier member same
    have used := accounts.ticket_lt member
    omega
  have position : (intakes ++ [intake])[a.ticket]? = some intake := by
    rw [ticket]
    exact List.getElem?_concat_length
  have answered : ∀ t engine,
      (s.dispatched t intake.batch engine).Accounts settings (intakes ++ [intake]) [] := by
    intro t engine
    unfold dispatched Server.endBatch
    split <;> exact grown.of_same rfl rfl rfl rfl
  have unchanged : ∀ t engine,
      (s.dispatched t intake.batch engine).transports = s.transports ∧
        (s.dispatched t intake.batch engine).suspensions = s.suspensions := by
    intro t engine
    unfold dispatched Server.endBatch
    split <;> exact ⟨rfl, rfl⟩
  have outcome := process_processed around s a intake.route intake.batch
  generalize s.process around a intake.route intake.batch = result at outcome
  cases outcome with
  | unserved absent => exact grown
  | stalled found dispatch => exact grown.of_same rfl rfl rfl rfl
  | unconnected found dispatch connect => exact (answered _ _).conclude _ _ _
  | @considered t engine answers index wasConnected reply session found dispatch connect idle =>
      apply (answered t engine).consider ((unchanged t engine).1 ▸ found) _ position request
      rw [(unchanged t engine).2]
      exact fresh
  | ready found dispatch connect busy => exact ((answered _ _).drain _ _).conclude _ _ _

/-! ## Other events -/

theorem resume (accounts : s.Accounts settings intakes []) {held : HeldRequest}
    (member : held ∈ s.held) : (s.resume held).Accounts settings intakes [] := by
  have looked : Accounts { s with engine := s.engine.change held.client (·.resume held.ticket) }
      settings intakes [] := accounts.of_same rfl rfl rfl rfl
  unfold Server.resume
  simp only []
  split
  · exact looked
  · exact looked.complete member

theorem drop (accounts : s.Accounts settings intakes []) (ticket : Nat) :
    (s.drop ticket).Accounts settings intakes [] := by
  refine Server.drop_induction (fun s => s.Accounts settings intakes [])
    (fun _ member _ => accounts.unhold member) ?_ accounts
  intro s stalled batchOn kept
  unfold Server.endBatch
  split <;> exact kept.of_same rfl rfl rfl rfl

theorem sweepTransport (accounts : s.Accounts settings intakes []) (now : Timestamp)
    (type : ConnectionType) : (s.sweepTransport now type).2.Accounts settings intakes [] := by
  unfold Server.sweepTransport
  split
  next absent => exact accounts
  next t found =>
    exact accounts.recount found (t.admission.sweep_limit now)
      (Metrics.swept_underflows _ _ _)
      (Admission.sweep_spec (accounts.counted type t found) now)
      (fun _ _ _ => rfl)

end Accounts
end Server

namespace History

/-- Every event keeps the accounts. -/
theorem step_accounts {around : Surroundings}
    {settings : ConnectionType → Option TransportOptions} (h : History) (event : ServerEvent)
    (accounts : h.server.Accounts settings h.intakes []) :
    (h.step around event).server.Accounts settings (h.step around event).intakes [] := by
  have same : ∀ {server : Server}, server.Accounts settings h.intakes [] →
      server.Accounts settings (h.intakes ++ []) [] := fun kept => kept.later []
  cases event with
  | request request freshBrowser =>
      simp only [step, next, intake?]
      rw [Server.receive_eq]
      cases taken : h.server.intake? request with
      | some intake => exact accounts.process around rfl rfl
      | none =>
          simp only []
          split
          · exact same (accounts.of_same rfl rfl rfl (Metrics.add_underflows _ (by decide) _))
          · exact same accounts
  | batch intake freshBrowser => exact accounts.process around rfl rfl
  | publish channel data => exact same (accounts.of_same rfl rfl rfl rfl)
  | look ticket =>
      apply same
      simp only [step, next]
      cases found : h.server.heldBy? ticket with
      | some held => exact accounts.resume (List.mem_of_find?_eq_some found)
      | none => exact accounts
  | expire ticket =>
      apply same
      simp only [step, next]
      cases found : h.server.heldBy? ticket with
      | some held =>
          simp only []
          split
          · exact accounts.complete (List.mem_of_find?_eq_some found)
          · exact accounts
      | none => exact accounts
  | drop ticket => exact same (accounts.drop ticket)
  | sweep now =>
      apply same
      exact Server.sweep_induction (fun s => s.Accounts settings h.intakes [])
        (fun kept type => kept.sweepTransport now type) accounts
  | pass span => exact same (accounts.of_same rfl rfl rfl rfl)

/-- The accounts of a server that was just assembled are in order. -/
theorem start_accounts {path : String} {endpoint : EndpointContext} {codec : CodecChoice}
    {settings : List (ConnectionType × Except ConfigError TransportOptions)} {start : Server}
    (assembled : Server.assemble path endpoint codec settings = .ok start) :
    start.Accounts start.optionsOf? [] [] := by
  rcases Server.assemble_spec assembled with ⟨transports, made, fresh⟩
  subst made
  constructor
  · exact fun _ => rfl
  · exact List.Perm.refl _
  · exact List.nodup_nil
  · intro held member
    cases member
  · intro type t found
    rcases fresh type t found with ⟨o, written, made⟩
    rw [made]
    rfl
  · intro type t found
    rcases fresh type t found with ⟨o, written, made⟩
    rw [made]
    exact Admission.tallies_zero o.limit o.maxInterval
  · rfl

theorem run_accounts {path : String} {endpoint : EndpointContext} {codec : CodecChoice}
    {settings : List (ConnectionType × Except ConfigError TransportOptions)} {start : Server}
    (assembled : Server.assemble path endpoint codec settings = .ok start)
    (around : Surroundings) (events : List ServerEvent) :
    (run around { server := start } events).server.Accounts start.optionsOf?
      (run around { server := start } events).intakes [] := by
  apply run_induction step_accounts
  exact start_accounts assembled

/-- In every run of a server, whatever the order of its events, the counter of a browser
is the number of requests held for it and within the limit, and every request that was
suspended is either held or has been resumed, once, without an underflow.  A
request is held for the browser that its own cookies name. -/
theorem run_holds {path : String} {endpoint : EndpointContext} {codec : CodecChoice}
    {settings : List (ConnectionType × Except ConfigError TransportOptions)} {start : Server}
    (assembled : Server.assemble path endpoint codec settings = .ok start)
    {type : ConnectionType} {o : TransportOptions} (served : start.optionsOf? type = some o)
    {max : Nat} (numeric : o.limit = .atMost max) (around : Surroundings)
    (events : List ServerEvent) :
    let last := run around { server := start } events
    let ofType := fun held : HeldRequest => decide (held.route.type = type)
    (∃ t, last.server.transports.get? type = some t ∧ t.options = o ∧ ∀ browser,
      (t.admission.count? browser).getD 0 = holds last.server.held type browser ∧
        holds last.server.held type browser ≤ max) ∧
      (∀ held ∈ last.server.suspensions, held.route.type = type →
        ∃ intake, last.intakes[held.ticket]? = some intake ∧ held.route = intake.route ∧
          held.browser = intake.request.browser? o.identity) ∧
      last.server.suspensions.countP ofType =
        last.server.resumptions.countP ofType + last.server.held.countP ofType ∧
      (∀ ticket, let named := fun held : HeldRequest => held.ticket == ticket
        last.server.suspensions.countP named =
            last.server.resumptions.countP named + last.server.held.countP named ∧
          last.server.suspensions.countP named ≤ 1) ∧
      last.server.metrics.get? .admissionUnderflows = none := by
  intro last ofType
  have accounts := run_accounts assembled around events
  refine ⟨?_, ?_, ?_, ?_, accounts.sound⟩
  · have configured := (accounts.configured type).trans served
    rcases Option.map_eq_some_iff.mp configured with ⟨t, found, options⟩
    have limited : t.admission.limit = .atMost max := by
      rw [accounts.limited type t found, options, numeric]
    refine ⟨t, found, options, ?_⟩
    exact (Admission.tallies_atMost_iff limited _).mp (accounts.counted type t found)
  · intro held member same
    rcases accounts.resolved held member with ⟨intake, own, position, route, configured, browser⟩
    rw [same, served] at configured
    rw [← Option.some.inj configured] at browser
    exact ⟨intake, position, route, browser⟩
  · rw [accounts.paired.countP_eq, List.countP_append]
  · intro ticket named
    refine ⟨by rw [accounts.paired.countP_eq, List.countP_append], ?_⟩
    have once := List.nodup_iff_count_le_one.mp accounts.distinct ticket
    rwa [List.count, List.countP_map] at once

/-- Two tabs of one browser: the second is turned away while the first is held, and is
held itself once the first has gone. -/
theorem run_holds_second_tab :
    let start : Server :=
      { path := "/", transports := .ofList [(.longPolling, .ofOptions {} .compact)] }
    let around : Surroundings := { mint := fun n => ⟨String.ofList (List.replicate n 'c')⟩ }
    let hand := fun (channel : String) (client : Option ClientId) => ServerEvent.batch
      { request :=
          { target := .ofText "/"
            headers := [⟨"cookie", "BAYEUX_BROWSER=b".toList.map fun c => c.toNat.toUInt8⟩] }
        route := { type := .longPolling }
        batch := [{ channel, clientId := client }] } ⟨"x"⟩
    let events := [hand Channel.handshake none, hand Channel.connect (some ⟨""⟩),
      hand Channel.connect (some ⟨""⟩), hand Channel.handshake none,
      hand Channel.connect (some ⟨"c"⟩), hand Channel.connect (some ⟨"c"⟩), .drop 2,
      .sweep ⟨1⟩, .sweep ⟨40000⟩, hand Channel.connect (some ⟨"c"⟩)]
    let last := run around { server := start } events
    Server.assemble "/" {} .default [(.longPolling, .ok {})] = .ok start ∧
      start.optionsOf? .longPolling = some {} ∧
      last.server.suspensions.map HeldRequest.ticket = [2, 6] ∧
      (∃ t, last.server.transports.get? .longPolling = some t ∧
        (t.admission.count? ⟨"b"⟩).getD 0 = 1) ∧
      last.server.metrics.get? .admissionUnderflows = none := by
  intro start around hand events last
  have assembled : Server.assemble "/" {} .default [(.longPolling, .ok {})] = .ok start := rfl
  have served : start.optionsOf? .longPolling = some {} := rfl
  have counted : holds last.server.held .longPolling ⟨"b"⟩ = 1 := by decide +kernel
  have suspended : last.server.suspensions.map HeldRequest.ticket = [2, 6] := by decide +kernel
  rcases run_holds assembled served rfl around events with ⟨⟨t, found, _, counts⟩, _, _, _, sound⟩
  exact ⟨assembled, served, suspended, ⟨t, found, (counts ⟨"b"⟩).1.trans counted⟩, sound⟩

end History
end Bayeux
