import Bayeux.Proofs.Fallible
import Bayeux.Proofs.Table
import Bayeux.Server.Endpoint
import Bayeux.Server.Settings

namespace Bayeux

/-!
# Runs of a server

Everything that can happen to a server is an event, and a run is a list of events in
any order: requests come in, messages are published, requests that are held look at
their sessions again, run out of time or are dropped, browsers are swept, and
time passes.  Each event is one task running until it waits.  Nothing is assumed
about when a held request looks again, nor that a timer fires in time.
-/

/-- What a transport was given: a request, how it came in, and the batch it carries. -/
structure Intake where
  request : Request
  route : Route
  batch : Batch

inductive ServerEvent where
  /-- A request comes in at the endpoint. -/
  | request (request : Request) (freshBrowser : BrowserId)
  /-- A batch is handed to a transport. -/
  | batch (intake : Intake) (freshBrowser : BrowserId)
  | publish (channel : String) (data : Json.Value)
  /-- A held request looks at its session again. -/
  | look (ticket : Nat)
  /-- The timer of a held request fires, if its time is up. -/
  | expire (ticket : Nat)
  /-- The client of a request goes away. -/
  | drop (ticket : Nat)
  | sweep (now : Timestamp)
  | pass (span : Nat)

namespace Server

/-- What a request at the endpoint brings to a transport, unless it is refused. -/
def intake? (s : Server) (r : Request) : Option Intake :=
  match s.route r with
  | .error _ => none
  | .ok (route, texts) =>
    match s.decode route texts with
    | .error _ => none
    | .ok batch =>
      some { request := { r with endpoint := r.endpoint.or (some s.endpoint) }, route, batch }

/-- A request at the endpoint is handed to a transport or leaves no trace but a
metric. -/
theorem receive_eq (around : Surroundings) (s : Server) (a : Arrival) :
    (s.receive around a).2 =
      match s.intake? a.request with
      | some intake =>
        s.process around { a with request := intake.request } intake.route intake.batch
      | none => if s.route a.request matches .ok _ then s.noteMalformed else s := by
  unfold receive intake?
  cases routed : s.route a.request with
  | error refusal => rfl
  | ok found =>
      rcases found with ⟨route, texts⟩
      cases decoded : s.decode route texts with
      | error fault => simp only [decoded, if_true]
      | ok batch => simp only [decoded]

/-- What the sweep of each transport keeps is kept by the sweep of all. -/
theorem sweep_induction (keeps : Server → Prop) {now : Timestamp}
    (step : ∀ {s : Server}, keeps s → ∀ type, keeps (s.sweepTransport now type).2) {s : Server}
    (start : keeps s) : keeps (s.sweep now).2 := by
  have swept : ∀ (types : List ConnectionType) (start : Nat × Server), keeps start.2 →
      keeps (types.foldl (fun start type =>
        ((start.1 + (start.2.sweepTransport now type).1, (start.2.sweepTransport now type).2) :
          Nat × Server)) start).2 := by
    intro types
    induction types with
    | nil => exact fun _ kept => kept
    | cons type rest inductionHypothesis =>
        intro start kept
        exact inductionHypothesis _ (step kept type)
  exact swept ConnectionType.all (0, s) start

/-- What is kept when a held request is forgotten, and when the batch of a stalled one is
closed, is kept when a client goes away. -/
theorem drop_induction (keeps : Server → Prop) {s : Server} {ticket : Nat}
    (unhold : ∀ held ∈ s.held, held.ticket = ticket → keeps (s.unhold held))
    (close : ∀ {s : Server} (stalled : List StalledRequest) (batchOn : Option ClientId), keeps s →
      keeps ({ s with stalled }.endBatch batchOn))
    (start : keeps s) : keeps (s.drop ticket) := by
  unfold drop
  cases found : s.heldBy? ticket with
  | some held =>
      have own : held.ticket = ticket := by simpa using List.find?_some found
      have kept := unhold held (List.mem_of_find?_eq_some found) own
      simp only []
      split
      · exact close _ _ kept
      · exact kept
  | none =>
      simp only []
      split
      · exact close _ _ start
      · exact start

end Server

/-- A server together with all that its transports have been given.  The ticket of a
request is its position among them. -/
structure History where
  server : Server
  intakes : List Intake := []

namespace History

/-- The ticket for the next request. -/
def nextTicket (h : History) : Nat :=
  h.intakes.length

/-- What one event makes of a server. -/
def next (around : Surroundings) (h : History) : ServerEvent → Server
  | .request request freshBrowser =>
    (h.server.receive around { ticket := h.nextTicket, request, freshBrowser }).2
  | .batch intake freshBrowser =>
    h.server.process around { ticket := h.nextTicket, request := intake.request, freshBrowser }
      intake.route intake.batch
  | .publish channel data => (h.server.publish channel data).2
  | .look ticket =>
    match h.server.heldBy? ticket with
    | some held => h.server.resume held
    | none => h.server
  | .expire ticket =>
    match h.server.heldBy? ticket with
    | some held => if held.deadline ≤ h.server.now then h.server.complete held else h.server
    | none => h.server
  | .drop ticket => h.server.drop ticket
  | .sweep now => (h.server.sweep now).2
  | .pass span => { h.server with now := h.server.now + span }

/-- What one event brings to the transports. -/
def intake? (h : History) : ServerEvent → Option Intake
  | .request request _ => h.server.intake? request
  | .batch intake _ => some intake
  | _ => none

def step (around : Surroundings) (h : History) (event : ServerEvent) : History :=
  { server := h.next around event
    intakes := h.intakes ++ (h.intake? event).toList }

def run (around : Surroundings) (h : History) (events : List ServerEvent) : History :=
  events.foldl (step around) h

theorem run_append (around : Surroundings) (h : History) (earlier later : List ServerEvent) :
    h.run around (earlier ++ later) = (h.run around earlier).run around later :=
  List.foldl_append

/-- What every event keeps holds at the end of every run. -/
theorem run_induction {around : Surroundings} {invariant : History → Prop}
    (step : ∀ h event, invariant h → invariant (h.step around event))
    {h : History} (start : invariant h) (events : List ServerEvent) :
    invariant (h.run around events) := by
  induction events generalizing h with
  | nil => exact start
  | cons event rest inductionHypothesis => exact inductionHypothesis (step h event start)

end History

/-! ## The start of a run -/

/-- A server that was just assembled holds nothing and has counted nothing. -/
theorem Server.assemble_spec {path : String} {endpoint : EndpointContext} {codec : CodecChoice}
    {settings : List (ConnectionType × Except ConfigError TransportOptions)} {start : Server}
    (assembled : Server.assemble path endpoint codec settings = .ok start) :
    ∃ transports, start = { path, endpoint, transports } ∧
      ∀ type t, transports.get? type = some t → ∃ o codec, t = .ofOptions o codec := by
  unfold Server.assemble at assembled
  generalize makes : (fun (x : ConnectionType × Except ConfigError TransportOptions) => (do
      return (x.1, Transport.ofOptions (← x.2) (← codec.resolve)) : Except ConfigError _)) = make
      at assembled
  cases made : settings.mapM make with
  | error fault =>
      rw [made] at assembled
      cases assembled
  | ok list =>
      rw [made] at assembled
      cases assembled
      refine ⟨_, rfl, ?_⟩
      intro type t found
      rcases exists_of_mem_mapM made (Table.mem_of_get?_ofList found) with ⟨setting, _, result⟩
      rw [← makes] at result
      cases options : setting.2 with
      | error fault =>
          simp only [options] at result
          cases result
      | ok o =>
          cases resolved : codec.resolve with
          | error fault =>
              simp only [options, resolved] at result
              cases result
          | ok written =>
              simp only [options, resolved] at result
              cases result
              exact ⟨o, written, rfl⟩
end Bayeux
