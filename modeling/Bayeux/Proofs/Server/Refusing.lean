import Bayeux.Proofs.Server.Run

namespace Bayeux

/-!
# Requests that are refused

A request may fail on the way to the engine at many places: its body is too long or not
text, no transport takes it, or its texts do not all decode.  The predicate `Refuses` says so
without regard to the order in which a server finds out.  A server refuses exactly these
requests, and one that is refused leaves no trace but a metric.
-/

/-- A request on the path of a server that uses GET or POST. -/
structure Server.Addresses (s : Server) (r : Request) : Prop where
  path : s.serves r.target.path = true
  method : r.method = "GET" ∨ r.method = "POST"

/-- What is wrong with a request that is refused. -/
inductive Server.Refuses (s : Server) (r : Request) : Prop where
  | tooLong (long : 2 * 1024 * 1024 < r.body.length)
  | notText (undecodable : Text.Utf8.decode? r.body = none)
  | unaccepted (rejected : ∀ type t, s.transports.get? type = some t → type.accepts r = false)
  | body {t : Transport} {text : List Char} {fault : Json.Fault} (method : r.method = "POST")
    (found : s.transports.get? .longPolling = some t)
    (read : Text.Utf8.decode? r.body = some text)
    (malformed : t.codec.decode (String.ofList text) = .error fault)
  | callback {t : Transport} {name : String} (method : r.method = "GET")
    (found : s.transports.get? .callbackPolling = some t)
    (named : r.parameter? "jsonp" = some name) (invalid : Endpoint.isCallback name = false)
  | message {t : Transport} {name text : String} {fault : Json.Fault} (method : r.method = "GET")
    (found : s.transports.get? .callbackPolling = some t)
    (named : r.parameter? "jsonp" = some name) (given : text ∈ r.parameterValues "message")
    (malformed : t.codec.decode text = .error fault)

namespace Server

variable {s : Server} {r : Request}

/-! ## Finding a transport -/

namespace Addresses

theorem verb (addresses : s.Addresses r) : r.verb = r.method := by
  unfold Request.verb
  rcases addresses.method with get | post
  · rw [get]
    decide
  · rw [post]
    decide

theorem isAllowed (addresses : s.Addresses r) : Endpoint.isAllowed r.method = true := by
  rcases addresses.method with get | post
  · rw [get]
    decide
  · rw [post]
    decide

theorem accepts_longPolling_iff (addresses : s.Addresses r) :
    ConnectionType.longPolling.accepts r = true ↔ r.method = "POST" := by
  rw [← addresses.verb]
  exact beq_iff_eq

theorem accepts_callbackPolling_iff (addresses : s.Addresses r) :
    ConnectionType.callbackPolling.accepts r = true ↔
      r.method = "GET" ∧ ∃ name, r.parameter? "jsonp" = some name := by
  rw [← addresses.verb, ← Option.isSome_iff_exists]
  exact Bool.and_eq_true_iff.trans (and_congr_left fun _ => beq_iff_eq)

end Addresses

theorem typeFor?_eq_none_iff : s.typeFor? r = none ↔
    ∀ type t, s.transports.get? type = some t → type.accepts r = false := by
  unfold typeFor?
  rw [List.find?_eq_none]
  constructor
  · intro rejected type t found
    have listed : type ∈ ConnectionType.all := by cases type <;> decide
    have taken := rejected type listed
    rw [Table.contains_eq, found, Option.isSome_some, Bool.true_and] at taken
    exact Bool.eq_false_iff.mpr taken
  · intro rejected type _ taken
    rcases Bool.and_eq_true_iff.mp taken with ⟨served, accepted⟩
    rw [Table.contains_eq] at served
    rcases Option.isSome_iff_exists.mp served with ⟨t, found⟩
    exact Bool.false_ne_true ((rejected type t found).symm.trans accepted)

theorem accepts_of_typeFor? {type : ConnectionType} (found : s.typeFor? r = some type) :
    (∃ t, s.transports.get? type = some t) ∧ type.accepts r = true := by
  have taken := Bool.and_eq_true_iff.mp
    (List.find?_some (p := fun type => s.transports.contains type && type.accepts r) found)
  exact ⟨Option.isSome_iff_exists.mp taken.1, taken.2⟩

/-! ## Reading a request -/

theorem bodyText?_eq_none_iff : Endpoint.bodyText? r = none ↔
    2 * 1024 * 1024 < r.body.length ∨ Text.Utf8.decode? r.body = none := by
  unfold Endpoint.bodyText?
  change (if 2 * 1024 * 1024 < r.body.length then none else _) = none ↔ _
  split
  next long => simp [long]
  next short => simp [short]

theorem bodyText?_eq_some_iff {text : String} : Endpoint.bodyText? r = some text ↔
    ¬ 2 * 1024 * 1024 < r.body.length ∧
      (Text.Utf8.decode? r.body).map String.ofList = some text := by
  unfold Endpoint.bodyText?
  change (if 2 * 1024 * 1024 < r.body.length then none else _) = some text ↔ _
  split
  next long => simp [long]
  next short => simp [short]

theorem Addresses.route_eq (addresses : s.Addresses r) :
    s.route r =
      match Endpoint.bodyText? r, s.typeFor? r with
      | none, _ => .error .unreadableBody
      | some _, none => .error .noTransport
      | some body, some type => Endpoint.texts type r body := by
  unfold route
  rw [addresses.path, addresses.isAllowed]
  rfl

/-- A list of texts fails to decode if any of them does. -/
theorem decode_eq_error_iff {route : Route} {t : Transport}
    (found : s.transports.get? route.type = some t) {texts : List String} :
    (∃ fault, s.decode route texts = .error fault) ↔
      ∃ text ∈ texts, ∃ fault, t.codec.decode text = .error fault := by
  have all : s.decode route texts = (texts.mapM t.codec.decode).map List.flatten := by
    unfold decode
    rw [found]
    rfl
  rw [← mapM_eq_error_iff, all]
  cases texts.mapM t.codec.decode with
  | error fault => exact iff_of_true ⟨fault, rfl⟩ ⟨fault, rfl⟩
  | ok batches => exact iff_of_false nofun nofun

theorem texts_callbackPolling {name : String} (named : r.parameter? "jsonp" = some name)
    (body : String) : Endpoint.texts .callbackPolling r body =
      if Endpoint.isCallback name then
        .ok ({ type := .callbackPolling, callback := some name }, r.parameterValues "message")
      else .error .malformed := by
  unfold Endpoint.texts
  simp only [ConnectionType.callbackParameter, named]
  rfl

/-- What a posted request is refused for, if it can be read and is taken. -/
theorem refuses_iff_of_post {t : Transport} {text : String} (method : r.method = "POST")
    (found : s.transports.get? .longPolling = some t)
    (taken : ConnectionType.longPolling.accepts r = true)
    (readable : Endpoint.bodyText? r = some text) :
    s.Refuses r ↔ ∃ fault, t.codec.decode text = .error fault := by
  rcases bodyText?_eq_some_iff.mp readable with ⟨short, decoded⟩
  rcases Option.map_eq_some_iff.mp decoded with ⟨chars, read, rfl⟩
  constructor
  · intro refuses
    cases refuses with
    | tooLong long => exact absurd long short
    | notText undecodable =>
        rw [read] at undecodable
        cases undecodable
    | unaccepted rejected =>
        exact absurd (rejected .longPolling t found) (by simp [taken])
    | body _ foundToo readToo malformed =>
        rw [found] at foundToo
        rw [read] at readToo
        cases foundToo
        cases readToo
        exact ⟨_, malformed⟩
    | callback get | message get =>
        rw [method] at get
        exact absurd get (by decide)
  · rintro ⟨fault, malformed⟩
    exact .body method found read malformed

/-- What a query is refused for, if it is taken. -/
theorem refuses_iff_of_get {t : Transport} {name : String} (method : r.method = "GET")
    (found : s.transports.get? .callbackPolling = some t)
    (named : r.parameter? "jsonp" = some name)
    (taken : ConnectionType.callbackPolling.accepts r = true)
    {text : String} (readable : Endpoint.bodyText? r = some text) :
    s.Refuses r ↔ Endpoint.isCallback name = false ∨
      ∃ text ∈ r.parameterValues "message", ∃ fault, t.codec.decode text = .error fault := by
  rcases bodyText?_eq_some_iff.mp readable with ⟨short, decoded⟩
  constructor
  · intro refuses
    cases refuses with
    | tooLong long => exact absurd long short
    | notText undecodable =>
        rw [undecodable] at decoded
        cases decoded
    | unaccepted rejected =>
        exact absurd (rejected .callbackPolling t found) (by simp [taken])
    | body post =>
        rw [method] at post
        exact absurd post (by decide)
    | callback _ _ namedToo invalid =>
        rw [named] at namedToo
        cases namedToo
        exact .inl invalid
    | message _ foundToo _ given malformed =>
        rw [found] at foundToo
        cases foundToo
        exact .inr ⟨_, given, _, malformed⟩
  · rintro (invalid | ⟨text, given, fault, malformed⟩)
    · exact .callback method found named invalid
    · exact .message method found named given malformed

/-- What a request brings to a transport, in terms of what its texts decode to. -/
theorem intake?_eq_none_of_route {route : Route} {t : Transport} {texts : List String}
    (routed : s.route r = .ok (route, texts)) (found : s.transports.get? route.type = some t) :
    s.intake? r = none ↔ ∃ text ∈ texts, ∃ fault, t.codec.decode text = .error fault := by
  rw [← decode_eq_error_iff found]
  unfold intake?
  rw [routed]
  simp only []
  cases s.decode route texts with
  | error fault => exact iff_of_true rfl ⟨fault, rfl⟩
  | ok batch => exact iff_of_false nofun nofun

theorem intake?_eq_none_of_refusal {refusal : Refusal} (routed : s.route r = .error refusal) :
    s.intake? r = none := by
  unfold intake?
  rw [routed]

/-- A request brings nothing to a transport if it is one of those that are refused. -/
theorem Addresses.intake?_eq_none_iff (addresses : s.Addresses r) :
    s.intake? r = none ↔ s.Refuses r := by
  have routed := addresses.route_eq
  cases body : Endpoint.bodyText? r with
  | none =>
      rw [body] at routed
      refine iff_of_true (intake?_eq_none_of_refusal routed) ?_
      exact (bodyText?_eq_none_iff.mp body).elim .tooLong .notText
  | some text =>
      cases accepted : s.typeFor? r with
      | none =>
          rw [body, accepted] at routed
          exact iff_of_true (intake?_eq_none_of_refusal routed)
            (.unaccepted (typeFor?_eq_none_iff.mp accepted))
      | some type =>
          rw [body, accepted] at routed
          rcases accepts_of_typeFor? accepted with ⟨⟨t, found⟩, taken⟩
          cases type with
          | longPolling =>
              have method := addresses.accepts_longPolling_iff.mp taken
              rw [intake?_eq_none_of_route routed found,
                refuses_iff_of_post method found taken body]
              simp only [List.mem_singleton, exists_eq_left]
          | callbackPolling =>
              rcases addresses.accepts_callbackPolling_iff.mp taken with ⟨method, name, named⟩
              rw [refuses_iff_of_get method found named taken body]
              simp only [texts_callbackPolling named] at routed
              cases valid : Endpoint.isCallback name with
              | false =>
                  rw [valid] at routed
                  exact iff_of_true (intake?_eq_none_of_refusal routed) (.inl rfl)
              | true =>
                  rw [valid] at routed
                  rw [intake?_eq_none_of_route routed found]
                  simp only [Bool.true_eq_false, false_or]

/-! ## The reply -/

/-- A request on the path of a server is routed to a transport that it has, or it is a bad
request. -/
theorem Addresses.route_cases (addresses : s.Addresses r) :
    (∃ refusal, s.route r = .error refusal ∧ (refusal.reply r.method).status = 400 ∧
        (refusal.reply r.method).setCookie = []) ∨
      ∃ route texts t, s.route r = .ok (route, texts) ∧
        s.transports.get? route.type = some t := by
  rw [addresses.route_eq]
  cases Endpoint.bodyText? r with
  | none => exact .inl ⟨.unreadableBody, rfl, rfl, rfl⟩
  | some text =>
      cases accepted : s.typeFor? r with
      | none => exact .inl ⟨.noTransport, rfl, rfl, rfl⟩
      | some type =>
          rcases (accepts_of_typeFor? accepted).1 with ⟨t, found⟩
          cases type with
          | longPolling => exact .inr ⟨_, _, t, rfl, found⟩
          | callbackPolling =>
              simp only [Endpoint.texts]
              split
              · exact .inr ⟨_, _, t, rfl, found⟩
              · exact .inl ⟨.malformed, rfl, rfl, rfl⟩

/-- A request that is refused is replied to at once.  Whatever the surroundings, it is not
shown to an extension, and nothing of the server changes but its metrics. -/
theorem Addresses.receive_of_refuses {a : Arrival} (addresses : s.Addresses a.request)
    (refuses : s.Refuses a.request) :
    ∃ reply metrics, reply.status = 400 ∧ reply.setCookie = [] ∧
      ∀ around, s.receive around a = (some reply, { s with metrics }) := by
  have nothing := addresses.intake?_eq_none_iff.mpr refuses
  rcases addresses.route_cases with ⟨refusal, routed, status, cookies⟩ |
    ⟨route, texts, t, routed, found⟩
  · refine ⟨_, s.metrics, status, cookies, fun around => ?_⟩
    unfold receive
    rw [routed]
  · rcases (decode_eq_error_iff found).mpr
      ((intake?_eq_none_of_route routed found).mp nothing) with ⟨fault, decoded⟩
    refine ⟨Refusal.malformed.reply a.request.method, s.noteMalformed.metrics, rfl, rfl,
      fun around => ?_⟩
    unfold receive
    rw [routed]
    simp only [decoded]
    rfl

/-- A request that is let in gets no reply yet; it is brought to a transport. -/
theorem Addresses.receive_of_intake? {a : Arrival} (addresses : s.Addresses a.request)
    {intake : Intake} (taken : s.intake? a.request = some intake) (around : Surroundings) :
    (s.receive around a).1 = none ∧ ∃ t, s.transports.get? intake.route.type = some t := by
  rcases addresses.route_cases with ⟨refusal, routed, _⟩ | ⟨route, texts, t, routed, found⟩
  · rw [intake?_eq_none_of_refusal routed] at taken
    cases taken
  · unfold intake? at taken
    unfold receive
    rw [routed] at taken ⊢
    simp only [] at taken ⊢
    cases decoded : s.decode route texts with
    | error fault =>
        rw [decoded] at taken
        cases taken
    | ok batch =>
        rw [decoded] at taken
        cases taken
        exact ⟨rfl, t, found⟩

end Server
end Bayeux
