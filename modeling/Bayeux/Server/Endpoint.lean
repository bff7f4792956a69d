import Bayeux.Server.Basic
import Bayeux.Net.PathPattern
import Bayeux.Text.Utf8

namespace Bayeux

/-!
# The endpoint

Which requests reach a transport, and what is written back over HTTP.
A request that is refused changes nothing.
-/

/-- A response as it is written back. -/
structure Reply where
  status : Nat
  contentType : Option String := none
  setCookie : List String := []
  body : String := ""
deriving DecidableEq, Repr

/-- Why a request does not reach the engine. -/
inductive Refusal where
  | notFound
  | methodNotAllowed
  /-- The body is too long or is not text. -/
  | unreadableBody
  | noTransport
  | malformed
deriving DecidableEq, Repr

namespace Reply

/-- Whether a text may stand in a header. -/
def isHeaderText (text : String) : Bool :=
  text.toList.all fun c => c == '\t' || (' ' ≤ c && c != '\x7f')

def statusOf : Outcome → Nat
  | .malformed => 400
  | _ => 200

/-- The reply that carries a transport's response.  A cookie that cannot stand in a
header is left out. -/
def ofResponse (r : Response) : Reply :=
  { status := statusOf r.outcome
    contentType := some r.contentType
    setCookie := (r.cookies.map Cookie.header).filter isHeaderText
    body := r.body }

end Reply

/-- The reply to a refused request.  The answer to a HEAD request has no body. -/
def Refusal.reply (verb : String) : Refusal → Reply
  | notFound => { status := 404 }
  | methodNotAllowed => { status := 405 }
  | unreadableBody => { status := 400 }
  | noTransport =>
    { status := 400
      contentType := some plainText
      body := if verb = "HEAD" then "" else "Unknown Bayeux Transport" }
  | malformed => .ofResponse (.malformed [])

namespace Endpoint

/-- The longest body accepted, in bytes. -/
def maxBody : Nat := 2 * 1024 * 1024

/-- Method names are told apart by case here. -/
def isAllowed (method : String) : Bool :=
  method == "GET" || method == "HEAD" || method == "POST"

/-- The body as text. -/
def bodyText? (r : Request) : Option String :=
  if maxBody < r.body.length then none
  else (Text.Utf8.decode? r.body).map String.ofList

/-- Whether a name is safe to call as a script function. -/
def isCallback (name : String) : Bool :=
  !name.isEmpty && name.utf8ByteSize ≤ 128 &&
    name.toList.all fun c => c.isAlphanum || c == '_' || c == '$' || c == '.'

/-- The texts of the batches in a request, and the route of their replies. -/
def texts (type : ConnectionType) (r : Request) (body : String) :
    Except Refusal (Route × List String) :=
  match type with
  | .longPolling => .ok ({ type }, [body])
  | .callbackPolling =>
    let callback := (r.parameter? ConnectionType.callbackParameter).getD ""
    if isCallback callback then
      .ok ({ type, callback := some callback },
        r.parameterValues ConnectionType.messageParameter)
    else .error .malformed

end Endpoint

namespace Server

/-- Whether a path is the one that is served, which may be a pattern. -/
def serves (s : Server) (path : String) : Bool :=
  (Net.PathPattern.ofText s.path).takes path.toList

/-- The connection type that takes a request. -/
def typeFor? (s : Server) (r : Request) : Option ConnectionType :=
  ConnectionType.all.find? fun type => s.transports.contains type && type.accepts r

/-- Finds the texts of a request, before any of them is decoded. -/
def route (s : Server) (r : Request) : Except Refusal (Route × List String) :=
  if !s.serves r.target.path then .error .notFound
  else if !Endpoint.isAllowed r.method then .error .methodNotAllowed
  else
    match Endpoint.bodyText? r, s.typeFor? r with
    | none, _ => .error .unreadableBody
    | some _, none => .error .noTransport
    | some body, some type => Endpoint.texts type r body

/-- Decodes all texts of a request into one batch. -/
def decode (s : Server) (route : Route) (texts : List String) : Except Json.Fault Batch :=
  let codec := ((s.transports.get? route.type).map Transport.codec).getD .compact
  (texts.mapM codec.decode).map List.flatten

/-- Puts a batch that does not decode on record. -/
def noteMalformed (s : Server) : Server :=
  { s with metrics := s.metrics.add .malformedBatches 1 }

/-- Takes a request in.  A refused one is replied to at once. -/
def receive (around : Surroundings) (s : Server) (a : Arrival) : Option Reply × Server :=
  let verb := a.request.method
  match s.route a.request with
  | .error refusal => (some (refusal.reply verb), s)
  | .ok (route, texts) =>
    match s.decode route texts with
    | .error _ => (some (Refusal.malformed.reply verb), s.noteMalformed)
    | .ok batch =>
      let endpoint := a.request.endpoint.or (some s.endpoint)
      (none, s.process around { a with request := { a.request with endpoint } } route batch)

/-- The reply that an answered request gets. -/
def replyTo (s : Server) (answered : AnsweredRequest) : Reply :=
  let codec := ((s.transports.get? answered.route.type).map Transport.codec).getD .compact
  .ofResponse (answered.exchange.response codec answered.route)

end Server

end Bayeux
