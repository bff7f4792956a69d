import Bayeux.Json.Value
import Bayeux.Net.Address
import Bayeux.Net.Form
import Bayeux.Net.Target
import Bayeux.Options.Basic
import Bayeux.Table

namespace Bayeux

/-!
# Requests

The request on which messages arrive, as transports and extensions see it, with
what else is attached to it: a user, an HTTP session, attributes of the request
and of the endpoint.
-/

/-- An authenticated user. -/
structure Principal where
  name : String
  roles : List String := []
deriving DecidableEq, Repr

/-- A session of the web layer, shared by the requests of one user agent. -/
structure HttpSession where
  id : String
  attributes : Table String Json.Value := ∅
  invalidated : Bool := false
deriving Repr

/-- State shared by all requests of an endpoint. -/
structure EndpointContext where
  init : Entries := ∅
  attributes : Table String Json.Value := ∅
deriving Repr

instance : Inhabited EndpointContext := ⟨{}⟩

/-- A header field: its name in lower case, and the bytes of its value. -/
structure Header where
  name : String
  value : List UInt8
deriving DecidableEq, Repr

structure Request where
  method : String := "POST"
  target : Net.Target
  headers : List Header := []
  remote : Option Net.SocketAddress := none
  receivedOn : Option Net.SocketAddress := none
  principal : Option Principal := none
  session : Option HttpSession := none
  attributes : Table String Json.Value := ∅
  endpoint : Option EndpointContext := none
  body : List UInt8 := []
deriving Repr

/-! ## HTTP sessions -/

namespace HttpSession

/-- An attribute; an invalidated session has none. -/
def get? (s : HttpSession) (name : String) : Option Json.Value :=
  if s.invalidated then none else s.attributes.get? name

def set (s : HttpSession) (name : String) (value : Json.Value) : HttpSession :=
  { s with attributes := s.attributes.insert name value }

/-- Drops all attributes for good. -/
def invalidate (s : HttpSession) : HttpSession :=
  { s with attributes := ∅, invalidated := true }

/-- Problem with a write to the session of a request. -/
inductive Fault where
  | noSession
deriving DecidableEq, Repr

def Fault.message : Fault → String
  | noSession => "no HTTP session attached to request"

end HttpSession

def Principal.hasRole (user : Principal) (role : String) : Bool :=
  user.roles.contains role

/-! ## Headers -/

namespace Header

def lower (text : String) : String :=
  String.ofList (text.toList.map Char.toLower)

def upper (text : String) : String :=
  String.ofList (text.toList.map Char.toUpper)

/-- A header with the given name and bytes. -/
def ofBytes (name : String) (value : List UInt8) : Header :=
  { name := lower name, value }

/-- The value as text, if all of its bytes are visible ASCII, blanks or tabs. -/
def text? (h : Header) : Option String :=
  if h.value.all fun byte => byte == 9 || (32 ≤ byte && byte < 127) then
    some (String.ofList (h.value.map fun byte => Char.ofNat byte.toNat))
  else none

end Header

namespace Request

/-- The method in upper case. -/
def verb (r : Request) : String :=
  Header.upper r.method

/-- The first header of a name, if its value is text. -/
def header? (r : Request) (name : String) : Option String :=
  (r.headers.find? fun h => h.name == Header.lower name).bind Header.text?

/-- The values of all headers of a name that are text. -/
def headerValues (r : Request) (name : String) : List String :=
  (r.headers.filter fun h => h.name == Header.lower name).filterMap Header.text?

/-- The parameters of the query. -/
def parameters (r : Request) : Net.Parameters :=
  match r.target.query? with
  | some query => Net.Form.parse query
  | none => []

def parameter? (r : Request) (name : String) : Option String :=
  (r.parameters.find? fun pair => pair.1 == name).map (·.2)

def parameterValues (r : Request) (name : String) : List String :=
  (r.parameters.filter fun pair => pair.1 == name).map (·.2)

/-- The first cookie of a name in any of the cookie headers. -/
def cookie? (r : Request) (name : String) : Option String :=
  (r.headerValues "cookie").findSome? fun header => CookieHeader.find? header name

/-- The session, unless it has been invalidated. -/
def liveSession? (r : Request) : Option HttpSession :=
  r.session.filter fun s => !s.invalidated

def setSessionAttribute (r : Request) (name : String) (value : Json.Value) :
    Except HttpSession.Fault Request :=
  match r.liveSession? with
  | some s => .ok { r with session := some (s.set name value) }
  | none => .error .noSession

def invalidateSession (r : Request) : Except HttpSession.Fault Request :=
  match r.liveSession? with
  | some s => .ok { r with session := some s.invalidate }
  | none => .error .noSession

def isUserInRole (r : Request) (role : String) : Bool :=
  match r.principal with
  | some user => user.hasRole role
  | none => false

def contextAttribute? (r : Request) (name : String) : Option Json.Value :=
  r.endpoint.bind fun context => context.attributes.get? name

def contextInit? (r : Request) (name : String) : Option String :=
  r.endpoint.bind fun context => context.init.get? name

/-! ## The URL -/

/-- The scheme that a proxy in front of the server reports, if it does. -/
def forwardedScheme? (r : Request) : Option String :=
  (r.header? "x-forwarded-proto").bind fun value =>
    let first := Text.trim (value.toList.takeWhile (· != ','))
    if first.isEmpty then none else some (Header.lower (String.ofList first))

def scheme (r : Request) : String :=
  (r.forwardedScheme?.or r.target.scheme).getD "http"

def host (r : Request) : String :=
  (r.target.authority.or ((r.header? "host").or (r.receivedOn.map Net.SocketAddress.text))).getD
    "localhost"

/-- The whole URL, query included. -/
def url (r : Request) : String :=
  r.scheme ++ "://" ++ r.host ++ r.target.shown

/-! ## The browser -/

/-- The browser that the request's cookies name. -/
def browser? (r : Request) (identity : BrowserIdentity) : Option BrowserId :=
  (r.cookie? identity.cookieName).bind fun value =>
    if value.isEmpty then none else some ⟨value⟩

/-- The port at the other end; zero when it is not known. -/
def remotePort (r : Request) : Nat :=
  match r.remote with
  | some address => address.port
  | none => 0

end Request

end Bayeux
