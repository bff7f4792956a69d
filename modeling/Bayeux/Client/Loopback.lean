import Bayeux.Client.Basic
import Bayeux.Client.CookieJar
import Bayeux.Server.Endpoint
import Bayeux.Server.Schedule

namespace Bayeux

/-!
# Clients on the loopback address

A client whose requests do not leave the program.  At the loopback address its peer
answers them: nobody, a script or a server.  Nothing listens at any other address.
-/

structure ScriptedReply where
  status : Nat := 200
  setCookie : List String := []
  body : List UInt8 := []
deriving DecidableEq, Repr

/-- What arrives of a reply.  A status that only announces another reply cannot take its
place; the sender reports a fault of its own instead. -/
def ScriptedReply.delivered (reply : ScriptedReply) : ScriptedReply :=
  if 100 ≤ reply.status ∧ reply.status < 200 ∧ reply.status ≠ 101 then { status := 500 }
  else reply

inductive Peer where
  | nobody
  /-- Answers the requests in turn; `none` is never answered. -/
  | script (replies : List (Option ScriptedReply))
  | server (around : Surroundings) (server : Server)

/-- A request as the peer receives it. -/
structure ReceivedRequest where
  method : String := "POST"
  resource : String
  contentType : String := ConnectionType.longPolling.contentType
  /-- The cookies, if they are a text that a header may hold. -/
  cookie : Option String
  body : String
deriving DecidableEq, Repr

/-- A request that waits for its reply. -/
structure Flight where
  exchange : Nat
  deadline : Nat
deriving DecidableEq, Repr

structure Loopback where
  client : Client
  peer : Peer
  /-- The time on the calendar at the start, which tells old cookies. -/
  date : Timestamp := ⟨0⟩
  jar : CookieJar := {}
  received : List ReceivedRequest := []
  inFlight : List Flight := []
  now : Nat := 0

namespace Loopback

/-- The status after a script has ended. -/
def endOfScript : ScriptedReply :=
  { status := 500 }

/-- Whether the peer is at the client's address. -/
def reachesPeer (url : Net.Url) : Bool :=
  url.scheme == "http" && (url.authority.map (·.host)) == some "127.0.0.1"

def host (l : Loopback) : String :=
  (l.client.url.authority.map (·.host)).getD ""

/-- The body of a response; some statuses have none. -/
def contentOf (reply : ScriptedReply) : List UInt8 :=
  if reply.status = 204 ∨ reply.status = 304 then [] else reply.body

/-- A response arrives: its cookies are kept, and the exchange has its outcome. -/
def arrive (l : Loopback) (exchange : Nat) (reply : ScriptedReply) : Loopback :=
  let store (jar : CookieJar) (header : String) : CookieJar :=
    jar.store ⟨l.date.millis + l.now⟩ l.host l.client.url.path header
  { l with
    jar := reply.setCookie.foldl store l.jar
    inFlight := l.inFlight.filter (·.exchange != exchange)
    client := l.client.complete exchange
      (Client.outcome l.client.codec reply.status (contentOf reply)) }

/-- Hands over the responses that a server has ready. -/
def collect (l : Loopback) : Loopback :=
  match l.peer with
  | .server _ server =>
    l.inFlight.foldl
      (fun l flight =>
        match server.answered.find? fun a => a.ticket == flight.exchange with
        | some answered =>
          let reply := server.replyTo answered
          l.arrive flight.exchange
            { status := reply.status
              setCookie := reply.setCookie
              body := Text.Utf8.encode reply.body.toList }
        | none => l)
      l
  | _ => l

/-- Takes a request off the line; a server drops it. -/
def hangUp (l : Loopback) (exchange : Nat) : Loopback :=
  { l with
    inFlight := l.inFlight.filter (·.exchange != exchange)
    peer := match l.peer with
      | .server around server => .server around (server.drop exchange).settle
      | peer => peer }

/-- A header with the given name and text. -/
def header (name text : String) : Header :=
  .ofBytes name (Text.Utf8.encode text.toList)

/-- The header with the cookies that belong to the client's address. -/
def cookie? (l : Loopback) : Option Header :=
  let url := l.client.url
  (l.jar.header? (CookieJar.isSafe url) l.host url.path).map (header "cookie")

/-- The request as a server sees it. -/
def request (l : Loopback) (post : Post) : Request :=
  { target := .ofText l.client.url.resource
    headers := header "host" l.host ::
      header "content-type" ConnectionType.longPolling.contentType :: l.cookie?.toList
    remote := some { host := .v4 [127, 0, 0, 1], port := 0 }
    body := Text.Utf8.encode post.body.toList }

/-- Makes a request. -/
def make (l : Loopback) (post : Post) : Loopback :=
  let flight : Flight := { exchange := post.exchange, deadline := l.now + post.timeout }
  let flying := { l with inFlight := l.inFlight ++ [flight] }
  if !reachesPeer l.client.url then
    { l with client := l.client.complete post.exchange (.error (.http "connection refused")) }
  else
    match l.peer with
    | .nobody =>
      { l with client := l.client.complete post.exchange (.error (.http "connection refused")) }
    | .script replies =>
      let request : ReceivedRequest :=
        { resource := l.client.url.resource
          cookie := l.cookie?.bind Header.text?
          body := post.body }
      let heard := { flying with
        peer := .script replies.tail
        received := l.received ++ [request] }
      match replies.head?.getD (some endOfScript) with
      | some reply => heard.arrive post.exchange reply.delivered
      | none => heard
    | .server around server =>
      let arrival : Arrival :=
        { ticket := post.exchange
          request := l.request post
          freshBrowser := .generate 0 post.exchange l.date.millis }
      match server.receive around arrival with
      | (some reply, server) =>
        let noted := { flying with peer := .server around server }
        noted.arrive post.exchange
          { status := reply.status
            setCookie := reply.setCookie
            body := Text.Utf8.encode reply.body.toList }
      | (none, server) => { flying with peer := .server around server.settle }.collect

/-! ## Steps -/

/-- Sends a batch; returns the exchange if a request was made for it. -/
def send (l : Loopback) (listener : String) (batch : Batch) (hasRuntime : Bool) :
    Option Nat × Loopback :=
  match l.client.send listener batch hasRuntime with
  | (none, client) => (none, { l with client })
  | (some post, client) => (some post.exchange, { l with client }.make post)

/-- Moves the clock; requests whose time is up fail. -/
def moveTo (l : Loopback) (time : Nat) : Loopback :=
  let moved := { l with
    now := max l.now time
    peer := match l.peer with
      | .server around server => .server around (server.advanceTo time)
      | peer => peer }
  let collected := moved.collect
  (collected.inFlight.filter fun flight => flight.deadline ≤ collected.now).foldl
    (fun l flight =>
      let l := l.hangUp flight.exchange
      { l with client := l.client.complete flight.exchange (.error (.http "timed out")) })
    collected

/-- The times at which something may happen, in order. -/
def deadlines (l : Loopback) : List Nat :=
  let served := match l.peer with
    | .server _ server => server.held.map HeldRequest.deadline
    | _ => []
  (l.inFlight.map Flight.deadline ++ served).mergeSort

/-- Lets time pass until an exchange has its outcome. -/
def await (l : Loopback) (exchange : Nat) : Loopback :=
  l.deadlines.foldl
    (fun l time => if l.client.pending.contains exchange then l.moveTo time else l) l

/-- Sends a batch and lets time pass until its outcome is known. -/
def sendAndWait (l : Loopback) (listener : String) (batch : Batch) : Loopback :=
  match l.send listener batch true with
  | (some exchange, l) => l.await exchange
  | (none, l) => l

/-- Hangs up on every exchange that is no longer pending. -/
def hangUpAll (l : Loopback) : Loopback :=
  (l.inFlight.filter fun flight => !l.client.pending.contains flight.exchange).foldl
    (fun l flight => l.hangUp flight.exchange) l

def abort (l : Loopback) : Loopback :=
  { l with client := l.client.abort }.hangUpAll

def terminate (l : Loopback) : Loopback :=
  { l with client := l.client.terminate }.hangUpAll

/-- Publishes on the peer's server; returns for how many sessions. -/
def publish (l : Loopback) (channel : String) (data : Json.Value) : Nat × Loopback :=
  match l.peer with
  | .server around server =>
    let (delivered, server) := server.publish channel data
    (delivered, { l with peer := .server around server.settle }.collect)
  | _ => (0, l)

end Loopback

end Bayeux
