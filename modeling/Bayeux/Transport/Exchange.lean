import Bayeux.Codec
import Bayeux.Engine
import Bayeux.Transport.Connection
import Bayeux.Transport.Response

namespace Bayeux

/-!
# Exchanges

A batch of messages is answered by a batch that holds what was queued
for the client and then one reply for each message, in order.  If the batch has
a connect that finds nothing queued, its request may be held back.
-/

/-- What an extension makes of a message before the engine sees it. -/
inductive Interception where
  | pass
  | answer (reply : Message)
  /-- The message is never answered. -/
  | silence

/-- What a server takes from its surroundings: fresh client ids, and an extension. -/
structure Surroundings where
  mint : Nat → ClientId
  intercept : Request → Message → Interception := fun _ _ => .pass

/-- How a request came in, and how its replies go out. -/
structure Route where
  type : ConnectionType
  /-- The script function that is called with the replies. -/
  callback : Option String := none
deriving DecidableEq, Repr

structure Exchange where
  outcome : Outcome := .delivered
  /-- The session whose queue was taken. -/
  session : Option ClientId := none
  queued : Batch := []
  replies : Batch
  cookies : List Cookie := []
deriving Repr

namespace Exchange

def messages (x : Exchange) : Batch :=
  x.queued ++ x.replies

/-- The messages as they are written on a route. -/
def body (x : Exchange) (codec : Codec) (route : Route) : String :=
  let text := codec.encode x.messages
  match route.callback with
  | some function => function ++ "(" ++ text ++ ")"
  | none => text

def response (x : Exchange) (codec : Codec) (route : Route) : Response :=
  { outcome := x.outcome
    contentType := route.type.contentType
    body := x.body codec route
    cookies := x.cookies }

end Exchange

/-! ## Answering a batch -/

/-- The reply to one message. -/
structure Answer where
  reply : Message
  /-- Only for a connect: whether the session was connected before it. -/
  wasConnected : Option Bool := none
deriving Repr

namespace TransportOptions

/-- Completes the reply to a successful connect by the advice of these settings. -/
def adviseConnect (o : TransportOptions) (reply : Message) : Message :=
  if reply.isSuccessful then
    reply.adviseWith fun a => { a with
      reconnect := a.reconnect.or (some .retry)
      timeout := a.timeout.or (some (o.timeout % UInt64.size))
      interval := a.interval.or (some (o.interval % UInt64.size)) }
  else reply

/-- Turns a connect away, because its browser has too many connections or is not
known. -/
def adviseRejected (o : TransportOptions) (browserKnown : Bool) (reply : Message) : Message :=
  let advised := reply.adviseWith fun a => { a with
    multipleClients := if browserKnown then some true else a.multipleClients }
  if o.multiSessionInterval = 0 then
    { advised.adviseWith fun a => { a with reconnect := some .never } with
      successful := some false }
  else
    advised.adviseWith fun a => { a with
      reconnect := some .retry
      interval := some (o.multiSessionInterval % UInt64.size) }

/-- Whether a connect may be held: it succeeded on a session that was connected
before it and still is, and there is nothing to deliver. -/
def mayHold (o : TransportOptions) (s : Session) (reply : Message) (wasConnected : Bool) :
    Bool :=
  reply.isSuccessful && wasConnected && s.connected && o.timeout != 0 && s.queue.isEmpty

end TransportOptions

namespace Surroundings

/-- The reply to a message, from the extension or from the engine. -/
def reply? (around : Surroundings) (r : Request) (e : Engine) (m : Message) :
    Option Message × Engine :=
  match around.intercept r m with
  | .pass =>
    let (reply, e) := e.answer around.mint m
    (some reply, e)
  | .answer reply => (some reply, e)
  | .silence => (none, e)

/-- The answer to a message, with the advice that belongs to it. -/
def answer? (around : Surroundings) (o : TransportOptions) (r : Request) (e : Engine)
    (m : Message) : Option Answer × Engine :=
  let (reply, changed) := around.reply? r e m
  if m.isConnect then
    let wasConnected := (e.sender? m).any Session.connected
    (reply.map fun reply =>
      { reply := o.adviseConnect reply, wasConnected := some wasConnected }, changed)
  else (reply.map fun reply => { reply }, changed)

/-- Answers a batch in order, up to a message that is never answered. -/
def answers? (around : Surroundings) (o : TransportOptions) (r : Request) :
    Engine → Batch → Option (List Answer) × Engine
  | e, [] => (some [], e)
  | e, m :: rest =>
    match around.answer? o r e m with
    | (none, e) => (none, e)
    | (some answer, e) =>
      let (answers, e) := answers? around o r e rest
      (answers.map (answer :: ·), e)

end Surroundings

/-- The position of the last connect among the answers, and whether its session was
connected before it. -/
def lastConnect? : List Answer → Option (Nat × Bool)
  | [] => none
  | answer :: rest =>
    match lastConnect? rest with
    | some (index, wasConnected) => some (index + 1, wasConnected)
    | none => answer.wasConnected.map fun wasConnected => (0, wasConnected)

end Bayeux
