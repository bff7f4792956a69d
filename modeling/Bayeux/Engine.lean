import Bayeux.Session
import Bayeux.Table

namespace Bayeux

/-!
# The engine

The engine routes messages between sessions.  Channels are matched by their exact
names.  Every message is answered by one reply, and a message that is refused
changes nothing.
-/

structure Engine where
  /-- The sessions of clients that have not disconnected. -/
  sessions : Table ClientId Session := ∅
  /-- The sessions of clients that have; requests held for one come to their end. -/
  departed : Table ClientId Session := ∅
  /-- The clients subscribed to each channel, none of them twice. -/
  subscribers : Table String (List ClientId) := ∅
  /-- How many ids have been handed out. -/
  issued : Nat := 0
deriving Repr

instance : Inhabited Engine := ⟨{}⟩

namespace Engine

/-- The version of the protocol. -/
def version : String := "1.0"

/-- The connection types announced to a client. -/
def connectionTypes : List String :=
  ["long-polling", "callback-polling"]

def sessionCount (e : Engine) : Nat :=
  e.sessions.size

/-- The live session of an id. -/
def session? (e : Engine) (id : ClientId) : Option Session :=
  e.sessions.get? id

/-- The live session of the client that sends a message. -/
def sender? (e : Engine) (m : Message) : Option Session :=
  m.clientId.bind e.session?

/-- The session of an id, live or departed. -/
def known? (e : Engine) (id : ClientId) : Option Session :=
  (e.sessions.get? id).or (e.departed.get? id)

/-- Changes the session of an id, live or departed. -/
def change (e : Engine) (id : ClientId) (f : Session → Session) : Engine :=
  if e.sessions.contains id then { e with sessions := e.sessions.modify id f }
  else { e with departed := e.departed.modify id f }

/-! ## Publishing -/

/-- The live sessions subscribed to a channel. -/
def audience (e : Engine) (channel : String) : List ClientId :=
  (e.subscribers.getD channel []).filter fun id => e.sessions.contains id

/-- Queues one copy of a message for each session subscribed to its channel. -/
def broadcast (e : Engine) (m : Message) : Engine :=
  (e.audience m.channel).foldl (fun e id => e.change id (·.deliver m)) e

/-- Publishes data on a channel; returns for how many sessions it was queued. -/
def publish (e : Engine) (channel : String) (data : Json.Value) : Nat × Engine :=
  ((e.audience channel).length, e.broadcast { channel, data := some data })

/-! ## Answers -/

/-- The reply to a client without a live session, which has to start anew. -/
def unknownClient (reply : Message) : Message :=
  { reply with
    successful := some false
    error := some "402::Unknown client"
    advice := some { reconnect := some .handshake, interval := some 0 } }

def refuse (reply : Message) (error : String) : Message :=
  { reply with successful := some false, error := some error }

def accept (reply : Message) : Message :=
  { reply with successful := some true }

/-- Opens a session under a fresh id, whatever id the client sends. -/
def handshake (e : Engine) (mint : Nat → ClientId) (m : Message) : Message × Engine :=
  let id := mint e.issued
  ({ m.reply with
      clientId := some id
      successful := some true
      version := some version
      supportedConnectionTypes := some connectionTypes
      advice := some { reconnect := some .retry, interval := some 0 } },
    { e with sessions := e.sessions.insert id { id }, issued := e.issued + 1 })

def connect (e : Engine) (m : Message) : Message × Engine :=
  match e.sender? m with
  | none => (unknownClient m.reply, e)
  | some s => (accept m.reply, e.change s.id Session.connect)

/-- Removes a client from every channel, and every channel that is then empty. -/
def unsubscribeAll (e : Engine) (id : ClientId) : Engine :=
  let rest := e.subscribers.entries.map fun entry => (entry.1, entry.2.filter (· ≠ id))
  { e with subscribers := ⟨rest.filter fun entry => !entry.2.isEmpty⟩ }

def disconnect (e : Engine) (m : Message) : Message × Engine :=
  match e.sender? m with
  | none => (unknownClient m.reply, e)
  | some s =>
    let gone := { e with
      sessions := e.sessions.erase s.id
      departed := e.departed.insert s.id s.disconnect }
    (accept m.reply, gone.unsubscribeAll s.id)

def subscribe (e : Engine) (id : ClientId) (channel : String) : Engine :=
  let clients := e.subscribers.getD channel []
  { e with
    subscribers := e.subscribers.insert channel
      (if clients.contains id then clients else clients ++ [id]) }

def unsubscribe (e : Engine) (id : ClientId) (channel : String) : Engine :=
  { e with subscribers := e.subscribers.modify channel (·.filter (· ≠ id)) }

/-- Changes a subscription, which must be to a channel that begins with a slash. -/
def subscription (e : Engine) (m : Message) (apply : Engine → ClientId → String → Engine) :
    Message × Engine :=
  let reply := { m.reply with subscription := m.subscription }
  match e.sender? m, m.subscription.filter Channel.isAbsolute with
  | none, _ => (unknownClient reply, e)
  | some _, none => (refuse reply "403::invalid subscription", e)
  | some s, some channel => (accept reply, apply e s.id channel)

/-- What subscribers see of a message: who sent it is left out. -/
def published (m : Message) : Message :=
  { channel := m.channel, id := m.id, data := m.data, ext := m.ext }

/-- Passes a message of a client on to the subscribers of its channel. -/
def relay (e : Engine) (m : Message) : Message × Engine :=
  match e.sender? m with
  | none => (unknownClient m.reply, e)
  | some _ => (accept m.reply, e.broadcast (published m))

/-- Answers a message.  Fresh ids are given by `mint`. -/
def answer (e : Engine) (mint : Nat → ClientId) (m : Message) : Message × Engine :=
  if m.channel = Channel.handshake then e.handshake mint m
  else if m.channel = Channel.connect then e.connect m
  else if m.channel = Channel.disconnect then e.disconnect m
  else if m.channel = Channel.subscribe then e.subscription m subscribe
  else if m.channel = Channel.unsubscribe then e.subscription m unsubscribe
  else if m.isMeta then (refuse m.reply ("400::unknown channel " ++ m.channel), e)
  else e.relay m

/-- Answers messages one after the other. -/
def answerAll (mint : Nat → ClientId) : Engine → Batch → Batch × Engine
  | e, [] => ([], e)
  | e, m :: rest =>
    let (reply, e) := e.answer mint m
    let (replies, e) := answerAll mint e rest
    (reply :: replies, e)

/-! ## Waiting -/

/-- Whether a task waits for a session. -/
def isWaiting (e : Engine) (id : ClientId) (ticket : Nat) : Bool :=
  (e.known? id).any (·.isWaiting ticket)

/-- The tasks that a wake-up has reached, with the sessions they wait for. -/
def woken (e : Engine) : List (ClientId × Nat) :=
  (e.sessions.entries ++ e.departed.entries).flatMap fun entry =>
    entry.2.woken.map fun ticket => (entry.1, ticket)

/-- Lets every woken task look again. -/
def resumeWoken (e : Engine) : Engine :=
  e.woken.foldl (fun e waiting => e.change waiting.1 (·.resume waiting.2)) e

end Engine

end Bayeux
