import Bayeux.Client.Basic

namespace Bayeux
namespace Command

/-!
# Conversations

A client's conversation with a server: it shakes hands, subscribes to its channels,
publishes once if it is told to, and connects again and again until it is cancelled
or refused.  The conversation is a value that changes with each event: the outcome of
the batch sent last, the end of a pause, or the cancellation.
-/

/-- Why a conversation fails. -/
inductive ConnectFault where
  | url (fault : Net.UrlFault)
  /-- The data to publish is not JSON. -/
  | data
  | build (error : ClientBuildError)
  | exchange (failure : Failure)
  | noHandshakeReply
  | refused (error : String)
  | noClientId
  /-- The server asked the client to stay away. -/
  | sentAway
deriving DecidableEq, Repr

def ConnectFault.message : ConnectFault → String
  | url fault => fault.message
  | data => "--data is not valid JSON"
  | build error => error.message
  | exchange failure => failure.message
  | noHandshakeReply => "no handshake reply"
  | refused error => "handshake refused: " ++ error
  | noClientId => "handshake reply has no clientId"
  | sentAway => "server asked the client not to reconnect"

inductive Phase where
  /-- Waits for the outcome of a handshake. -/
  | handshaking
  /-- Waits for the outcome of the subscriptions and the first connect. -/
  | subscribing (client : ClientId)
  | publishing (client : ClientId)
  | connecting (client : ClientId)
  /-- Waits before the next connect, for some milliseconds. -/
  | pausing (client : ClientId) (span : Nat)
  /-- Waits for the outcome of the disconnect. -/
  | leaving
  | ended (result : Except ConnectFault Unit)
deriving Repr

structure Conversation where
  channels : List String
  /-- What is still to be published. -/
  publish : Option (String × Json.Value) := none
  cancelled : Bool := false
  phase : Phase := .handshaking
  /-- The batches sent so far. -/
  sent : List Batch := []
  /-- The lines printed so far. -/
  printed : List String := []
deriving Repr

namespace Conversation

/-! ## Batches -/

def handshakeBatch : Batch :=
  [{ channel := Channel.handshake
     version := some "1.0"
     supportedConnectionTypes := some [Client.name] }]

def connectMessage (client : ClientId) : Message :=
  { channel := Channel.connect, clientId := some client, connectionType := some Client.name }

/-- Subscribes to every channel in order, and connects. -/
def subscribeBatch (channels : List String) (client : ClientId) : Batch :=
  (channels.map fun channel =>
    ({ channel := Channel.subscribe, clientId := some client, subscription := some channel } :
      Message)) ++ [connectMessage client]

def publishBatch (client : ClientId) (channel : String) (data : Json.Value) : Batch :=
  [{ channel, clientId := some client, data := some data }]

def disconnectBatch (client : ClientId) : Batch :=
  [{ channel := Channel.disconnect, clientId := some client }]

/-! ## Moves -/

/-- Sends a batch and waits in a phase. -/
def send (c : Conversation) (batch : Batch) (phase : Phase) : Conversation :=
  { c with sent := c.sent ++ [batch], phase }

def fail (c : Conversation) (fault : ConnectFault) : Conversation :=
  { c with phase := .ended (.error fault) }

def start (channels : List String) (publish : Option (String × Json.Value)) : Conversation :=
  { channels, publish : Conversation }.send handshakeBatch .handshaking

def leave (c : Conversation) (client : ClientId) : Conversation :=
  c.send (disconnectBatch client) .leaving

/-- The next connect, unless the conversation was cancelled in the meantime. -/
def connect (c : Conversation) (client : ClientId) : Conversation :=
  if c.cancelled then c.leave client else c.send [connectMessage client] (.connecting client)

def pause (c : Conversation) (client : ClientId) (span : Nat) : Conversation :=
  if span = 0 then c.connect client else { c with phase := .pausing client span }

/-- After the subscriptions: what is to be published goes out, once. -/
def established (c : Conversation) (client : ClientId) : Conversation :=
  match c.publish with
  | some (channel, data) =>
    { c with publish := none }.send (publishBatch client channel data) (.publishing client)
  | none => c.connect client

/-- The first reply to the handshake decides. -/
def shaken (c : Conversation) (replies : Batch) : Conversation :=
  match replies.find? Message.isHandshake with
  | none => c.fail .noHandshakeReply
  | some reply =>
    if reply.isSuccessful then
      match reply.clientId with
      | some client => c.send (subscribeBatch c.channels client) (.subscribing client)
      | none => c.fail .noClientId
    else c.fail (.refused (reply.error.getD ""))

/-! ## Connecting -/

/-- A published message as it is printed. -/
def lineOf (m : Message) : String :=
  m.channel ++ " " ++ (m.data.getD .null).compact

/-- The advice of the last connect reply. -/
def adviceOf (replies : Batch) : Option Advice :=
  ((replies.filter Message.isConnect).getLast?).bind Message.advice

/-- Pause after a failed connect, in milliseconds. -/
def retryPause : Nat := 1000

/-- Prints what was published, and follows the advice. -/
def connected (c : Conversation) (client : ClientId) (replies : Batch) : Conversation :=
  let lines := (replies.filter fun m => !m.isMeta).map lineOf
  let c := { c with printed := c.printed ++ lines }
  match adviceOf replies with
  | none => c.pause client 0
  | some advice =>
    match advice.reconnect with
    | some .never => c.fail .sentAway
    | some .handshake => c.send handshakeBatch .handshaking
    | _ => c.pause client (advice.interval.getD 0)

/-! ## Events -/

/-- The outcome of the batch sent last. -/
def outcome (c : Conversation) (result : Except Failure Batch) : Conversation :=
  match c.phase, result with
  | .handshaking, .ok replies => c.shaken replies
  | .subscribing client, .ok _ => c.established client
  | .publishing client, .ok _ => c.connect client
  | .connecting client, .ok replies => c.connected client replies
  | .connecting client, .error _ => c.pause client retryPause
  | .leaving, _ => { c with phase := .ended (.ok ()) }
  | .handshaking, .error failure | .subscribing _, .error failure
  | .publishing _, .error failure => c.fail (.exchange failure)
  | .pausing _ _, _ | .ended _, _ => c

/-- The pause is over. -/
def rested (c : Conversation) : Conversation :=
  match c.phase with
  | .pausing client _ => c.connect client
  | _ => c

/-- The cancellation: it ends a connect or a pause, and otherwise waits for the next. -/
def cancel (c : Conversation) : Conversation :=
  match c.phase with
  | .connecting client | .pausing client _ => { c with cancelled := true }.leave client
  | _ => { c with cancelled := true }

def isConnecting (c : Conversation) : Bool :=
  match c.phase with
  | .connecting _ => true
  | _ => false

end Conversation

end Command
end Bayeux
