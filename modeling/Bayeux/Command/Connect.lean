import Bayeux.Client.Loopback
import Bayeux.Command.Conversation
import Bayeux.Command.Usage

namespace Bayeux
namespace Command

/-!
# Connecting to a server

The command is told a server and what to subscribe to and to publish.  A rehearsal runs
its conversation against a script, on a clock that moves only while the conversation
waits.
-/

structure ConnectArguments where
  server : String := "http://127.0.0.1:8080/cometd"
  channels : List String := []
  publish : Option String := none
  data : String := "\x7b\x7d"
  maxNetworkDelay : Nat := 10000
deriving DecidableEq, Repr

namespace ConnectArguments

def parameters : List Parameter :=
  [{ long := "server", letter := some 's' },
    { long := "subscribe", letter := some 'c', repeatable := true },
    { long := "publish" },
    { long := "data" },
    { long := "max-network-delay", accepts := fun text => (Text.unsigned64? text).isSome }]

def ofFound (found : Found) : ConnectArguments :=
  let default : ConnectArguments := {}
  { server := (found.last? "server").getD default.server
    channels := found.all "subscribe"
    publish := found.last? "publish"
    data := (found.last? "data").getD default.data
    maxNetworkDelay :=
      ((found.last? "max-network-delay").bind Text.unsigned64?).getD default.maxNetworkDelay }

def ofArguments (arguments : List String) : Except UsageFault ConnectArguments := do
  return ofFound (← read parameters arguments)

/-- The client and the beginning of its conversation. -/
def prepare (a : ConnectArguments) : Except ConnectFault (Client × Conversation) := do
  let url ← (Net.Url.ofText a.server).mapError .url
  let data ← (Json.Value.ofText a.data).mapError fun _ => .data
  let client ← (Client.ofUrl url { maxNetworkDelay := a.maxNetworkDelay }).mapError .build
  return (client, .start a.channels (a.publish.map fun channel => (channel, data)))

end ConnectArguments

/-! ## Rehearsals -/

/-- What a script does on one request: it may cancel the conversation when the request
arrives or some milliseconds later, and answers unless the reply is missing. -/
structure Turn where
  reply : Option ScriptedReply := none
  cancelAfter : Option Nat := none
deriving DecidableEq, Repr

/-- The turns after a script has ended. -/
def Turn.endOfScript : Turn :=
  { reply := some Loopback.endOfScript }

structure Recital where
  client : Client
  conversation : Conversation
  /-- Absent if nothing listens at the client's address. -/
  script : Option (List Turn)
  now : Nat := 0
  /-- When the conversation will be cancelled. -/
  cancelAt : Option Nat := none
  requests : List String := []

namespace Recital

/-- Whether the cancellation is due by a time. -/
def isDue (r : Recital) (time : Nat) : Bool :=
  !r.conversation.cancelled && r.cancelAt.any fun due => decide (due ≤ time)

/-- Cancels the conversation at the time that is set. -/
def cancel (r : Recital) : Recital :=
  { r with
    now := max r.now (r.cancelAt.getD r.now)
    conversation := r.conversation.cancel }

/-- The outcome of the last batch arrives at a time, unless the conversation is
cancelled before. -/
def arrive (r : Recital) (time : Nat) (result : Except Failure Batch) : Recital :=
  if r.isDue time then
    let cancelled := r.cancel
    if r.conversation.isConnecting then cancelled
    else
      { cancelled with now := time, conversation := cancelled.conversation.outcome result }
  else { r with now := time, conversation := r.conversation.outcome result }

/-- The batch sent last reaches the script. -/
def exchange (r : Recital) (batch : Batch) : Recital :=
  match r.script with
  | none => r.arrive r.now (.error (.http "connection refused"))
  | some turns =>
    let turn := turns.head?.getD Turn.endOfScript
    let sooner (span : Nat) : Nat := min (r.now + span) (r.cancelAt.getD (r.now + span))
    let heard := { r with
      script := some turns.tail
      requests := r.requests ++ [r.client.codec.encode batch]
      cancelAt := (turn.cancelAfter.map sooner).or r.cancelAt }
    match turn.reply with
    | some scripted =>
      let reply := scripted.delivered
      heard.arrive r.now
        (Client.outcome r.client.codec reply.status (Loopback.contentOf reply))
    | none =>
      heard.arrive (r.now + r.client.options.requestTimeout batch) (.error (.http "timed out"))

/-- One step: a pause, or the outcome of a batch. -/
def step (r : Recital) : Recital :=
  match r.conversation.phase with
  | .ended _ => r
  | .pausing _ span =>
    if r.isDue (r.now + span) then r.cancel
    else { r with now := r.now + span, conversation := r.conversation.rested }
  | _ => r.exchange (r.conversation.sent.getLast?.getD [])

def run : Nat → Recital → Recital
  | 0, r => r
  | fuel + 1, r => run fuel r.step

/-- Enough steps for every turn, for the pauses until the cancellation and for the
farewell. -/
def steps (r : Recital) : Nat :=
  let turns := r.script.getD []
  let latest := turns.foldl (fun latest turn => latest + turn.cancelAfter.getD 0) 0
  2 * turns.length + latest / 500 + 8

/-- Runs a conversation against a script.  The result is missing if the conversation
would go on for ever. -/
def rehearse (client : Client) (conversation : Conversation) (script : Option (List Turn)) :
    Recital :=
  let reached := if Loopback.reachesPeer client.url then script else none
  let start : Recital := { client, conversation, script := reached }
  start.run start.steps

def result? (r : Recital) : Option (Except ConnectFault Unit) :=
  match r.conversation.phase with
  | .ended result => some result
  | _ => none

end Recital

end Command
end Bayeux
