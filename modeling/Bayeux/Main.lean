import Bayeux.Command.Connect
import Bayeux.Command.Start
import Bayeux.Server.Endpoint
import Bayeux.Server.Schedule

/-!
# The command line

`start` builds a server and lets it answer the standard input, where each line is the
body of a request; `connect` runs a client's conversation.  No connection leaves the
program, so a conversation finds nobody to talk to.
-/

namespace Bayeux
namespace Command

def usageText : String :=
  "Usage: bayeux start [OPTIONS]\n       bayeux connect [OPTIONS]"

def UsageFault.text : UsageFault → String
  | unknown => "unexpected argument found"
  | missingValue => "a value is required but none was supplied"
  | badValue => "invalid value"
  | repeated => "an argument cannot be used multiple times"
  | unexpectedValue => "unexpected value found; no more were expected"
  | help => usageText

/-- Tells the user about a fault in the arguments. -/
def refuse (fault : UsageFault) : IO UInt32 := do
  if fault = .help then
    IO.println usageText
    return 0
  IO.eprintln ("error: " ++ fault.text)
  return 2

/-- Milliseconds since the first start of the clock. -/
def elapsed (start : Nat) : IO Nat := do
  return (← IO.monoMsNow) - start

/-- A number that is not easily guessed. -/
def randomNumber : IO Nat := do
  return (← IO.getRandomBytes 8).toList.foldl (fun n byte => 256 * n + byte.toNat) 0

/-- Answers the lines of the input, one after the other.  While a request is held, only
time passes. -/
partial def answerLines (input output : IO.FS.Stream) (around : Surroundings)
    (sweeper : Sweeper) (start ticket : Nat) (server : Server) : IO Unit := do
  let line ← input.getLine
  if line.isEmpty then return
  let now ← elapsed start
  let (due, sweeper) := sweeper.runTo now
  let rested := server.advanceTo now
  let swept := if due = 0 then rested else (rested.sweep ⟨now⟩).2
  let request : Request :=
    { target := .ofText swept.path, body := Text.Utf8.encode line.toList }
  let freshBrowser := BrowserId.generate 0 (← randomNumber) now
  let (refused, received) := swept.receive around { ticket, request, freshBrowser }
  let settled := received.settle
  if let some held := settled.heldBy? ticket then
    IO.sleep (held.deadline - now).toUInt32
  let answered := match settled.heldBy? ticket with
    | some held => settled.advanceTo held.deadline
    | none => settled
  let reply := refused.or
    ((answered.answered.find? fun a => a.ticket == ticket).map answered.replyTo)
  output.putStrLn ((reply.map Reply.body).getD "")
  output.flush
  answerLines input output around sweeper start (ticket + 1)
    { answered with answered := [], notices := [] }

def startServer (arguments : List String) : IO UInt32 := do
  match StartArguments.ofArguments arguments with
  | .error fault => refuse fault
  | .ok a =>
    match a.build with
    | .error fault =>
      IO.eprintln ("Error: " ++ fault.message)
      return 1
    | .ok (_, server, sweeper) =>
      let seed ← randomNumber
      let mint (issued : Nat) : ClientId :=
        ⟨String.ofList (Text.hexDigits seed) ++ "-" ++ toString issued⟩
      answerLines (← IO.getStdin) (← IO.getStdout) { mint } sweeper (← IO.monoMsNow) 0 server
      return 0

def connectClient (arguments : List String) : IO UInt32 := do
  match ConnectArguments.ofArguments arguments with
  | .error fault => refuse fault
  | .ok a =>
    let result := a.prepare.bind fun (client, conversation) =>
      ((Recital.rehearse client conversation none).result?).getD (.ok ())
    match result with
    | .ok () => return 0
    | .error fault =>
      IO.eprintln ("Error: " ++ fault.message)
      return 1

end Command
end Bayeux

def main (arguments : List String) : IO UInt32 := do
  match arguments with
  | "start" :: rest => Bayeux.Command.startServer rest
  | "connect" :: rest => Bayeux.Command.connectClient rest
  | _ => Bayeux.Command.refuse (if arguments = ["--help"] then .help else .unknown)
