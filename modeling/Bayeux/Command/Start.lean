import Bayeux.Command.Usage
import Bayeux.Server.Settings
import Bayeux.Server.Sweeper

namespace Bayeux
namespace Command

/-!
# Starting a server

The command is told what the server listens on and how it is set up.  Some settings have
parameters of their own; all of them can be given as entries, which go before.
-/

structure StartArguments where
  socket : String := "0.0.0.0:8080"
  path : String := "/cometd"
  timeout : Nat := 30000
  maxSessionsPerBrowser : Int := 1
  multiSessionInterval : Nat := 2000
  allowWithoutBrowser : Bool := false
  codec : Option String := none
  noCallbackPolling : Bool := false
  /-- Keys and values, trimmed, in the order in which they were given. -/
  options : List (String × String) := []
  metricsPort : Nat := 9090
  metrics : Bool := false
deriving DecidableEq, Repr

namespace StartArguments

/-- A key and a value around the first equals sign; the key is not empty. -/
def keyValue? (text : String) : Option (String × String) :=
  (Text.splitOnce? '=' text.toList).bind fun (key, value) =>
    let key := Text.trim key
    if key.isEmpty then none else some (String.ofList key, String.ofList (Text.trim value))

/-- A port number. -/
def port? (text : String) : Option Nat :=
  (Text.signed64? text).bind fun n => if 0 ≤ n ∧ n < 65536 then some n.toNat else none

def parameters : List Parameter :=
  let number (text : String) : Bool := (Text.unsigned64? text).isSome
  [{ long := "socket", letter := some 's' },
    { long := "path" },
    { long := "timeout", letter := some 't', accepts := number },
    { long := "max-sessions-per-browser"
      negative := true
      accepts := fun text => (Text.signed64? text).isSome },
    { long := "multi-session-interval", accepts := number },
    .flag "allow-multi-sessions-no-browser",
    { long := "codec" },
    .flag "no-callback-polling",
    { long := "option"
      letter := some 'o'
      repeatable := true
      accepts := fun text => (keyValue? text).isSome },
    { long := "metrics-port", accepts := fun text => (port? text).isSome },
    .flag "metrics"]

def ofFound (found : Found) : StartArguments :=
  let default : StartArguments := {}
  let natural (name : String) (default : Nat) : Nat :=
    ((found.last? name).bind Text.unsigned64?).getD default
  { socket := (found.last? "socket").getD default.socket
    path := (found.last? "path").getD default.path
    timeout := natural "timeout" default.timeout
    maxSessionsPerBrowser :=
      ((found.last? "max-sessions-per-browser").bind Text.signed64?).getD
        default.maxSessionsPerBrowser
    multiSessionInterval := natural "multi-session-interval" default.multiSessionInterval
    allowWithoutBrowser := found.has "allow-multi-sessions-no-browser"
    codec := found.last? "codec"
    noCallbackPolling := found.has "no-callback-polling"
    options := (found.all "option").filterMap keyValue?
    metricsPort := ((found.last? "metrics-port").bind port?).getD default.metricsPort
    metrics := found.has "metrics" }

def ofArguments (arguments : List String) : Except UsageFault StartArguments := do
  return ofFound (← read parameters arguments)

/-! ## The server -/

/-- The settings that have parameters of their own. -/
def named (a : StartArguments) : List (OptionKey × String) :=
  [(.timeout, toString a.timeout),
    (.limit, toString a.maxSessionsPerBrowser),
    (.multiSessionInterval, toString a.multiSessionInterval),
    (.allowWithoutBrowser, if a.allowWithoutBrowser then "true" else "false")]

/-- All entries: of those with one key, the last that was given stands. -/
def entries (a : StartArguments) : Entries :=
  .ofList ((a.named.map fun (key, text) => (key.entry, text)) ++ a.options)

/-- Why a server is not started. -/
inductive Fault where
  | address
  | options (error : ConfigError)
  /-- A setting that only concerns one transport beside the main one. -/
  | transport (error : ConfigError)
  | codec (error : ConfigError)
deriving DecidableEq, Repr

def Fault.message : Fault → String
  | address => "invalid socket address syntax"
  | options error => error.message
  | transport error => "invalid transport options: " ++ error.message
  | codec error => error.message

/-- How often idle browsers are swept: once in the longest pause of a client, or
every second if that is zero. -/
def sweepPeriod (o : TransportOptions) : Nat :=
  if o.maxInterval = 0 then 1000 else o.maxInterval

def settings (a : StartArguments) : ServerSettings :=
  let base : ServerSettings :=
    { path := a.path
      codec := match a.codec with
        | some name => .named name
        | none => .default
      endpoint := { init := a.entries } }
  if a.noCallbackPolling then base.withoutCallbackPolling else base

/-- The address to listen on, the server and its sweeper. -/
def build (a : StartArguments) : Except Fault (Net.SocketAddress × Server × Sweeper) := do
  let some address := Net.SocketAddress.ofText? a.socket | throw .address
  let main ← (TransportOptions.ofEntries a.entries ConnectionType.longPolling.scope).mapError
    .options
  let settings ← (a.settings.withEntries a.entries).mapError .transport
  let server ← settings.build.mapError .codec
  return (address, server, .ofPeriod (sweepPeriod main))

end StartArguments

end Command
end Bayeux
