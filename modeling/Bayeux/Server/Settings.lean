import Bayeux.Server.Basic

namespace Bayeux

/-!
# Settings of a server

The settings from which a server is built.
-/

namespace Server

/-- A server with the given transports.  They are made one after the other, each
from its options and the common choice of a codec, and the first fault is
reported. -/
def assemble (path : String) (endpoint : EndpointContext) (codec : CodecChoice)
    (transports : List (ConnectionType × Except ConfigError TransportOptions)) :
    Except ConfigError Server := do
  let made ← transports.mapM fun (type, options) => do
    return (type, Transport.ofOptions (← options) (← codec.resolve))
  return { path, endpoint, transports := .ofList made }

end Server

structure ServerSettings where
  path : String := "/cometd"
  codec : CodecChoice := .default
  longPolling : TransportOptions := {}
  /-- Absent if callback polling is switched off. -/
  callbackPolling : Option TransportOptions := some {}
  endpoint : EndpointContext := {}
deriving Repr

namespace ServerSettings

/-- Uses the same options for every transport. -/
def withOptions (settings : ServerSettings) (o : TransportOptions) : ServerSettings :=
  { settings with
    longPolling := o
    callbackPolling := settings.callbackPolling.map fun _ => o }

/-- Reads the options of each transport from one table, in the transport's scope. -/
def withEntries (settings : ServerSettings) (entries : Entries) :
    Except ConfigError ServerSettings := do
  let longPolling ← TransportOptions.ofEntries entries ConnectionType.longPolling.scope
  match settings.callbackPolling with
  | none => return { settings with longPolling }
  | some _ =>
    let callbackPolling ←
      TransportOptions.ofEntries entries ConnectionType.callbackPolling.scope
    return { settings with longPolling, callbackPolling := some callbackPolling }

def withoutCallbackPolling (settings : ServerSettings) : ServerSettings :=
  { settings with callbackPolling := none }

/-- The connection types that are switched on, with their options. -/
def transports (settings : ServerSettings) : List (ConnectionType × TransportOptions) :=
  (.longPolling, settings.longPolling) ::
    (settings.callbackPolling.map fun o => (ConnectionType.callbackPolling, o)).toList

def build (settings : ServerSettings) : Except ConfigError Server :=
  Server.assemble settings.path settings.endpoint settings.codec
    (settings.transports.map fun (type, o) => (type, .ok o))

end ServerSettings

end Bayeux
