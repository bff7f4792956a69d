import Bayeux.Codec
import Bayeux.Options.Entries

namespace Bayeux

/-!
# Settings of a client

What a client transport can be told about buffers, times and sizes.  Durations are in
milliseconds.
-/

structure ClientOptions where
  /-- How long the server is expected to hold a connect. -/
  timeout : Nat := 30000
  /-- Pause between connects. -/
  interval : Nat := 0
  /-- Allowance for the network on every request. -/
  maxNetworkDelay : Nat := 10000
  codec : CodecChoice := .default
deriving DecidableEq, Repr

namespace ClientOptions

/-- The settings that a table of entries makes; keys have no scope. -/
def ofEntries (entries : Entries) : Except ConfigError ClientOptions := do
  let o : ClientOptions := {}
  let timeout ← entries.parse "" "timeout" Text.unsigned64?
  let interval ← entries.parse "" "interval" Text.unsigned64?
  let delay ← entries.parse "" "maxNetworkDelay" Text.unsigned64?
  let codec ← entries.parse "" "jsonContext" some
  return {
    timeout := timeout.getD o.timeout
    interval := interval.getD o.interval
    maxNetworkDelay := delay.getD o.maxNetworkDelay
    codec := (codec.map CodecChoice.named).getD o.codec }

/-- Total time allowed for an exchange.  A batch with a connect may be held by
the server on top of the network allowance. -/
def requestTimeout (o : ClientOptions) (batch : Batch) : Nat :=
  if batch.any Message.isConnect then o.maxNetworkDelay + o.timeout else o.maxNetworkDelay

end ClientOptions

end Bayeux
