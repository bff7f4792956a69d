import Bayeux.Admission
import Bayeux.Codec
import Bayeux.Options.Basic
import Bayeux.Request

namespace Bayeux

/-!
# Transports

A transport serves the requests of one connection type: its settings, its codec and its
admission table.
-/

structure Transport where
  options : TransportOptions
  codec : Codec
  admission : Admission
deriving Repr

namespace Transport

/-- A transport that holds nothing yet. -/
def ofOptions (options : TransportOptions) (codec : Codec) : Transport :=
  { options, codec, admission := { limit := options.limit, maxInterval := options.maxInterval } }

/-- Asks whether a connection may be held.  One of a known browser is counted
against the limit.  Another is held if the settings allow it or if the request
comes from a page of a different origin, and is not counted. -/
def grant (t : Transport) (r : Request) : Option BrowserId → Bool × Transport
  | some browser =>
    let (granted, admission) := t.admission.acquire browser
    (granted, { t with admission })
  | none => (t.options.allowWithoutBrowser || (r.header? "origin").isSome, t)

end Transport

end Bayeux
