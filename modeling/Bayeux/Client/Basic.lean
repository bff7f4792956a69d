import Bayeux.Client.Failure
import Bayeux.Client.Options
import Bayeux.Net.Url
import Bayeux.Text.Utf8
import Bayeux.Transport.Connection

namespace Bayeux

/-!
# Clients

The client's side of long polling.  Each batch is sent in a request of its own, and
the outcome is reported once to the listener that came with the batch.  An exchange
is pending from the moment it is sent until its outcome is reported.
-/

/-- What a listener is told. -/
inductive Report where
  /-- The batch is about to be sent. -/
  | sending (listener : String) (batch : Batch)
  | messages (listener : String) (replies : Batch)
  /-- The batch got no replies. -/
  | failure (listener : String) (failure : Failure) (batch : Batch)
deriving Repr

/-- Whom a report is for. -/
def Report.listener : Report → String
  | sending listener _ => listener
  | messages listener _ => listener
  | failure listener _ _ => listener

/-- How the exchange ended that a report is about. -/
def Report.outcome? : Report → Option (Except Failure Batch)
  | sending _ _ => none
  | messages _ replies => some (.ok replies)
  | failure _ cause _ => some (.error cause)

structure PendingExchange where
  listener : String
  batch : Batch
deriving Repr

/-- A request that the client wants to be made. -/
structure Post where
  exchange : Nat
  body : String
  /-- How long the reply may take, in milliseconds. -/
  timeout : Nat
deriving DecidableEq, Repr

structure Client where
  url : Net.Url
  options : ClientOptions
  codec : Codec
  terminated : Bool := false
  /-- How many exchanges there have been, which numbers the next one.  The number has no bound: a
  counter of 64 bits would give the first numbers out again after `2 ^ 64` exchanges. -/
  exchanges : Nat := 0
  pending : Table Nat PendingExchange := ∅
  /-- All reports so far, the latest last. -/
  reports : List Report := []
deriving Repr

namespace Client

def name : String := ConnectionType.longPolling.name

/-- A client for an endpoint of the web. -/
def ofUrl (url : Net.Url) (options : ClientOptions) : Except ClientBuildError Client :=
  if url.scheme = "http" ∨ url.scheme = "https" then
    match options.codec.resolve with
    | .ok codec => .ok { url, options, codec }
    | .error e => .error (.config e)
  else .error (.invalidUrl url.text)

/-- The rendering for diagnostics. -/
def debug (c : Client) : String :=
  "LongPollingClient \x7b url: " ++ Text.quoted c.url.text ++ ", codec: " ++
    Text.quoted c.codec.name ++ ", pending: " ++ toString c.pending.size ++ ", .. \x7d"

/-- The part of a version before the first point. -/
def major (version : String) : List Char :=
  version.toList.takeWhile (· != '.')

/-- Whether the client speaks a version of the protocol: only the first number
counts. -/
def accepts (version : String) : Bool :=
  major version == major "1.0"

/-! ## Exchanges -/

def report (c : Client) (r : Report) : Client :=
  { c with reports := c.reports ++ [r] }

/-- Reports the failure of a pending exchange. -/
def fail (c : Client) (exchange : Nat) (failure : Failure) : Client :=
  match c.pending.get? exchange with
  | some p =>
    { c with pending := c.pending.erase exchange }.report (.failure p.listener failure p.batch)
  | none => c

/-- Sends a batch.  After termination it fails at once; and without a runtime to
make the request it fails as well. -/
def send (c : Client) (listener : String) (batch : Batch) (hasRuntime : Bool) :
    Option Post × Client :=
  if c.terminated then (none, c.report (.failure listener .terminated batch))
  else
    let exchange := c.exchanges
    let sent := { c.report (.sending listener batch) with
      exchanges := exchange + 1
      pending := c.pending.insert exchange { listener, batch } }
    if hasRuntime then
      (some { exchange, body := c.codec.encode batch, timeout := c.options.requestTimeout batch },
        sent)
    else (none, sent.fail exchange (.http "no async runtime"))

/-- The outcome of a request, if it is still awaited. -/
def complete (c : Client) (exchange : Nat) (result : Except Failure Batch) : Client :=
  match result with
  | .error failure => c.fail exchange failure
  | .ok replies =>
    match c.pending.get? exchange with
    | some p =>
      { c with pending := c.pending.erase exchange }.report (.messages p.listener replies)
    | none => c

/-- Gives up on every pending exchange. -/
def abort (c : Client) : Client :=
  c.pending.keys.foldl (fun c exchange => c.fail exchange .aborted) c

/-- Gives up, and sends nothing any more. -/
def terminate (c : Client) : Client :=
  { c with terminated := true }.abort

/-- The last outcome that a listener was told. -/
def outcomeFor? (c : Client) (listener : String) : Option (Except Failure Batch) :=
  c.reports.reverse.findSome? fun r => if r.listener == listener then r.outcome? else none

/-- What a response means: a status of success carries a batch, in which bytes that
are not text are replaced. -/
def outcome (codec : Codec) (status : Nat) (body : List UInt8) : Except Failure Batch :=
  if 200 ≤ status ∧ status < 300 then
    match codec.decode (String.ofList (Text.Utf8.decodeLossy body)) with
    | .ok batch => .ok batch
    | .error fault => .error (.malformed fault)
  else .error (.status status)

end Client

end Bayeux
