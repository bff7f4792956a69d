import Bayeux.Message.Basic
import Bayeux.Json.Reader
import Bayeux.Text.Blank

namespace Bayeux

/-!
# Reading messages

Known fields are read as they come, each at most once; null counts as an occurrence of
a field and leaves it absent.  Members of unknown name are kept, the last one of each
name.
-/

open Json (Fault Outline Expected)

/-! ## Advice -/

namespace Reconnect

def ofVariant (name : String) : Except Fault Reconnect :=
  match ofText? name with
  | some policy => .ok policy
  | none => .error (.unknownVariant name (all.map text))

/-- A policy is a string, or an object with the one member `policy: null`. -/
def read (room : Nat) : Outline → Except Fault Reconnect
  | .string (.ok name) => ofVariant name
  | .string (.error fault) => .error fault
  | .broken opening reading _ =>
    .error (if opening = .scalar then .expectedValue else reading)
  | .object fields =>
    if room = 0 then .error .tooDeep
    else
      match fields with
      | .stop .keyless => .error .keyNotString
      | .stop .exhausted => .error .endInObject
      | .stop (.brokenKey reading _) => .error reading
      | .stop _ => .error .expectedValue
      | .field (.error fault) _ _ => .error fault
      | .field (.ok name) content rest =>
        match ofVariant name, content, rest with
        | .error fault, _, _ => .error fault
        | .ok policy, .null, .stop .closed => .ok policy
        | .ok _, .null, .stop .exhausted => .error .endInObject
        | .ok _, .null, _ => .error .expectedValue
        | .ok _, other, _ => .error (other.mismatch .unit)
  | _ => .error .expectedValue

end Reconnect

namespace Advice

/-- The members of advice that have a meaning. -/
inductive Field where
  | reconnect
  | interval
  | timeout
  | multipleClients
deriving DecidableEq, Repr

def Field.all : List Field :=
  [.reconnect, .interval, .timeout, .multipleClients]

def Field.name : Field → String
  | reconnect => "reconnect"
  | interval => "interval"
  | timeout => "timeout"
  | multipleClients => "multiple-clients"

def Field.ofName? (name : String) : Option Field :=
  all.find? fun field => field.name == name

/-- Reads one known member into the advice. -/
def readField (room : Nat) (a : Advice) (field : Field) (outline : Outline) :
    Except Fault Advice :=
  match field with
  | .reconnect => do return { a with reconnect := ← outline.optional (Reconnect.read room) }
  | .interval => do return { a with interval := ← outline.optional Outline.readUnsigned }
  | .timeout => do return { a with timeout := ← outline.optional Outline.readUnsigned }
  | .multipleClients => do
    return { a with multipleClients := ← outline.optional Outline.readTruth }

/-- Advice under construction, with the known members seen so far. -/
structure Draft where
  advice : Advice := {}
  seen : List Field := []

def Draft.step (room : Nat) (draft : Draft) (name : String) (outline : Outline) :
    Except Fault Draft :=
  match Field.ofName? name with
  | some field =>
    if field ∈ draft.seen then .error (.duplicateField name)
    else do
      return { advice := ← readField room draft.advice field outline
               seen := field :: draft.seen }
  | none => do
    let value ← outline.value room
    return { draft with
      advice := { draft.advice with other := draft.advice.other.insert name value } }

def read (room : Nat) : Outline → Except Fault Advice
  | .object fields =>
    match room with
    | 0 => .error .tooDeep
    | inner + 1 => (fields.gather (Draft.step inner) {}).map Draft.advice
  | other => .error (other.mismatch (.record "Advice"))

end Advice

/-! ## Messages -/

namespace Message

/-- The members of a message that have a meaning. -/
inductive Field where
  | channel
  | id
  | clientId
  | data
  | successful
  | error
  | advice
  | ext
  | version
  | minimumVersion
  | supportedConnectionTypes
  | connectionType
  | subscription
  | timestamp
deriving DecidableEq, Repr

def Field.all : List Field :=
  [.channel, .id, .clientId, .data, .successful, .error, .advice, .ext, .version,
    .minimumVersion, .supportedConnectionTypes, .connectionType, .subscription, .timestamp]

def Field.name : Field → String
  | channel => "channel"
  | id => "id"
  | clientId => "clientId"
  | data => "data"
  | successful => "successful"
  | error => "error"
  | advice => "advice"
  | ext => "ext"
  | version => "version"
  | minimumVersion => "minimumVersion"
  | supportedConnectionTypes => "supportedConnectionTypes"
  | connectionType => "connectionType"
  | subscription => "subscription"
  | timestamp => "timestamp"

def Field.ofName? (name : String) : Option Field :=
  all.find? fun field => field.name == name

/-- Reads one known member into the message. -/
def readField (room : Nat) (m : Message) (field : Field) (outline : Outline) :
    Except Fault Message :=
  let text := outline.optional Outline.readString
  match field with
  | .channel => do return { m with channel := ← outline.readString }
  | .id => do return { m with id := ← text }
  | .clientId => do return { m with clientId := (← text).map ClientId.mk }
  | .data => do return { m with data := ← outline.optional (Outline.value room) }
  | .successful => do return { m with successful := ← outline.optional Outline.readTruth }
  | .error => do return { m with error := ← text }
  | .advice => do return { m with advice := ← outline.optional (Advice.read room) }
  | .ext => do return { m with ext := ← outline.optional (Outline.value room) }
  | .version => do return { m with version := ← text }
  | .minimumVersion => do return { m with minimumVersion := ← text }
  | .supportedConnectionTypes => do
    let types ← outline.optional (Outline.readList room fun _ => Outline.readString)
    return { m with supportedConnectionTypes := types }
  | .connectionType => do return { m with connectionType := ← text }
  | .subscription => do return { m with subscription := ← text }
  | .timestamp => do return { m with timestamp := ← text }

/-- A message under construction, with the known members seen so far. -/
structure Draft where
  message : Message := { channel := "" }
  seen : List Field := []

def Draft.step (room : Nat) (draft : Draft) (name : String) (outline : Outline) :
    Except Fault Draft :=
  match Field.ofName? name with
  | some field =>
    if field ∈ draft.seen then .error (.duplicateField name)
    else do
      return { message := ← readField room draft.message field outline
               seen := field :: draft.seen }
  | none => do
    let value ← outline.value room
    return { draft with
      message := { draft.message with other := draft.message.other.insert name value } }

/-- A complete message names its channel. -/
def Draft.finish (draft : Draft) : Except Fault Message :=
  if Field.channel ∈ draft.seen then .ok draft.message
  else .error (.missingField Field.channel.name)

def read (room : Nat) : Outline → Except Fault Message
  | .object fields =>
    match room with
    | 0 => .error .tooDeep
    | inner + 1 =>
      match fields.gather (Draft.step inner) {} with
      | .error fault => .error fault
      | .ok draft => draft.finish
  | other => .error (other.mismatch (.record "Message"))

end Message

namespace Batch

def read (room : Nat) (outline : Outline) : Except Fault Batch :=
  outline.readList room Message.read

/-- Reads a batch; one object by itself is a batch of one message. -/
def ofText (text : String) : Except Fault Batch :=
  let chars := text.toList
  if (Text.trimStart chars).head? = some '\x7b' then
    (Json.readText (Message.read Json.depthLimit) chars).map fun m => [m]
  else
    Json.readText (read Json.depthLimit) chars

end Batch

end Bayeux
