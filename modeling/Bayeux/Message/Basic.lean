import Bayeux.Message.Advice

namespace Bayeux

/-!
# Messages

A message is the unit of exchange between client and server.  It names its channel;
every other field is optional, and members of unknown name are kept as they came.
-/

/-- The name of a session, handed out at its handshake. -/
structure ClientId where
  text : String
deriving DecidableEq, Repr, Hashable

/-- The rendering for diagnostics. -/
def ClientId.debug (id : ClientId) : String :=
  "ClientId(" ++ id.text ++ ")"

namespace Channel

def handshake : String := "/meta/handshake"

def connect : String := "/meta/connect"

def disconnect : String := "/meta/disconnect"

def subscribe : String := "/meta/subscribe"

def unsubscribe : String := "/meta/unsubscribe"

/-- Channels of the protocol itself, as opposed to those of an application. -/
def isMeta (channel : String) : Bool :=
  "/meta/".toList.isPrefixOf channel.toList

/-- Channels begin with a slash. -/
def isAbsolute (channel : String) : Bool :=
  channel.toList.head? == some '/'

end Channel

structure Message where
  channel : String
  id : Option String := none
  clientId : Option ClientId := none
  data : Option Json.Value := none
  successful : Option Bool := none
  error : Option String := none
  advice : Option Advice := none
  ext : Option Json.Value := none
  version : Option String := none
  minimumVersion : Option String := none
  supportedConnectionTypes : Option (List String) := none
  connectionType : Option String := none
  subscription : Option String := none
  timestamp : Option String := none
  other : Json.Members := []
deriving Repr

abbrev Batch := List Message

namespace Message

instance : Inhabited Message := ⟨{ channel := "" }⟩

/-- The beginning of a reply, which names the same channel, id and client. -/
def reply (m : Message) : Message :=
  { channel := m.channel, id := m.id, clientId := m.clientId }

def isMeta (m : Message) : Bool :=
  Channel.isMeta m.channel

def isHandshake (m : Message) : Bool :=
  m.channel == Channel.handshake

def isConnect (m : Message) : Bool :=
  m.channel == Channel.connect

def isSuccessful (m : Message) : Bool :=
  m.successful == some true

/-- Changes the advice, starting from none at all if there is none. -/
def adviseWith (m : Message) (change : Advice → Advice) : Message :=
  { m with advice := some (change (m.advice.getD {})) }

/-! ## Writing -/

/-- The known members in their fixed order, then those of unknown name. -/
def members (m : Message) : List (String × Json.Value) :=
  let text (key : String) (field : Option String) := Advice.memberOf key .string field
  ("channel", .string m.channel) ::
    (text "id" m.id ++ text "clientId" (m.clientId.map ClientId.text) ++
      Advice.memberOf "data" (fun value => value) m.data ++
      Advice.memberOf "successful" .truth m.successful ++ text "error" m.error ++
      Advice.memberOf "advice" Advice.value m.advice ++
      Advice.memberOf "ext" (fun value => value) m.ext ++ text "version" m.version ++
      text "minimumVersion" m.minimumVersion ++
      Advice.memberOf "supportedConnectionTypes"
        (fun types => .array (types.map .string)) m.supportedConnectionTypes ++
      text "connectionType" m.connectionType ++ text "subscription" m.subscription ++
      text "timestamp" m.timestamp ++ m.other)

def value (m : Message) : Json.Value :=
  .object m.members

/-- The message as one line. -/
def line (m : Message) : String :=
  m.value.compact

/-! ## Equality -/

/-- Equality of two optional fields under a given equality of contents. -/
def sameField {α : Type} (same : α → α → Bool) : Option α → Option α → Bool
  | none, none => true
  | some a, some b => same a b
  | _, _ => false

def same (m n : Message) : Bool :=
  m.channel == n.channel && m.id == n.id && m.clientId == n.clientId &&
    sameField Json.Value.same m.data n.data && m.successful == n.successful &&
    m.error == n.error && sameField Advice.same m.advice n.advice &&
    sameField Json.Value.same m.ext n.ext && m.version == n.version &&
    m.minimumVersion == n.minimumVersion &&
    m.supportedConnectionTypes == n.supportedConnectionTypes &&
    m.connectionType == n.connectionType && m.subscription == n.subscription &&
    m.timestamp == n.timestamp && Json.Value.sameMembers m.other n.other

end Message

namespace Batch

def value (batch : Batch) : Json.Value :=
  .array (batch.map Message.value)

def same : Batch → Batch → Bool
  | [], [] => true
  | m :: batch, n :: other => m.same n && same batch other
  | _, _ => false

end Batch

end Bayeux
