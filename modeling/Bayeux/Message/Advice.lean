import Bayeux.Json.Layout

namespace Bayeux

/-!
# Advice

What a server recommends to a client along with a reply.
-/

/-- What to do after a reply. -/
inductive Reconnect where
  /-- Connect again. -/
  | retry
  /-- Begin a new session. -/
  | handshake
  /-- Do not connect again. -/
  | never
deriving DecidableEq, Repr

namespace Reconnect

def text : Reconnect → String
  | retry => "retry"
  | handshake => "handshake"
  | never => "none"

/-- All policies, in the order in which a message names them. -/
def all : List Reconnect :=
  [retry, handshake, never]

def ofText? (text : String) : Option Reconnect :=
  all.find? fun policy => policy.text == text

theorem ofText?_text (policy : Reconnect) : ofText? policy.text = some policy := by
  cases policy <;> decide

end Reconnect

/-- The recommendations of one reply; times are in milliseconds. -/
structure Advice where
  reconnect : Option Reconnect := none
  interval : Option Nat := none
  timeout : Option Nat := none
  /-- Set when the browser already holds a connect. -/
  multipleClients : Option Bool := none
  other : Json.Members := []
deriving Repr

namespace Advice

instance : Inhabited Advice := ⟨{}⟩

/-- A member of an object, left out when there is nothing to write. -/
def memberOf {α : Type} (key : String) (write : α → Json.Value) (field : Option α) :
    List (String × Json.Value) :=
  (field.map fun value => (key, write value)).toList

/-- The known members come first, in a fixed order. -/
def value (a : Advice) : Json.Value :=
  .object
    (memberOf "reconnect" (fun policy => .string policy.text) a.reconnect ++
      memberOf "interval" (fun ms => .number (.integer ms)) a.interval ++
      memberOf "timeout" (fun ms => .number (.integer ms)) a.timeout ++
      memberOf "multiple-clients" .truth a.multipleClients ++ a.other)

def same (a b : Advice) : Bool :=
  a.reconnect == b.reconnect && a.interval == b.interval && a.timeout == b.timeout &&
    a.multipleClients == b.multipleClients && Json.Value.sameMembers a.other b.other

end Advice

end Bayeux
