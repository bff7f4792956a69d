import Bayeux.Request

namespace Bayeux

/-!
# Connection types

The two ways in which a client reaches the server.
-/

inductive ConnectionType where
  /-- Batches travel in the bodies of POST requests and of their responses. -/
  | longPolling
  /-- Batches travel in query parameters, and replies in calls of a script function. -/
  | callbackPolling
deriving DecidableEq, Repr

namespace ConnectionType

/-- Both types, in the order in which a server offers a request to them. -/
def all : List ConnectionType :=
  [longPolling, callbackPolling]

def name : ConnectionType → String
  | longPolling => "long-polling"
  | callbackPolling => "callback-polling"

/-- The scope of the type's entries in an option table. -/
def scope : ConnectionType → String
  | longPolling => "long-polling"
  | callbackPolling => "long-polling.jsonp"

def contentType : ConnectionType → String
  | longPolling => "application/json;charset=UTF-8"
  | callbackPolling => "text/javascript;charset=UTF-8"

/-- The parameter that names the script function. -/
def callbackParameter : String := "jsonp"

/-- The parameter, possibly repeated, that carries batches. -/
def messageParameter : String := "message"

def accepts : ConnectionType → Request → Bool
  | longPolling, r => r.verb == "POST"
  | callbackPolling, r => r.verb == "GET" && (r.parameter? callbackParameter).isSome

end ConnectionType

end Bayeux
