import Bayeux.Cookie

namespace Bayeux

/-!
# Responses

What a transport writes back for one request.
-/

/-- How a request was resolved. -/
inductive Outcome where
  | delivered
  /-- A connect was not held because of the limit. -/
  | rejected
  /-- The request did not decode, and nothing was dispatched. -/
  | malformed
deriving DecidableEq, Repr

def Outcome.label : Outcome → String
  | delivered => "delivered"
  | rejected => "rejected"
  | malformed => "malformed"

structure Response where
  outcome : Outcome
  contentType : String
  body : String
  cookies : List Cookie := []
deriving DecidableEq, Repr

def plainText : String := "text/plain; charset=utf-8"

/-- The response to a request that does not decode. -/
def Response.malformed (cookies : List Cookie) : Response :=
  { outcome := .malformed, contentType := plainText, body := "", cookies }

end Bayeux
