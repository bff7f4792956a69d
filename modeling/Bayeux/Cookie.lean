import Bayeux.Text.Blank
import Bayeux.Text.Split

namespace Bayeux

/-!
# Cookies

A server gives a browser its id in a cookie, and the browser sends all of its cookies
back in one header.
-/

structure Cookie where
  name : String
  value : String
  path : Option String := none
  domain : Option String := none
  /-- In milliseconds; a cookie without it lasts as long as the browser session. -/
  maxAge : Option Nat := none
deriving DecidableEq, Repr

namespace Cookie

/-- One property after the value, if there is one. -/
def optionText (name : String) (value : Option String) : String :=
  match value with
  | some text => "; " ++ name ++ "=" ++ text
  | none => ""

/-- The text that sets the cookie; its age is given in whole seconds. -/
def header (cookie : Cookie) : String :=
  cookie.name ++ "=" ++ cookie.value ++ optionText "Path" cookie.path ++
    optionText "Domain" cookie.domain ++
    optionText "Max-Age" (cookie.maxAge.map fun ms => toString (ms / 1000))

end Cookie

/-! ## Finding a cookie -/

namespace CookieHeader

/-- Drops double quotes at both ends. -/
def unquote (text : List Char) : List Char :=
  ((text.dropWhile (· == '"')).reverse.dropWhile (· == '"')).reverse

/-- The value of one part of the header, if the part is a cookie of that name. -/
def valueOf? (name : List Char) (part : List Char) : Option (List Char) :=
  match Text.splitOnce? '=' (Text.trim part) with
  | some (key, value) =>
    if Text.trim key = name then some (unquote (Text.trim value)) else none
  | none => none

/-- The value of the first cookie of that name. -/
def find? (header name : String) : Option String :=
  ((Text.splitAll ';' header.toList).findSome? (valueOf? name.toList)).map String.ofList

end CookieHeader

end Bayeux
