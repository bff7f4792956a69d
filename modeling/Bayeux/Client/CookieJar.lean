import Bayeux.Client.HttpDate
import Bayeux.Net.Url
import Bayeux.Text.Blank
import Bayeux.Timestamp

namespace Bayeux

/-!
# Cookie jars

The cookies that a client keeps between its requests: what servers set, and what is
sent back to them.  A cookie belongs to a host and to the paths below its own.
-/

structure KeptCookie where
  name : String
  value : String
  host : String
  path : String
  /-- Whether the cookie is only sent over a protected connection. -/
  secure : Bool := false
deriving DecidableEq, Repr

structure CookieJar where
  cookies : List KeptCookie := []
deriving DecidableEq, Repr

namespace CookieJar

/-! ## Setting -/

/-- The properties of a cookie: names in lower case, and values as they are, if there are. -/
abbrev Properties := List (String × Option (List Char))

def lower (text : List Char) : String :=
  String.ofList (text.map Char.toLower)

def property (part : List Char) : String × Option (List Char) :=
  match Text.splitOnce? '=' part with
  | some (name, value) => (lower (Text.trim name), some (Text.trim value))
  | none => (lower (Text.trim part), none)

/-- What the last value of a property means that has a meaning. -/
def last? {α : Type} (properties : Properties) (name : String) (read : List Char → Option α) :
    Option α :=
  properties.reverse.findSome? fun p => if p.1 = name then p.2.bind read else none

/-- Whether an age is over.  One of no digits is never over, unless it is negative. -/
def ageOver? (age : List Char) : Option Bool :=
  match age with
  | '-' :: rest => if rest.all Char.isDigit then some true else none
  | _ => if age.all Char.isDigit then some (Text.digits? age == some 0) else none

/-- Whether a cookie is to be dropped at once.  Its age goes before its date. -/
def isOver (properties : Properties) (now : Timestamp) : Bool :=
  match last? properties "max-age" ageOver? with
  | some ended => ended
  | none =>
    match last? properties "expires" fun date => HttpDate.ofText? (String.ofList date) with
    | some date => date ≤ now.millis
    | none => false

def afterPoint (domain : List Char) : List Char :=
  if domain.head? = some '.' then domain.tail else domain

/-- The domain that a cookie is given to. -/
def domain? (properties : Properties) : Option (List Char) :=
  last? properties "domain" fun value => if value.isEmpty then none else some value

/-- The host that a cookie belongs to.  Up to two points before a domain do not count; a
domain that cannot be read belongs to no host. -/
def hostOf? (properties : Properties) (host : String) : Option String :=
  match domain? properties with
  | none => some host
  | some domain =>
    (Net.Domain.ascii? (Text.trim (afterPoint domain))).map fun ascii =>
      if (afterPoint ascii).isEmpty then host else String.ofList (afterPoint ascii)

/-- The directory of a path, to which a cookie belongs if it names no path. -/
def directory (path : String) : String :=
  let shorter := ((path.toList.reverse.dropWhile (· != '/')).drop 1).reverse
  if shorter.isEmpty then "/" else String.ofList shorter

/-- Whether a host is the domain or one below it.  An address has nothing below. -/
def covers (domain host : String) : Bool :=
  let ending := ('.' :: domain.toList).reverse
  domain == host ||
    (ending.isPrefixOf host.toList.reverse && !(host.toList.all fun c => c.isDigit || c == '.'))

/-- Takes in the text of one header that sets a cookie, from a request to a host
and a path.  A cookie for another host is refused, and one whose time is over
removes its predecessor. -/
def store (jar : CookieJar) (now : Timestamp) (host path : String) (header : String) :
    CookieJar :=
  match Text.splitAll ';' header.toList with
  | [] => jar
  | pair :: rest =>
    let properties := rest.map property
    match Text.splitOnce? '=' pair, hostOf? properties host with
    | some (name, value), some owner =>
      let named := last? properties "path" fun value => some (String.ofList value)
      let cookie : KeptCookie :=
        { name := Text.trimmed (String.ofList name)
          value := Text.trimmed (String.ofList value)
          host := owner
          path := (named.filter (·.startsWith "/")).getD (directory path)
          secure := properties.any (·.1 == "secure") }
      let isOld (old : KeptCookie) : Bool :=
        old.name == cookie.name && old.host == cookie.host && old.path == cookie.path
      if cookie.name.isEmpty || !covers owner host then jar
      else if isOver properties now then { cookies := jar.cookies.filter (!isOld ·) }
      else if jar.cookies.any isOld then
        { cookies := jar.cookies.map fun old => if isOld old then cookie else old }
      else { cookies := jar.cookies ++ [cookie] }
    | _, _ => jar

/-! ## Sending -/

/-- Whether a path is that of the cookie or lies below it. -/
def reaches (cookiePath path : String) : Bool :=
  cookiePath == path ||
    (cookiePath.toList.isPrefixOf path.toList &&
      (cookiePath.toList.getLast? == some '/' ||
        path.toList[cookiePath.length]? == some '/'))

/-- Whether nobody can listen on the way to a URL: it is protected, or it does not leave the
machine. -/
def isSafe (url : Net.Url) : Bool :=
  let host := (url.authority.map (·.host)).getD ""
  url.scheme == "https" || host == "localhost" || host == "[::1]" ||
    (host.startsWith "127." && host.toList.all fun c => c.isDigit || c == '.')

/-- The header that sends back all cookies that belong to a request. -/
def header? (jar : CookieJar) (isSafe : Bool) (host path : String) : Option String :=
  let sent := jar.cookies.filter fun c =>
    covers c.host host && reaches c.path path && (isSafe || !c.secure)
  if sent.isEmpty then none
  else some ("; ".intercalate (sent.map fun c => c.name ++ "=" ++ c.value))

end CookieJar

end Bayeux
