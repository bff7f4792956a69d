import Bayeux.Net.HostName
import Bayeux.Net.UrlPath

namespace Bayeux
namespace Net

/-!
# Absolute URLs

A URL is held in the one form in which it is shown: the scheme in lower case, no port
that the scheme implies, no dots for directories, and escapes for what may not stand in
each part.
-/

/-- Why a text is not an absolute URL. -/
inductive UrlFault where
  | noScheme
  | port
  | host (fault : HostFault)
deriving DecidableEq, Repr

def UrlFault.message : UrlFault → String
  | noScheme => "relative URL without a base"
  | port => "invalid port number"
  | host fault => fault.message

structure Authority where
  /-- What precedes the host, up to and including the at sign. -/
  user : String := ""
  host : String
  /-- Only one that the scheme does not imply. -/
  port : Option Nat := none
deriving DecidableEq, Repr

def Authority.text (a : Authority) : String :=
  "//" ++ a.user ++ a.host ++ (match a.port with
    | some port => ":" ++ toString port
    | none => "")

structure Url where
  scheme : String
  authority : Option Authority := none
  path : String
  query : Option String := none
  fragment : Option String := none
deriving DecidableEq, Repr

namespace Url

/-! ## Schemes -/

/-- The port that a scheme implies, for the schemes that have hosts of the web. -/
def impliedPort? (scheme : String) : Option Nat :=
  if scheme = "http" ∨ scheme = "ws" then some 80
  else if scheme = "https" ∨ scheme = "wss" then some 443
  else if scheme = "ftp" then some 21
  else none

/-- Schemes whose URLs are hierarchical by definition. -/
def isSpecial (scheme : String) : Bool :=
  scheme == "file" || (impliedPort? scheme).isSome

def endsPath (c : Char) : Bool :=
  c == '?' || c == '#'

def endsHost (special : Bool) (c : Char) : Bool :=
  UrlPath.isSlash special c || endsPath c

/-- Splits the scheme off a text. -/
def splitScheme? (text : List Char) : Option (String × List Char) :=
  let isPart (c : Char) : Bool := c.isAlphanum || c == '+' || c == '-' || c == '.'
  match text.dropWhile isPart with
  | ':' :: rest =>
    let scheme := text.takeWhile isPart
    if (scheme.head?.map Char.isAlpha).getD false then
      some (String.ofList (scheme.map Char.toLower), rest)
    else none
  | _ => none

/-! ## Parts -/

/-- The user and the password, and the text after their at sign. -/
def splitUser (special : Bool) (text : List Char) : Except UrlFault (String × List Char) :=
  let authority := text.takeWhile (!endsHost special ·)
  if '@' ∈ authority then
    let user := (authority.reverse.dropWhile (· != '@')).tail.reverse
    let rest := text.drop (user.length + 1)
    let name := Escape.text Escape.userSet (user.takeWhile (· != ':'))
    let password := Escape.text Escape.userSet (user.dropWhile (· != ':')).tail
    if user.isEmpty && (rest.head?.map (endsHost special)).getD false then
      .error (.host .empty)
    else
      .ok ((if password.isEmpty then name else name ++ ":" ++ password) ++
        (if name.isEmpty && password.isEmpty then "" else "@"), rest)
  else .ok ("", text)

/-- The length of the host at the beginning of a text; a colon between brackets
belongs to it. -/
def hostLength (special bracketed : Bool) : List Char → Nat
  | [] => 0
  | c :: rest =>
    if endsHost special c || (c == ':' && !bracketed) then 0
    else hostLength special (c == '[' || (bracketed && c != ']')) rest + 1

/-- The port after a colon, if there is one, and the text after it. -/
def splitPort (implied : Option Nat) (text : List Char) :
    Except UrlFault (Option Nat × List Char) :=
  match text with
  | ':' :: rest =>
    let digits := rest.takeWhile Char.isDigit
    let after := rest.drop digits.length
    let value := digits.foldl (fun n c => 10 * n + (c.toNat - 48)) 0
    if 65535 < value || (after.head?.map (!endsHost true ·)).getD false then .error .port
    else .ok (if digits.isEmpty ∨ some value = implied then none else some value, after)
  | _ => .ok (none, text)

/-- The authority after two slashes, and the text after it. -/
def splitAuthority (scheme : String) (text : List Char) :
    Except UrlFault (Authority × List Char) := do
  let special := isSpecial scheme
  let (user, text) ← splitUser special text
  let length := hostLength special false text
  let rest := text.drop length
  if length = 0 ∧ (special ∨ user ≠ "" ∨ rest.head? = some ':') then throw (.host .empty)
  let host ← (if special then HostName.special (text.take length)
    else HostName.other (text.take length)).mapError .host
  let (port, rest) ← splitPort (impliedPort? scheme) rest
  return ({ user, host, port }, rest)

/-- The path at the beginning of a text, after a host. -/
def pathOf (special : Bool) (text : List Char) : String :=
  let path := text.takeWhile (!endsPath ·)
  if path.isEmpty && !special then ""
  else (UrlPath.read special false (UrlPath.afterSlash special path)).1

/-- Adds the query and the fragment that follow a path. -/
def withTail (url : Url) (text : List Char) : Url :=
  let tail := text.dropWhile (!endsPath ·)
  let querySet := Escape.querySet (isSpecial url.scheme)
  { url with
    query := match tail.takeWhile (· != '#') with
      | '?' :: query => some (Escape.text querySet query)
      | _ => none
    fragment := match tail.dropWhile (· != '#') with
      | '#' :: fragment => some (Escape.text Escape.fragmentSet fragment)
      | _ => none }

/-! ## Reading -/

/-- A URL of files with a path.  A host before a drive is dropped. -/
def ofFilePath (host : String) (text : List Char) : Url :=
  let (path, startsWithDrive) := UrlPath.read true true (text.takeWhile (!endsPath ·))
  let authority : Authority := { host := if startsWithDrive then "" else host }
  withTail { scheme := "file", authority := some authority, path } text

/-- A URL of files.  Its host is usually empty, and what reads as a drive is no host. -/
def ofFile (text : List Char) : Except UrlFault Url := do
  match text with
  | a :: b :: rest =>
    if UrlPath.isSlash true a && UrlPath.isSlash true b then
      let name := rest.takeWhile (!endsHost true ·)
      if name.isEmpty || UrlPath.isDrive name then return ofFilePath "" rest
      let host ← (HostName.special name).mapError .host
      let after := rest.drop name.length
      if host = "localhost" then return ofFilePath "" after
      return ofFilePath host (UrlPath.afterSlash true after)
  | _ => pure ()
  return ofFilePath "" (UrlPath.afterSlash true text)

def ofScheme (scheme : String) (text : List Char) : Except UrlFault Url := do
  let hosted (text : List Char) : Except UrlFault Url := do
    let (authority, rest) ← splitAuthority scheme text
    return withTail
      { scheme, authority := some authority, path := pathOf (isSpecial scheme) rest } rest
  if scheme = "file" then ofFile text
  else if isSpecial scheme then hosted (text.dropWhile (UrlPath.isSlash true))
  else
    match text with
    | '/' :: '/' :: rest => hosted rest
    | '/' :: _ => return withTail { scheme, path := pathOf false text } text
    | _ =>
      let path := Escape.text Escape.controlSet (text.takeWhile (!endsPath ·))
      return withTail { scheme, path } text

/-- Blanks and controls at both ends do not count, nor do tabs and line breaks. -/
def ofText (text : String) : Except UrlFault Url :=
  let isOutside (c : Char) : Bool := c ≤ ' '
  let trimmed := ((text.toList.dropWhile isOutside).reverse.dropWhile isOutside).reverse
  let chars := trimmed.filter fun c => c != '\t' && c != '\n' && c != '\x0d'
  match splitScheme? chars with
  | some (scheme, rest) => ofScheme scheme rest
  | none => .error .noScheme

/-! ## Writing -/

/-- The path and the query, as a request asks for them. -/
def resource (url : Url) : String :=
  url.path ++ (match url.query with
    | some query => "?" ++ query
    | none => "")

/-- The text of a URL.  A path that begins with two slashes is kept from being read as a
host. -/
def text (url : Url) : String :=
  let start := match url.authority with
    | some authority => authority.text
    | none => if url.path.startsWith "//" then "/." else ""
  url.scheme ++ ":" ++ start ++ url.resource ++ (match url.fragment with
    | some fragment => "#" ++ fragment
    | none => "")

end Url

end Net
end Bayeux
