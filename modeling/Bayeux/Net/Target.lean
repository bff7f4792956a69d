namespace Bayeux
namespace Net

/-!
# Request targets

The first line of a request asks for a target: a path with a query, an absolute URL, an
authority, or a star.
-/

structure Target where
  scheme : Option String := none
  authority : Option String := none
  /-- The path and the query; a fragment is never part of it. -/
  pathAndQuery : String := ""
deriving DecidableEq, Repr

namespace Target

/-- Whether a character may occur in the name of a scheme. -/
def isSchemeChar (c : Char) : Bool :=
  c.isAlphanum || c == '+' || c == '-' || c == '.'

/-- Splits off a scheme and the two slashes after it. -/
def splitScheme? (text : List Char) : Option (List Char × List Char) :=
  match text.dropWhile isSchemeChar with
  | ':' :: '/' :: '/' :: rest =>
    let scheme := text.takeWhile isSchemeChar
    if scheme.isEmpty then none else some (scheme, rest)
  | _ => none

/-- The schemes of the web are written in lower case, all others as they are. -/
def schemeText (scheme : List Char) : String :=
  let lower := String.ofList (scheme.map Char.toLower)
  if lower = "http" ∨ lower = "https" then lower else String.ofList scheme

def withoutFragment (text : List Char) : List Char :=
  text.takeWhile (· != '#')

def isPathStart (c : Char) : Bool :=
  c == '/' || c == '?' || c == '#'

def ofText (text : String) : Target :=
  let chars := text.toList
  if chars.head? = some '/' ∨ chars = ['*'] then
    { pathAndQuery := String.ofList (withoutFragment chars) }
  else
    let (scheme, rest) := match splitScheme? chars with
      | some (scheme, rest) => (some (schemeText scheme), rest)
      | none => (none, chars)
    { scheme
      authority := some (String.ofList (rest.takeWhile (!isPathStart ·)))
      pathAndQuery := String.ofList (withoutFragment (rest.dropWhile (!isPathStart ·))) }

/-- The path and the query as they are shown: never empty. -/
def shown (target : Target) : String :=
  if target.pathAndQuery.isEmpty then "/" else target.pathAndQuery

/-- The path; the empty path of a URL is the root, and an authority alone has no path. -/
def path (target : Target) : String :=
  let path := target.pathAndQuery.toList.takeWhile (· != '?')
  if path.isEmpty ∧ target.scheme.isSome then "/" else String.ofList path

/-- What follows the first question mark, if there is one. -/
def query? (target : Target) : Option String :=
  match target.pathAndQuery.toList.dropWhile (· != '?') with
  | _ :: query => some (String.ofList query)
  | [] => none

end Target

end Net
end Bayeux
