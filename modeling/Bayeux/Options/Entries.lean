import Bayeux.ConfigError
import Bayeux.Table
import Bayeux.Text.Blank
import Bayeux.Text.Integer

namespace Bayeux

/-!
# Option entries

Entries form a flat table from keys to texts.  A key may be qualified by a dotted scope,
and the most specific scope that has an entry wins.
-/

/-- Texts by key. -/
abbrev Entries := Table String String

namespace Scope

/-- What remains after each dot, of a scope in reverse. -/
def afterDots : List Char → List (List Char)
  | [] => []
  | c :: rest => if c = '.' then rest :: afterDots rest else afterDots rest

/-- A scope, the scope without its last part, and so on to the empty scope. -/
def enclosing (scope : String) : List String :=
  scope :: ((afterDots scope.toList.reverse).map fun rest => String.ofList rest.reverse) ++ [""]

/-- A key within a scope. -/
def qualify (scope key : String) : String :=
  if scope.isEmpty then key else scope ++ "." ++ key

end Scope

namespace Entries

/-- The qualified key and the trimmed text of the most specific entry. -/
def select? (entries : Entries) (scope key : String) : Option (String × String) :=
  (Scope.enclosing scope).findSome? fun outer =>
    (entries.get? (Scope.qualify outer key)).map fun value =>
      (Scope.qualify outer key, Text.trimmed value)

/-- Parses the selected entry of a key, if there is one. -/
def parse {α : Type} (entries : Entries) (scope key : String) (parser : String → Option α) :
    Except ConfigError (Option α) :=
  match entries.select? scope key with
  | none => .ok none
  | some (qualified, value) =>
    match parser value with
    | some parsed => .ok (some parsed)
    | none => .error (.invalidOption qualified value)

end Entries

end Bayeux
