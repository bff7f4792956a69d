import Bayeux.Json.Decimal

namespace Bayeux
namespace Json

/-!
# Free-form values

A message carries free-form values in its data, its extensions and its members of
unknown name.  An object holds its members in a list; a value that was read has them
sorted by key, each key once.
-/

/-- An integer between `-2 ^ 63` and `2 ^ 64 - 1`, or a double. -/
inductive Number where
  | integer (value : Int)
  | float (value : Double)
deriving DecidableEq, Repr

namespace Number

def text : Number → List Char
  | integer value => (if value < 0 then ['-'] else []) ++ Decimal.numerals value.natAbs
  | float value => value.text

/-- An integer and a double are never the same, whatever their values. -/
def sameValue : Number → Number → Bool
  | integer m, integer n => m == n
  | float x, float y => x.sameValue y
  | _, _ => false

end Number

inductive Value where
  | null
  | truth (value : Bool)
  | number (value : Number)
  | string (text : String)
  | array (items : List Value)
  | object (members : List (String × Value))
deriving Repr

instance : Inhabited Value := ⟨.null⟩

/-- Members of an object, in the order of their keys. -/
abbrev Members := List (String × Value)

namespace Members

/-- Adds a member at its place in the order of keys; a member of the same key
gives way. -/
def insert (key : String) (value : Value) : Members → Members
  | [] => [(key, value)]
  | member :: rest =>
    if key < member.1 then (key, value) :: member :: rest
    else if key = member.1 then (key, value) :: rest
    else member :: insert key value rest

/-- The members in increasing order of keys, the last one of each key. -/
def ofList (members : List (String × Value)) : Members :=
  members.foldl (fun sorted member => insert member.1 member.2 sorted) []

end Members

/-! ## Equality of values -/

mutual

def Value.same : Value → Value → Bool
  | .null, .null => true
  | .truth a, .truth b => a == b
  | .number m, .number n => m.sameValue n
  | .string s, .string t => s == t
  | .array items, .array others => Value.sameItems items others
  | .object members, .object others => Value.sameMembers members others
  | _, _ => false

def Value.sameItems : List Value → List Value → Bool
  | [], [] => true
  | v :: vs, w :: ws => Value.same v w && Value.sameItems vs ws
  | _, _ => false

def Value.sameMembers : List (String × Value) → List (String × Value) → Bool
  | [], [] => true
  | (k, v) :: vs, (l, w) :: ws => k == l && Value.same v w && Value.sameMembers vs ws
  | _, _ => false

end

end Json
end Bayeux
