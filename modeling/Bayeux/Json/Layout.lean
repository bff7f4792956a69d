import Bayeux.Json.Value
import Bayeux.Text.Quoted

namespace Bayeux
namespace Json

/-!
# Written values

A layout decides on the blanks between tokens and on nothing else.
-/

/-- Where blanks go: nowhere, or one entry a line with two spaces a level. -/
inductive Layout where
  | compact
  | indented
deriving DecidableEq, Repr

namespace Layout

/-- The break before an entry at the given level. -/
def line (layout : Layout) (level : Nat) (out : String) : String :=
  match layout with
  | compact => out
  | indented => (out.push '\n').pushn ' ' (2 * level)

/-- What separates a key from its value. -/
def afterKey (layout : Layout) (out : String) : String :=
  match layout with
  | compact => out.push ':'
  | indented => (out.push ':').push ' '

end Layout

/-- One character of a string literal. -/
def escapeChar (c : Char) : List Char :=
  if c = '"' then ['\\', '"']
  else if c = '\\' then ['\\', '\\']
  else if c = '\x08' then ['\\', 'b']
  else if c = '\t' then ['\\', 't']
  else if c = '\n' then ['\\', 'n']
  else if c = '\x0c' then ['\\', 'f']
  else if c = '\x0d' then ['\\', 'r']
  else if c < ' ' then
    ['\\', 'u', '0', '0', Text.hexDigit (c.toNat / 16), Text.hexDigit (c.toNat % 16)]
  else [c]

/-- A string literal. -/
def literal (text : String) : String :=
  String.ofList ('"' :: (text.toList.flatMap escapeChar ++ ['"']))

/-! ## Writing a value after a text -/

mutual

def Value.write (layout : Layout) (level : Nat) : Value → String → String
  | .null, out => out ++ "null"
  | .truth true, out => out ++ "true"
  | .truth false, out => out ++ "false"
  | .number n, out => out ++ String.ofList n.text
  | .string text, out => out ++ literal text
  | .array [], out => out ++ "[]"
  | .array (v :: vs), out =>
    let opened := layout.line (level + 1) (out.push '[')
    let filled := Value.writeItems layout (level + 1) vs (v.write layout (level + 1) opened)
    (layout.line level filled).push ']'
  | .object [], out => (out.push '\x7b').push '\x7d'
  | .object ((key, v) :: members), out =>
    let opened := layout.line (level + 1) (out.push '\x7b')
    let named := layout.afterKey (opened ++ literal key)
    let filled :=
      Value.writeMembers layout (level + 1) members (v.write layout (level + 1) named)
    (layout.line level filled).push '\x7d'

/-- The items after the first. -/
def Value.writeItems (layout : Layout) (level : Nat) : List Value → String → String
  | [], out => out
  | v :: vs, out =>
    Value.writeItems layout level vs (v.write layout level (layout.line level (out.push ',')))

/-- The members after the first. -/
def Value.writeMembers (layout : Layout) (level : Nat) :
    List (String × Value) → String → String
  | [], out => out
  | (key, v) :: members, out =>
    let named := layout.afterKey (layout.line level (out.push ',') ++ literal key)
    Value.writeMembers layout level members (v.write layout level named)

end

/-- The text of a value in a layout. -/
def Value.text (layout : Layout) (v : Value) : String :=
  v.write layout 0 ""

/-- The text of a value without any blanks. -/
def Value.compact (v : Value) : String :=
  v.text .compact

end Json
end Bayeux
