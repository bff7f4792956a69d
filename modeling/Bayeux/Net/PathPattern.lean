namespace Bayeux
namespace Net

/-!
# Path patterns

A path pattern stands for a set of paths.  A name in braces takes the rest of a
segment, a name in braces that begins with a star takes the rest of the path, and
neither takes nothing.  A doubled brace is a brace.
-/

inductive PathPiece where
  | char (c : Char)
  /-- Up to the next slash. -/
  | segment
  /-- Up to the end of the path. -/
  | remainder
deriving DecidableEq, Repr

abbrev PathPattern := List PathPiece

namespace PathPattern

/-- The characters of a pattern, each with whether it was a doubled brace. -/
def unescape : List Char → List (Char × Bool)
  | '\x7b' :: '\x7b' :: rest => ('\x7b', true) :: unescape rest
  | '\x7d' :: '\x7d' :: rest => ('\x7d', true) :: unescape rest
  | c :: rest => (c, false) :: unescape rest
  | [] => []

/-- The piece that a name stands for. -/
def ofName (name : List Char) : PathPiece :=
  if name.head? = some '*' then .remainder else .segment

/-- The pieces of a pattern, where `name` is what has been read of a name.  A name that
is never closed stands for itself. -/
def pieces (name : Option (List Char)) : List (Char × Bool) → PathPattern
  | [] => ((name.map ('\x7b' :: ·)).getD []).map .char
  | (c, escaped) :: rest =>
    match name with
    | none =>
      if c = '\x7b' ∧ escaped = false then pieces (some []) rest
      else .char c :: pieces none rest
    | some name =>
      if c = '\x7d' ∧ escaped = false then ofName name :: pieces none rest
      else pieces (some (name ++ [c])) rest

def ofText (text : String) : PathPattern :=
  pieces none (unescape text.toList)

def takes : PathPattern → List Char → Bool
  | [], path => path.isEmpty
  | .char _ :: _, [] => false
  | .char c :: pattern, d :: path => c == d && takes pattern path
  | .segment :: pattern, path =>
    !(path.takeWhile (· != '/')).isEmpty && takes pattern (path.dropWhile (· != '/'))
  | .remainder :: pattern, path => !path.isEmpty && takes pattern []

end PathPattern

end Net
end Bayeux
