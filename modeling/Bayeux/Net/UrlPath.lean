import Bayeux.Net.Escape

namespace Bayeux
namespace Net

/-!
# Paths of URLs

A path is a row of parts, each after a slash.  Parts made of dots stand for this directory
and for the one above, and are resolved.  A part that reads as a drive is never left by
going up, whatever the scheme of the URL.
-/

namespace UrlPath

/-- Whether a character separates parts. -/
def isSlash (special : Bool) (c : Char) : Bool :=
  c == '/' || (special && c == '\\')

/-- The parts of a text between slashes; there is always at least one. -/
def split (special : Bool) : List Char → List (List Char)
  | [] => [[]]
  | c :: rest =>
    if isSlash special c then [] :: split special rest
    else
      match split special rest with
      | part :: parts => (c :: part) :: parts
      | [] => [[c]]

/-- How many dots a part spells, escaped or not, if it is made of dots. -/
def dots? (part : List Char) : Option Nat :=
  let lower := String.ofList (part.map Char.toLower)
  if lower = "." ∨ lower = "%2e" then some 1
  else if lower = ".." ∨ lower = ".%2e" ∨ lower = "%2e." ∨ lower = "%2e%2e" then some 2
  else none

/-- What follows the letter and the colon of a drive; a bar may stand for the colon. -/
def afterDrive? : List Char → Option (List Char)
  | letter :: sign :: rest =>
    if letter.isAlpha ∧ (sign = ':' ∨ sign = '|') then some rest else none
  | _ => none

def isDrive (part : List Char) : Bool :=
  afterDrive? part == some []

/-- Whether a part reads as a drive up to a slash of any kind. -/
def readsAsDrive (part : List Char) : Bool :=
  match afterDrive? part with
  | some rest => rest.isEmpty || rest.head? == some '\\'
  | none => false

structure Walk where
  parts : List (List Char) := []
  /-- Whether a drive came first in a path of files, which then has no host. -/
  startsWithDrive : Bool := false
deriving DecidableEq, Repr

namespace Walk

/-- Leaves the directory reached so far. -/
def up (w : Walk) : Walk :=
  if (w.parts.getLast?.map readsAsDrive).getD false then w
  else { w with parts := w.parts.dropLast }

def step (ofFiles : Bool) (w : Walk) (part : List Char) : Walk :=
  match dots? part with
  | some 1 => w
  | some _ => w.up
  | none =>
    if ofFiles && w.parts.isEmpty && isDrive part then
      { parts := [part.take 1 ++ [':']], startsWithDrive := true }
    else { w with parts := w.parts ++ [part] }

/-- Walks all parts; dots at the end leave an empty part. -/
def all (ofFiles : Bool) (parts : List (List Char)) : Walk :=
  let w := parts.foldl (step ofFiles) {}
  if (parts.getLast?.bind dots?).isSome then { w with parts := w.parts ++ [[]] } else w

/-- The path; one of files begins with no more than one slash. -/
def text (ofFiles : Bool) (w : Walk) : String :=
  let path := ['/'].intercalate w.parts
  String.ofList ('/' :: if ofFiles then path.dropWhile (· == '/') else path)

end Walk

/-- The path that begins with a slash before a text, and whether it starts with a drive. -/
def read (special ofFiles : Bool) (text : List Char) : String × Bool :=
  let w := Walk.all ofFiles ((split special text).map (Escape.write Escape.pathSet))
  (w.text ofFiles, w.startsWithDrive)

/-- A text without a slash at its beginning. -/
def afterSlash (special : Bool) : List Char → List Char
  | [] => []
  | c :: rest => if isSlash special c then rest else c :: rest

end UrlPath

end Net
end Bayeux
