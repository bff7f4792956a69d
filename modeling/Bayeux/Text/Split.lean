namespace Bayeux
namespace Text

/-!
# Split text

A text is cut at every occurrence of a separator, or at the first one only.
-/

/-- The parts between occurrences of a separator; there is always at least one. -/
def splitAll (separator : Char) : List Char → List (List Char)
  | [] => [[]]
  | c :: rest =>
    if c = separator then [] :: splitAll separator rest
    else
      match splitAll separator rest with
      | part :: parts => (c :: part) :: parts
      | [] => [[c]]

/-- The parts before and after the first occurrence of a separator. -/
def splitOnce? (separator : Char) : List Char → Option (List Char × List Char)
  | [] => none
  | c :: rest =>
    if c = separator then some ([], rest)
    else (splitOnce? separator rest).map fun (before, after) => (c :: before, after)

end Text
end Bayeux
