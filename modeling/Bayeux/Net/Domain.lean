import Bayeux.Net.Domain.Label

namespace Bayeux
namespace Net
namespace Domain

/-!
# Names of hosts

A name of a host is sent in ASCII, whatever characters it was given in.  It is folded and
composed as a whole, so that points in other scripts divide it as well.
-/

/-- Whether a character of ASCII may not occur in a name. -/
def isForbidden (c : Char) : Bool :=
  c ≤ ' ' || c == '\x7f' || "%#/:<>?@[\\]^|".toList.contains c

/-- The labels of a name, if each may be read.  Where one is written from right to left,
all keep the rule of directions. -/
def labels? (name : List Char) : Option (List Label) := do
  let folded ← name.mapM fold?
  let labels ← (Text.splitAll '.' (Text.composed folded.flatten)).mapM Label.ofText?
  if labels.any (·.letters.any setsDirection) && !labels.all (keepsDirection ·.letters) then none
  return labels

/-- A name in ASCII. -/
def ascii? (name : List Char) : Option (List Char) := do
  let ascii := ['.'].intercalate ((← labels? name).map Label.ascii)
  if ascii.any isForbidden then none
  return ascii

end Domain
end Net
end Bayeux
