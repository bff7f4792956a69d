import Bayeux.Net.Domain.Folding
import Bayeux.Net.Punycode
import Bayeux.Text.Composition
import Bayeux.Text.Direction
import Bayeux.Text.Joining

namespace Bayeux
namespace Net
namespace Domain

/-!
# Labels

The parts of a name between its points.  A label has a form that is read and a form in
ASCII that is sent; they differ only for labels beyond ASCII.
-/

structure Label where
  letters : List Char
  ascii : List Char
deriving DecidableEq, Repr

def isAscii (text : List Char) : Bool :=
  text.all fun c => c.toNat < 128

/-! ## Joiners -/

/-- Whether a joiner is in place after the characters `before`, the last one first.  Both
joiners may follow a mark that takes away a vowel, and the one that keeps letters apart
may stand between letters that would join. -/
def isInPlace (before : List Char) (joiner : Char) (after : List Char) : Bool :=
  (before.head?.map fun c => Text.combiningClass c == Text.viramaClass).getD false ||
    joiner == '\u200c' &&
      ((before.dropWhile Text.isJoinedAcross).head?.map Text.joinsAfter).getD false &&
      ((after.dropWhile Text.isJoinedAcross).head?.map Text.joinsBefore).getD false

def joinersInPlace (before : List Char) : List Char → Bool
  | [] => true
  | c :: rest => (!isJoiner c || isInPlace before c rest) && joinersInPlace (c :: before) rest

/-! ## Directions -/

/-- Whether a name with such a character has to keep the rule of directions. -/
def setsDirection (c : Char) : Bool :=
  Text.direction c == .rightToLeft || Text.direction c == .arabicDigit

/-- The directions in a label without the nonspacing marks at its end. -/
def directions (letters : List Char) : List Text.Direction :=
  ((letters.map Text.direction).reverse.dropWhile (· == .nonspacing)).reverse

/-- A label begins with a letter, has no letter of the other direction, and ends with a
letter or a digit; one from right to left has digits of one kind only. -/
def keepsDirection (letters : List Char) : Bool :=
  let found := directions letters
  match found.head? with
  | none => letters.isEmpty
  | some .leftToRight =>
    !found.contains .rightToLeft && !found.contains .arabicDigit &&
      (found.getLast? == some .leftToRight || found.getLast? == some .digit)
  | some .rightToLeft =>
    !found.contains .leftToRight && !(found.contains .digit && found.contains .arabicDigit) &&
      found.getLast? != some .neutral
  | some _ => false

/-! ## Reading -/

/-- Whether characters make a label that may be read. -/
def isReadable (letters : List Char) : Bool :=
  letters.all isFolded && !(letters.head?.map Text.isMark).getD false && joinersInPlace [] letters

/-- What a label in ASCII begins with if it stands for one beyond ASCII. -/
def marker : List Char := "xn--".toList

/-- The longest labels that are written in ASCII and read from it. -/
def longestWritten : Nat := 1000
def longestRead : Nat := 2000

/-- The label that stands behind the marker. -/
def readCode? (code : List Char) : Option (List Char) :=
  if code.length > longestRead then none
  else (Punycode.decode? code).filter fun letters =>
    !isAscii letters && Text.composed letters == letters && !marker.isPrefixOf letters &&
      isReadable letters

/-- The label of folded and composed text. -/
def Label.ofText? (text : List Char) : Option Label :=
  if marker.isPrefixOf text then
    (readCode? (text.drop marker.length)).map fun letters => { letters, ascii := text }
  else if isAscii text then some { letters := text, ascii := text }
  else if isReadable text && text.length ≤ longestWritten then
    some { letters := text, ascii := marker ++ Punycode.encode text }
  else none

end Domain
end Net
end Bayeux
