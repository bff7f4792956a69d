import Bayeux.Net.Form

namespace Bayeux
namespace Net

/-!
# Escapes in URLs

Each part of a URL has a set of characters that may not stand in it.  They are written as
a percent sign and two digits for each of their bytes.
-/

namespace Escape

/-- Writes a text with escapes for controls, for characters beyond ASCII and for
those of a set. -/
def write (set : String) (text : List Char) : List Char :=
  text.flatMap fun c =>
    if c < ' ' ∨ '\x7e' < c ∨ c ∈ set.toList then
      (String.utf8EncodeChar c).flatMap fun byte =>
        ['%', Form.upperHex (byte.toNat / 16), Form.upperHex (byte.toNat % 16)]
    else [c]

def text (set : String) (text : List Char) : String :=
  String.ofList (write set text)

def fragmentSet : String := " \"<>\x60"

def pathSet : String := fragmentSet ++ "#?\x7b\x7d"

def userSet : String := pathSet ++ "/:;=@[\\]^|"

def querySet (special : Bool) : String :=
  if special then " \"#<>'" else " \"#<>"

/-- Where nothing but controls and characters beyond ASCII is escaped. -/
def controlSet : String := ""

end Escape

end Net
end Bayeux
