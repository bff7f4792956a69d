import Bayeux.Text.Quoted

namespace Bayeux

/-!
# Browsers

The tabs of one browser share its cookies, so an id in a cookie tells
which connections compete with one another.
-/

structure BrowserId where
  text : String
deriving DecidableEq, Repr, Hashable

/-! ## Base 36 -/

namespace Base36

/-- The digit of a value below 36: a numeral, then a lower-case letter. -/
def digit (value : Nat) : Char :=
  Char.ofNat (if value < 10 then 48 + value else 87 + value)

/-- The digits of a number, most significant first; zero has one digit. -/
def digits (value : Nat) : List Char :=
  if value < 36 then [digit value] else digits (value / 36) ++ [digit (value % 36)]

def text (value : Nat) : String :=
  String.ofList (digits value)

end Base36

namespace BrowserId

/-- A fresh id: the port of the connection in hexadecimal, then a random number,
the time in milliseconds and the port once more, each in base 36. -/
def generate (port random now : Nat) : BrowserId :=
  ⟨String.ofList (Text.hexDigits port ++ Base36.digits random ++ Base36.digits now ++
    Base36.digits port)⟩

/-- The rendering for diagnostics. -/
def debug (id : BrowserId) : String :=
  "BrowserId(" ++ id.text ++ ")"

end BrowserId

end Bayeux
