import Bayeux.Text.Quoted
import Bayeux.Text.Utf8

namespace Bayeux
namespace Net

/-!
# Query strings

A query holds pairs of names and values, with a plus sign for a blank and escapes for
bytes.
-/

abbrev Parameters := List (String × String)

namespace Form

/-- The parts between occurrences of a byte; there is always at least one. -/
def splitBytes (separator : UInt8) (bytes : List UInt8) : List (List UInt8) :=
  let (last, parts) := bytes.foldl
    (fun (part, parts) byte =>
      if byte == separator then ([], part.reverse :: parts) else (byte :: part, parts))
    ([], [])
  (last.reverse :: parts).reverse

def hexValue? (byte : UInt8) : Option Nat :=
  let b := byte.toNat
  if 48 ≤ b ∧ b ≤ 57 then some (b - 48)
  else if 65 ≤ b ∧ b ≤ 70 then some (b - 55)
  else if 97 ≤ b ∧ b ≤ 102 then some (b - 87)
  else none

/-- Undoes escapes; what is no escape stays as it is. -/
def unescape : List UInt8 → List UInt8
  | 37 :: high :: low :: rest =>
    match hexValue? high, hexValue? low with
    | some h, some l => UInt8.ofNat (16 * h + l) :: unescape rest
    | _, _ => 37 :: unescape (high :: low :: rest)
  | byte :: rest => byte :: unescape rest
  | [] => []

/-- The text of one name or value. -/
def decodePart (bytes : List UInt8) : String :=
  let spaced := bytes.map fun byte => if byte == 43 then 32 else byte
  String.ofList (Text.Utf8.decodeLossy (unescape spaced))

/-- The name before the first equals sign, and the value after it. -/
def decodePair (bytes : List UInt8) : String × String :=
  (decodePart (bytes.takeWhile (· != 61)), decodePart ((bytes.dropWhile (· != 61)).drop 1))

/-- The pairs of a query, in their order; empty parts are no pairs. -/
def parse (query : String) : Parameters :=
  ((splitBytes 38 (Text.Utf8.encode query.toList)).filter fun part => !part.isEmpty).map
    decodePair

/-! ## Writing -/

def upperHex (value : Nat) : Char :=
  (Text.hexDigit value).toUpper

def escapeByte (byte : UInt8) : List Char :=
  let b := byte.toNat
  let c := Char.ofNat b
  if c.isAlphanum || c == '*' || c == '-' || c == '.' || c == '_' then [c]
  else if b = 32 then ['+']
  else ['%', upperHex (b / 16), upperHex (b % 16)]

def encodePart (text : String) : String :=
  String.ofList ((Text.Utf8.encode text.toList).flatMap escapeByte)

/-- The query of a list of pairs. -/
def encode (pairs : Parameters) : String :=
  "&".intercalate (pairs.map fun pair => encodePart pair.1 ++ "=" ++ encodePart pair.2)

end Form

end Net
end Bayeux
