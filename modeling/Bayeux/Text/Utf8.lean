namespace Bayeux
namespace Text

/-!
# Text as bytes

Texts are written as bytes in UTF-8, and bytes are read as text.  Decoding is a fold
over the bytes; each longest run of bytes that begins a character but does not complete
one becomes one replacement character.
-/

namespace Utf8

def encode (text : List Char) : List UInt8 :=
  text.flatMap String.utf8EncodeChar

/-- The characters so far, in reverse, and the character under way: the bytes it
still needs, its value so far and the range of its next byte. -/
structure Decoder where
  out : List Char := []
  need : Nat := 0
  value : Nat := 0
  low : Nat := 0x80
  high : Nat := 0xBF
  valid : Bool := true

namespace Decoder

def push (d : Decoder) (c : Char) : Decoder :=
  { out := c :: d.out, valid := d.valid }

/-- Gives up on the bytes of the character under way. -/
def replace (d : Decoder) : Decoder :=
  { out := '\uFFFD' :: d.out, valid := false }

/-- A byte at the beginning of a character. -/
def start (d : Decoder) (byte : Nat) : Decoder :=
  if byte < 0x80 then d.push (Char.ofNat byte)
  else if 0xC2 ≤ byte ∧ byte ≤ 0xDF then { d with need := 1, value := byte - 0xC0 }
  else if 0xE0 ≤ byte ∧ byte ≤ 0xEF then
    { d with
      need := 2
      value := byte - 0xE0
      -- neither overlong forms nor surrogates
      low := if byte = 0xE0 then 0xA0 else 0x80
      high := if byte = 0xED then 0x9F else 0xBF }
  else if 0xF0 ≤ byte ∧ byte ≤ 0xF4 then
    { d with
      need := 3
      value := byte - 0xF0
      -- neither overlong forms nor values beyond the last plane
      low := if byte = 0xF0 then 0x90 else 0x80
      high := if byte = 0xF4 then 0x8F else 0xBF }
  else d.replace

def step (d : Decoder) (byte : UInt8) : Decoder :=
  let b := byte.toNat
  match d.need with
  | 0 => d.start b
  | need + 1 =>
    if d.low ≤ b ∧ b ≤ d.high then
      let value := 64 * d.value + (b - 0x80)
      if need = 0 then d.push (Char.ofNat value)
      else { d with need, value, low := 0x80, high := 0xBF }
    else d.replace.start b

def finish (d : Decoder) : Decoder :=
  if d.need = 0 then d else d.replace

end Decoder

def run (bytes : List UInt8) : Decoder :=
  (bytes.foldl Decoder.step {}).finish

/-- The text of the bytes, with a replacement character for what is not text. -/
def decodeLossy (bytes : List UInt8) : List Char :=
  (run bytes).out.reverse

/-- The text of the bytes, if they are text. -/
def decode? (bytes : List UInt8) : Option (List Char) :=
  let decoder := run bytes
  if decoder.valid then some decoder.out.reverse else none

end Utf8

end Text
end Bayeux
