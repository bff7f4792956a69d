namespace Bayeux
namespace Net

/-!
# Labels beyond ASCII

A label beyond ASCII is written in ASCII: its ASCII characters come first, and after
a hyphen the others follow as numbers that say where each of them belongs.
-/

namespace Punycode

/-- The digit of a value below 36: a letter, then a numeral. -/
def digit (value : Nat) : Char :=
  Char.ofNat (if value < 26 then 97 + value else 22 + value)

/-- The number of values of a digit at a place that is weighed by `bias`. -/
def threshold (place bias : Nat) : Nat :=
  min (max (place - bias) 1) 26

theorem one_le_threshold (place bias : Nat) : 1 ≤ threshold place bias := by
  unfold threshold
  omega

theorem threshold_le (place bias : Nat) : threshold place bias ≤ 26 := by
  unfold threshold
  omega

/-- A number with the least significant digit first; the last digit is the first
that is below its threshold. -/
def digits (bias place value : Nat) : List Char :=
  let t := threshold place bias
  if value < t then [digit value]
  else digit (t + (value - t) % (36 - t)) :: digits bias (place + 36) ((value - t) / (36 - t))
termination_by value
decreasing_by
  have low := one_le_threshold place bias
  have high := threshold_le place bias
  calc (value - threshold place bias) / (36 - threshold place bias)
      ≤ value - threshold place bias := Nat.div_le_self _ _
    _ < value := by omega

/-- Divides a distance down to the range of one digit, and counts the places. -/
def adapt (places distance : Nat) : Nat :=
  if 455 < distance then adapt (places + 36) (distance / 35)
  else places + 36 * distance / (distance + 38)
termination_by distance

/-- The weight for the next number. -/
def bias (isFirst : Bool) (distance count : Nat) : Nat :=
  let scaled := if isFirst then distance / 700 else distance / 2
  adapt 0 (scaled + scaled / count)

/-! ## Writing -/

structure Writer where
  out : List Char
  /-- The distance passed since the last character written. -/
  distance : Nat := 0
  weight : Nat := 72
  /-- How many characters are written. -/
  written : Nat
  isFirst : Bool := true

/-- Passes one character of the label, and writes it if it is the one in turn. -/
def Writer.pass (turn : Nat) (w : Writer) (c : Char) : Writer :=
  if c.toNat < turn then { w with distance := w.distance + 1 }
  else if c.toNat = turn then
    { out := w.out ++ digits w.weight 36 w.distance
      distance := 0
      weight := bias w.isFirst w.distance (w.written + 1)
      written := w.written + 1
      isFirst := false }
  else w

/-- Writes all occurrences of each code point in turn, from the smallest on. -/
def Writer.write (label : List Char) : Nat → List Nat → Writer → Writer
  | _, [], w => w
  | after, turn :: turns, w =>
    let moved := { w with distance := w.distance + (turn - after) * (w.written + 1) }
    let passed := label.foldl (Writer.pass turn) moved
    Writer.write label (turn + 1) turns { passed with distance := passed.distance + 1 }

/-- A label in ASCII. -/
def encode (label : List Char) : List Char :=
  let plain := label.filter fun c => c.toNat < 128
  let turns := ((label.filter fun c => 128 ≤ c.toNat).map Char.toNat).mergeSort.eraseDups
  let start := if plain.isEmpty then [] else plain ++ ['-']
  (Writer.write label 128 turns { out := start, written := plain.length }).out

/-! ## Reading -/

def digitValue? (c : Char) : Option Nat :=
  if 'a' ≤ c ∧ c ≤ 'z' then some (c.toNat - 97)
  else if '0' ≤ c ∧ c ≤ '9' then some (c.toNat - 22)
  else none

structure Reader where
  out : List Char
  /-- The character in turn. -/
  turn : Nat := 128
  /-- Where the last character was put, and one more. -/
  position : Nat := 0
  /-- The number under way, what its next digit counts, and the place of that digit. -/
  distance : Nat := 0
  unit : Nat := 1
  place : Nat := 36
  weight : Nat := 72
  isFirst : Bool := true

/-- Puts the character in turn where the number that has been read tells. -/
def Reader.put (r : Reader) (distance : Nat) : Option Reader :=
  let count := r.out.length + 1
  let turn := r.turn + (r.position + distance) / count
  let index := (r.position + distance) % count
  if turn.isValidChar then
    some { out := r.out.take index ++ Char.ofNat turn :: r.out.drop index
           turn
           position := index + 1
           weight := bias r.isFirst distance count
           isFirst := false }
  else none

/-- Takes one digit in. -/
def Reader.step (r : Reader) (c : Char) : Option Reader := do
  let value ← digitValue? c
  let distance := r.distance + value * r.unit
  let t := threshold r.place r.weight
  if value < t then r.put distance
  else return { r with distance, unit := r.unit * (36 - t), place := r.place + 36 }

/-- The label that is written in ASCII. -/
def decode? (code : List Char) : Option (List Char) := do
  let plain := ((code.reverse.dropWhile (· != '-')).drop 1).reverse
  let digits := if plain.isEmpty then code else code.drop (plain.length + 1)
  let r ← digits.foldlM Reader.step { out := plain }
  if r.place ≠ 36 || plain.any (128 ≤ ·.toNat) then none
  return r.out

end Punycode

end Net
end Bayeux
