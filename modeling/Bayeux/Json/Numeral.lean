import Bayeux.Json.Fault

namespace Bayeux
namespace Json

/-!
# Number literals

A literal is scanned character by character and stands for a number.  Integers are
exact within 64 bits.  Everything else becomes a double: the leading digits that fit
64 bits form a significand, which is rounded and then scaled by a power of ten.
-/

namespace Numeral

/-- How much of a literal has been seen. -/
inductive Phase where
  | sign
  | zero
  | whole
  | point
  | fraction
  | mark
  | markSign
  | power
deriving DecidableEq, Repr

end Numeral

/-- A number literal that is being read; each group of digits is held in reverse. -/
structure Numeral where
  negative : Bool
  phase : Numeral.Phase
  whole : List Nat := []
  fraction : List Nat := []
  powerNegative : Bool := false
  power : List Nat := []
deriving DecidableEq, Repr

namespace Numeral

def digit? (c : Char) : Option Nat :=
  if '0' ≤ c ∧ c ≤ '9' then some (c.toNat - 48) else none

/-- What a character does to a literal. -/
inductive Step where
  | extended (numeral : Numeral)
  /-- The literal ended before this character. -/
  | ended
  | invalid

/-- The literal that begins with a character, if one does. -/
def start? (c : Char) : Option Numeral :=
  if c = '-' then some { negative := true, phase := .sign }
  else if c = '0' then some { negative := false, phase := .zero, whole := [0] }
  else (digit? c).map fun d => { negative := false, phase := .whole, whole := [d] }

/-- The part after the whole number, or the end of the literal. -/
def afterWhole (n : Numeral) (c : Char) : Step :=
  if c = '.' then .extended { n with phase := .point }
  else if c = 'e' ∨ c = 'E' then .extended { n with phase := .mark }
  else .ended

def step (n : Numeral) (c : Char) : Step :=
  match n.phase, digit? c with
  | .sign, some 0 => .extended { n with phase := .zero, whole := [0] }
  | .sign, some d => .extended { n with phase := .whole, whole := [d] }
  | .sign, none => .invalid
  | .zero, some _ => .invalid
  | .zero, none => n.afterWhole c
  | .whole, some d => .extended { n with whole := d :: n.whole }
  | .whole, none => n.afterWhole c
  | .point, some d | .fraction, some d =>
    .extended { n with phase := .fraction, fraction := d :: n.fraction }
  | .point, none => .invalid
  | .fraction, none =>
    if c = 'e' ∨ c = 'E' then .extended { n with phase := .mark } else .ended
  | .mark, some d | .markSign, some d | .power, some d =>
    .extended { n with phase := .power, power := d :: n.power }
  | .mark, none =>
    if c = '+' then .extended { n with phase := .markSign }
    else if c = '-' then .extended { n with phase := .markSign, powerNegative := true }
    else .invalid
  | .markSign, none => .invalid
  | .power, none => .ended

/-- Whether the literal may end here. -/
def complete (n : Numeral) : Bool :=
  match n.phase with
  | .zero | .whole | .fraction | .power => true
  | _ => false

/-! ## The number of a literal -/

/-- Appends digits to a significand as long as it stays below `2 ^ 64`; the
digits from the first that does not fit are left over. -/
def accumulate (significand : Nat) : List Nat → Nat × List Nat
  | [] => (significand, [])
  | d :: rest =>
    if UInt64.size ≤ significand * 10 + d then (significand, d :: rest)
    else accumulate (significand * 10 + d) rest

/-- The value of the exponent's digits, cut off at `2 ^ 31`. -/
def powerValue (n : Numeral) : Nat :=
  n.power.reverse.foldl (fun value d => min (value * 10 + d) (1 <<< 31)) 0

/-- The double of a significand and a power of ten, with the literal's sign. -/
def double (n : Numeral) (significand : Nat) (exponent : Int) : Except Fault Number :=
  match (Double.ofNat? significand).bind (·.scaleByTen? exponent) with
  | some x => .ok (.float (if n.negative then x.neg else x))
  | none => .error .numberOutOfRange

/-- The integer of a literal without point or exponent.  A negative zero and
integers below `-2 ^ 63` are doubles. -/
def integer (n : Numeral) (significand : Nat) : Except Fault Number :=
  if !n.negative then .ok (.integer significand)
  else if 0 < significand ∧ significand ≤ 1 <<< 63 then .ok (.integer (-significand))
  else n.double significand 0

def value (n : Numeral) : Except Fault Number :=
  let (whole, dropped) := accumulate 0 n.whole.reverse
  if (n.phase = .zero ∨ n.phase = .whole) ∧ dropped = [] then n.integer whole
  else
    let (significand, unused) := accumulate whole n.fraction.reverse
    let exponent : Int := dropped.length - (n.fraction.length - unused.length : Nat)
    let power := n.powerValue
    if power < 1 <<< 31 then
      n.double significand (if n.powerNegative then exponent - power else exponent + power)
    else if significand ≠ 0 ∧ !n.powerNegative then .error .numberOutOfRange
    else .ok (.float (.zero n.negative))

end Numeral

end Json
end Bayeux
