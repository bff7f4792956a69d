namespace Bayeux
namespace Json

/-!
# Double-precision numbers

Finite double-precision numbers, held exactly.  A magnitude is a natural
significand times a power of two; every operation computes the exact ratio of
natural numbers and rounds it once, a half going to the even neighbour.
-/

/-- The number `significand · 2 ^ exponent`, negated when `negative` is set.
The significand stays below `2 ^ 53`, the exponent between `-1074` and `971`,
and the significand is at least `2 ^ 52` unless the exponent is least. -/
structure Double where
  negative : Bool
  significand : Nat
  exponent : Int
deriving DecidableEq, Repr

namespace Double

def leastExponent : Int := -1074

def greatestExponent : Int := 971

/-- Zero, which has a sign of its own. -/
def zero (negative : Bool) : Double :=
  { negative, significand := 0, exponent := leastExponent }

def isZero (x : Double) : Bool :=
  x.significand == 0

/-- Equality of values: the two zeros are equal. -/
def sameValue (x y : Double) : Bool :=
  (x.isZero && y.isZero) || x == y

/-- The natural number nearest to `num / den`, a half going to the even one. -/
def roundRatio (num den : Nat) : Nat :=
  let quotient := num / den
  let twice := 2 * (num % den)
  if twice < den then quotient
  else if den < twice then quotient + 1
  else quotient + quotient % 2

/-- Numerator and denominator of `num / den / 2 ^ exponent`. -/
def scaleDown (num den : Nat) (exponent : Int) : Nat × Nat :=
  (num <<< (-exponent).toNat, den <<< exponent.toNat)

/-- The exponent that gives `num / den` a significand of 53 bits, or the least
exponent for smaller ratios. -/
def exponentOf (num den : Nat) : Int :=
  let guess : Int := (num.log2 : Int) - (den.log2 : Int) - 52
  let scaled := scaleDown num den guess
  max leastExponent (if scaled.1 < scaled.2 <<< 52 then guess - 1 else guess)

/-- The double nearest to `num / den`, or `none` when it is too large for any. -/
def ofRatio? (negative : Bool) (num den : Nat) : Option Double :=
  if num = 0 then some (zero negative)
  else
    let exponent := exponentOf num den
    let scaled := scaleDown num den exponent
    let significand := roundRatio scaled.1 scaled.2
    -- rounding up may carry into a fifty-fourth bit
    let rounded : Double :=
      if significand = 1 <<< 53 then
        { negative, significand := 1 <<< 52, exponent := exponent + 1 }
      else { negative, significand, exponent }
    if greatestExponent < rounded.exponent then none else some rounded

/-- The magnitude as a ratio of natural numbers. -/
def ratio (x : Double) : Nat × Nat :=
  (x.significand <<< x.exponent.toNat, 1 <<< (-x.exponent).toNat)

/-- The nearest double to a product of magnitudes; `none` on overflow. -/
def mul? (x y : Double) : Option Double :=
  let a := x.ratio
  let b := y.ratio
  ofRatio? (x.negative != y.negative) (a.1 * b.1) (a.2 * b.2)

/-- The nearest double to a quotient of magnitudes, for a divisor other than
zero; `none` on overflow. -/
def div? (x y : Double) : Option Double :=
  let a := x.ratio
  let b := y.ratio
  ofRatio? (x.negative != y.negative) (a.1 * b.2) (a.2 * b.1)

def neg (x : Double) : Double :=
  { x with negative := !x.negative }

/-- The nearest double to a natural number; `none` on overflow. -/
def ofNat? (n : Nat) : Option Double :=
  ofRatio? false n 1

/-! ## Reading a decimal number -/

/-- The nearest double to a power of ten, for exponents up to 308. -/
def powerOfTen (k : Nat) : Double :=
  (ofNat? (Nat.pow 10 k)).getD (zero false)

/-- Divides by `10 ^ 308` that many times, ending early at zero. -/
def divideDown? (x : Double) : Nat → Option Double
  | 0 => some x
  | count + 1 =>
    if x.isZero then some x
    else (x.div? (powerOfTen 308)).bind (divideDown? · count)

/--
Multiplies a magnitude by a power of ten.  A power of ten is first rounded to a
double, and a product or quotient is rounded again; exponents below `-308` are
worked off in steps of `10 ^ 308`.  `none` stands for a result that is too large.
-/
def scaleByTen? (x : Double) (exponent : Int) : Option Double :=
  let size := exponent.natAbs
  if exponent < 0 then
    let steps := (size - 1) / 308
    (x.divideDown? steps).bind fun y => y.div? (powerOfTen (size - 308 * steps))
  else if size ≤ 308 then x.mul? (powerOfTen size)
  else if x.isZero then some x
  else none

end Double

end Json
end Bayeux
