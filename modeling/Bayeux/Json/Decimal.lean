import Bayeux.Json.Double

namespace Bayeux
namespace Json

/-!
# Shortest decimal text

A double is written with the fewest digits that read back to the same number, and of
those the nearest to it.  All comparisons are between natural numbers.
-/

/-- The number `digits · 10 ^ exponent`. -/
structure Decimal where
  digits : Nat
  exponent : Int
deriving DecidableEq, Repr

namespace Decimal

/-- The numerals of a natural number, most significant first. -/
def numerals (n : Nat) : List Char :=
  Nat.toDigits 10 n

/--
The reals that round to a positive double, over a common denominator: the double
itself and the midpoints to its neighbours.  The midpoints belong to
the double when its significand is even.
-/
structure Interval where
  low : Nat
  value : Nat
  high : Nat
  den : Nat
  closed : Bool
deriving Repr

/-- The interval of a double other than zero.  Below a power of two the lower
neighbour is only half as far away as the upper one. -/
def Interval.ofDouble (x : Double) : Interval :=
  let unit := 1 <<< x.exponent.toNat
  let gap :=
    if x.significand = 1 <<< 52 ∧ Double.leastExponent < x.exponent then 1 else 2
  { low := (4 * x.significand - gap) * unit
    value := 4 * x.significand * unit
    high := (4 * x.significand + 2) * unit
    den := 4 <<< (-x.exponent).toNat
    closed := x.significand % 2 == 0 }

/-- Whether `digits · 10 ^ exponent` lies in the interval. -/
def Interval.contains (i : Interval) (d : Decimal) : Bool :=
  let point := d.digits * Nat.pow 10 d.exponent.toNat * i.den
  let unit := Nat.pow 10 (-d.exponent).toNat
  let low := i.low * unit
  let high := i.high * unit
  (low < point || (i.closed && low == point)) && (point < high || (i.closed && point == high))

/-- The exponent of the leading digit of the interval's value. -/
def Interval.magnitude (i : Interval) : Int :=
  -- the least positive double has its leading digit 324 places after the point
  ((numerals (i.value * Nat.pow 10 324 / i.den)).length : Int) - 325

/-- The two neighbours of the value on the grid of multiples of `10 ^ exponent`,
and whether the lower one is nearer, an exact tie going to the even digit. -/
def Interval.neighbours (i : Interval) (exponent : Int) : Decimal × Decimal × Bool :=
  let num := i.value * Nat.pow 10 (-exponent).toNat
  let den := i.den * Nat.pow 10 exponent.toNat
  let below := num / den
  let twice := 2 * (num % den)
  ({ digits := below, exponent }, { digits := below + 1, exponent },
    twice < den || (twice == den && below % 2 == 0))

/-- The nearest grid point in the interval, if one of the two neighbours is in it. -/
def Interval.onGrid? (i : Interval) (exponent : Int) : Option Decimal :=
  let (below, above, belowNearer) := i.neighbours exponent
  match i.contains below, i.contains above with
  | true, true => some (if belowNearer then below else above)
  | true, false => some below
  | false, true => some above
  | false, false => none

/-- The first hit among grids of one digit, two digits, up to `count` digits more. -/
def Interval.search (i : Interval) (exponent : Int) : Nat → Decimal
  | 0 => (i.neighbours exponent).1
  | count + 1 =>
    match i.onGrid? exponent with
    | some d => d
    | none => i.search (exponent - 1) count

/-- The shortest decimal for a double other than zero; seventeen digits always suffice. -/
def shortest (x : Double) : Decimal :=
  let i := Interval.ofDouble x
  i.search i.magnitude 17

/-! ## Writing -/

/-- The text of a signed exponent. -/
def exponentText (exponent : Int) : List Char :=
  'e' :: (if exponent < 0 then '-' else '+') :: numerals exponent.natAbs

/--
Positional notation from `10 ^ -5` up to `10 ^ 16`, with `.0` after a whole
number; scientific notation outside that range.  The digits carry no zeros at
the end, and `lead` is the exponent of the first one.
-/
def place (digits : List Char) (lead : Int) : List Char :=
  if -5 ≤ lead ∧ lead < 16 then
    if lead < 0 then
      ['0', '.'] ++ List.replicate ((-lead).toNat - 1) '0' ++ digits
    else
      let whole := lead.toNat + 1
      let after := digits.drop whole
      digits.take whole ++ List.replicate (whole - digits.length) '0' ++
        '.' :: (if after.isEmpty then ['0'] else after)
  else
    match digits with
    | [] => []
    | [digit] => digit :: exponentText lead
    | digit :: rest => digit :: '.' :: (rest ++ exponentText lead)

/-- The digits without zeros at the end. -/
def significant (digits : List Char) : List Char :=
  (digits.reverse.dropWhile (· == '0')).reverse

/-- The text of a magnitude other than zero. -/
def text (d : Decimal) : List Char :=
  let digits := numerals d.digits
  place (significant digits) (d.exponent + (digits.length : Int) - 1)

end Decimal

/-- The shortest text that reads back to the same double. -/
def Double.text (x : Double) : List Char :=
  let magnitude := if x.isZero then ['0', '.', '0'] else (Decimal.shortest x).text
  if x.negative then '-' :: magnitude else magnitude

end Json
end Bayeux
