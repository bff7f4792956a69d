import Bayeux.Json.Decimal
import Bayeux.Proofs.Json.Rounding
import Bayeux.Proofs.Text.Positional

namespace Bayeux
namespace Json
namespace Decimal

/-!
# Shortest decimals

The decimal that is written for a double is found on some grid of powers of ten, next to the
double's own magnitude.  Two things are said of it: how many digits it has at most, and that
it does not pass the midpoint to the next greater double.
-/

/-- The number that a decimal stands for. -/
def magnitude (d : Decimal) : ℚ :=
  d.digits * 10 ^ d.exponent

theorem cast_pow_ten (k : Nat) : ((Nat.pow 10 k : ℕ) : ℚ) = 10 ^ (k : ℤ) := by
  rw [zpow_natCast]
  exact Nat.cast_pow 10 k

/-- A power of ten is the quotient of two whole ones. -/
theorem zpow_eq_div (exponent : Int) :
    (10 : ℚ) ^ exponent =
      (Nat.pow 10 exponent.toNat : ℕ) / (Nat.pow 10 (-exponent).toNat : ℕ) := by
  rw [cast_pow_ten, cast_pow_ten, ← zpow_sub₀ (by norm_num)]
  congr 1
  omega

theorem pow_ten_pos (k : Nat) : (0 : ℚ) < (Nat.pow 10 k : ℕ) :=
  Nat.cast_pos.mpr (Nat.pow_pos (by norm_num))

/-- A quotient of natural numbers is the whole part of the ratio. -/
theorem natDiv_spec (num : Nat) {den : Nat} (positive : 0 < den) :
    ((num / den : ℕ) : ℚ) ≤ num / den ∧ (num / den : ℚ) < (num / den : ℕ) + 1 := by
  have divisor : (0 : ℚ) < den := Nat.cast_pos.mpr positive
  constructor
  · rw [le_div_iff₀ divisor, ← Nat.cast_mul]
    exact Nat.cast_le.mpr (Nat.div_mul_le_self num den)
  · rw [div_lt_iff₀ divisor, ← Nat.cast_add_one, ← Nat.cast_mul]
    exact Nat.cast_lt.mpr (Nat.lt_mul_of_div_lt (Nat.lt_succ_self _) positive)

/-- The numerals of a number are its digits, the most significant one first. -/
theorem numerals_eq_map {n : Nat} (positive : 0 < n) :
    numerals n = (Nat.digits 10 n).reverse.map Nat.digitChar := by
  rw [← Text.places_of_pos positive]
  exact (Text.isPositional_toDigits (by norm_num)).eq_map_places (by norm_num) n

theorem length_numerals {n : Nat} (positive : 0 < n) :
    (numerals n).length = (Nat.digits 10 n).length := by
  rw [numerals_eq_map positive, List.length_map, List.length_reverse]

/-- The numerals of the whole part tell between which powers of ten a ratio lies. -/
theorem length_numerals_spec {num den : Nat} (positive : 0 < den) (large : den ≤ num) :
    (10 : ℚ) ^ (numerals (num / den)).length ≤ 10 * (num / den) ∧
      (num / den : ℚ) < 10 ^ (numerals (num / den)).length := by
  have whole : 0 < num / den := Nat.div_pos large positive
  have fewest := Nat.base_pow_length_digits_le 10 (num / den) (by norm_num) whole.ne'
  have most := Nat.lt_base_pow_length_digits (b := 10) (m := num / den) (by norm_num)
  rcases natDiv_spec num positive with ⟨floor, ceiling⟩
  rw [length_numerals whole]
  constructor
  · calc
      (10 : ℚ) ^ (Nat.digits 10 (num / den)).length ≤ 10 * (num / den : ℕ) := by
        exact_mod_cast fewest
      _ ≤ 10 * (num / den) := by linarith
  · calc
      (num / den : ℚ) < (num / den : ℕ) + 1 := ceiling
      _ ≤ 10 ^ (Nat.digits 10 (num / den)).length := by exact_mod_cast most

namespace Interval

section Grids

variable {i : Interval} {d : Decimal}

/-- The number in the middle of an interval. -/
def center (i : Interval) : ℚ :=
  i.value / i.den

/-- The upper end of an interval. -/
def top (i : Interval) : ℚ :=
  i.high / i.den

/-- A decimal that is one of the two nearest to the centre on its own grid, or between them,
and does not pass the upper end. -/
structure Near (i : Interval) (d : Decimal) : Prop where
  center_lt : i.center < (d.digits + 1) * 10 ^ d.exponent
  le_center : ((d.digits : ℚ) - 1) * 10 ^ d.exponent ≤ i.center
  le_top : d.magnitude ≤ i.top

theorem le_top_of_contains (positive : 0 < i.den) (inside : i.contains d = true) :
    d.magnitude ≤ i.top := by
  have order : d.digits * Nat.pow 10 d.exponent.toNat * i.den ≤
      i.high * Nat.pow 10 (-d.exponent).toNat := by
    have upper := (Bool.and_eq_true_iff.mp inside).2
    rcases Bool.or_eq_true_iff.mp upper with less | same
    · exact (of_decide_eq_true less).le
    · exact (beq_iff_eq.mp (Bool.and_eq_true_iff.mp same).2).le
  have den : (0 : ℚ) < i.den := Nat.cast_pos.mpr positive
  unfold Decimal.magnitude top
  rw [zpow_eq_div, ← mul_div_assoc, div_le_div_iff₀ (pow_ten_pos _) den, ← Nat.cast_mul,
    ← Nat.cast_mul, ← Nat.cast_mul]
  exact Nat.cast_le.mpr order

/-- The lower neighbour is the last grid point that does not pass the centre. -/
theorem neighbours_spec (positive : 0 < i.den) (exponent : Int) :
    ((i.neighbours exponent).1.digits : ℚ) * 10 ^ exponent ≤ i.center ∧
      i.center < ((i.neighbours exponent).1.digits + 1) * 10 ^ exponent := by
  have unit : (0 : ℚ) < 10 ^ exponent := zpow_pos (by norm_num) _
  have divisor : 0 < i.den * Nat.pow 10 exponent.toNat :=
    Nat.mul_pos positive (Nat.pow_pos (by norm_num))
  have share : ((i.value * Nat.pow 10 (-exponent).toNat : ℕ) : ℚ) /
      (i.den * Nat.pow 10 exponent.toNat : ℕ) = i.center / 10 ^ exponent := by
    rw [Nat.cast_mul, Nat.cast_mul, zpow_eq_div, center, div_div_div_eq]
  have digits : (i.neighbours exponent).1.digits =
      i.value * Nat.pow 10 (-exponent).toNat / (i.den * Nat.pow 10 exponent.toNat) := rfl
  rw [digits, ← le_div_iff₀ unit, ← div_lt_iff₀ unit, ← share]
  exact natDiv_spec _ divisor

theorem near_below (positive : 0 < i.den) {exponent : Int}
    (inside : (i.neighbours exponent).1.magnitude ≤ i.top) :
    i.Near (i.neighbours exponent).1 := by
  rcases neighbours_spec positive exponent with ⟨below, above⟩
  have unit : (0 : ℚ) < 10 ^ exponent := zpow_pos (by norm_num) _
  refine ⟨above, ?_, inside⟩
  exact (mul_le_mul_of_nonneg_right (sub_le_self _ zero_le_one) unit.le).trans below

theorem near_above (positive : 0 < i.den) {exponent : Int}
    (inside : (i.neighbours exponent).2.1.magnitude ≤ i.top) :
    i.Near (i.neighbours exponent).2.1 := by
  rcases neighbours_spec positive exponent with ⟨below, above⟩
  have unit : (0 : ℚ) < 10 ^ exponent := zpow_pos (by norm_num) _
  have digits : (((i.neighbours exponent).2.1.digits : ℕ) : ℚ) =
      (i.neighbours exponent).1.digits + 1 := Nat.cast_add_one _
  have same : (i.neighbours exponent).2.1.exponent = exponent := rfl
  refine ⟨?_, ?_, inside⟩
  · rw [digits, same]
    exact above.trans_le (mul_le_mul_of_nonneg_right (by linarith) unit.le)
  · rw [digits, same, add_sub_cancel_right]
    exact below

theorem onGrid?_near (positive : 0 < i.den) {exponent : Int}
    (found : i.onGrid? exponent = some d) : d.exponent = exponent ∧ i.Near d := by
  have lower : i.contains (i.neighbours exponent).1 = true →
      (i.neighbours exponent).1.exponent = exponent ∧ i.Near (i.neighbours exponent).1 :=
    fun inside => ⟨rfl, near_below positive (le_top_of_contains positive inside)⟩
  have upper : i.contains (i.neighbours exponent).2.1 = true →
      (i.neighbours exponent).2.1.exponent = exponent ∧ i.Near (i.neighbours exponent).2.1 :=
    fun inside => ⟨rfl, near_above positive (le_top_of_contains positive inside)⟩
  unfold onGrid? at found
  simp only at found
  split at found
  next inside beyond =>
    split at found
    · exact Option.some.inj found ▸ lower inside
    · exact Option.some.inj found ▸ upper beyond
  next inside _ => exact Option.some.inj found ▸ lower inside
  next _ beyond => exact Option.some.inj found ▸ upper beyond
  next => cases found

/-- Each grid that is left out adds one digit to the decimal that is found. -/
theorem search_near (positive : 0 < i.den) (order : i.center ≤ i.top) (count : Nat)
    (exponent : Int) :
    (i.search exponent count).exponent ≤ exponent ∧
      exponent ≤ (i.search exponent count).exponent + count ∧
      i.Near (i.search exponent count) := by
  induction count generalizing exponent with
  | zero =>
      have below : (i.neighbours exponent).1.magnitude ≤ i.top :=
        (neighbours_spec positive exponent).1.trans order
      exact ⟨Int.le_refl _, Int.le_of_eq (Int.add_zero _).symm, near_below positive below⟩
  | succ count inductionHypothesis =>
      unfold search
      cases found : i.onGrid? exponent with
      | some d =>
          rcases onGrid?_near positive found with ⟨same, near⟩
          exact ⟨same.le, by simp only [same]; omega, near⟩
      | none =>
          rcases inductionHypothesis (exponent - 1) with ⟨most, least, near⟩
          exact ⟨by simp only; omega, by simp only; omega, near⟩

/-- The numerals of the centre on a grid tell the exponent of its leading digit, if the grid is
fine enough for the centre not to be lost on it. -/
theorem leading_spec (positive : 0 < i.den) {k : Nat} (fine : (10 : ℚ) ^ (-k : ℤ) ≤ i.center)
    {exponent : Int}
    (leads : exponent = (numerals (i.value * Nat.pow 10 k / i.den)).length - (k + 1 : ℤ)) :
    (10 : ℚ) ^ exponent ≤ i.center ∧ i.center < 10 ^ (exponent + 1) := by
  have den : (0 : ℚ) < i.den := Nat.cast_pos.mpr positive
  have unit := pow_ten_pos k
  have large : 1 ≤ i.center * (Nat.pow 10 k : ℕ) := by
    have inverse : (10 : ℚ) ^ (-k : ℤ) * (Nat.pow 10 k : ℕ) = 1 := by
      rw [cast_pow_ten, ← zpow_add₀ (by norm_num), neg_add_cancel, zpow_zero]
    exact inverse.symm.trans_le (mul_le_mul_of_nonneg_right fine unit.le)
  have whole : i.center * (Nat.pow 10 k : ℕ) = (i.value * Nat.pow 10 k : ℕ) / i.den := by
    rw [Nat.cast_mul, center, div_mul_eq_mul_div]
  have reaches : i.den ≤ i.value * Nat.pow 10 k := by
    rw [whole, le_div_iff₀ den, one_mul] at large
    exact Nat.cast_le.mp large
  have bounds := length_numerals_spec positive reaches
  generalize (numerals (i.value * Nat.pow 10 k / i.den)).length = length at bounds leads
  have power : (10 : ℚ) ^ exponent * (Nat.pow 10 k : ℕ) * 10 = 10 ^ length := by
    rw [cast_pow_ten, ← zpow_add₀ (by norm_num), ← zpow_add_one₀ (by norm_num), ← zpow_natCast]
    congr 1
    omega
  rw [zpow_add_one₀ (by norm_num)]
  rw [← whole, ← power] at bounds
  generalize ((Nat.pow 10 k : ℕ) : ℚ) = grid at *
  constructor
  · apply le_of_mul_le_mul_right _ (mul_pos unit (show (0 : ℚ) < 10 by norm_num))
    linarith
  · apply lt_of_mul_lt_mul_right _ unit.le
    linarith

/-- The magnitude of an interval is the exponent of the leading digit of its centre. -/
theorem magnitude_spec (positive : 0 < i.den) (fine : (10 : ℚ) ^ (-324 : ℤ) ≤ i.center) :
    (10 : ℚ) ^ i.magnitude ≤ i.center ∧ i.center < 10 ^ (i.magnitude + 1) := by
  unfold magnitude
  -- The power itself is too large to be evaluated.
  generalize finest : (324 : ℕ) = k
  have places : (325 : ℤ) = k + 1 := by
    rw [← finest]
    rfl
  refine leading_spec positive (k := k) ?_ (by rw [places])
  rw [← finest]
  exact fine

theorem digits_pos (near : i.Near d) (lower : (10 : ℚ) ^ d.exponent ≤ i.center) :
    0 < d.digits := by
  have unit : (0 : ℚ) < 10 ^ d.exponent := zpow_pos (by norm_num) _
  have more : 1 < (d.digits : ℚ) + 1 := by
    apply lt_of_mul_lt_mul_right _ unit.le
    rw [one_mul]
    exact lower.trans_lt near.center_lt
  exact Nat.cast_pos.mp (show (0 : ℚ) < d.digits by linarith)

/-- A decimal on a grid that is at most `count` digits finer than the centre is long. -/
theorem digits_le (near : i.Near d) {count : Nat}
    (upper : i.center < 10 ^ (d.exponent + count)) : d.digits ≤ Nat.pow 10 count := by
  have unit : (0 : ℚ) < 10 ^ d.exponent := zpow_pos (by norm_num) _
  have fewer : (d.digits : ℚ) - 1 < (Nat.pow 10 count : ℕ) := by
    apply lt_of_mul_lt_mul_right _ unit.le
    rw [cast_pow_ten, ← zpow_add₀ (by norm_num), add_comm (count : ℤ)]
    exact near.le_center.trans_lt upper
  have whole : (d.digits : ℚ) < (Nat.pow 10 count + 1 : ℕ) := by
    rw [Nat.cast_add_one]
    linarith
  exact Nat.lt_succ_iff.mp (Nat.cast_lt.mp whole)

end Grids

section Doubles

variable {x : Double}

theorem ofDouble_den_pos (x : Double) : 0 < (ofDouble x).den :=
  Double.shiftLeft_pos (by norm_num) _

theorem center_ofDouble (x : Double) : (ofDouble x).center = x.magnitude := by
  change ((4 * x.significand * 1 <<< x.exponent.toNat : ℕ) : ℚ) /
    (4 <<< (-x.exponent).toNat : ℕ) = _
  rw [Double.magnitude, Double.zpow_eq_div x.exponent, Nat.cast_mul, Double.cast_shiftLeft,
    Double.cast_shiftLeft]
  push_cast
  field_simp

/-- The upper end is half way to the next greater double. -/
theorem top_ofDouble (x : Double) :
    (ofDouble x).top = (2 * x.significand + 1) * 2 ^ (x.exponent - 1) := by
  change (((4 * x.significand + 2) * 1 <<< x.exponent.toNat : ℕ) : ℚ) /
    (4 <<< (-x.exponent).toNat : ℕ) = _
  rw [zpow_sub_one₀ two_ne_zero, Double.zpow_eq_div x.exponent, Nat.cast_mul,
    Double.cast_shiftLeft, Double.cast_shiftLeft]
  push_cast
  field_simp
  ring

theorem center_le_top (x : Double) : (ofDouble x).center ≤ (ofDouble x).top := by
  have unit : (0 : ℚ) < 2 ^ (x.exponent - 1) := zpow_pos two_pos _
  have twice : (2 : ℚ) ^ x.exponent = 2 ^ (x.exponent - 1) * 2 := by
    rw [← zpow_add_one₀ two_ne_zero, sub_add_cancel]
  rw [center_ofDouble, top_ofDouble, Double.magnitude, twice]
  linarith

/-- The least positive double has its leading digit 324 places after the point. -/
theorem least_le_center (bounded : x.Bounded) (positive : 0 < x.significand) :
    (10 : ℚ) ^ (-324 : ℤ) ≤ (ofDouble x).center := by
  have sixth : (10 : ℚ) ^ (-54 : ℤ) ≤ 2 ^ (-179 : ℤ) := by norm_num
  have one : (1 : ℚ) ≤ x.significand := Nat.one_le_cast.mpr positive
  rw [center_ofDouble]
  calc
    (10 : ℚ) ^ (-324 : ℤ) = (10 ^ (-54 : ℤ)) ^ (6 : ℤ) := zpow_mul 10 (-54) 6
    _ ≤ (2 ^ (-179 : ℤ)) ^ (6 : ℤ) :=
      zpow_le_zpow_left₀ (by norm_num) (zpow_pos (by norm_num) _).le sixth
    _ = 2 ^ (-1074 : ℤ) := (zpow_mul 2 (-179) 6).symm
    _ ≤ 2 ^ x.exponent := zpow_le_zpow_right₀ one_le_two bounded.least
    _ ≤ x.magnitude := le_mul_of_one_le_left (zpow_pos two_pos _).le one

end Doubles

end Interval

/-- What is written for a double has at most eighteen digits, or is the next power of ten, and
does not pass the midpoint to the next greater double. -/
theorem shortest_spec {x : Double} (bounded : x.Bounded) (positive : 0 < x.significand) :
    0 < (shortest x).digits ∧ (shortest x).digits ≤ Nat.pow 10 18 ∧
      (shortest x).magnitude ≤ (2 * x.significand + 1) * 2 ^ (x.exponent - 1) := by
  have den := Interval.ofDouble_den_pos x
  rcases Interval.search_near den (Interval.center_le_top x) 17 (Interval.ofDouble x).magnitude
    with ⟨most, least, near⟩
  rcases Interval.magnitude_spec den (Interval.least_le_center bounded positive) with
    ⟨lower, upper⟩
  rw [← Interval.top_ofDouble]
  refine ⟨?_, ?_, near.le_top⟩
  · apply Interval.digits_pos near
    exact (zpow_le_zpow_right₀ (by norm_num) most).trans lower
  · apply Interval.digits_le near
    exact upper.trans_le (zpow_le_zpow_right₀ (by norm_num) (by push_cast; omega))

end Decimal
end Json
end Bayeux
