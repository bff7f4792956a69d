import Bayeux.Json.Numeral
import Bayeux.Proofs.Json.Rounding

namespace Bayeux
namespace Json
namespace Double

/-!
# Scaling by powers of ten

Products and quotients of doubles are rounded like any ratio.  A double can always be scaled
down, and scaled up as long as the product of its magnitude and the rounded power of ten
stays below the limit.
-/

/-! ## Products and quotients -/

theorem bounded_zero (negative : Bool) : (zero negative).Bounded where
  significand := Nat.two_pow_pos 53
  least := Int.le_refl _
  greatest := by cases negative <;> decide

section Operations

variable {num den : Nat} {negative : Bool} {x y z : Double}

theorem exists_ofRatio? (negative : Bool) (positive : 0 < den)
    (below : (num / den : ℚ) < limit) : ∃ x, ofRatio? negative num den = some x := by
  rcases Nat.eq_zero_or_pos num with rfl | some
  · exact ⟨zero negative, rfl⟩
  · exact exists_of_lt_limit negative some positive below

theorem bounded_of_ofRatio? (positive : 0 < den) (rounded : ofRatio? negative num den = some x) :
    x.Bounded := by
  rcases Nat.eq_zero_or_pos num with rfl | some
  · cases rounded
    exact bounded_zero negative
  · exact (magnitude_of_ofRatio? some positive rounded).1

theorem ratio_fst_pos (positive : 0 < x.magnitude) : 0 < x.ratio.1 := by
  rw [← ratio_eq] at positive
  have divisor : (0 : ℚ) < x.ratio.2 := Nat.cast_pos.mpr x.ratio_snd_pos
  exact Nat.cast_pos.mp ((div_pos_iff_of_pos_right divisor).mp positive)

theorem exists_mul? (below : x.magnitude * y.magnitude < limit) : ∃ z, x.mul? y = some z := by
  apply exists_ofRatio? _ (Nat.mul_pos x.ratio_snd_pos y.ratio_snd_pos)
  rw [Nat.cast_mul, Nat.cast_mul, mul_div_mul_comm, ratio_eq, ratio_eq]
  exact below

theorem bounded_of_mul? (product : x.mul? y = some z) : z.Bounded :=
  bounded_of_ofRatio? (Nat.mul_pos x.ratio_snd_pos y.ratio_snd_pos) product

/-- A quotient by a number from one upwards is not too large. -/
theorem exists_div? (bounded : x.Bounded) (divisor : 1 ≤ y.magnitude) :
    ∃ z, x.div? y = some z ∧ z.Bounded := by
  have positive : 0 < x.ratio.2 * y.ratio.1 :=
    Nat.mul_pos x.ratio_snd_pos (ratio_fst_pos (by linarith))
  have quotient : ((x.ratio.1 * y.ratio.2 : ℕ) / (x.ratio.2 * y.ratio.1 : ℕ) : ℚ) < limit := by
    rw [Nat.cast_mul, Nat.cast_mul, ← div_div_div_eq, ratio_eq, ratio_eq]
    exact (div_le_self x.magnitude_nonneg divisor).trans_lt (magnitude_lt_limit bounded)
  rcases exists_ofRatio? (x.negative != y.negative) positive quotient with ⟨z, rounded⟩
  exact ⟨z, rounded, bounded_of_ofRatio? positive rounded⟩

end Operations

/-! ## Powers of ten -/

/-- The powers of ten that a literal is scaled by are not too large. -/
theorem exists_ofNat? {n : Nat} (below : n < limit) : ∃ x, ofNat? n = some x := by
  apply exists_ofRatio? _ Nat.one_pos
  rw [Nat.cast_one, div_one]
  exact Nat.cast_lt.mpr below

theorem ofNat?_powerOfTen {k : Nat} (small : k ≤ 308) :
    ofNat? (Nat.pow 10 k) = some (powerOfTen k) := by
  have all : (List.range 309).all (fun k => Nat.pow 10 k < limit) = true := by decide +kernel
  have below := List.all_eq_true.mp all k (List.mem_range.mpr (by omega))
  rcases exists_ofNat? (of_decide_eq_true below) with ⟨x, rounded⟩
  unfold powerOfTen
  rw [rounded, Option.getD_some]

section Whole

variable {n m : Nat} {x : Double} {exponent : Int}

theorem magnitude_ofNat?_le (positive : 0 < n) (rounded : ofNat? n = some x)
    (bits : m ≤ 2 ^ 53) (least : leastExponent ≤ exponent) (below : (n : ℚ) ≤ m * 2 ^ exponent) :
    x.magnitude ≤ m * 2 ^ exponent := by
  apply magnitude_le_of_le positive Nat.one_pos rounded bits least
  rwa [Nat.cast_one, div_one]

theorem le_magnitude_ofNat? (positive : 0 < n) (rounded : ofNat? n = some x)
    (bits : m ≤ 2 ^ 53) (least : leastExponent ≤ exponent) (above : m * 2 ^ exponent ≤ (n : ℚ)) :
    m * 2 ^ exponent ≤ x.magnitude := by
  apply le_magnitude_of_le positive Nat.one_pos rounded bits least
  rwa [Nat.cast_one, div_one]

end Whole

theorem one_le_powerOfTen {k : Nat} (small : k ≤ 308) : 1 ≤ (powerOfTen k).magnitude := by
  have positive : 0 < Nat.pow 10 k := Nat.pow_pos (by norm_num)
  have above : ((1 : ℕ) : ℚ) * 2 ^ (0 : ℤ) ≤ (Nat.pow 10 k : ℕ) := by
    rw [zpow_zero, mul_one]
    exact Nat.cast_le.mpr positive
  have bound := le_magnitude_ofNat? positive (ofNat?_powerOfTen small) (by norm_num)
    (by decide) above
  rwa [zpow_zero, mul_one, Nat.cast_one] at bound

theorem magnitude_powerOfTen_zero : (powerOfTen 0).magnitude = 1 := by
  have even : (powerOfTen 0).ratio.1 = (powerOfTen 0).ratio.2 := by decide +kernel
  rw [← ratio_eq, even]
  exact div_self (Nat.cast_pos.mpr (ratio_snd_pos _)).ne'

section Scaling

variable {x y : Double} {exponent : Int}

theorem exists_divideDown? (bounded : x.Bounded) (count : Nat) :
    ∃ y, x.divideDown? count = some y ∧ y.Bounded := by
  induction count generalizing x with
  | zero => exact ⟨x, rfl, bounded⟩
  | succ count inductionHypothesis =>
      unfold divideDown?
      split
      · exact ⟨x, rfl, bounded⟩
      · rcases exists_div? bounded (one_le_powerOfTen (Nat.le_refl 308)) with
          ⟨quotient, divided, smaller⟩
        rw [divided]
        exact inductionHypothesis smaller

/-- The steps of `10 ^ 308` that a great power is worked off in leave a small one. -/
theorem exists_scaleByTen?_of_neg (bounded : x.Bounded) (down : exponent < 0) :
    ∃ y, x.scaleByTen? exponent = some y ∧ y.Bounded := by
  rcases exists_divideDown? bounded ((exponent.natAbs - 1) / 308) with ⟨y, divided, smaller⟩
  have left : exponent.natAbs - 308 * ((exponent.natAbs - 1) / 308) ≤ 308 := by omega
  rcases exists_div? smaller (one_le_powerOfTen left) with ⟨z, quotient, last⟩
  refine ⟨z, ?_, last⟩
  unfold scaleByTen?
  simp only [if_pos down, divided, Option.bind_some, quotient]

theorem scaleByTen?_eq_mul? {size : Nat} (small : size ≤ 308) :
    x.scaleByTen? size = x.mul? (powerOfTen size) := by
  unfold scaleByTen?
  rw [Int.natAbs_natCast, if_neg (by omega), if_pos small]

theorem exists_scaleByTen?_of_lt_limit {size : Nat} (small : size ≤ 308)
    (below : x.magnitude * (powerOfTen size).magnitude < limit) :
    ∃ y, x.scaleByTen? size = some y := by
  rw [scaleByTen?_eq_mul? small]
  exact exists_mul? below

/-- A double can be divided by any power of ten. -/
theorem exists_scaleByTen?_of_nonpos (bounded : x.Bounded) (nonpos : exponent ≤ 0) :
    ∃ y, x.scaleByTen? exponent = some y := by
  rcases Int.lt_or_eq_of_le nonpos with down | rfl
  · rcases exists_scaleByTen?_of_neg bounded down with ⟨y, scaled, _⟩
    exact ⟨y, scaled⟩
  · have below : x.magnitude * (powerOfTen 0).magnitude < limit := by
      rw [magnitude_powerOfTen_zero, mul_one]
      exact magnitude_lt_limit bounded
    exact exists_scaleByTen?_of_lt_limit (Nat.zero_le 308) below

theorem bounded_of_scaleByTen? (bounded : x.Bounded)
    (scaled : x.scaleByTen? exponent = some y) : y.Bounded := by
  by_cases down : exponent < 0
  · rcases exists_scaleByTen?_of_neg bounded down with ⟨z, found, last⟩
    rw [found] at scaled
    exact Option.some.inj scaled ▸ last
  · obtain ⟨size, same⟩ := Int.eq_ofNat_of_zero_le (not_lt.mp down)
    subst same
    by_cases small : size ≤ 308
    · rw [scaleByTen?_eq_mul? small] at scaled
      exact bounded_of_mul? scaled
    · unfold scaleByTen? at scaled
      rw [Int.natAbs_natCast, if_neg (by omega), if_neg small] at scaled
      split at scaled
      · exact Option.some.inj scaled ▸ bounded
      · cases scaled

end Scaling

/-! ## Scaling up -/

/-- Half way between the two greatest doubles. -/
def lastMidpoint : Nat :=
  (1 <<< 54 - 3) <<< 970

/-- Only the greatest double has its upper midpoint beyond the last one. -/
theorem midpoint_le_lastMidpoint {x : Double} (bounded : x.Bounded)
    (notGreatest : ¬ (x.significand = 2 ^ 53 - 1 ∧ x.exponent = greatestExponent)) :
    (2 * x.significand + 1) * (2 : ℚ) ^ (x.exponent - 1) ≤ lastMidpoint := by
  have last : (lastMidpoint : ℚ) = (2 ^ 54 - 3) * 2 ^ (970 : ℤ) := by
    have factor : ((1 <<< 54 - 3 : ℕ) : ℚ) = 2 ^ 54 - 3 := by
      rw [show 1 <<< 54 - 3 = 2 ^ 54 - 3 by decide]
      norm_num
    rw [← factor]
    exact cast_shiftLeft _ 970
  have unit : (0 : ℚ) < 2 ^ (969 : ℤ) := zpow_pos two_pos _
  have double : (2 : ℚ) ^ (970 : ℤ) = 2 ^ (969 : ℤ) * 2 := zpow_add_one₀ two_ne_zero 969
  have short := bounded.significand
  have order := bounded.greatest
  rw [last]
  by_cases top : x.exponent = greatestExponent
  · have fewer : 2 * x.significand + 4 ≤ 2 ^ 54 := by omega
    have cast : (2 * x.significand + 4 : ℚ) ≤ 2 ^ 54 := by exact_mod_cast fewer
    have same : x.exponent - 1 = 970 := by
      rw [top]
      rfl
    rw [same]
    exact mul_le_mul_of_nonneg_right (by linarith) (zpow_pos two_pos _).le
  · have fewer : 2 * x.significand + 2 ≤ 2 ^ 54 := by omega
    have cast : (2 * x.significand + 2 : ℚ) ≤ 2 ^ 54 := by exact_mod_cast fewer
    have power : (2 : ℚ) ^ (x.exponent - 1) ≤ 2 ^ (969 : ℤ) :=
      zpow_le_zpow_right₀ one_le_two (by unfold greatestExponent at order top; omega)
    calc
      (2 * x.significand + 1) * (2 : ℚ) ^ (x.exponent - 1) ≤ (2 ^ 54 - 1) * 2 ^ (969 : ℤ) :=
        mul_le_mul (by linarith) power (zpow_pos two_pos _).le (by norm_num)
      _ ≤ (2 ^ 54 - 3) * 2 ^ (970 : ℤ) := by
        rw [double]
        generalize (2 : ℚ) ^ (969 : ℤ) = least at unit
        linarith

/-- The greatest significand of at most nineteen digits that a power of ten does not take past
the last midpoint. -/
def greatestSignificand (size : Nat) : Nat :=
  min (Nat.pow 10 18) (lastMidpoint / Nat.pow 10 size)

/-- The least number of 53 bits from the greatest significand upwards, with its exponent. -/
def significandBound (size : Nat) : Nat × Nat :=
  let shift := (greatestSignificand size).log2 - 52
  ((greatestSignificand size + (1 <<< shift - 1)) >>> shift, shift)

/-- No power of ten takes the bound on its significands to the limit. -/
theorem significandBound_spec {size : Nat} (small : size ≤ 308) :
    (significandBound size).1 ≤ 2 ^ 53 ∧
      greatestSignificand size ≤ (significandBound size).1 <<< (significandBound size).2 ∧
      ((significandBound size).1 <<< (significandBound size).2) * (powerOfTen size).ratio.1 <
        limit * (powerOfTen size).ratio.2 := by
  have all : (List.range 309).all (fun size =>
      (significandBound size).1 ≤ 1 <<< 53 &&
        (greatestSignificand size ≤ (significandBound size).1 <<< (significandBound size).2 &&
          ((significandBound size).1 <<< (significandBound size).2) * (powerOfTen size).ratio.1 <
            limit * (powerOfTen size).ratio.2)) = true := by
    decide +kernel
  have checked := List.all_eq_true.mp all size (List.mem_range.mpr (by omega))
  rcases Bool.and_eq_true_iff.mp checked with ⟨bits, others⟩
  rcases Bool.and_eq_true_iff.mp others with ⟨above, below⟩
  refine ⟨?_, of_decide_eq_true above, of_decide_eq_true below⟩
  rw [← Nat.one_shiftLeft]
  exact of_decide_eq_true bits

theorem size_le_of_le_lastMidpoint {significand size : Nat} (positive : 0 < significand)
    (below : significand * Nat.pow 10 size ≤ lastMidpoint) : size ≤ 308 := by
  by_contra large
  have power : ∀ k, k ≤ size → 10 ^ k ≤ 10 ^ size := fun k => Nat.pow_le_pow_right (by norm_num)
  have most : lastMidpoint < 10 ^ 309 := by decide +kernel
  rw [Nat.pow_eq] at below
  have least := (Nat.le_mul_of_pos_left _ positive).trans below
  exact (most.trans_le (power 309 (by omega))).not_ge least

/-- A significand that a power of ten does not take past the last midpoint can be scaled by
that power. -/
theorem exists_scaled {significand size : Nat} (positive : 0 < significand)
    (short : significand ≤ Nat.pow 10 18)
    (below : significand * Nat.pow 10 size ≤ lastMidpoint) :
    ∃ x y, ofNat? significand = some x ∧ x.scaleByTen? size = some y := by
  have small := size_le_of_le_lastMidpoint positive below
  have fits : significand ≤ greatestSignificand size :=
    Nat.le_min.mpr ⟨short, (Nat.le_div_iff_mul_le (Nat.pow_pos (by norm_num))).mpr below⟩
  rcases significandBound_spec small with ⟨bits, above, product⟩
  generalize significandBound size = bound at bits above product
  have wide : Nat.pow 10 18 < limit := by decide +kernel
  rcases exists_ofNat? (short.trans_lt wide) with ⟨x, rounded⟩
  have cast : ((bound.1 <<< bound.2 : ℕ) : ℚ) = bound.1 * 2 ^ (bound.2 : ℤ) := cast_shiftLeft _ _
  have magnitude : x.magnitude ≤ (bound.1 <<< bound.2 : ℕ) := by
    rw [cast]
    apply magnitude_ofNat?_le positive rounded bits
    · unfold leastExponent
      omega
    · rw [← cast]
      exact Nat.cast_le.mpr (fits.trans above)
  have scaled : x.magnitude * (powerOfTen size).magnitude < limit := by
    have den : (0 : ℚ) < (powerOfTen size).ratio.2 := Nat.cast_pos.mpr (ratio_snd_pos _)
    calc
      x.magnitude * (powerOfTen size).magnitude ≤
          (bound.1 <<< bound.2 : ℕ) * (powerOfTen size).magnitude :=
        mul_le_mul_of_nonneg_right magnitude (powerOfTen size).magnitude_nonneg
      _ < limit := by
        rw [← ratio_eq, ← mul_div_assoc, div_lt_iff₀ den, ← Nat.cast_mul, ← Nat.cast_mul]
        exact Nat.cast_lt.mpr product
  rcases exists_scaleByTen?_of_lt_limit small scaled with ⟨y, last⟩
  exact ⟨x, y, rounded, last⟩

end Double
end Json
end Bayeux
