import Bayeux.Json.Double
import Mathlib.Algebra.Order.Field.Power
import Mathlib.Data.Rat.Cast.Order
import Mathlib.Tactic.FieldSimp
import Mathlib.Tactic.Linarith
import Mathlib.Tactic.Positivity
import Mathlib.Tactic.Ring

namespace Bayeux
namespace Json

/-!
# Rounding

What rounding does is said of magnitudes, which are rational numbers.  A ratio is rounded
to a double unless it reaches the midpoint between the greatest double and the next power of
two, and rounding never passes a number of 53 bits: what is below such a number is
rounded to something that is not above it.
-/

/-! ## Rounding to whole numbers -/

section Whole

variable {num den k : Nat}

theorem roundRatio_le (positive : 0 < den) (below : num ≤ k * den) :
    Double.roundRatio num den ≤ k := by
  have parts := Nat.div_add_mod num den
  have rest := Nat.mod_lt num positive
  have quotient : num / den ≤ k := Nat.div_le_of_le_mul (by rwa [Nat.mul_comm])
  unfold Double.roundRatio
  by_cases whole : num / den = k
  · have nothing : num % den = 0 := by
      rw [whole, Nat.mul_comm] at parts
      omega
    simp [nothing, positive, whole]
  · simp only []
    split
    · exact quotient
    · split <;> omega

theorem le_roundRatio (positive : 0 < den) (above : k * den ≤ num) :
    k ≤ Double.roundRatio num den := by
  have quotient : k ≤ num / den := (Nat.le_div_iff_mul_le positive).mpr above
  unfold Double.roundRatio
  simp only []
  split
  · exact quotient
  · split <;> omega

/-- Below the midpoint before a number, rounding does not reach that number. -/
theorem roundRatio_le_of_lt (positive : 0 < den) (below : 2 * num < (2 * k + 1) * den) :
    Double.roundRatio num den ≤ k := by
  have parts := Nat.div_add_mod num den
  have quotient : num / den ≤ k := by
    apply Nat.lt_succ_iff.mp
    apply (Nat.div_lt_iff_lt_mul positive).mpr
    have wider : (2 * k + 1) * den ≤ 2 * (k.succ * den) := by
      rw [← Nat.mul_assoc]
      exact Nat.mul_le_mul_right den (by omega)
    omega
  unfold Double.roundRatio
  simp only []
  by_cases whole : num / den = k
  · have less : 2 * (num % den) < den := by
      rw [whole] at parts
      have expanded : (2 * k + 1) * den = 2 * (den * k) + den := by ring
      omega
    rw [if_pos less]
    exact quotient
  · split
    · exact quotient
    · split <;> omega

end Whole

namespace Double

/-! ## Magnitudes -/

/-- The number that a double stands for, without its sign. -/
def magnitude (x : Double) : ℚ :=
  x.significand * 2 ^ x.exponent

/-- The bounds that the fields of every finite double keep. -/
structure Bounded (x : Double) : Prop where
  significand : x.significand < 2 ^ 53
  least : leastExponent ≤ x.exponent
  greatest : x.exponent ≤ greatestExponent

theorem cast_shiftLeft (n k : Nat) : ((n <<< k : ℕ) : ℚ) = n * 2 ^ (k : ℤ) := by
  rw [Nat.shiftLeft_eq, zpow_natCast]
  push_cast
  rfl

/-- From here on, numbers are too large for any double: half way between the greatest double
and the next power of two. -/
def limit : Nat :=
  (1 <<< 54 - 1) <<< 970

theorem limit_eq : (limit : ℚ) = (2 ^ 54 - 1) * 2 ^ (970 : ℤ) := by
  have factor : ((1 <<< 54 - 1 : ℕ) : ℚ) = 2 ^ 54 - 1 := by
    rw [show 1 <<< 54 - 1 = 2 ^ 54 - 1 by decide]
    norm_num
  rw [← factor]
  exact cast_shiftLeft _ 970

theorem magnitude_nonneg (x : Double) : 0 ≤ x.magnitude := by
  unfold magnitude
  positivity

theorem shiftLeft_pos {n : Nat} (positive : 0 < n) (k : Nat) : 0 < n <<< k := by
  rw [Nat.shiftLeft_eq]
  positivity

/-- A power of two is the quotient of two whole ones. -/
theorem zpow_eq_div (exponent : Int) :
    (2 : ℚ) ^ exponent = 2 ^ (exponent.toNat : ℤ) / 2 ^ ((-exponent).toNat : ℤ) := by
  rw [← zpow_sub₀ two_ne_zero]
  congr 1
  omega

theorem ratio_snd_pos (x : Double) : 0 < x.ratio.2 :=
  shiftLeft_pos Nat.one_pos _

theorem ratio_eq (x : Double) : (x.ratio.1 : ℚ) / x.ratio.2 = x.magnitude := by
  change ((x.significand <<< x.exponent.toNat : ℕ) : ℚ) / (1 <<< (-x.exponent).toNat : ℕ) = _
  rw [cast_shiftLeft, cast_shiftLeft, magnitude, zpow_eq_div x.exponent, Nat.cast_one, one_mul,
    mul_div_assoc]

theorem magnitude_lt_limit {x : Double} (bounded : x.Bounded) : x.magnitude < limit := by
  have significand : (x.significand : ℚ) ≤ 2 ^ 53 - 1 := by
    have whole : x.significand + 1 ≤ 2 ^ 53 := bounded.significand
    have cast : ((x.significand + 1 : ℕ) : ℚ) ≤ (2 ^ 53 : ℕ) := Nat.cast_le.mpr whole
    push_cast at cast
    linarith
  have power : (2 : ℚ) ^ x.exponent ≤ 2 ^ (971 : ℤ) :=
    zpow_le_zpow_right₀ (by norm_num) bounded.greatest
  have double : (2 : ℚ) ^ (971 : ℤ) = 2 ^ (970 : ℤ) * 2 := zpow_add_one₀ two_ne_zero 970
  have positive : (0 : ℚ) < 2 ^ (970 : ℤ) := zpow_pos two_pos 970
  rw [limit_eq]
  calc
    x.magnitude ≤ (2 ^ 53 - 1) * 2 ^ (971 : ℤ) :=
      mul_le_mul significand power (zpow_pos two_pos _).le (by norm_num)
    _ < (2 ^ 54 - 1) * 2 ^ (970 : ℤ) := by
      rw [double]
      generalize (2 : ℚ) ^ (970 : ℤ) = unit at positive
      linarith

/-! ## The exponent of a ratio -/

section Ratios

variable {num den : Nat}

theorem scaleDown_snd_pos (positive : 0 < den) (exponent : Int) :
    0 < (scaleDown num den exponent).2 :=
  shiftLeft_pos positive _

theorem scaleDown_eq (num den : Nat) (exponent : Int) :
    ((scaleDown num den exponent).1 : ℚ) / (scaleDown num den exponent).2 =
      (num / den : ℚ) / 2 ^ exponent := by
  change ((num <<< (-exponent).toNat : ℕ) : ℚ) / (den <<< exponent.toNat : ℕ) = _
  rw [cast_shiftLeft, cast_shiftLeft, zpow_eq_div exponent, div_div_div_eq]

/-- What holds of numerators and denominators holds of the ratio. -/
theorem scaleDown_le_iff (positive : 0 < den) (exponent : Int) (k : Nat) :
    (scaleDown num den exponent).1 ≤ k * (scaleDown num den exponent).2 ↔
      (num / den : ℚ) / 2 ^ exponent ≤ k := by
  have divisor : (0 : ℚ) < (scaleDown num den exponent).2 :=
    Nat.cast_pos.mpr (scaleDown_snd_pos positive exponent)
  rw [← scaleDown_eq, div_le_iff₀ divisor, ← Nat.cast_mul, Nat.cast_le]

theorem le_scaleDown_iff (positive : 0 < den) (exponent : Int) (k : Nat) :
    k * (scaleDown num den exponent).2 ≤ (scaleDown num den exponent).1 ↔
      (k : ℚ) ≤ (num / den : ℚ) / 2 ^ exponent := by
  have divisor : (0 : ℚ) < (scaleDown num den exponent).2 :=
    Nat.cast_pos.mpr (scaleDown_snd_pos positive exponent)
  rw [← scaleDown_eq, le_div_iff₀ divisor, ← Nat.cast_mul, Nat.cast_le]

/-- A number lies between the powers of two that its length tells. -/
theorem log2_bounds {n : Nat} (positive : 0 < n) :
    (2 : ℚ) ^ (n.log2 : ℤ) ≤ n ∧ (n : ℚ) < 2 ^ ((n.log2 : ℤ) + 1) := by
  have cast : ∀ k : Nat, ((2 ^ k : ℕ) : ℚ) = 2 ^ (k : ℤ) := fun k => by
    rw [zpow_natCast, Nat.cast_pow, Nat.cast_ofNat]
  constructor
  · rw [← cast]
    exact Nat.cast_le.mpr (Nat.log2_self_le positive.ne')
  · have next : ((n.log2 + 1 : ℕ) : ℤ) = (n.log2 : ℤ) + 1 := rfl
    rw [← next, ← cast]
    exact Nat.cast_lt.mpr Nat.lt_log2_self

/-- The first guess at the exponent leaves between 51 and 53 bits. -/
theorem guess_bounds (some : 0 < num) (positive : 0 < den) :
    (2 : ℚ) ^ 51 < (num / den : ℚ) / 2 ^ ((num.log2 : ℤ) - den.log2 - 52) ∧
      (num / den : ℚ) / 2 ^ ((num.log2 : ℤ) - den.log2 - 52) < 2 ^ 53 := by
  rcases log2_bounds some with ⟨numLow, numHigh⟩
  rcases log2_bounds positive with ⟨denLow, denHigh⟩
  have divisor : (0 : ℚ) < den := Nat.cast_pos.mpr positive
  have unit : (0 : ℚ) < 2 ^ ((num.log2 : ℤ) - den.log2 - 52) := zpow_pos two_pos _
  constructor
  · rw [lt_div_iff₀ unit, lt_div_iff₀ divisor]
    calc
      (2 : ℚ) ^ 51 * 2 ^ ((num.log2 : ℤ) - den.log2 - 52) * den <
          2 ^ 51 * 2 ^ ((num.log2 : ℤ) - den.log2 - 52) * 2 ^ ((den.log2 : ℤ) + 1) := by
        gcongr
      _ = 2 ^ (num.log2 : ℤ) := by
        rw [← zpow_natCast, ← zpow_add₀ two_ne_zero, ← zpow_add₀ two_ne_zero]
        congr 1
        push_cast
        ring
      _ ≤ num := numLow
  · rw [div_lt_iff₀ unit, div_lt_iff₀ divisor]
    calc
      (num : ℚ) < 2 ^ ((num.log2 : ℤ) + 1) := numHigh
      _ = 2 ^ 53 * 2 ^ ((num.log2 : ℤ) - den.log2 - 52) * 2 ^ (den.log2 : ℤ) := by
        rw [← zpow_natCast, ← zpow_add₀ two_ne_zero, ← zpow_add₀ two_ne_zero]
        congr 1
        push_cast
        ring
      _ ≤ 2 ^ 53 * 2 ^ ((num.log2 : ℤ) - den.log2 - 52) * den := by
        gcongr

/-- Whether a ratio falls short of 53 bits. -/
theorem scaleDown_short_iff (positive : 0 < den) (exponent : Int) :
    (scaleDown num den exponent).1 < (scaleDown num den exponent).2 <<< 52 ↔
      (num / den : ℚ) / 2 ^ exponent < 2 ^ 52 := by
  have reached : 2 ^ 52 * (scaleDown num den exponent).2 ≤ (scaleDown num den exponent).1 ↔
      ((2 ^ 52 : ℕ) : ℚ) ≤ (num / den : ℚ) / 2 ^ exponent :=
    le_scaleDown_iff positive exponent (2 ^ 52)
  rw [Nat.cast_pow, Nat.cast_ofNat] at reached
  rw [← not_le, ← not_le, ← reached, Nat.shiftLeft_eq, Nat.mul_comm]

/-- A greater exponent leaves less. -/
theorem div_zpow_le_div_zpow {q : ℚ} (nonneg : 0 ≤ q) {exponent greater : Int}
    (order : exponent ≤ greater) : q / 2 ^ greater ≤ q / 2 ^ exponent :=
  div_le_div_of_nonneg_left nonneg (zpow_pos two_pos _)
    (zpow_le_zpow_right₀ one_le_two order)

/-- The exponent of a ratio leaves at most 53 bits, and no fewer unless it is the least. -/
theorem exponentOf_spec (some : 0 < num) (positive : 0 < den) :
    leastExponent ≤ exponentOf num den ∧
      (num / den : ℚ) / 2 ^ exponentOf num den < 2 ^ 53 ∧
      (leastExponent < exponentOf num den →
        2 ^ 52 ≤ (num / den : ℚ) / 2 ^ exponentOf num den) := by
  rcases guess_bounds some positive with ⟨low, high⟩
  generalize made : (num.log2 : Int) - (den.log2 : Int) - 52 = guess at low high
  have fits : ∃ exponent : Int, exponentOf num den = max leastExponent exponent ∧
      2 ^ 52 ≤ (num / den : ℚ) / 2 ^ exponent ∧ (num / den : ℚ) / 2 ^ exponent < 2 ^ 53 := by
    unfold exponentOf
    rw [made]
    simp only [scaleDown_short_iff positive]
    split
    next short =>
      have halved : (num / den : ℚ) / 2 ^ (guess - 1) = (num / den : ℚ) / 2 ^ guess * 2 := by
        rw [zpow_sub_one₀ two_ne_zero]
        field_simp
      refine ⟨guess - 1, rfl, ?_, ?_⟩
      · rw [halved]
        linarith
      · rw [halved]
        linarith
    next long => exact ⟨guess, rfl, not_lt.mp long, high⟩
  rcases fits with ⟨exponent, same, lower, upper⟩
  rw [same]
  refine ⟨le_max_left _ _, ?_, ?_⟩
  · exact lt_of_le_of_lt (div_zpow_le_div_zpow (by positivity) (le_max_right _ _)) upper
  · intro greater
    have own : leastExponent ≤ exponent := by omega
    rw [max_eq_right own]
    exact lower

end Ratios

/-! ## Rounding to doubles -/

section Rounding

variable {num den : Nat} {negative : Bool} {x : Double}

/-- The whole number of units that a ratio is rounded to. -/
def units (num den : Nat) : Nat :=
  let scaled := scaleDown num den (exponentOf num den)
  roundRatio scaled.1 scaled.2

theorem units_le (positive : 0 < den) {k : Nat}
    (below : (num / den : ℚ) / 2 ^ exponentOf num den ≤ k) : units num den ≤ k := by
  unfold units
  exact roundRatio_le (scaleDown_snd_pos positive _) ((scaleDown_le_iff positive _ k).mpr below)

theorem le_units (positive : 0 < den) {k : Nat}
    (above : (k : ℚ) ≤ (num / den : ℚ) / 2 ^ exponentOf num den) : k ≤ units num den := by
  unfold units
  exact le_roundRatio (scaleDown_snd_pos positive _) ((le_scaleDown_iff positive _ k).mpr above)

theorem units_le_full (some : 0 < num) (positive : 0 < den) : units num den ≤ 2 ^ 53 := by
  apply units_le positive
  rw [Nat.cast_pow, Nat.cast_ofNat]
  exact (exponentOf_spec some positive).2.1.le

/-- Rounding up may carry into a fifty-fourth bit. -/
theorem ofRatio?_eq (some : 0 < num) (den : Nat) (negative : Bool) :
    ofRatio? negative num den =
      if units num den = 2 ^ 53 then
        if greatestExponent < exponentOf num den + 1 then none
        else .some { negative, significand := 2 ^ 52, exponent := exponentOf num den + 1 }
      else
        if greatestExponent < exponentOf num den then none
        else .some { negative, significand := units num den, exponent := exponentOf num den } := by
  unfold ofRatio? units
  rw [if_neg some.ne']
  simp only [Nat.one_shiftLeft]
  generalize exponentOf num den = exponent
  generalize roundRatio _ _ = significand
  by_cases carried : significand = 2 ^ 53
  · simp only [if_pos carried]
  · simp only [if_neg carried]

/-- What is rounded is as large as its units say, and keeps the bounds. -/
theorem magnitude_of_ofRatio? (some : 0 < num) (positive : 0 < den)
    (rounded : ofRatio? negative num den = .some x) :
    x.Bounded ∧ x.magnitude = units num den * 2 ^ exponentOf num den := by
  have least := (exponentOf_spec some positive).1
  have most := units_le_full some positive
  rw [ofRatio?_eq some] at rounded
  generalize exponentOf num den = exponent at *
  generalize units num den = significand at *
  split at rounded
  next carried =>
    split at rounded
    · cases rounded
    next fits =>
      have twice : ((2 ^ 52 : ℕ) : ℚ) * 2 ^ (exponent + 1) = (2 ^ 53 : ℕ) * 2 ^ exponent := by
        rw [zpow_add_one₀ two_ne_zero]
        push_cast
        ring
      rw [← Option.some.inj rounded, carried]
      exact ⟨⟨by norm_num, Int.le_add_one least, not_lt.mp fits⟩, twice⟩
  next plain =>
    split at rounded
    · cases rounded
    next fits =>
      rw [← Option.some.inj rounded]
      exact ⟨⟨lt_of_le_of_ne most plain, least, not_lt.mp fits⟩, rfl⟩

/-- A number with an exponent that is not less is a whole number of units. -/
theorem exists_whole {exponent greater : Int} (order : exponent ≤ greater) (m : Nat) :
    ∃ k : Nat, (m : ℚ) * 2 ^ greater = k * 2 ^ exponent := by
  obtain ⟨shift, apart⟩ := Int.le.dest order
  refine ⟨m * 2 ^ shift, ?_⟩
  rw [← apart, zpow_add₀ two_ne_zero, zpow_natCast]
  push_cast
  ring

/-- A number of 53 bits with a lesser exponent is at most the least number of full length. -/
theorem mul_zpow_le_of_lt {m : Nat} (bits : m ≤ 2 ^ 53) {exponent greater : Int}
    (order : exponent < greater) : (m : ℚ) * 2 ^ exponent ≤ (2 ^ 52 : ℕ) * 2 ^ greater := by
  have bound : (m : ℚ) ≤ 2 ^ 53 := by
    rw [← Nat.cast_ofNat, ← Nat.cast_pow]
    exact Nat.cast_le.mpr bits
  calc
    (m : ℚ) * 2 ^ exponent ≤ 2 ^ 53 * 2 ^ (greater - 1) :=
      mul_le_mul bound (zpow_le_zpow_right₀ one_le_two (by omega)) (zpow_pos two_pos _).le
        (by norm_num)
    _ = (2 ^ 52 : ℕ) * 2 ^ greater := by
      rw [zpow_sub_one₀ two_ne_zero]
      push_cast
      ring

section Bounds

variable {m : Nat} {exponent : Int}

/-- Rounding does not pass a number of 53 bits. -/
theorem magnitude_le_of_le (some : 0 < num) (positive : 0 < den)
    (rounded : ofRatio? negative num den = .some x) (bits : m ≤ 2 ^ 53)
    (least : leastExponent ≤ exponent) (below : (num / den : ℚ) ≤ m * 2 ^ exponent) :
    x.magnitude ≤ m * 2 ^ exponent := by
  have unit : (0 : ℚ) < 2 ^ exponentOf num den := zpow_pos two_pos _
  rw [(magnitude_of_ofRatio? some positive rounded).2]
  by_cases order : exponentOf num den ≤ exponent
  · rcases exists_whole order m with ⟨k, whole⟩
    rw [whole] at below ⊢
    have fewer : units num den ≤ k := units_le positive ((div_le_iff₀ unit).mpr below)
    exact mul_le_mul_of_nonneg_right (Nat.cast_le.mpr fewer) unit.le
  · -- the ratio is the power of two at which the units grow
    have full := (exponentOf_spec some positive).2.2 (by omega)
    rw [le_div_iff₀ unit] at full
    have narrow := below.trans (mul_zpow_le_of_lt bits (not_le.mp order))
    have fewer : units num den ≤ 2 ^ 52 := units_le positive ((div_le_iff₀ unit).mpr narrow)
    calc
      (units num den : ℚ) * 2 ^ exponentOf num den ≤ (2 ^ 52 : ℕ) * 2 ^ exponentOf num den :=
        mul_le_mul_of_nonneg_right (Nat.cast_le.mpr fewer) unit.le
      _ = 2 ^ 52 * 2 ^ exponentOf num den := by norm_num
      _ ≤ m * 2 ^ exponent := full.trans below

theorem le_magnitude_of_le (some : 0 < num) (positive : 0 < den)
    (rounded : ofRatio? negative num den = .some x) (bits : m ≤ 2 ^ 53)
    (least : leastExponent ≤ exponent) (above : (m : ℚ) * 2 ^ exponent ≤ num / den) :
    m * 2 ^ exponent ≤ x.magnitude := by
  have unit : (0 : ℚ) < 2 ^ exponentOf num den := zpow_pos two_pos _
  rw [(magnitude_of_ofRatio? some positive rounded).2]
  by_cases order : exponentOf num den ≤ exponent
  · rcases exists_whole order m with ⟨k, whole⟩
    rw [whole] at above ⊢
    have more : k ≤ units num den := le_units positive ((le_div_iff₀ unit).mpr above)
    exact mul_le_mul_of_nonneg_right (Nat.cast_le.mpr more) unit.le
  · have full := (exponentOf_spec some positive).2.2 (by omega)
    rw [← Nat.cast_ofNat, ← Nat.cast_pow] at full
    exact (mul_zpow_le_of_lt bits (not_le.mp order)).trans
      (mul_le_mul_of_nonneg_right (Nat.cast_le.mpr (le_units positive full)) unit.le)

end Bounds

/-- Below the limit nothing is too large. -/
theorem exists_of_lt_limit (negative : Bool) (some : 0 < num) (positive : 0 < den)
    (below : (num / den : ℚ) < limit) : ∃ x, ofRatio? negative num den = .some x := by
  have full := (exponentOf_spec some positive).2.2
  have base : (0 : ℚ) < 2 ^ (970 : ℤ) := zpow_pos two_pos _
  rw [limit_eq] at below
  have inRange : exponentOf num den ≤ greatestExponent := by
    by_contra beyond
    have wide := full (by unfold greatestExponent at beyond; unfold leastExponent; omega)
    rw [le_div_iff₀ (zpow_pos two_pos _)] at wide
    have power : (2 : ℚ) ^ ((970 : ℤ) + 1 + 1) ≤ 2 ^ exponentOf num den :=
      zpow_le_zpow_right₀ one_le_two (by unfold greatestExponent at beyond; omega)
    rw [zpow_add_one₀ two_ne_zero, zpow_add_one₀ two_ne_zero] at power
    generalize (2 : ℚ) ^ (970 : ℤ) = least at *
    generalize (2 : ℚ) ^ exponentOf num den = unit at *
    linarith
  have uncarried : exponentOf num den = greatestExponent → units num den ≤ 2 ^ 53 - 1 := by
    intro last
    have scaled : 0 < (scaleDown num den (exponentOf num den)).2 := scaleDown_snd_pos positive _
    have share := scaleDown_eq num den (exponentOf num den)
    have power : (2 : ℚ) ^ exponentOf num den = 2 ^ (970 : ℤ) * 2 := by
      rw [last]
      exact zpow_add_one₀ two_ne_zero 970
    have half : (num / den : ℚ) / 2 ^ exponentOf num den < (2 ^ 54 - 1) / 2 := by
      rw [power, div_lt_iff₀ (by positivity)]
      linarith
    unfold units
    apply roundRatio_le_of_lt scaled
    rw [← share, div_lt_iff₀ (Nat.cast_pos.mpr scaled)] at half
    have doubled : ((2 * (scaleDown num den (exponentOf num den)).1 : ℕ) : ℚ) <
        ((2 * (2 ^ 53 - 1) + 1) * (scaleDown num den (exponentOf num den)).2 : ℕ) := by
      push_cast
      linarith
    exact Nat.cast_lt.mp doubled
  rw [ofRatio?_eq some]
  split
  next carried =>
    have earlier : ¬ exponentOf num den = greatestExponent := fun last => by
      have := uncarried last
      omega
    rw [if_neg (by omega)]
    exact ⟨_, rfl⟩
  next =>
    rw [if_neg (by omega)]
    exact ⟨_, rfl⟩

end Rounding
end Double
end Json
end Bayeux
