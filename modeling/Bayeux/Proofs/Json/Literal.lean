import Bayeux.Proofs.Json.Numeral
import Bayeux.Proofs.Json.Scaling
import Bayeux.Proofs.Json.Shortest

namespace Bayeux
namespace Json

/-!
# The literals of doubles

The text of every double is a literal that has a value.  It need not be the value of the
double: the digits of a literal are rounded, then scaled by a power of ten that is rounded
too.  What matters is that the product never passes the limit, and only the greatest doubles
come near it.
-/

namespace Numeral

/-! ## Digits of a literal -/

/-- The characters of digits. -/
def spelling (digits : List Nat) : List Char :=
  digits.map Nat.digitChar

/-- Where every digit is taken, all of them are. -/
theorem foldlM_extend?_spelling (state : List Nat → Numeral)
    (takes : ∀ seen d, d < 10 → (state seen).extend? d.digitChar = some (state (d :: seen)))
    {digits : List Nat} (small : ∀ d ∈ digits, d < 10) (seen : List Nat) :
    (spelling digits).foldlM extend? (state seen) = some (state (digits.reverse ++ seen)) := by
  unfold spelling
  induction digits generalizing seen with
  | nil => rfl
  | cons d rest inductionHypothesis =>
      have others := inductionHypothesis (fun e member => small e (List.mem_cons_of_mem d member))
        (d :: seen)
      rw [List.map_cons, List.foldlM_cons, takes seen d (small d List.mem_cons_self),
        List.reverse_cons, List.append_assoc]
      exact others

/-- A literal with or without a sign is read from after the place of the sign. -/
theorem ofText?_signed (negative : Bool) {text rest : List Char} {first : Nat}
    (small : first < 10) (begins : text = first.digitChar :: rest) :
    ofText? (if negative then '-' :: text else text) =
      text.foldlM extend? { negative, phase := .sign } := by
  cases negative with
  | true => rfl
  | false =>
      rw [begins, List.foldlM_cons, ← start?_digitChar small]
      rfl

section Parts

/-- The whole part of a literal is a zero or begins with another digit. -/
theorem foldlM_extend?_whole (negative : Bool) {first : Nat} {rest : List Nat}
    (small : ∀ d ∈ first :: rest, d < 10) (leading : first = 0 → rest = []) :
    (spelling (first :: rest)).foldlM extend? { negative, phase := .sign } =
      some { negative, phase := if first = 0 then .zero else .whole,
             whole := (first :: rest).reverse } := by
  have begins : ({ negative, phase := .sign } : Numeral).extend? first.digitChar =
      some { negative, phase := if first = 0 then .zero else .whole, whole := [first] } := by
    unfold extend? step
    rw [digit?_digitChar first (small first List.mem_cons_self)]
    cases first with
    | zero => rfl
    | succ first => rfl
  have takes : ∀ seen d, d < 10 →
      ({ negative, phase := .whole, whole := seen } : Numeral).extend? d.digitChar =
        some { negative, phase := .whole, whole := d :: seen } := by
    intro seen d digit
    unfold extend? step
    rw [digit?_digitChar d digit]
  unfold spelling
  rw [List.map_cons, List.foldlM_cons, begins, List.reverse_cons]
  by_cases zero : first = 0
  · rw [leading zero]
    rfl
  · rw [if_neg zero]
    exact foldlM_extend?_spelling (fun seen => { negative, phase := .whole, whole := seen }) takes
      (fun d member => small d (List.mem_cons_of_mem first member)) [first]

variable {phase : Phase} {digits : List Nat}

/-- The digits after the point are the fraction. -/
theorem foldlM_extend?_fraction (negative : Bool) (whole : List Nat)
    (ends : phase = .zero ∨ phase = .whole) (small : ∀ d ∈ digits, d < 10)
    (present : digits ≠ []) :
    ('.' :: spelling digits).foldlM extend? { negative, phase, whole } =
      some { negative, phase := .fraction, whole, fraction := digits.reverse } := by
  have point : ({ negative, phase, whole } : Numeral).extend? '.' =
      some { negative, phase := .point, whole } := by
    rcases ends with rfl | rfl <;> rfl
  have takes : ∀ seen d, d < 10 →
      ({ negative, phase := if seen = [] then .point else .fraction, whole, fraction := seen } :
        Numeral).extend? d.digitChar =
          some { negative, phase := if d :: seen = [] then .point else .fraction, whole,
                 fraction := d :: seen } := by
    intro seen d digit
    unfold extend? step
    rw [digit?_digitChar d digit, if_neg (List.cons_ne_nil d seen)]
    cases seen with
    | nil => rfl
    | cons => rfl
  have all := foldlM_extend?_spelling
    (fun seen => { negative, phase := if seen = [] then .point else .fraction, whole,
                   fraction := seen })
    takes small []
  rw [List.append_nil, if_pos rfl, if_neg (List.reverse_ne_nil_iff.mpr present)] at all
  rw [List.foldlM_cons, point]
  exact all

/-- What follows the mark of an exponent is its sign and its digits. -/
theorem foldlM_extend?_power (negative : Bool) (whole fraction : List Nat)
    (ends : phase = .whole ∨ phase = .fraction) (down : Bool) {size : Nat}
    (positive : 0 < size) :
    ('e' :: (if down then '-' else '+') :: Decimal.numerals size).foldlM extend?
        { negative, phase, whole, fraction } =
      some { negative, phase := .power, whole, fraction, powerNegative := down,
             power := Nat.digits 10 size } := by
  have mark : ({ negative, phase, whole, fraction } : Numeral).extend? 'e' =
      some { negative, phase := .mark, whole, fraction } := by
    rcases ends with rfl | rfl <;> rfl
  have sign : ({ negative, phase := .mark, whole, fraction } : Numeral).extend?
      (if down then '-' else '+') =
        some { negative, phase := .markSign, whole, fraction, powerNegative := down } := by
    cases down <;> rfl
  have takes : ∀ seen d, d < 10 →
      ({ negative, phase := if seen = [] then .markSign else .power, whole, fraction,
         powerNegative := down, power := seen } : Numeral).extend? d.digitChar =
          some { negative, phase := if d :: seen = [] then .markSign else .power, whole, fraction,
                 powerNegative := down, power := d :: seen } := by
    intro seen d digit
    unfold extend? step
    rw [digit?_digitChar d digit, if_neg (List.cons_ne_nil d seen)]
    cases seen with
    | nil => rfl
    | cons => rfl
  have small : ∀ d ∈ (Nat.digits 10 size).reverse, d < 10 := fun d member =>
    Nat.digits_lt_base (by norm_num) (List.mem_reverse.mp member)
  have present : Nat.digits 10 size ≠ [] := Nat.digits_ne_nil_iff_ne_zero.mpr positive.ne'
  have all := foldlM_extend?_spelling
    (fun seen => { negative, phase := if seen = [] then .markSign else .power, whole, fraction,
                   powerNegative := down, power := seen })
    takes small []
  rw [List.append_nil, List.reverse_reverse, if_pos rfl, if_neg present] at all
  rw [List.foldlM_cons, mark, Option.bind_eq_bind, Option.bind_some, List.foldlM_cons, sign,
    Decimal.numerals_eq_map positive]
  exact all

theorem ofText?_plain (negative : Bool) {head : Nat} {whole : List Nat}
    (small : ∀ d ∈ head :: whole, d < 10) (leading : head = 0 → whole = [])
    (digit : ∀ d ∈ digits, d < 10) (present : digits ≠ []) {text : List Char}
    (spelled : text = spelling (head :: whole) ++ '.' :: spelling digits) :
    ofText? (if negative then '-' :: text else text) =
      some { negative, phase := .fraction, whole := (head :: whole).reverse,
             fraction := digits.reverse } := by
  have ends : (if head = 0 then Phase.zero else .whole) = .zero ∨
      (if head = 0 then Phase.zero else .whole) = .whole := by
    split
    · exact Or.inl rfl
    · exact Or.inr rfl
  have fraction := foldlM_extend?_fraction negative (head :: whole).reverse ends digit present
  rw [ofText?_signed negative (small head List.mem_cons_self) spelled, spelled,
    List.foldlM_append, foldlM_extend?_whole negative small leading]
  exact fraction

theorem ofText?_scientific (negative : Bool) {first : Nat} (leading : 0 < first)
    (small : ∀ d ∈ first :: digits, d < 10) {lead : Int} (nonzero : lead ≠ 0) {text : List Char}
    (spelled : text = first.digitChar :: ((if digits = [] then [] else '.' :: spelling digits) ++
      Decimal.exponentText lead)) :
    ofText? (if negative then '-' :: text else text) =
      some { negative, phase := .power, whole := [first], fraction := digits.reverse,
             powerNegative := decide (lead < 0), power := Nat.digits 10 lead.natAbs } := by
  have digit := small first List.mem_cons_self
  have begins := foldlM_extend?_whole negative (List.forall_mem_singleton.mpr digit) fun _ => rfl
  rw [if_neg leading.ne'] at begins
  have exponent : Decimal.exponentText lead =
      'e' :: (if decide (lead < 0) then '-' else '+') :: Decimal.numerals lead.natAbs := by
    unfold Decimal.exponentText
    simp only [decide_eq_true_eq]
  rw [ofText?_signed negative digit spelled, spelled, ← List.singleton_append, exponent,
    List.foldlM_append]
  rw [show [first.digitChar] = spelling [first] from rfl, begins, Option.bind_eq_bind,
    Option.bind_some, List.foldlM_append]
  cases digits with
  | nil =>
      exact foldlM_extend?_power negative [first] [] (Or.inl rfl) (decide (lead < 0)) (by omega)
  | cons second rest =>
      have others := fun d member => small d (List.mem_cons_of_mem first member)
      have fraction := foldlM_extend?_fraction negative [first] (Or.inr rfl) others
        (List.cons_ne_nil second rest)
      rw [if_neg (List.cons_ne_nil second rest), List.reverse_singleton, fraction]
      exact foldlM_extend?_power negative [first] _ (Or.inr rfl) (decide (lead < 0)) (by omega)

end Parts

/-! ## The value of a literal -/

/-- Digits make a number that is no longer than they are. -/
theorem foldl_digits_lt {digits : List Nat} (small : ∀ d ∈ digits, d < 10) (value : Nat) :
    digits.foldl (fun value d => value * 10 + d) value < (value + 1) * 10 ^ digits.length := by
  induction digits generalizing value with
  | nil => exact Nat.lt_of_lt_of_le (Nat.lt_succ_self value) (Nat.le_of_eq (Nat.mul_one _).symm)
  | cons d rest inductionHypothesis =>
      have digit := small d List.mem_cons_self
      have others := inductionHypothesis
        (fun e member => small e (List.mem_cons_of_mem d member)) (value * 10 + d)
      calc
        rest.foldl (fun value d => value * 10 + d) (value * 10 + d) <
            (value * 10 + d + 1) * 10 ^ rest.length := others
        _ ≤ ((value + 1) * 10) * 10 ^ rest.length := Nat.mul_le_mul_right _ (by omega)
        _ = (value + 1) * 10 ^ (rest.length + 1) := by rw [pow_succ']; ring

/-- The significand stays within 64 bits. -/
theorem accumulate_fst_lt (digits : List Nat) {significand : Nat}
    (below : significand < UInt64.size) : (accumulate significand digits).1 < UInt64.size := by
  induction digits generalizing significand with
  | nil => exact below
  | cons d rest inductionHypothesis =>
      unfold accumulate
      split
      · exact below
      next fits => exact inductionHypothesis (Nat.lt_of_not_le fits)

/-- Cutting a power off changes nothing as long as it is small enough. -/
theorem foldl_min_of_lt {digits : List Nat} {bound value : Nat}
    (below : digits.foldl (fun value d => value * 10 + d) value < bound) :
    digits.foldl (fun value d => min (value * 10 + d) bound) value =
      digits.foldl (fun value d => value * 10 + d) value := by
  induction digits generalizing value with
  | nil => rfl
  | cons d rest inductionHypothesis =>
      rw [List.foldl_cons] at below ⊢
      have small := Nat.lt_of_le_of_lt (le_foldl_digits rest _) below
      rw [List.foldl_cons, Nat.min_eq_left small.le]
      exact inductionHypothesis below

theorem powerValue_of_digits {n : Numeral} {size : Nat} (digits : n.power = Nat.digits 10 size)
    (below : size < 1 <<< 31) : n.powerValue = size := by
  unfold powerValue
  rw [digits, foldl_min_of_lt (by rwa [foldl_reverse_digits]), foldl_reverse_digits]

theorem lt_limit {significand : Nat} (below : significand < UInt64.size) :
    significand < Double.limit := by
  have wide : UInt64.size < Double.limit := by decide +kernel
  exact below.trans wide

theorem exists_double_of_scaled (n : Numeral) {significand : Nat} {exponent : Int} {x y : Double}
    (rounded : Double.ofNat? significand = some x) (scaled : x.scaleByTen? exponent = some y) :
    ∃ m, n.double significand exponent = .ok m := by
  refine ⟨.float (if n.negative then y.neg else y), ?_⟩
  unfold double
  rw [rounded, Option.bind_some, scaled]

/-- A literal that is scaled down has a value. -/
theorem exists_double_of_nonpos (n : Numeral) {significand : Nat} {exponent : Int}
    (below : significand < UInt64.size) (nonpos : exponent ≤ 0) :
    ∃ m, n.double significand exponent = .ok m := by
  rcases Double.exists_ofNat? (lt_limit below) with ⟨x, rounded⟩
  have bounded : x.Bounded := Double.bounded_of_ofRatio? Nat.one_pos rounded
  rcases Double.exists_scaleByTen?_of_nonpos bounded nonpos with ⟨y, scaled⟩
  exact exists_double_of_scaled n rounded scaled

section Values

variable {n : Numeral} {whole : Nat}

/-- The value of a literal with a point or an exponent whose whole part fits 64 bits. -/
theorem value_of_parts (phase : n.phase = .fraction ∨ n.phase = .power)
    (begins : accumulate 0 n.whole.reverse = (whole, [])) :
    n.value =
      let exponent : Int :=
        -((n.fraction.length - (accumulate whole n.fraction.reverse).2.length : Nat) : Int)
      if n.powerValue < 1 <<< 31 then
        n.double (accumulate whole n.fraction.reverse).1
          (if n.powerNegative then exponent - n.powerValue else exponent + n.powerValue)
      else if (accumulate whole n.fraction.reverse).1 ≠ 0 ∧ !n.powerNegative then
        .error .numberOutOfRange
      else .ok (.float (.zero n.negative)) := by
  have other : ¬ (n.phase = .zero ∨ n.phase = .whole) := by
    rcases phase with fraction | power
    · simp [fraction]
    · simp [power]
  unfold value
  simp only [begins, other, false_and, if_false, List.length_nil, Int.natCast_zero, Int.zero_sub]

/-- A literal has a value if its exponent takes it down. -/
theorem exists_value_of_nonpos (phase : n.phase = .fraction ∨ n.phase = .power)
    (begins : accumulate 0 n.whole.reverse = (whole, []))
    (down : n.powerNegative = true ∨ n.power = []) : ∃ m, n.value = .ok m := by
  have wholeBelow : whole < UInt64.size := by
    have below := accumulate_fst_lt n.whole.reverse (show 0 < UInt64.size by decide)
    rwa [begins] at below
  have below := accumulate_fst_lt n.fraction.reverse wholeBelow
  rw [value_of_parts phase begins]
  rcases down with negative | nothing
  · simp only [negative, if_true, Bool.not_true, Bool.false_eq_true, and_false, if_false]
    split
    · exact exists_double_of_nonpos n below (by omega)
    · exact ⟨_, rfl⟩
  · have zero : n.powerValue = 0 := by
      unfold powerValue
      rw [nothing]
      rfl
    rw [zero]
    simp only [Nat.one_shiftLeft, Nat.two_pow_pos, if_true, Int.natCast_zero, Int.sub_zero,
      Int.add_zero, ite_self]
    exact exists_double_of_nonpos n below (by omega)

/-- The value of a literal whose digits all fit 64 bits, with an exponent that is not
negative. -/
theorem value_of_power {size significand : Nat} (phase : n.phase = .power)
    (begins : accumulate 0 n.whole.reverse = (whole, []))
    (continues : accumulate whole n.fraction.reverse = (significand, []))
    (digits : n.power = Nat.digits 10 size) (up : n.powerNegative = false)
    (below : size < 1 <<< 31) :
    n.value = n.double significand (size - n.fraction.length) := by
  rw [value_of_parts (Or.inr phase) begins, continues, powerValue_of_digits digits below, up]
  simp only [below, if_true, Bool.false_eq_true, if_false, List.length_nil, Nat.sub_zero]
  congr 1
  omega

end Values
end Numeral

/-! ## The text of a decimal -/

namespace Decimal

open Numeral (spelling)

/-- The digits that are written for a number: the first one is not zero, and the zeros at the
end are only counted. -/
structure Written (n first : Nat) (rest : List Nat) (zeros : Nat) : Prop where
  leading : 0 < first
  small : ∀ d ∈ first :: rest, d < 10
  text : significant (numerals n) = spelling (first :: rest)
  length : (numerals n).length = rest.length + 1 + zeros
  value : n = rest.foldl (fun value d => value * 10 + d) first * 10 ^ zeros

theorem significant_append_zero (digits : List Char) :
    significant (digits ++ ['0']) = significant digits := by
  unfold significant
  rw [List.reverse_append]
  rfl

theorem significant_append {c : Char} (other : c ≠ '0') (digits : List Char) :
    significant (digits ++ [c]) = digits ++ [c] := by
  unfold significant
  rw [List.reverse_append, List.reverse_singleton, List.singleton_append,
    List.dropWhile_cons_of_neg (by simpa using other), List.reverse_cons, List.reverse_reverse]

/-- The first digit of a number is not zero. -/
theorem exists_leading {n : Nat} (positive : 0 < n) :
    ∃ first rest, 0 < first ∧ (Nat.digits 10 n).reverse = first :: rest := by
  have present : Nat.digits 10 n ≠ [] := Nat.digits_ne_nil_iff_ne_zero.mpr positive.ne'
  have nonzero := Nat.getLast_digit_ne_zero 10 positive.ne'
  cases reversed : (Nat.digits 10 n).reverse with
  | nil => exact absurd (List.reverse_eq_nil_iff.mp reversed) present
  | cons first rest =>
      have last : (Nat.digits 10 n).getLast present = first := by
        rw [List.getLast_eq_head_reverse]
        simp only [reversed, List.head_cons]
      rw [last] at nonzero
      exact ⟨first, rest, Nat.pos_of_ne_zero nonzero, rfl⟩

theorem numerals_eq_append {n : Nat} (large : 10 ≤ n) :
    numerals n = numerals (n / 10) ++ [(n % 10).digitChar] := by
  rw [numerals_eq_map (by omega), numerals_eq_map (by omega), Nat.digits_def' (by norm_num)
    (by omega), List.reverse_cons, List.map_append]
  rfl

theorem digitChar_ne_zero : ∀ d < 10, d ≠ 0 → d.digitChar ≠ '0' := by
  decide

theorem exists_written {n : Nat} (positive : 0 < n) :
    ∃ first rest zeros, Written n first rest zeros := by
  induction n using Nat.strongRecOn with
  | ind n inductionHypothesis =>
      by_cases round : n % 10 = 0
      · rcases inductionHypothesis (n / 10) (by omega) (by omega) with
          ⟨first, rest, zeros, written⟩
        have split := numerals_eq_append (show 10 ≤ n by omega)
        rw [round] at split
        refine ⟨first, rest, zeros + 1, written.leading, written.small, ?_, ?_, ?_⟩
        · rw [split]
          exact (significant_append_zero _).trans written.text
        · rw [split, List.length_append, written.length]
          rfl
        · rw [pow_succ, ← mul_assoc, ← written.value]
          omega
      · rcases exists_leading positive with ⟨first, rest, leading, reversed⟩
        have spelled : numerals n = spelling (first :: rest) := by
          rw [numerals_eq_map positive, reversed]
          rfl
        have text : significant (numerals n) = numerals n := by
          rw [numerals_eq_map positive, Nat.digits_def' (by norm_num) positive, List.reverse_cons,
            List.map_append]
          exact significant_append (digitChar_ne_zero _ (by omega) round) _
        have value := Numeral.foldl_reverse_digits n
        rw [reversed, List.foldl_cons, Nat.zero_mul, Nat.zero_add] at value
        refine ⟨first, rest, 0, leading, ?_, text.trans spelled, ?_, ?_⟩
        · intro d member
          rw [← reversed] at member
          exact Nat.digits_lt_base (by norm_num) (List.mem_reverse.mp member)
        · rw [spelled]
          exact List.length_map _
        · rw [value, pow_zero, Nat.mul_one]

theorem text_of_written {d : Decimal} {first zeros : Nat} {rest : List Nat}
    (written : Written d.digits first rest zeros) :
    d.text = place (spelling (first :: rest)) (d.exponent + zeros + rest.length) := by
  have lead : d.exponent + ((numerals d.digits).length : Int) - 1 =
      d.exponent + zeros + rest.length := by
    rw [written.length]
    push_cast
    ring
  unfold text
  simp only [written.text, lead]

/-! ## Placing the point -/

section Placing

variable {first : Nat} {rest : List Nat} {lead : Int}

theorem place_of_neg (digits : List Nat) (inside : -5 ≤ lead) (down : lead < 0) :
    place (spelling digits) lead =
      spelling [0] ++ '.' :: spelling (List.replicate ((-lead).toNat - 1) 0 ++ digits) := by
  unfold place spelling
  rw [if_pos ⟨inside, by omega⟩, if_pos down, List.map_append, List.map_replicate]
  rfl

theorem place_of_nonneg (up : 0 ≤ lead) (inside : lead < 16) :
    place (spelling (first :: rest)) lead =
      spelling (first :: (rest.take lead.toNat ++ List.replicate (lead.toNat - rest.length) 0)) ++
        '.' :: spelling (if rest.drop lead.toNat = [] then [0] else rest.drop lead.toNat) := by
  have missing : lead.toNat + 1 - (rest.length + 1) = lead.toNat - rest.length := by omega
  unfold place spelling
  rw [if_pos ⟨by omega, inside⟩, if_neg (by omega), List.map_cons]
  simp only [List.take_succ_cons, List.drop_succ_cons, List.length_cons, List.length_map, missing]
  by_cases nothing : rest.drop lead.toNat = []
  · rw [← List.map_drop, nothing, if_pos rfl, List.map_cons, List.map_append, List.map_take,
      List.map_replicate]
    rfl
  · rw [← List.map_drop, if_neg nothing, List.map_cons, List.map_append, List.map_take,
      List.map_replicate, if_neg (by simpa using nothing)]
    rfl

/-- In positional notation there are at most sixteen digits before the point, and some after
it. -/
theorem exists_place_plain (leading : 0 < first) (small : ∀ d ∈ first :: rest, d < 10)
    (inside : -5 ≤ lead ∧ lead < 16) :
    ∃ head whole fraction, (∀ d ∈ head :: whole, d < 10) ∧ (∀ d ∈ fraction, d < 10) ∧
      (head = 0 → whole = []) ∧ whole.length < 16 ∧ fraction ≠ [] ∧
      place (spelling (first :: rest)) lead =
        spelling (head :: whole) ++ '.' :: spelling fraction := by
  have later : ∀ d ∈ rest, d < 10 := fun d member => small d (List.mem_cons_of_mem first member)
  have zeros : ∀ count, ∀ d ∈ List.replicate count 0, d < 10 := fun count d member => by
    rw [List.eq_of_mem_replicate member]
    decide
  by_cases down : lead < 0
  · refine ⟨0, [], _, by decide, ?_, fun _ => rfl, by decide, ?_, place_of_neg _ inside.1 down⟩
    · exact List.forall_mem_append.mpr ⟨zeros _, small⟩
    · exact List.append_ne_nil_of_right_ne_nil _ (List.cons_ne_nil first rest)
  · refine ⟨first, _, _, ?_, ?_, fun zero => absurd zero leading.ne', ?_, ?_,
      place_of_nonneg (not_lt.mp down) inside.2⟩
    · refine List.forall_mem_cons.mpr ⟨small first List.mem_cons_self, ?_⟩
      exact List.forall_mem_append.mpr
        ⟨fun d member => later d (List.mem_of_mem_take member), zeros _⟩
    · split
      · decide
      · exact fun d member => later d (List.mem_of_mem_drop member)
    · rw [List.length_append, List.length_take, List.length_replicate]
      omega
    · split
      · exact List.cons_ne_nil 0 []
      next present => exact present

/-- In scientific notation there is one digit before the point. -/
theorem place_scientific (outside : ¬ (-5 ≤ lead ∧ lead < 16)) :
    place (spelling (first :: rest)) lead =
      first.digitChar :: ((if rest = [] then [] else '.' :: spelling rest) ++
        exponentText lead) := by
  unfold place
  rw [if_neg outside]
  cases rest with
  | nil => rfl
  | cons second others => rfl

end Placing
end Decimal

/-! ## Doubles -/

namespace Numeral

section Reading

variable {first : Nat} {rest : List Nat} {text : List Char}

theorem reads_plain (negative : Bool) {head : Nat} {whole fraction : List Nat}
    (small : ∀ d ∈ head :: whole, d < 10) (digit : ∀ d ∈ fraction, d < 10)
    (leading : head = 0 → whole = []) (short : whole.length < 16) (present : fraction ≠ [])
    (spelled : text = spelling (head :: whole) ++ '.' :: spelling fraction) :
    Reads (if negative then '-' :: text else text) := by
  have below : (head :: whole).foldl (fun value d => value * 10 + d) 0 < UInt64.size := by
    have length : (head :: whole).length ≤ 16 := short
    calc
      (head :: whole).foldl (fun value d => value * 10 + d) 0 <
          (0 + 1) * 10 ^ (head :: whole).length := foldl_digits_lt small 0
      _ ≤ (0 + 1) * 10 ^ 16 := by gcongr; norm_num
      _ < UInt64.size := by decide
  refine ⟨_, ofText?_plain negative small leading digit present spelled, rfl, ?_⟩
  apply exists_value_of_nonpos (Or.inl rfl)
  · rw [List.reverse_reverse]
    exact accumulate_of_lt below
  · exact Or.inr rfl

/-- A literal in scientific notation has a value if its significand can be scaled up. -/
theorem reads_scientific (negative : Bool) (leading : 0 < first)
    (small : ∀ d ∈ first :: rest, d < 10) {lead : Int} (nonzero : lead ≠ 0)
    (scales : 0 < lead → lead < 1 <<< 31 ∧
      rest.foldl (fun value d => value * 10 + d) first < UInt64.size ∧
        ∀ n : Numeral, ∃ m, n.double (rest.foldl (fun value d => value * 10 + d) first)
          (lead - rest.length) = .ok m)
    (spelled : text = first.digitChar :: ((if rest = [] then [] else '.' :: spelling rest) ++
      Decimal.exponentText lead)) :
    Reads (if negative then '-' :: text else text) := by
  have begins : accumulate 0 [first] = (first, []) := by
    have digit : first < UInt64.size :=
      (small first List.mem_cons_self).trans_le (by decide)
    rw [accumulate_of_lt (by simpa using digit)]
    simp
  refine ⟨_, ofText?_scientific negative leading small nonzero spelled, rfl, ?_⟩
  by_cases down : lead < 0
  · exact exists_value_of_nonpos (Or.inr rfl) begins (Or.inl (decide_eq_true down))
  · rcases scales (by omega) with ⟨short, below, up⟩
    have value := value_of_power
      (n := { negative, phase := .power, whole := [first], fraction := rest.reverse,
              powerNegative := decide (lead < 0), power := Nat.digits 10 lead.natAbs })
      rfl begins (by rw [List.reverse_reverse]; exact accumulate_of_lt below) rfl
      (decide_eq_false down) (by omega)
    rw [value, List.length_reverse, show (lead.natAbs : Int) = lead by omega]
    exact up _

end Reading
end Numeral

namespace Double

variable {x : Double}

/-- The greatest double is read back, though what is rounded is not exact. -/
theorem reads_greatest (negative : Bool) :
    Numeral.Reads (text { negative, significand := 1 <<< 53 - 1, exponent := 971 }) := by
  have checked : ∀ negative : Bool,
      (Numeral.ofText? (text { negative, significand := 1 <<< 53 - 1, exponent := 971 })).any
        (fun numeral => numeral.complete && numeral.value.toOption.isSome) = true := by
    decide +kernel
  have both := checked negative
  generalize text { negative, significand := 1 <<< 53 - 1, exponent := 971 } = text at both ⊢
  cases found : Numeral.ofText? text with
  | none =>
      rw [found] at both
      cases both
  | some numeral =>
      rw [found, Option.any_some, Bool.and_eq_true] at both
      refine ⟨numeral, found, both.1, ?_⟩
      cases value : numeral.value with
      | error fault =>
          rw [value] at both
          cases both.2
      | ok m => exact ⟨m, rfl⟩

/-- What is written for a double that is not the greatest can be scaled up again. -/
theorem exists_scaled_shortest (bounded : x.Bounded) (positive : 0 < x.significand)
    (notGreatest : ¬ (x.significand = 2 ^ 53 - 1 ∧ x.exponent = greatestExponent))
    {first zeros : Nat} {rest : List Nat}
    (written : Decimal.Written (Decimal.shortest x).digits first rest zeros) (size : Nat)
    (exponent : (Decimal.shortest x).exponent + zeros = size) :
    size ≤ 308 ∧ ∃ y z,
      ofNat? (rest.foldl (fun value d => value * 10 + d) first) = some y ∧
        y.scaleByTen? size = some z := by
  rcases Decimal.shortest_spec bounded positive with ⟨some, short, inside⟩
  have value := written.value
  generalize rest.foldl (fun value d => value * 10 + d) first = significand at value ⊢
  have nonzero : 0 < significand := by
    apply Nat.pos_of_ne_zero
    intro zero
    rw [value, zero, Nat.zero_mul] at some
    exact Nat.lt_irrefl 0 some
  have fewer : significand ≤ Nat.pow 10 18 := by
    rw [value] at short
    exact (Nat.le_mul_of_pos_right _ (Nat.pow_pos (by norm_num))).trans short
  have below : significand * Nat.pow 10 size ≤ lastMidpoint := by
    have same : ((significand * Nat.pow 10 size : ℕ) : ℚ) = (Decimal.shortest x).magnitude := by
      rw [Decimal.magnitude, value, Nat.cast_mul, Nat.cast_mul, Decimal.cast_pow_ten, ← exponent,
        zpow_add₀ (by norm_num), Nat.cast_pow, Nat.cast_ofNat, zpow_natCast]
      ring
    have cast := inside.trans (midpoint_le_lastMidpoint bounded notGreatest)
    rw [← same] at cast
    exact Nat.cast_le.mp cast
  exact ⟨size_le_of_le_lastMidpoint nonzero below, exists_scaled nonzero fewer below⟩

theorem text_of_pos (positive : 0 < x.significand) :
    x.text = if x.negative then '-' :: (Decimal.shortest x).text
      else (Decimal.shortest x).text := by
  unfold text isZero
  simp only [beq_eq_false_iff_ne.mpr positive.ne', Bool.false_eq_true, if_false]

theorem reads_zero (none : x.significand = 0) : Numeral.Reads x.text := by
  have digit : ∀ d ∈ [0], d < 10 := List.forall_mem_singleton.mpr (by decide)
  have text : x.text = if x.negative then '-' :: ['0', '.', '0'] else ['0', '.', '0'] := by
    unfold text isZero
    rw [none]
    rfl
  rw [text]
  exact Numeral.reads_plain x.negative digit digit (fun _ => rfl) (by decide)
    (List.cons_ne_nil 0 []) rfl

/-- Before the greatest double, what is written can be scaled up if it is written with a
positive exponent. -/
theorem reads_shortest (bounded : x.Bounded) (positive : 0 < x.significand)
    (notGreatest : ¬ (x.significand = 2 ^ 53 - 1 ∧ x.exponent = greatestExponent)) :
    Numeral.Reads x.text := by
  rcases Decimal.shortest_spec bounded positive with ⟨some, short, _⟩
  rcases Decimal.exists_written some with ⟨first, rest, zeros, written⟩
  have placed := Decimal.text_of_written written
  have scales := exists_scaled_shortest bounded positive notGreatest written
  rw [text_of_pos positive]
  generalize (Decimal.shortest x).exponent + zeros = exponent at placed scales
  by_cases inside : -5 ≤ exponent + rest.length ∧ exponent + rest.length < 16
  · rcases Decimal.exists_place_plain written.leading written.small inside with
      ⟨head, whole, fraction, small, digit, leading, fewer, present, spelled⟩
    exact Numeral.reads_plain x.negative small digit leading fewer present (placed.trans spelled)
  have length : rest.length + 1 + zeros ≤ 19 := by
    have wide : Nat.pow 10 18 < 10 ^ 19 := by decide
    rw [← written.length]
    exact Nat.toDigits_length 10 _ 19 (by norm_num) (short.trans_lt wide)
  have below : rest.foldl (fun value d => value * 10 + d) first < UInt64.size := by
    have wide : Nat.pow 10 18 < UInt64.size := by decide
    rw [written.value] at short
    exact ((Nat.le_mul_of_pos_right _ (Nat.pow_pos (by norm_num))).trans short).trans_lt wide
  refine Numeral.reads_scientific x.negative written.leading written.small (by omega) ?_
    (placed.trans (Decimal.place_scientific inside))
  intro up
  rw [Int.add_sub_cancel]
  by_cases nonpos : exponent ≤ 0
  · exact ⟨by omega, below, fun n => Numeral.exists_double_of_nonpos n below nonpos⟩
  · obtain ⟨size, same⟩ := Int.eq_ofNat_of_zero_le (not_le.mp nonpos).le
    rcases scales size same with ⟨most, y, z, rounded, scaled⟩
    rw [same]
    exact ⟨by omega, below, fun n => Numeral.exists_double_of_scaled n rounded scaled⟩

/-- What is written for a double is a literal that has a value. -/
theorem reads_text (bounded : x.Bounded) : Numeral.Reads x.text := by
  rcases Nat.eq_zero_or_pos x.significand with none | positive
  · exact reads_zero none
  · by_cases greatest : x.significand = 2 ^ 53 - 1 ∧ x.exponent = greatestExponent
    · have same : x =
          { negative := x.negative, significand := 1 <<< 53 - 1, exponent := 971 } := by
        cases x
        simp only [mk.injEq, true_and]
        exact ⟨greatest.1.trans (by decide), greatest.2⟩
      rw [same]
      exact reads_greatest x.negative
    · exact reads_shortest bounded positive greatest

end Double

/-! ## Numbers -/

namespace Number

/-- A number that a reader can make of a literal. -/
def InRange : Number → Prop
  | integer value => (integer value).isInteger64 = true
  | float x => x.Bounded

theorem reads_text {n : Number} (inRange : n.InRange) : Numeral.Reads n.text := by
  cases n with
  | float x => exact x.reads_text inRange
  | integer value => exact reads_of_isInteger64 inRange

end Number

namespace Numeral

variable {n : Numeral} {m : Number}

theorem inRange_of_double {significand : Nat} {exponent : Int}
    (value : n.double significand exponent = .ok m) : m.InRange := by
  unfold double at value
  split at value
  next y scaled =>
    rcases Option.bind_eq_some_iff.mp scaled with ⟨x, rounded, last⟩
    have bounded : y.Bounded :=
      Double.bounded_of_scaleByTen? (Double.bounded_of_ofRatio? Nat.one_pos rounded) last
    rw [← Except.ok.inj value]
    split
    · exact ⟨bounded.significand, bounded.least, bounded.greatest⟩
    · exact bounded
  next => cases value

theorem inRange_of_integer {significand : Nat} (below : significand < UInt64.size)
    (value : n.integer significand = .ok m) : m.InRange := by
  unfold integer at value
  unfold UInt64.size at below
  split at value
  · rw [← Except.ok.inj value]
    simp only [Number.InRange, Number.isInteger64, Bool.and_eq_true, decide_eq_true_eq]
    omega
  · split at value
    next inside =>
      rw [← Except.ok.inj value]
      simp only [Number.InRange, Number.isInteger64, Bool.and_eq_true, decide_eq_true_eq]
      omega
    next => exact inRange_of_double value

/-- Whatever number is read is in range. -/
theorem inRange_of_value (value : n.value = .ok m) : m.InRange := by
  have below := accumulate_fst_lt n.whole.reverse (show 0 < UInt64.size by decide)
  unfold Numeral.value at value
  simp only at value
  split at value
  · exact inRange_of_integer below value
  · split at value
    · exact inRange_of_double value
    · split at value
      · cases value
      · rw [← Except.ok.inj value]
        exact Double.bounded_zero n.negative

end Numeral
end Json
end Bayeux
