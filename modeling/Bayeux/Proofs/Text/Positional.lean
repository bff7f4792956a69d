import Bayeux.Text.Quoted
import Mathlib.Data.Nat.Digits.Lemmas

namespace Bayeux
namespace Text

/-!
# Numbers in a base

A number is written as its quotient by the base with one more digit behind it.  Whatever
characters stand for the digits, the text that grows in this way has one character for each place of
the number, the most significant place first, and no place is wasted on a zero in front.
-/

variable {base n : Nat} {digits : List Nat}

/-- What stands at the places of a number, the most significant one first.  Zero has one place. -/
def places (base n : Nat) : List Nat :=
  if n = 0 then [0] else (Nat.digits base n).reverse

theorem places_of_pos (positive : 0 < n) : places base n = (Nat.digits base n).reverse :=
  if_neg positive.ne'

theorem places_of_lt (small : n < base) : places base n = [n] := by
  unfold places
  split
  next zero => rw [zero]
  next nonzero =>
    rw [Nat.digits_of_lt base n nonzero small]
    rfl

theorem places_of_le (large : 1 < base) (le : base ≤ n) :
    places base n = places base (n / base) ++ [n % base] := by
  have positive : 0 < n := by omega
  rw [places_of_pos positive, places_of_pos (Nat.div_pos le (by omega)),
    Nat.digits_def' large positive, List.reverse_cons]

theorem lt_of_mem_places (large : 1 < base) {d : Nat} (member : d ∈ places base n) : d < base := by
  unfold places at member
  split at member
  next =>
    rw [List.mem_singleton.mp member]
    omega
  next => exact Nat.digits_lt_base large (List.mem_reverse.mp member)

theorem places_ne_nil (base n : Nat) : places base n ≠ [] := by
  unfold places
  split
  next => exact List.cons_ne_nil _ _
  next nonzero => exact mt List.reverse_eq_nil_iff.mp (Nat.digits_ne_nil_iff_ne_zero.mpr nonzero)

/-- Only zero has a zero at its first place. -/
theorem places_eq_singleton_of_head? (first : (places base n).head? = some 0) :
    places base n = [0] := by
  unfold places at first ⊢
  split at first
  next zero => rw [if_pos zero]
  next nonzero =>
    rw [List.head?_reverse] at first
    have present := Nat.digits_ne_nil_iff_ne_zero (b := base).mpr nonzero
    rw [List.getLast?_eq_some_getLast present] at first
    exact absurd (Option.some.inj first) (Nat.getLast_digit_ne_zero base nonzero)

theorem length_places_le_iff (large : 1 < base) {k : Nat} (room : 0 < k) :
    (places base n).length ≤ k ↔ n < base ^ k := by
  unfold places
  split
  next zero =>
    rw [zero, List.length_singleton]
    exact iff_of_true room (Nat.pow_pos (by omega))
  next => rw [List.length_reverse, Nat.digits_length_le_iff large]

/-! ## Reading -/

theorem ofDigits_places (base n : Nat) : Nat.ofDigits base (places base n).reverse = n := by
  unfold places
  split
  next zero =>
    rw [zero]
    rfl
  next => rw [List.reverse_reverse, Nat.ofDigits_digits]

/-- No other digits stand for the number, unless there are zeros in front of them. -/
theorem places_ofDigits (large : 1 < base) (small : ∀ d ∈ digits, d < base) (present : digits ≠ [])
    (leading : digits.head? = some 0 → digits = [0]) :
    places base (Nat.ofDigits base digits.reverse) = digits := by
  -- The digits of zero in the library are no digits at all, so a lone zero is a case of its own.
  by_cases zero : digits = [0]
  · rw [zero]
    rfl
  · have nonzero : ∀ present : digits.reverse ≠ [], digits.reverse.getLast present ≠ 0 := by
      intro present last
      rw [List.getLast_eq_iff_getLast?_eq_some, List.getLast?_reverse] at last
      exact zero (leading last)
    have read := Nat.digits_ofDigits base large digits.reverse
      (fun d member => small d (List.mem_reverse.mp member)) nonzero
    have positive : 0 < Nat.ofDigits base digits.reverse := by
      rw [Nat.pos_iff_ne_zero, ← Nat.digits_ne_nil_iff_ne_zero (b := base), read]
      exact mt List.reverse_eq_nil_iff.mp present
    rw [places_of_pos positive, read, List.reverse_reverse]

/-! ## Writing -/

/-- A way to write numbers with a character for each digit below the base, the last digit last. -/
def IsPositional (base : Nat) (digit : Nat → Char) (write : Nat → List Char) : Prop :=
  ∀ n, write n = if n < base then [digit n] else write (n / base) ++ [digit (n % base)]

theorem IsPositional.eq_map_places {digit : Nat → Char} {write : Nat → List Char}
    (positional : IsPositional base digit write) (large : 1 < base) (n : Nat) :
    write n = (places base n).map digit := by
  induction n using Nat.strongRecOn with
  | ind n inductionHypothesis =>
      rw [positional n]
      by_cases small : n < base
      · rw [if_pos small, places_of_lt small, List.map_singleton]
      · have smaller : n / base < n := Nat.div_lt_self (by omega) large
        rw [if_neg small, inductionHypothesis (n / base) smaller,
          places_of_le large (Nat.le_of_not_lt small), List.map_append, List.map_singleton]

/-- Every character that is written stands for a digit. -/
theorem IsPositional.exists_digit_of_mem {digit : Nat → Char} {write : Nat → List Char}
    (positional : IsPositional base digit write) (large : 1 < base) {c : Char}
    (member : c ∈ write n) : ∃ d < base, digit d = c := by
  rw [positional.eq_map_places large] at member
  rcases List.mem_map.mp member with ⟨d, place, same⟩
  exact ⟨d, lt_of_mem_places large place, same⟩

theorem isPositional_toDigits (large : 1 < base) :
    IsPositional base Nat.digitChar (Nat.toDigits base) := fun _ =>
  Nat.toDigits_eq_if large

theorem isPositional_hexDigits : IsPositional 16 hexDigit hexDigits := fun n => by
  rw [hexDigits]

theorem hexDigit_eq_digitChar : ∀ d < 16, hexDigit d = Nat.digitChar d := by
  decide

/-- The lower-case hexadecimal digits are those of the library. -/
theorem hexDigits_eq_toDigits (n : Nat) : hexDigits n = Nat.toDigits 16 n := by
  rw [isPositional_hexDigits.eq_map_places (by norm_num),
    (isPositional_toDigits (by norm_num)).eq_map_places (by norm_num)]
  exact List.map_congr_left fun d member =>
    hexDigit_eq_digitChar d (lt_of_mem_places (by norm_num) member)

end Text
end Bayeux
