import Bayeux.Json.Token
import Bayeux.Proofs.Text.Positional

namespace Bayeux
namespace Json

/-!
# The spelling of numbers

A text spells a literal if it can be read from its first character to its last.  Only the
characters after it decide where a literal ends, so a complete one may stand before
anything that is no part of a number.  An integer of 64 bits is spelled by its numerals
and read back without loss.
-/

namespace Numeral

/-- The literal after one more character, if that belongs to it. -/
def extend? (n : Numeral) (c : Char) : Option Numeral :=
  match n.step c with
  | .extended longer => some longer
  | _ => none

/-- The literal that a text spells, complete or not. -/
def ofText? : List Char → Option Numeral
  | [] => none
  | c :: rest => (start? c).bind fun n => rest.foldlM extend? n

theorem step_of_extend? {n longer : Numeral} {c : Char} (extended : n.extend? c = some longer) :
    n.step c = .extended longer := by
  unfold extend? at extended
  split at extended
  next other result =>
    cases extended
    exact result
  next => cases extended

/-- A complete literal ends before a character that is no part of any number. -/
theorem step_eq_ended {n : Numeral} (ends : n.complete = true) {c : Char}
    (noDigit : digit? c = none) (noPoint : c ≠ '.') (noMark : ¬ (c = 'e' ∨ c = 'E')) :
    n.step c = .ended := by
  have whole : n.afterWhole c = .ended := by
    unfold afterWhole
    rw [if_neg noPoint, if_neg noMark]
  unfold complete at ends
  unfold step
  cases phase : n.phase with
  | zero => simpa only [noDigit] using whole
  | whole => simpa only [noDigit] using whole
  | fraction => simp only [noDigit, if_neg noMark]
  | power => simp only [noDigit]
  | sign | point | mark | markSign =>
      rw [phase] at ends
      cases ends

/-! ## Natural numbers -/

theorem digit?_digitChar : ∀ d < 10, digit? d.digitChar = some d := by
  decide

/-- The numerals of a number are read as its digits, after a sign or without. -/
theorem foldlM_extend?_toDigits {n : Nat} (positive : 0 < n) (negative : Bool) :
    (Nat.toDigits 10 n).foldlM extend? { negative, phase := .sign } =
      some { negative, phase := .whole, whole := Nat.digits 10 n } := by
  induction n using Nat.strongRecOn with
  | ind n inductionHypothesis =>
      rw [Nat.toDigits_eq_if (by decide)]
      by_cases small : n < 10
      · rw [if_pos small, List.foldlM_cons, Nat.digits_of_lt 10 n (by omega) small]
        have digit := digit?_digitChar n small
        unfold extend? step
        rw [digit]
        cases n with
        | zero => cases positive
        | succ n => rfl
      · rw [if_neg small, List.foldlM_append, inductionHypothesis (n / 10) (by omega) (by omega),
          Nat.digits_def' (by decide) positive]
        have digit := digit?_digitChar (n % 10) (by omega)
        simp only [Option.bind_eq_bind, Option.bind_some, List.foldlM_cons]
        unfold extend? step
        rw [digit]
        rfl

/-- A number without a sign begins like one after a sign. -/
theorem start?_digitChar {d : Nat} (small : d < 10) :
    start? d.digitChar = extend? { negative := false, phase := .sign } d.digitChar := by
  have all : ∀ d < 10,
      start? d.digitChar = extend? { negative := false, phase := .sign } d.digitChar := by
    decide
  exact all d small

/-- Numerals begin with a digit. -/
theorem exists_toDigits_eq_cons (n : Nat) :
    ∃ d < 10, ∃ rest, Nat.toDigits 10 n = d.digitChar :: rest := by
  rw [(Text.isPositional_toDigits (by norm_num)).eq_map_places (by norm_num) n]
  have small : ∀ d ∈ Text.places 10 n, d < 10 := fun _ => Text.lt_of_mem_places (by norm_num)
  cases places : Text.places 10 n with
  | nil => exact absurd places (Text.places_ne_nil 10 n)
  | cons d rest =>
      rw [places] at small
      exact ⟨d, small d List.mem_cons_self, _, List.map_cons⟩

theorem ofText?_toDigits {n : Nat} (positive : 0 < n) :
    ofText? (Nat.toDigits 10 n) =
      some { negative := false, phase := .whole, whole := Nat.digits 10 n } := by
  have all := foldlM_extend?_toDigits positive false
  rcases exists_toDigits_eq_cons n with ⟨d, digit, rest, same⟩
  rw [same] at all ⊢
  change (start? d.digitChar).bind (fun n => rest.foldlM extend? n) = _
  rw [start?_digitChar digit]
  exact all

theorem ofText?_minus (n : Nat) (positive : 0 < n) :
    ofText? ('-' :: Nat.toDigits 10 n) =
      some { negative := true, phase := .whole, whole := Nat.digits 10 n } :=
  foldlM_extend?_toDigits positive true

/-! ## The number of a literal -/

/-- More digits make no number less. -/
theorem le_foldl_digits (digits : List Nat) (value : Nat) :
    value ≤ digits.foldl (fun value d => value * 10 + d) value := by
  induction digits generalizing value with
  | nil => exact Nat.le_refl value
  | cons d rest inductionHypothesis =>
      exact Nat.le_trans (by omega) (inductionHypothesis (value * 10 + d))

/-- Digits of a number below the bound are all taken into the significand. -/
theorem accumulate_of_lt {digits : List Nat} {significand : Nat}
    (bounded : digits.foldl (fun value d => value * 10 + d) significand < UInt64.size) :
    accumulate significand digits =
      (digits.foldl (fun value d => value * 10 + d) significand, []) := by
  induction digits generalizing significand with
  | nil => rfl
  | cons d rest inductionHypothesis =>
      rw [List.foldl_cons] at bounded ⊢
      have small := Nat.lt_of_le_of_lt (le_foldl_digits rest _) bounded
      unfold accumulate
      rw [if_neg (Nat.not_le_of_lt small)]
      exact inductionHypothesis bounded

theorem foldl_reverse_digits (n : Nat) :
    (Nat.digits 10 n).reverse.foldl (fun value d => value * 10 + d) 0 = n := by
  have digits := Nat.ofDigits_digits 10 n
  rw [Nat.ofDigits_eq_foldr] at digits
  rw [List.foldl_reverse]
  have same : (fun d value => value * 10 + d) = fun (d value : Nat) => (d : Nat) + 10 * value := by
    funext d value
    omega
  rw [same]
  exact digits

theorem value_of_digits {n : Nat} (bounded : n < UInt64.size) (negative : Bool) :
    ({ negative, phase := .whole, whole := Nat.digits 10 n } : Numeral).value =
      ({ negative, phase := .whole, whole := Nat.digits 10 n } : Numeral).integer n := by
  have all : accumulate 0 (Nat.digits 10 n).reverse = (n, []) := by
    have below : (Nat.digits 10 n).reverse.foldl (fun value d => value * 10 + d) 0 <
        UInt64.size := by
      rw [foldl_reverse_digits]
      exact bounded
    rw [accumulate_of_lt below, foldl_reverse_digits]
  unfold value
  simp only [all]
  rfl

/-- A text is a literal that has a value. -/
def Reads (text : List Char) : Prop :=
  ∃ numeral, ofText? text = some numeral ∧ numeral.complete = true ∧
    ∃ n, numeral.value = .ok n

end Numeral

namespace Number

/-- What a reader makes of the text of a number. -/
def reading (n : Number) : Except Fault Number :=
  match Numeral.ofText? n.text with
  | some numeral => numeral.value
  | none => .error .invalidNumber

/-- The text of a number is a complete literal. -/
def IsLiteral (n : Number) : Prop :=
  ∃ numeral, Numeral.ofText? n.text = some numeral ∧ numeral.complete = true

/-- The number that a reader makes of the text of a number; one whose text it refuses stays
as it is. -/
def reread (n : Number) : Number :=
  n.reading.toOption.getD n

theorem isLiteral_of_reads {n : Number} (reads : Numeral.Reads n.text) : n.IsLiteral := by
  rcases reads with ⟨numeral, spelled, complete, _⟩
  exact ⟨numeral, spelled, complete⟩

theorem reading_of_reads {n : Number} (reads : Numeral.Reads n.text) :
    n.reading = .ok n.reread := by
  rcases reads with ⟨numeral, spelled, _, m, value⟩
  have reading : n.reading = .ok m := by
    unfold reading
    rw [spelled]
    exact value
  unfold reread
  rw [reading]
  rfl

/-- An integer that is held in 64 bits, with a sign or without. -/
def isInteger64 : Number → Bool
  | integer value => -2 ^ 63 ≤ value && value < 2 ^ 64
  | float _ => false

theorem isInteger64_integer_iff {value : Int} :
    (integer value).isInteger64 = true ↔ -2 ^ 63 ≤ value ∧ value < 2 ^ 64 := by
  unfold isInteger64
  rw [Bool.and_eq_true, decide_eq_true_iff, decide_eq_true_iff]

/-- An integer of 64 bits is spelled by a literal that is read as itself. -/
theorem exists_numeral_of_isInteger64 {n : Number} (bounded : n.isInteger64 = true) :
    ∃ numeral, Numeral.ofText? n.text = some numeral ∧ numeral.complete = true ∧
      numeral.value = .ok n := by
  cases n with
  | float value => cases bounded
  | integer value =>
      have bounds := isInteger64_integer_iff.mp bounded
      have spelling : (integer value).text =
          (if value < 0 then ['-'] else []) ++ Nat.toDigits 10 value.natAbs := rfl
      have inRange : value.natAbs < UInt64.size := by
        unfold UInt64.size
        omega
      rw [spelling]
      rcases Int.lt_trichotomy value 0 with negative | zero | positive
      · rw [if_pos negative]
        refine ⟨_, Numeral.ofText?_minus value.natAbs (by omega), rfl, ?_⟩
        rw [Numeral.value_of_digits inRange]
        unfold Numeral.integer
        have inside : 0 < value.natAbs ∧ value.natAbs ≤ 1 <<< 63 := by omega
        have same : -(value.natAbs : Int) = value := by omega
        simp only [Bool.not_true, Bool.false_eq_true, if_false, if_pos inside, same]
      · subst zero
        exact ⟨{ negative := false, phase := .zero, whole := [0] }, rfl, rfl, rfl⟩
      · have plain : ¬ value < 0 := by omega
        rw [if_neg plain, List.nil_append]
        refine ⟨_, Numeral.ofText?_toDigits (by omega), rfl, ?_⟩
        rw [Numeral.value_of_digits inRange]
        unfold Numeral.integer
        have same : (value.natAbs : Int) = value := by omega
        simp only [Bool.not_false, if_true, same]

theorem reads_of_isInteger64 {n : Number} (bounded : n.isInteger64 = true) :
    Numeral.Reads n.text := by
  rcases exists_numeral_of_isInteger64 bounded with ⟨numeral, spelled, complete, value⟩
  exact ⟨numeral, spelled, complete, n, value⟩

theorem reading_of_isInteger64 {n : Number} (bounded : n.isInteger64 = true) :
    n.reading = .ok n := by
  rcases exists_numeral_of_isInteger64 bounded with ⟨numeral, spelled, _, value⟩
  unfold reading
  rw [spelled]
  exact value

theorem reread_of_isInteger64 {n : Number} (bounded : n.isInteger64 = true) : n.reread = n := by
  unfold reread
  rw [reading_of_isInteger64 bounded]
  rfl

end Number
end Json
end Bayeux
