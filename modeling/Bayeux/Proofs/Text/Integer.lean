import Bayeux.Proofs.Text.Parts
import Bayeux.Text.Integer
import Mathlib.Tactic.NormNum

namespace Bayeux
namespace Text

/-!
# Which texts are numbers

What the readers of options accept, said without them: digits and their value in decimal, with
a sign where there may be one, within 64 bits.  Zeros may precede a number, blanks may not.
-/

/-- A nonempty run of digits, with the number that it stands for in decimal. -/
structure IsNumeral (text : List Char) (n : Nat) : Prop where
  present : text ≠ []
  digits : ∀ c ∈ text, c.isDigit = true
  value : Nat.ofDigitChars 10 text 0 = n

/-- Digits, or digits after a plus sign. -/
def IsNatural (text : List Char) (n : Nat) : Prop :=
  IsNumeral text n ∨ ∃ digits, text = '+' :: digits ∧ IsNumeral digits n

/-- A natural number of 64 bits. -/
def IsUnsigned64 (text : String) (n : Nat) : Prop :=
  IsNatural text.toList n ∧ n < 2 ^ 64

/-- A signed integer of 64 bits. -/
def IsSigned64 (text : String) (i : Int) : Prop :=
  ((∃ n : Nat, IsNatural text.toList n ∧ i = n) ∨
      ∃ (digits : List Char) (n : Nat), text.toList = '-' :: digits ∧ IsNumeral digits n ∧ i = -n) ∧
    -2 ^ 63 ≤ i ∧ i < 2 ^ 63

/-- The word for a truth value. -/
def IsTruth (text : String) (flag : Bool) : Prop :=
  text = if flag then "true" else "false"

/-! ## What the readers accept -/

theorem isDigit_iff (c : Char) : c.isDigit = true ↔ '0' ≤ c ∧ c ≤ '9' := by
  simp only [Char.isDigit, ge_iff_le, Bool.and_eq_true, decide_eq_true_eq]
  rfl

/-- What the digits' fold makes of a text after a number that was read before it. -/
theorem foldl_digits (text : List Char) (start : Nat) :
    text.foldl (fun value c => value.bind fun n =>
        if '0' ≤ c ∧ c ≤ '9' then some (10 * n + (c.toNat - 48)) else none) (some start) =
      if text.all Char.isDigit then some (Nat.ofDigitChars 10 text start) else none := by
  induction text generalizing start with
  | nil => rfl
  | cons c rest inductionHypothesis =>
      -- One character that is no digit spoils the rest.
      have refused : ∀ rest : List Char,
          rest.foldl (fun value c => value.bind fun n =>
            if '0' ≤ c ∧ c ≤ '9' then some (10 * n + (c.toNat - 48)) else none) none = none := by
        intro rest
        induction rest with
        | nil => rfl
        | cons d rest later => exact later
      rw [List.foldl_cons, Option.bind_some]
      by_cases digit : c.isDigit = true
      · rw [if_pos ((isDigit_iff c).mp digit), inductionHypothesis, Nat.ofDigitChars_cons,
          List.all_cons, digit, Bool.true_and]
        rfl
      · rw [if_neg (mt (isDigit_iff c).mpr digit), refused, List.all_cons,
          Bool.eq_false_iff.mpr digit, Bool.false_and]
        rfl

theorem digits?_eq_some_iff {text : List Char} {n : Nat} :
    digits? text = some n ↔ IsNumeral text n := by
  unfold digits?
  by_cases empty : text = []
  · rw [if_pos (List.isEmpty_iff.mpr empty)]
    exact ⟨nofun, fun numeral => absurd empty numeral.present⟩
  · rw [if_neg (mt List.isEmpty_iff.mp empty), foldl_digits]
    constructor
    · intro read
      split at read
      next digits => exact ⟨empty, List.all_eq_true.mp digits, Option.some.inj read⟩
      next => cases read
    · rintro ⟨_, digits, rfl⟩
      rw [if_pos (List.all_eq_true.mpr digits)]

/-- A sign is no digit. -/
theorem IsNumeral.ne_cons {c : Char} {rest : List Char} {n : Nat}
    (numeral : IsNumeral (c :: rest) n) : c ≠ '+' ∧ c ≠ '-' := by
  have digit := numeral.digits c List.mem_cons_self
  constructor
  · rintro rfl
    exact absurd digit (by decide)
  · rintro rfl
    exact absurd digit (by decide)

theorem natBelow?_eq_some_iff {bound n : Nat} {text : List Char} :
    natBelow? bound text = some n ↔ IsNatural text n ∧ n < bound := by
  have bounded : ∀ digits, (digits? digits).filter (· < bound) = some n ↔
      IsNumeral digits n ∧ n < bound := by
    intro digits
    rw [Option.filter_eq_some_iff, digits?_eq_some_iff, decide_eq_true_iff]
  unfold natBelow? IsNatural
  split
  next digits =>
    rw [bounded]
    refine and_congr_left' ⟨fun numeral => Or.inr ⟨digits, rfl, numeral⟩, ?_⟩
    rintro (numeral | ⟨other, same, numeral⟩)
    · exact absurd rfl numeral.ne_cons.1
    · cases same
      exact numeral
  next unsigned =>
    rw [bounded]
    refine and_congr_left' ⟨Or.inl, ?_⟩
    rintro (numeral | ⟨digits, same, _⟩)
    · exact numeral
    · exact absurd same (unsigned digits)

theorem unsigned64?_eq_some_iff {text : String} {n : Nat} :
    unsigned64? text = some n ↔ IsUnsigned64 text n :=
  natBelow?_eq_some_iff

theorem signed64?_eq_some_iff {text : String} {i : Int} :
    signed64? text = some i ↔ IsSigned64 text i := by
  have wide : (1 <<< 63 : Nat) = 2 ^ 63 := rfl
  have cast : ∀ (natural : Option Nat) (i : Int),
      (do let n ← natural; pure (n : Int)) = some i ↔
        ∃ n : Nat, natural = some n ∧ (n : Int) = i := by
    intro natural i
    simp only [bind, pure, Option.bind_eq_some_iff, Option.some.injEq]
  unfold signed64? intWithin? IsSigned64
  split
  next digits minus =>
    simp only [minus, Option.map_eq_some_iff, cast, Option.filter_eq_some_iff, digits?_eq_some_iff,
      decide_eq_true_iff, wide]
    constructor
    · rintro ⟨_, ⟨n, ⟨numeral, small⟩, rfl⟩, rfl⟩
      exact ⟨Or.inr ⟨digits, n, rfl, numeral, rfl⟩, by omega, by omega⟩
    · rintro ⟨⟨n, natural, _⟩ | ⟨_, n, same, numeral, rfl⟩, least, _⟩
      · rcases natural with numeral | ⟨_, same, _⟩
        · exact absurd rfl numeral.ne_cons.2
        · cases same
      · cases same
        exact ⟨n, ⟨n, ⟨numeral, by omega⟩, rfl⟩, rfl⟩
  next unsigned =>
    simp only [Option.map_eq_some_iff, cast, natBelow?_eq_some_iff, wide]
    constructor
    · rintro ⟨_, ⟨n, ⟨natural, small⟩, rfl⟩, rfl⟩
      exact ⟨Or.inl ⟨n, natural, rfl⟩, by omega, by omega⟩
    · rintro ⟨⟨n, natural, rfl⟩ | ⟨digits, n, minus, _⟩, _, greatest⟩
      · exact ⟨n, ⟨n, ⟨natural, by omega⟩, rfl⟩, rfl⟩
      · exact absurd minus (unsigned digits)

theorem truth?_eq_some_iff {text : String} {flag : Bool} :
    truth? text = some flag ↔ IsTruth text flag := by
  unfold truth? IsTruth
  by_cases yes : text = "true"
  · cases flag <;> simp [yes]
  · by_cases no : text = "false"
    · cases flag <;> simp [no]
    · cases flag <;> simp [yes, no]

/-! ## Written numbers -/

theorem isNumeral_toDigits (n : Nat) : IsNumeral (Nat.toDigits 10 n) n where
  present := Nat.toDigits_ne_nil
  digits := fun _ => Nat.isDigit_of_mem_toDigits (by norm_num) (by norm_num)
  value := Nat.ofDigitChars_ten_toDigits

theorem toList_toString_nat (n : Nat) : (toString n).toList = Nat.toDigits 10 n := by
  rw [Nat.toString_eq_ofList_toDigits, String.toList_ofList]

theorem toList_toString_negSucc (n : Nat) :
    (toString (Int.negSucc n)).toList = '-' :: Nat.toDigits 10 (n + 1) := by
  change ("-" ++ toString (n + 1)).toList = _
  rw [String.toList_append, toList_toString_nat]
  exact List.singleton_append

theorem isUnsigned64_toString {n : Nat} (small : n < 2 ^ 64) : IsUnsigned64 (toString n) n := by
  refine ⟨Or.inl ?_, small⟩
  rw [toList_toString_nat]
  exact isNumeral_toDigits n

theorem isSigned64_toString {i : Int} (least : -2 ^ 63 ≤ i) (greatest : i < 2 ^ 63) :
    IsSigned64 (toString i) i := by
  refine ⟨?_, least, greatest⟩
  cases i with
  | ofNat n =>
      refine Or.inl ⟨n, Or.inl ?_, rfl⟩
      change IsNumeral (toString n).toList n
      rw [toList_toString_nat]
      exact isNumeral_toDigits n
  | negSucc n =>
      exact Or.inr ⟨_, n + 1, toList_toString_negSucc n, isNumeral_toDigits _, rfl⟩

/-! ## No blanks in them -/

theorem isBlank_eq_false_of_isDigit {c : Char} (digit : c.isDigit = true) : isBlank c = false := by
  rw [isDigit_iff] at digit
  have least : 48 ≤ c.toNat := digit.1
  have greatest : c.toNat ≤ 57 := digit.2
  simp only [isBlank, Bool.or_eq_false_iff, Bool.and_eq_false_iff, decide_eq_false_iff_not,
    beq_eq_false_iff_ne]
  omega

theorem isBlank_eq_false_of_mem_toDigits {n : Nat} {c : Char} (listed : c ∈ Nat.toDigits 10 n) :
    isBlank c = false :=
  isBlank_eq_false_of_isDigit ((isNumeral_toDigits n).digits c listed)

theorem trimmed_of_visible {text : String} (visible : ∀ c ∈ text.toList, isBlank c = false) :
    trimmed text = text := by
  rw [trimmed, trim_of_visible visible, String.ofList_toList]

theorem trimmed_toString_nat (n : Nat) : trimmed (toString n) = toString n := by
  refine trimmed_of_visible fun c listed => ?_
  rw [toList_toString_nat] at listed
  exact isBlank_eq_false_of_mem_toDigits listed

theorem trimmed_toString_int (i : Int) : trimmed (toString i) = toString i := by
  cases i with
  | ofNat n => exact trimmed_toString_nat n
  | negSucc n =>
      refine trimmed_of_visible fun c listed => ?_
      rw [toList_toString_negSucc] at listed
      rcases List.mem_cons.mp listed with rfl | digit
      · decide
      · exact isBlank_eq_false_of_mem_toDigits digit

end Text
end Bayeux
