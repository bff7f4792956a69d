import Bayeux.Browser
import Bayeux.Proofs.Text.Positional

namespace Bayeux

/-!
# Ids of browsers

An id is four numbers without anything between them.  In base 36 each number has a single spelling,
and the spelling tells the number.  The random number in an id can still be told from the time
behind it as long as the time has the same number of digits, so at one time it alone decides
whether two browsers on one port get different ids.
-/

/-! ## Base 36 -/

namespace Base36

/-- The characters of ids: numerals, then lower-case letters. -/
def alphabet : List Char :=
  "0123456789abcdefghijklmnopqrstuvwxyz".toList

/-- The number that a text stands for.  Each character counts for its place in the alphabet. -/
def value (text : String) : Nat :=
  Nat.ofDigits 36 (text.toList.map alphabet.idxOf).reverse

/-- A text that stands for a number, with characters of the alphabet only and no zeros in front. -/
structure Spells (text : String) (n : Nat) : Prop where
  present : text ≠ ""
  characters : ∀ c ∈ text.toList, c ∈ alphabet
  leading : text.toList.head? = some '0' → text = "0"
  value : value text = n

theorem alphabet_eq_map_range : alphabet = (List.range 36).map digit := by
  decide

theorem digit_mem_alphabet {d : Nat} (small : d < 36) : digit d ∈ alphabet := by
  rw [alphabet_eq_map_range]
  exact List.mem_map_of_mem (List.mem_range.mpr small)

theorem idxOf_digit : ∀ d < 36, alphabet.idxOf (digit d) = d := by
  decide

theorem digit_idxOf {c : Char} (listed : c ∈ alphabet) : digit (alphabet.idxOf c) = c := by
  rw [alphabet_eq_map_range] at listed
  rcases List.mem_map.mp listed with ⟨d, inRange, rfl⟩
  rw [idxOf_digit d (List.mem_range.mp inRange)]

theorem isPositional_digits : Text.IsPositional 36 digit digits := fun n => by
  rw [digits]

theorem digits_eq_map_places (n : Nat) : digits n = (Text.places 36 n).map digit :=
  isPositional_digits.eq_map_places (by norm_num) n

theorem mem_alphabet_of_mem_digits {n : Nat} {c : Char} (member : c ∈ digits n) :
    c ∈ alphabet := by
  rcases isPositional_digits.exists_digit_of_mem (by norm_num) member with ⟨d, small, rfl⟩
  exact digit_mem_alphabet small

theorem digits_ne_nil (n : Nat) : digits n ≠ [] := by
  rw [digits_eq_map_places]
  exact mt List.map_eq_nil_iff.mp (Text.places_ne_nil 36 n)

theorem map_idxOf_digits (n : Nat) : (digits n).map alphabet.idxOf = Text.places 36 n := by
  rw [digits_eq_map_places, List.map_map]
  calc
    (Text.places 36 n).map (alphabet.idxOf ∘ digit) = (Text.places 36 n).map id :=
      List.map_congr_left fun d member =>
        idxOf_digit d (Text.lt_of_mem_places (by norm_num) member)
    _ = Text.places 36 n := List.map_id _

theorem map_digit_idxOf {text : List Char} (characters : ∀ c ∈ text, c ∈ alphabet) :
    (text.map alphabet.idxOf).map digit = text := by
  rw [List.map_map]
  calc
    text.map (digit ∘ alphabet.idxOf) = text.map id :=
      List.map_congr_left fun c member => digit_idxOf (characters c member)
    _ = text := List.map_id _

/-- What is written for a number is read as that number. -/
theorem leftInverse_value : Function.LeftInverse value text := fun n => by
  rw [value, text, String.toList_ofList, map_idxOf_digits, Text.ofDigits_places]

theorem digits_injective : Function.Injective digits := fun _ _ same =>
  leftInverse_value.injective (congrArg String.ofList same)

theorem spells_text (n : Nat) : Spells (text n) n where
  present := fun empty => digits_ne_nil n (String.ofList_injective empty)
  characters := fun c member => by
    rw [text, String.toList_ofList] at member
    exact mem_alphabet_of_mem_digits member
  leading := fun first => by
    rw [text, String.toList_ofList] at first
    have place : (Text.places 36 n).head? = some 0 := by
      rw [← map_idxOf_digits, List.head?_map, first]
      rfl
    rw [text, digits_eq_map_places, Text.places_eq_singleton_of_head? place]
    rfl
  value := leftInverse_value n

theorem eq_zero_of_idxOf {c : Char} (listed : c ∈ alphabet) (first : alphabet.idxOf c = 0) :
    c = '0' := by
  rw [← digit_idxOf listed, first]
  rfl

theorem Spells.map_idxOf_eq_places {spelling : String} {n : Nat} (spells : Spells spelling n) :
    spelling.toList.map alphabet.idxOf = Text.places 36 n := by
  have small : ∀ d ∈ spelling.toList.map alphabet.idxOf, d < 36 := by
    intro d member
    rcases List.mem_map.mp member with ⟨c, listed, rfl⟩
    exact List.idxOf_lt_length_of_mem (spells.characters c listed)
  have present : spelling.toList.map alphabet.idxOf ≠ [] := fun empty =>
    spells.present (String.toList_eq_nil_iff.mp (List.map_eq_nil_iff.mp empty))
  have leading : (spelling.toList.map alphabet.idxOf).head? = some 0 →
      spelling.toList.map alphabet.idxOf = [0] := by
    intro first
    rw [List.head?_map] at first
    rcases Option.map_eq_some_iff.mp first with ⟨c, head, zero⟩
    rw [eq_zero_of_idxOf (spells.characters c (List.mem_of_head? head)) zero] at head
    rw [spells.leading head]
    rfl
  rw [← spells.value, Base36.value, Text.places_ofDigits (by norm_num) small present leading]

/-- What is written for a number is the only spelling that it has. -/
theorem Spells.eq_text {spelling : String} {n : Nat} (spells : Spells spelling n) :
    spelling = text n := by
  rw [text, digits_eq_map_places, ← spells.map_idxOf_eq_places,
    map_digit_idxOf spells.characters, String.ofList_toList]

theorem length_text_le_iff {n k : Nat} (room : 0 < k) : (text n).length ≤ k ↔ n < 36 ^ k := by
  rw [text, String.length_ofList, digits_eq_map_places, List.length_map,
    Text.length_places_le_iff (by norm_num) room]

end Base36

theorem Text.hexDigit_mem_alphabet : ∀ d < 16, hexDigit d ∈ Base36.alphabet := by
  decide

theorem Text.mem_alphabet_of_mem_hexDigits {n : Nat} {c : Char} (member : c ∈ hexDigits n) :
    c ∈ Base36.alphabet := by
  rcases isPositional_hexDigits.exists_digit_of_mem (by norm_num) member with ⟨d, small, rfl⟩
  exact hexDigit_mem_alphabet d small

/-! ## Ids -/

namespace BrowserId

variable {port random now other later : Nat}

theorem toList_generate (port random now : Nat) :
    (generate port random now).text.toList =
      Text.hexDigits port ++ Base36.digits random ++ Base36.digits now ++ Base36.digits port :=
  String.toList_ofList

/-- Every id consists of numerals and lower-case letters. -/
theorem mem_alphabet_of_mem_generate {c : Char}
    (member : c ∈ (generate port random now).text.toList) : c ∈ Base36.alphabet := by
  rw [toList_generate] at member
  simp only [List.mem_append] at member
  rcases member with ((hex | middle) | time) | last
  · exact Text.mem_alphabet_of_mem_hexDigits hex
  · exact Base36.mem_alphabet_of_mem_digits middle
  · exact Base36.mem_alphabet_of_mem_digits time
  · exact Base36.mem_alphabet_of_mem_digits last

theorem generate_ne_nil (port random now : Nat) : (generate port random now).text.toList ≠ [] := by
  rw [toList_generate]
  exact List.append_ne_nil_of_right_ne_nil _ (Base36.digits_ne_nil port)

/-- Ids of one port tell the random number and the time, if the times have equally many digits. -/
theorem generate_eq_generate_iff
    (sameLength : (Base36.digits now).length = (Base36.digits later).length) :
    generate port random now = generate port other later ↔ random = other ∧ now = later := by
  constructor
  · intro same
    have texts := congrArg (fun id : BrowserId => id.text.toList) same
    simp only [toList_generate, List.append_assoc] at texts
    -- The port cancels at both ends.  Between the other two numbers nothing shows where the first
    -- one ends, but both times reach equally far back from the end.
    have middle := List.append_cancel_left texts
    rw [← List.append_assoc, ← List.append_assoc] at middle
    rcases List.append_inj' (List.append_cancel_right middle) sameLength with ⟨first, second⟩
    exact ⟨Base36.digits_injective first, Base36.digits_injective second⟩
  · rintro ⟨rfl, rfl⟩
    rfl

/-- A time with fewer digits can make up for another random number. -/
example : generate 1 1 36 = generate 1 37 0 := by
  decide +kernel

/-- In base 36 each number has exactly one spelling without zeros in front, of at most thirteen
characters if it has 64 bits, and different numbers are written differently.  An id begins with
its port in hexadecimal, ends with the port in base 36 and shows nothing but numerals and
lower-case letters, and on one port at one time only the same random number gives the same id. -/
theorem generate_distinguishes (port random now : Nat) :
    let id := generate port random now
    (∀ text n, Base36.Spells text n ↔ text = Base36.text n) ∧
      (∀ n < 2 ^ 64, 1 ≤ (Base36.text n).length ∧ (Base36.text n).length ≤ 13) ∧
      Function.Injective Base36.text ∧
      (∀ other, generate port other now = id ↔ other = random) ∧
      Nat.toDigits 16 port <+: id.text.toList ∧
      (Base36.text port).toList <:+ id.text.toList ∧
      ∀ c ∈ id.text.toList, c ∈ Base36.alphabet := by
  intro id
  refine ⟨fun text n => ⟨Base36.Spells.eq_text, ?_⟩, fun n small => ⟨?_, ?_⟩,
    Base36.leftInverse_value.injective, fun other => ?_, ?_, ?_,
    fun c member => mem_alphabet_of_mem_generate member⟩
  · rintro rfl
    exact Base36.spells_text n
  · rw [Base36.text, String.length_ofList]
    exact List.length_pos_of_ne_nil (Base36.digits_ne_nil n)
  · have room : (2 : Nat) ^ 64 ≤ 36 ^ 13 := by norm_num
    exact (Base36.length_text_le_iff (by norm_num)).mpr (small.trans_le room)
  · exact (generate_eq_generate_iff rfl).trans (and_iff_left rfl)
  · rw [toList_generate, List.append_assoc, List.append_assoc, ← Text.hexDigits_eq_toDigits]
    exact List.prefix_append _ _
  · rw [toList_generate, Base36.text, String.toList_ofList]
    exact List.suffix_append _ _

/-- The greatest number of 64 bits takes all thirteen characters, and the id that is minted with it
differs from the one with the number before it. -/
theorem generate_distinguishes_greatest :
    2 ^ 64 - 1 < 2 ^ 64 ∧ Base36.Spells "3w5e11264sgsf" (2 ^ 64 - 1) ∧
      Base36.text (2 ^ 64 - 1) = "3w5e11264sgsf" ∧ (Base36.text (2 ^ 64 - 1)).length ≤ 13 ∧
      generate 8080 (2 ^ 64 - 2) 1000 ≠ generate 8080 (2 ^ 64 - 1) 1000 := by
  have written : Base36.text (2 ^ 64 - 1) = "3w5e11264sgsf" := by
    decide +kernel
  rcases generate_distinguishes 8080 (2 ^ 64 - 1) 1000 with ⟨spells, short, _, same, _⟩
  exact ⟨by norm_num, (spells _ _).mpr written.symm, written, (short _ (by norm_num)).2,
    fun equal => absurd ((same _).mp equal) (by norm_num)⟩

end BrowserId

end Bayeux
