import Bayeux.Proofs.Json.Numeral
import Bayeux.Text.Blank

namespace Bayeux
namespace Json

/-!
# The texts of a value

A value has many texts: blanks may stand before every token and after the last one, and a
character of a string may be escaped in several ways.  The members of an object come in the
order of its text, and a key may come more than once.  A number is spelled in one way only, and
lone surrogates have no spelling.
-/

/-! ## Strings -/

/-- The letters of the short escapes, with the characters that they stand for. -/
def shortEscapes : List (Char × Char) :=
  [('"', '"'), ('\\', '\\'), ('/', '/'), ('b', '\x08'), ('f', '\x0c'), ('n', '\n'), ('r', '\x0d'),
    ('t', '\t')]

/-- A code unit in four digits, in either case. -/
inductive Quotation.Digits : Nat → List Char → Prop where
  | mk {a b c d : Char} {i j k l : Nat} (first : hexValue? a = some i)
    (second : hexValue? b = some j) (third : hexValue? c = some k)
    (fourth : hexValue? d = some l) :
    Digits (16 * (16 * (16 * i + j) + k) + l) [a, b, c, d]

/-- The ways to spell a character inside a string. -/
inductive SpellsChar : Char → List Char → Prop where
  | plain {c : Char} (noQuote : c ≠ '"') (noBackslash : c ≠ '\\') (printable : ¬ c < ' ') :
    SpellsChar c [c]
  | short {c letter : Char} (named : (letter, c) ∈ shortEscapes) : SpellsChar c ['\\', letter]
  | unit {c : Char} {digits : List Char} (code : Quotation.Digits c.toNat digits) :
    SpellsChar c ('\\' :: 'u' :: digits)
  /-- A character beyond 16 bits, as a leading and a trailing surrogate. -/
  | pair {c : Char} {high low : Nat} {first second : List Char}
    (leading : Quotation.Digits high first) (trailing : Quotation.Digits low second)
    (isHigh : 0xD800 ≤ high ∧ high ≤ 0xDBFF) (isLow : 0xDC00 ≤ low ∧ low ≤ 0xDFFF)
    (code : c.toNat = 0x10000 + (high - 0xD800) * 0x400 + (low - 0xDC00)) :
    SpellsChar c ('\\' :: 'u' :: (first ++ '\\' :: 'u' :: second))

inductive SpellsChars : List Char → List Char → Prop where
  | nil : SpellsChars [] []
  | cons {c : Char} {piece rest body : List Char} (first : SpellsChar c piece)
    (others : SpellsChars rest body) : SpellsChars (c :: rest) (piece ++ body)

/-- A string literal. -/
def SpellsString (content : String) (text : List Char) : Prop :=
  ∃ body, SpellsChars content.toList body ∧ text = '"' :: (body ++ ['"'])

/-! ## Values -/

/-- White space. -/
def Blank (text : List Char) : Prop :=
  ∀ c ∈ text, Scanner.isSpace c = true

/-- A text with blanks before it. -/
def AfterBlanks (spells : List Char → Prop) (text : List Char) : Prop :=
  ∃ blanks core, Blank blanks ∧ spells core ∧ text = blanks ++ core

/-- A key with its colon. -/
def SpellsKey (key : String) (text : List Char) : Prop :=
  ∃ name blanks, AfterBlanks (SpellsString key) name ∧ Blank blanks ∧
    text = name ++ (blanks ++ [':'])

mutual

/-- The texts of a value, from its first character to its last. -/
def Value.Spells : Value → List Char → Prop
  | .null, text => text = "null".toList
  | .truth value, text => text = (if value then "true" else "false").toList
  | .number n, text => text = n.text
  | .string content, text => SpellsString content text
  | .array [], text => ∃ blanks, Blank blanks ∧ text = '[' :: (blanks ++ [']'])
  | .array (v :: vs), text =>
    ∃ first others blanks, AfterBlanks v.Spells first ∧ Value.SpellsItems vs others ∧
      Blank blanks ∧ text = '[' :: (first ++ (others ++ (blanks ++ [']'])))
  | .object [], text => ∃ blanks, Blank blanks ∧ text = '\x7b' :: (blanks ++ ['\x7d'])
  | .object ((key, v) :: members), text =>
    ∃ name first others blanks, SpellsKey key name ∧ AfterBlanks v.Spells first ∧
      Value.SpellsMembers members others ∧ Blank blanks ∧
        text = '\x7b' :: (name ++ (first ++ (others ++ (blanks ++ ['\x7d']))))

/-- The items after the first. -/
def Value.SpellsItems : List Value → List Char → Prop
  | [], text => text = []
  | v :: vs, text =>
    ∃ blanks next others, Blank blanks ∧ AfterBlanks v.Spells next ∧
      Value.SpellsItems vs others ∧ text = blanks ++ ',' :: (next ++ others)

/-- The members after the first. -/
def Value.SpellsMembers : List (String × Value) → List Char → Prop
  | [], text => text = []
  | (key, v) :: members, text =>
    ∃ blanks name next others, Blank blanks ∧ SpellsKey key name ∧ AfterBlanks v.Spells next ∧
      Value.SpellsMembers members others ∧ text = blanks ++ ',' :: (name ++ (next ++ others))

end

/-- A text of one value, with blanks around it. -/
def Value.IsTextOf (text : String) (v : Value) : Prop :=
  ∃ core blanks, AfterBlanks v.Spells core ∧ Blank blanks ∧ text.toList = core ++ blanks

/-! ## Numbers -/

mutual

/-- All numbers inside a value. -/
def Value.numbers : Value → List Number
  | .number n => [n]
  | .array items => Value.itemNumbers items
  | .object members => Value.memberNumbers members
  | .null | .truth _ | .string _ => []

def Value.itemNumbers : List Value → List Number
  | [] => []
  | v :: vs => v.numbers ++ Value.itemNumbers vs

def Value.memberNumbers : List (String × Value) → List Number
  | [] => []
  | (_, v) :: members => v.numbers ++ Value.memberNumbers members

end

theorem Value.mem_numbers_array {items : List Value} {n : Number} :
    n ∈ (array items).numbers ↔ ∃ v ∈ items, n ∈ v.numbers := by
  rw [numbers]
  induction items with
  | nil => simp [itemNumbers]
  | cons item rest inductionHypothesis =>
      simp only [itemNumbers, List.mem_append, List.mem_cons, exists_eq_or_imp,
        inductionHypothesis]

theorem Value.mem_numbers_object {members : List (String × Value)} {n : Number} :
    n ∈ (object members).numbers ↔ ∃ member ∈ members, n ∈ member.2.numbers := by
  rw [numbers]
  induction members with
  | nil => simp [memberNumbers]
  | cons member rest inductionHypothesis =>
      simp only [memberNumbers, List.mem_append, List.mem_cons, exists_eq_or_imp,
        inductionHypothesis]

/-! ## How a text begins -/

/-- A number begins with its sign or with a digit. -/
theorem Numeral.toNat_of_start? {c : Char} {numeral : Numeral} (starts : start? c = some numeral) :
    45 ≤ c.toNat ∧ c.toNat ≤ 57 := by
  unfold start? at starts
  split at starts
  next minus => rw [minus]; decide
  next =>
    split at starts
    next zero => rw [zero]; decide
    next =>
      rcases Option.map_eq_some_iff.mp starts with ⟨d, digit, _⟩
      unfold digit? at digit
      split at digit
      next range =>
        have least : 48 ≤ c.toNat := range.1
        have greatest : c.toNat ≤ 57 := range.2
        omega
      next => cases digit

theorem Number.IsLiteral.exists_head {n : Number} (literal : n.IsLiteral) :
    ∃ c rest, n.text = c :: rest ∧ 45 ≤ c.toNat ∧ c.toNat ≤ 57 := by
  rcases literal with ⟨numeral, found, _⟩
  cases spelling : n.text with
  | nil =>
      rw [spelling] at found
      cases found
  | cons c rest =>
      rw [spelling] at found
      rcases Option.bind_eq_some_iff.mp found with ⟨first, starts, _⟩
      exact ⟨c, rest, rfl, Numeral.toNat_of_start? starts⟩

theorem Value.exists_tail_of_array {items : List Value} {text : List Char}
    (spelled : (array items).Spells text) : ∃ rest, text = '[' :: rest := by
  cases items with
  | nil =>
      rw [Value.Spells] at spelled
      rcases spelled with ⟨_, _, same⟩
      exact ⟨_, same⟩
  | cons v vs =>
      rw [Value.Spells] at spelled
      rcases spelled with ⟨_, _, _, _, _, _, same⟩
      exact ⟨_, same⟩

theorem Value.exists_tail_of_object {members : List (String × Value)} {text : List Char}
    (spelled : (object members).Spells text) : ∃ rest, text = '\x7b' :: rest := by
  cases members with
  | nil =>
      rw [Value.Spells] at spelled
      rcases spelled with ⟨_, _, same⟩
      exact ⟨_, same⟩
  | cons member members =>
      rw [Value.Spells] at spelled
      rcases spelled with ⟨_, _, _, _, _, _, _, _, same⟩
      exact ⟨_, same⟩

/-- No value begins with a blank, and only an object begins with a brace. -/
theorem Value.exists_head_of_spells {v : Value} (literals : ∀ n ∈ v.numbers, n.IsLiteral)
    {text : List Char} (spelled : v.Spells text) :
    ∃ c rest, text = c :: rest ∧ Text.isBlank c = false ∧
      (c = '\x7b' ↔ ∃ members, v = .object members) := by
  cases v with
  | null =>
      rw [Value.Spells] at spelled
      exact ⟨'n', _, spelled, by decide, by simp⟩
  | truth value =>
      rw [Value.Spells] at spelled
      cases value with
      | false => exact ⟨'f', _, spelled, by decide, by simp⟩
      | true => exact ⟨'t', _, spelled, by decide, by simp⟩
  | number n =>
      rw [Value.Spells] at spelled
      have literal := literals n (by rw [Value.numbers]; exact List.mem_singleton_self n)
      rcases literal.exists_head with ⟨c, rest, spelling, least, greatest⟩
      refine ⟨c, rest, spelled.trans spelling, ?_, ?_⟩
      · simp [Text.isBlank]
        omega
      · have noBrace : c ≠ '\x7b' := by
          rintro rfl
          exact absurd greatest (by decide)
        simp [noBrace]
  | string content =>
      rw [Value.Spells] at spelled
      rcases spelled with ⟨body, _, same⟩
      exact ⟨_, _, same, by decide, by simp⟩
  | array items =>
      rcases exists_tail_of_array spelled with ⟨rest, same⟩
      exact ⟨_, rest, same, by decide, by simp⟩
  | object members =>
      rcases exists_tail_of_object spelled with ⟨rest, same⟩
      exact ⟨_, rest, same, by decide, by simp⟩

theorem isBlank_of_isSpace {c : Char} (space : Scanner.isSpace c = true) :
    Text.isBlank c = true := by
  simp only [Scanner.isSpace, Bool.or_eq_true, beq_iff_eq] at space
  rcases space with ((rfl | rfl) | rfl) | rfl <;> decide

/-- The first character that is no blank tells an object from all other values. -/
theorem Value.head?_trimStart_of_isTextOf {v : Value} {text : String}
    (literals : ∀ n ∈ v.numbers, n.IsLiteral) (spelled : v.IsTextOf text) :
    (Text.trimStart text.toList).head? = some '\x7b' ↔ ∃ members, v = .object members := by
  rcases spelled with ⟨_, after, ⟨before, core, leading, spelled, rfl⟩, _, same⟩
  rcases exists_head_of_spells literals spelled with ⟨c, rest, rfl, visible, brace⟩
  unfold Text.trimStart
  rw [same, List.append_assoc,
    List.dropWhile_append_of_pos fun c member => isBlank_of_isSpace (leading c member),
    List.cons_append, List.dropWhile_cons_of_neg (by simp [visible]), List.head?_cons,
    Option.some.injEq]
  exact brace

end Json
end Bayeux
