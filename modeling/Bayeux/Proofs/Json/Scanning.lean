import Bayeux.Proofs.Json.Spelling

namespace Bayeux
namespace Json

/-!
# Scanning the texts of a value

However a value is spelled, its text is scanned into the tokens of the value.  A text grows piece
by piece, and so do its tokens.  It is open when the scanner is between two tokens at its end.
After a number the scanner cannot know yet that the number is complete: such a text is closed,
and only a character that may follow a value opens it again.
-/

/-! ## The tokens of a value -/

mutual

def Value.tokens : Value → List Token
  | .null => [.null]
  | .truth value => [.truth value]
  | .number n => [.number n.reading]
  | .string text => [.string (.ok text)]
  | .array [] => [.openList, .closeList]
  | .array (v :: vs) => .openList :: (v.tokens ++ (Value.itemTokens vs ++ [.closeList]))
  | .object [] => [.openObject, .closeObject]
  | .object ((key, v) :: members) =>
    .openObject :: .string (.ok key) :: .colon ::
      (v.tokens ++ (Value.memberTokens members ++ [.closeObject]))

/-- The tokens of the items after the first. -/
def Value.itemTokens : List Value → List Token
  | [] => []
  | v :: vs => .comma :: (v.tokens ++ Value.itemTokens vs)

/-- The tokens of the members after the first. -/
def Value.memberTokens : List (String × Value) → List Token
  | [] => []
  | (key, v) :: members =>
    .comma :: .string (.ok key) :: .colon :: (v.tokens ++ Value.memberTokens members)

end

namespace Scanner

/-! ## Open and closed texts -/

/-- The scanner between two tokens. -/
def after (tokens : List Token) : Scanner :=
  { out := tokens.reverse }

/-- The scanner is between two tokens at the end of a text. -/
def Open (text : List Char) (tokens : List Token) : Prop :=
  text.foldl step {} = after tokens

/-- The characters that may follow a value: punctuation and white space. -/
def delimiters : List Char :=
  [',', ']', '\x7d', ' ', '\n', '\t', '\x0d']

/-- A text has the given tokens if it ends here, or if a delimiter comes next. -/
def Closed (text : List Char) (tokens : List Token) : Prop :=
  (∀ c ∈ delimiters, (text.foldl step {}).step c = (after tokens).step c) ∧
    (text.foldl step {}).finish = tokens

theorem emit_eq_after (tokens : List Token) (mode : Mode) (token : Token) :
    ({ out := tokens.reverse, mode } : Scanner).emit token = after (tokens ++ [token]) := by
  unfold emit after
  rw [List.reverse_append]
  rfl

theorem open_nil : Open [] [] := rfl

theorem scan_of_closed {text : List Char} {tokens : List Token} (closed : Closed text tokens) :
    scan text = tokens :=
  closed.2

section Punctuation

variable {text blanks : List Char} {tokens : List Token}

theorem Open.closed (opened : Open text tokens) : Closed text tokens := by
  unfold Open at opened
  unfold Closed
  rw [opened]
  refine ⟨fun _ _ => rfl, ?_⟩
  exact List.reverse_reverse tokens

/-- A character that is a token by itself. -/
theorem Open.push (opened : Open text tokens) {c : Char} {token : Token}
    (single : ∀ tokens, (after tokens).step c = (after tokens).emit token) :
    Open (text ++ [c]) (tokens ++ [token]) := by
  unfold Open
  rw [List.foldl_append, opened, List.foldl_cons, List.foldl_nil, single]
  exact emit_eq_after tokens .between token

theorem Closed.push (closed : Closed text tokens) {c : Char} (delimits : c ∈ delimiters)
    {token : Token} (single : ∀ tokens, (after tokens).step c = (after tokens).emit token) :
    Open (text ++ [c]) (tokens ++ [token]) := by
  unfold Open
  rw [List.foldl_append, List.foldl_cons, List.foldl_nil, closed.1 c delimits, single]
  exact emit_eq_after tokens .between token

theorem step_space (tokens : List Token) {c : Char} (space : isSpace c = true) :
    (after tokens).step c = after tokens := by
  change (after tokens).startStep c = after tokens
  unfold startStep
  rw [if_pos space]
  rfl

theorem Open.blank (opened : Open text tokens) (blank : Blank blanks) :
    Open (text ++ blanks) tokens := by
  unfold Open
  rw [List.foldl_append, opened]
  induction blanks with
  | nil => rfl
  | cons c rest inductionHypothesis =>
      rw [List.foldl_cons, step_space tokens (blank c List.mem_cons_self)]
      exact inductionHypothesis fun other member => blank other (List.mem_cons_of_mem c member)

theorem mem_delimiters_of_isSpace {c : Char} (space : isSpace c = true) : c ∈ delimiters := by
  simp only [isSpace, Bool.or_eq_true, beq_iff_eq] at space
  rcases space with ((rfl | rfl) | rfl) | rfl <;> decide

/-- Blanks end a number, and nothing else is changed by them. -/
theorem Closed.blank (closed : Closed text tokens) (blank : Blank blanks) :
    Closed (text ++ blanks) tokens := by
  cases blanks with
  | nil => rwa [List.append_nil]
  | cons c rest =>
      have space := blank c List.mem_cons_self
      have opened : Open (text ++ [c]) tokens := by
        unfold Open
        rw [List.foldl_append, List.foldl_cons, List.foldl_nil,
          closed.1 c (mem_delimiters_of_isSpace space), step_space tokens space]
      have others := opened.blank fun other member => blank other (List.mem_cons_of_mem c member)
      rw [List.append_cons]
      exact others.closed

end Punctuation

/-! ## Strings -/

/-- Hexadecimal digits take up one byte each. -/
theorem utf8Size_of_hexValue? {c : Char} {d : Nat} (digit : Quotation.hexValue? c = some d) :
    c.utf8Size = 1 := by
  have ascii : c ≤ '\x7f' := by
    have below : ∀ {last : Char}, c ≤ last → last ≤ '\x7f' → c ≤ '\x7f' := Char.le_trans
    unfold Quotation.hexValue? at digit
    split at digit
    next decimal => exact below decimal.2 (by decide)
    next =>
      split at digit
      next lower => exact below lower.2 (by decide)
      next =>
        split at digit
        next upper => exact below upper.2 (by decide)
        next => cases digit
  exact if_pos ascii

/-- Where a unit escape stands in a string, its code unit is taken in. -/
theorem foldl_digits (out : List Token) (chars : List Char) (lead : Option Nat) {unit : Nat}
    {text : List Char} (digits : Quotation.Digits unit text) :
    text.foldl step { out, mode := .string { chars, lead, phase := .unit 0 (some 0) } } =
      { out, mode := .string (({ chars, lead } : Quotation).resolve unit) } := by
  rcases digits with ⟨first, second, third, fourth⟩
  have phase : ∀ phase unit, ({ chars, lead, phase } : Quotation).resolve unit =
      ({ chars, lead } : Quotation).resolve unit := by
    intro phase unit
    unfold Quotation.resolve
    cases lead <;> rfl
  simp only [List.foldl_cons, List.foldl_nil, step, Quotation.step, Quotation.unitStep,
    utf8Size_of_hexValue? first, utf8Size_of_hexValue? second, utf8Size_of_hexValue? third,
    utf8Size_of_hexValue? fourth, first, second, third, fourth, Option.bind_some,
    Option.map_some]
  simp [phase]

/-- A code unit that is no half of a surrogate pair stands for its character. -/
theorem resolve_of_plain (chars : List Char) {unit : Nat}
    (plain : unit < 0xD800 ∨ 0xDFFF < unit) :
    ({ chars } : Quotation).resolve unit = { chars := Char.ofNat unit :: chars } := by
  have notTrailing : ¬ (0xDC00 ≤ unit ∧ unit ≤ 0xDFFF) := by omega
  have notLeading : ¬ (0xD800 ≤ unit ∧ unit ≤ 0xDBFF) := by omega
  simp only [Quotation.resolve, ← Bool.decide_and, notTrailing, notLeading]
  rfl

section Strings

variable {out : List Token} {chars : List Char}

theorem isPlain_toNat (c : Char) : c.toNat < 0xD800 ∨ 0xDFFF < c.toNat :=
  c.valid.imp id And.left

/-- However a character is spelled, it is read back. -/
theorem foldl_spellsChar {c : Char} {piece : List Char} (spells : SpellsChar c piece) :
    piece.foldl step { out, mode := .string { chars } } =
      { out, mode := .string { chars := c :: chars } } := by
  cases spells with
  | plain noQuote noBackslash printable =>
      rw [List.foldl_cons, List.foldl_nil]
      unfold step Quotation.step Quotation.plainStep
      simp only [if_neg noQuote, if_neg noBackslash, if_neg printable]
      rfl
  | short named =>
      simp only [shortEscapes, List.mem_cons, Prod.mk.injEq, List.not_mem_nil, or_false] at named
      rcases named with ⟨rfl, rfl⟩ | ⟨rfl, rfl⟩ | ⟨rfl, rfl⟩ | ⟨rfl, rfl⟩ | ⟨rfl, rfl⟩ |
        ⟨rfl, rfl⟩ | ⟨rfl, rfl⟩ | ⟨rfl, rfl⟩ <;> rfl
  | @unit digits code =>
      have read := foldl_digits out chars none code
      rw [resolve_of_plain chars (isPlain_toNat c), Char.ofNat_toNat] at read
      exact read
  | @pair high low first second leading trailing isHigh isLow code =>
      have notTrailing : ¬ (0xDC00 ≤ high ∧ high ≤ 0xDFFF) := by omega
      have half : ({ chars } : Quotation).resolve high =
          { chars, lead := some high, phase := .pair } := by
        simp only [Quotation.resolve, ← Bool.decide_and, notTrailing, isHigh]
        rfl
      have whole : ({ chars, lead := some high } : Quotation).resolve low =
          { chars := c :: chars } := by
        simp only [Quotation.resolve, ← Bool.decide_and, isLow]
        rw [← code, Char.ofNat_toNat]
        rfl
      have begins := foldl_digits out chars none leading
      have ends := foldl_digits out chars (some high) trailing
      rw [half] at begins
      rw [whole] at ends
      rw [List.foldl_cons, List.foldl_cons, List.foldl_append]
      exact (congrArg (List.foldl step · ('\\' :: 'u' :: second)) begins).trans ends

theorem foldl_spellsChars {content body : List Char} (spells : SpellsChars content body) :
    body.foldl step { out, mode := .string { chars } } =
      { out, mode := .string { chars := content.reverse ++ chars } } := by
  induction spells generalizing chars with
  | nil => rfl
  | cons first others inductionHypothesis =>
      rw [List.foldl_append, foldl_spellsChar first, inductionHypothesis, List.reverse_cons,
        List.append_assoc]
      rfl

theorem step_quote (out : List Token) (chars : List Char) :
    ({ out, mode := .string { chars } } : Scanner).step '"' =
      { out := .string (.ok (String.ofList chars.reverse)) :: out, mode := .between } := rfl

theorem foldl_spellsString (out : List Token) {content : String} {piece : List Char}
    (spells : SpellsString content piece) :
    piece.foldl step { out, mode := .between } =
      { out := .string (.ok content) :: out, mode := .between } := by
  rcases spells with ⟨body, spells, rfl⟩
  have quote : ({ out, mode := .between } : Scanner).step '"' =
      { out, mode := .string { chars := [] } } := rfl
  rw [List.foldl_cons, List.foldl_append, quote, foldl_spellsChars spells, List.append_nil,
    List.foldl_cons, List.foldl_nil, step_quote, List.reverse_reverse, String.ofList_toList]

end Strings

section Texts

variable {text piece : List Char} {tokens : List Token}

/-- However a string is spelled, it is scanned into its content. -/
theorem Open.string (opened : Open text tokens) {content : String}
    (spells : SpellsString content piece) :
    Open (text ++ piece) (tokens ++ [.string (.ok content)]) := by
  unfold Open
  rw [List.foldl_append, opened]
  exact (foldl_spellsString tokens.reverse spells).trans
    (emit_eq_after tokens .between (.string (.ok content)))

theorem Open.key (opened : Open text tokens) {key : String} (spells : SpellsKey key piece) :
    Open (text ++ piece) (tokens ++ [.string (.ok key), .colon]) := by
  rcases spells with ⟨_, between, ⟨before, core, leading, spelled, rfl⟩, blank, rfl⟩
  have named := ((opened.blank leading).string spelled).blank blank
  have colon := named.push (c := ':') fun _ => rfl
  simpa only [List.append_assoc, List.cons_append, List.nil_append] using colon

/-! ## Words and numbers -/

theorem Open.null (opened : Open text tokens) :
    Open (text ++ "null".toList) (tokens ++ [.null]) := by
  unfold Open
  rw [List.foldl_append, opened]
  exact emit_eq_after tokens .between .null

theorem Open.truth (opened : Open text tokens) (value : Bool) :
    Open (text ++ (if value then "true" else "false").toList) (tokens ++ [.truth value]) := by
  unfold Open
  rw [List.foldl_append, opened]
  cases value with
  | false => exact emit_eq_after tokens .between (.truth false)
  | true => exact emit_eq_after tokens .between (.truth true)

/-- No literal begins with a blank, a letter or punctuation. -/
theorem startStep_of_start? (s : Scanner) {c : Char} {numeral : Numeral}
    (starts : Numeral.start? c = some numeral) :
    s.startStep c = { s with mode := .number numeral } := by
  have other : ∀ d, Numeral.start? d = none → c ≠ d := by
    intro d nothing same
    rw [same, nothing] at starts
    cases starts
  have noSpace : isSpace c = false := by
    unfold isSpace
    simp only [beq_eq_false_iff_ne.mpr (other ' ' (by decide)),
      beq_eq_false_iff_ne.mpr (other '\n' (by decide)),
      beq_eq_false_iff_ne.mpr (other '\t' (by decide)),
      beq_eq_false_iff_ne.mpr (other '\x0d' (by decide)), Bool.or_self]
  unfold startStep
  rw [noSpace]
  simp only [Bool.false_eq_true, if_false]
  split
  all_goals try exact absurd rfl (other _ (by decide))
  rw [starts]

theorem foldl_numeral (out : List Token) (rest : List Char) {n last : Numeral}
    (spelled : rest.foldlM Numeral.extend? n = some last) :
    rest.foldl step { out, mode := .number n } = { out, mode := .number last } := by
  induction rest generalizing n with
  | nil =>
      cases spelled
      rfl
  | cons c rest inductionHypothesis =>
      rw [List.foldlM_cons] at spelled
      rcases Option.bind_eq_some_iff.mp spelled with ⟨longer, extended, others⟩
      rw [List.foldl_cons]
      have next : ({ out, mode := .number n } : Scanner).step c =
          { out, mode := .number longer } := by
        unfold step
        simp only [Numeral.step_of_extend? extended]
      rw [next]
      exact inductionHypothesis others

/-- After a complete literal the text is closed, whatever the number. -/
theorem Open.number (opened : Open text tokens) {n : Number} (spelled : n.IsLiteral) :
    Closed (text ++ n.text) (tokens ++ [.number n.reading]) := by
  rcases spelled with ⟨numeral, found, complete⟩
  have reading : n.reading = numeral.value := by
    unfold Number.reading
    rw [found]
  have reached : (text ++ n.text).foldl step {} =
      { out := tokens.reverse, mode := .number numeral } := by
    rw [List.foldl_append, opened]
    cases spelling : n.text with
    | nil =>
        rw [spelling] at found
        cases found
    | cons c rest =>
        rw [spelling] at found
        rcases Option.bind_eq_some_iff.mp found with ⟨first, starts, others⟩
        rw [List.foldl_cons]
        have begun : (after tokens).step c = { out := tokens.reverse, mode := .number first } :=
          startStep_of_start? (after tokens) starts
        rw [begun]
        exact foldl_numeral tokens.reverse rest others
  unfold Closed
  rw [reached, reading]
  constructor
  · intro c delimits
    have ended : numeral.step c = .ended := by
      simp only [delimiters, List.mem_cons, List.not_mem_nil, or_false] at delimits
      rcases delimits with rfl | rfl | rfl | rfl | rfl | rfl | rfl <;>
        exact Numeral.step_eq_ended complete (by decide) (by decide) (by decide)
    rw [← emit_eq_after tokens (.number numeral) (.number numeral.value)]
    unfold step
    simp only [ended]
    rfl
  · unfold finish
    simp only [complete, if_true]
    rw [List.reverse_append, List.reverse_reverse]
    rfl

/-- What a text is scanned into, it is scanned into with blanks before it. -/
theorem Open.afterBlanks (opened : Open text tokens) {spells : List Char → Prop}
    {more : List Token}
    (scanned : ∀ {text core}, Open text tokens → spells core →
      Closed (text ++ core) (tokens ++ more))
    (spelled : AfterBlanks spells piece) : Closed (text ++ piece) (tokens ++ more) := by
  rcases spelled with ⟨blanks, core, leading, spelled, rfl⟩
  rw [← List.append_assoc]
  exact scanned (opened.blank leading) spelled

end Texts
end Scanner

/-! ## Values -/

open Scanner (Open Closed)

mutual

/-- However a value is spelled, it is scanned into its tokens. -/
theorem Value.spells_closed : ∀ (v : Value) {out text : List Char} {tokens : List Token},
    (∀ n ∈ v.numbers, n.IsLiteral) → Open out tokens → v.Spells text →
      Closed (out ++ text) (tokens ++ v.tokens)
  | .null, out, text, tokens, literals, opened, spelled => by
      rw [Value.Spells] at spelled
      rw [spelled]
      exact opened.null.closed
  | .truth value, out, text, tokens, literals, opened, spelled => by
      rw [Value.Spells] at spelled
      rw [spelled]
      exact (opened.truth value).closed
  | .number n, out, text, tokens, literals, opened, spelled => by
      rw [Value.Spells] at spelled
      rw [spelled, Value.tokens]
      exact opened.number (literals n (by rw [Value.numbers]; exact List.mem_singleton_self n))
  | .string content, out, text, tokens, literals, opened, spelled => by
      rw [Value.Spells] at spelled
      rw [Value.tokens]
      exact (opened.string spelled).closed
  | .array [], out, text, tokens, literals, opened, spelled => by
      rw [Value.Spells] at spelled
      rcases spelled with ⟨blanks, blank, rfl⟩
      have started : Open (out ++ ['[']) (tokens ++ [.openList]) := opened.push fun _ => rfl
      have ended := (started.blank blank).push (c := ']') fun _ => rfl
      rw [Value.tokens]
      simpa only [List.append_assoc, List.cons_append, List.nil_append] using ended.closed
  | .array (v :: vs), out, text, tokens, literals, opened, spelled => by
      rw [Value.numbers, Value.itemNumbers] at literals
      rw [Value.Spells] at spelled
      rcases spelled with ⟨first, others, blanks, spelled, rest, blank, rfl⟩
      have started : Open (out ++ ['[']) (tokens ++ [.openList]) := opened.push fun _ => rfl
      have item := started.afterBlanks (fun opened spelled => v.spells_closed
        (fun n member => literals n (List.mem_append_left _ member)) opened spelled) spelled
      have items := Value.spellsItems_closed vs
        (fun n member => literals n (List.mem_append_right _ member)) item rest
      have ended := (items.blank blank).push (c := ']') (by decide) fun _ => rfl
      rw [Value.tokens]
      simpa only [List.append_assoc, List.cons_append, List.nil_append] using ended.closed
  | .object [], out, text, tokens, literals, opened, spelled => by
      rw [Value.Spells] at spelled
      rcases spelled with ⟨blanks, blank, rfl⟩
      have started : Open (out ++ ['\x7b']) (tokens ++ [.openObject]) := opened.push fun _ => rfl
      have ended := (started.blank blank).push (c := '\x7d') fun _ => rfl
      rw [Value.tokens]
      simpa only [List.append_assoc, List.cons_append, List.nil_append] using ended.closed
  | .object ((key, v) :: members), out, text, tokens, literals, opened, spelled => by
      rw [Value.numbers, Value.memberNumbers] at literals
      rw [Value.Spells] at spelled
      rcases spelled with ⟨name, first, others, blanks, named, spelled, rest, blank, rfl⟩
      have started : Open (out ++ ['\x7b']) (tokens ++ [.openObject]) := opened.push fun _ => rfl
      have member := (started.key named).afterBlanks (fun opened spelled => v.spells_closed
        (fun n member => literals n (List.mem_append_left _ member)) opened spelled) spelled
      have all := Value.spellsMembers_closed members
        (fun n member => literals n (List.mem_append_right _ member)) member rest
      have ended := (all.blank blank).push (c := '\x7d') (by decide) fun _ => rfl
      rw [Value.tokens]
      simpa only [List.append_assoc, List.cons_append, List.nil_append] using ended.closed

theorem Value.spellsItems_closed : ∀ (vs : List Value) {out text : List Char}
    {tokens : List Token}, (∀ n ∈ Value.itemNumbers vs, n.IsLiteral) → Closed out tokens →
      Value.SpellsItems vs text → Closed (out ++ text) (tokens ++ Value.itemTokens vs)
  | [], out, text, tokens, literals, closed, spelled => by
      rw [Value.SpellsItems] at spelled
      rw [spelled, Value.itemTokens, List.append_nil, List.append_nil]
      exact closed
  | v :: vs, out, text, tokens, literals, closed, spelled => by
      rw [Value.itemNumbers] at literals
      rw [Value.SpellsItems] at spelled
      rcases spelled with ⟨blanks, next, others, blank, spelled, rest, rfl⟩
      have separated : Open (out ++ blanks ++ [',']) (tokens ++ [.comma]) :=
        (closed.blank blank).push (by decide) fun _ => rfl
      have item := separated.afterBlanks (fun opened spelled => v.spells_closed
        (fun n member => literals n (List.mem_append_left _ member)) opened spelled) spelled
      have items := Value.spellsItems_closed vs
        (fun n member => literals n (List.mem_append_right _ member)) item rest
      rw [Value.itemTokens]
      simpa only [List.append_assoc, List.cons_append, List.nil_append] using items

theorem Value.spellsMembers_closed : ∀ (members : List (String × Value))
    {out text : List Char} {tokens : List Token},
      (∀ n ∈ Value.memberNumbers members, n.IsLiteral) → Closed out tokens →
        Value.SpellsMembers members text →
          Closed (out ++ text) (tokens ++ Value.memberTokens members)
  | [], out, text, tokens, literals, closed, spelled => by
      rw [Value.SpellsMembers] at spelled
      rw [spelled, Value.memberTokens, List.append_nil, List.append_nil]
      exact closed
  | (key, v) :: members, out, text, tokens, literals, closed, spelled => by
      rw [Value.memberNumbers] at literals
      rw [Value.SpellsMembers] at spelled
      rcases spelled with ⟨blanks, name, next, others, blank, named, spelled, rest, rfl⟩
      have separated : Open (out ++ blanks ++ [',']) (tokens ++ [.comma]) :=
        (closed.blank blank).push (by decide) fun _ => rfl
      have member := (separated.key named).afterBlanks (fun opened spelled => v.spells_closed
        (fun n member => literals n (List.mem_append_left _ member)) opened spelled) spelled
      have all := Value.spellsMembers_closed members
        (fun n member => literals n (List.mem_append_right _ member)) member rest
      rw [Value.memberTokens]
      simpa only [List.append_assoc, List.cons_append, List.nil_append] using all

end

/-- Every text of a value is scanned into its tokens. -/
theorem Value.scan_of_isTextOf {v : Value} {text : String}
    (literals : ∀ n ∈ v.numbers, n.IsLiteral) (spelled : v.IsTextOf text) :
    scan text.toList = v.tokens := by
  rcases spelled with ⟨core, blanks, spelled, blank, same⟩
  have closed := Scanner.open_nil.afterBlanks
    (fun opened spelled => v.spells_closed literals opened spelled) spelled
  rw [same]
  exact Scanner.scan_of_closed (closed.blank blank)

end Json
end Bayeux
