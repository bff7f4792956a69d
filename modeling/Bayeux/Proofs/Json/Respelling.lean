import Bayeux.Proofs.Json.Scanning
import Bayeux.Proofs.Json.Writing

namespace Bayeux
namespace Json

/-!
# Texts of one value

Two texts of a value are scanned into the same tokens, even if a number in them is no literal
that a reader would take: the characters of a number lead into no word and no string, and
whatever they have begun is ended by a blank just as it is by the punctuation that comes next.
So the blanks that a layout puts in make no difference to what is read, or to why it cannot be.
-/

namespace Scanner

/-! ## Where blanks do nothing -/

/-- The scanner reads nothing: it is between two tokens, or it has stopped. -/
inductive Idle : Scanner → Prop where
  | between (out : List Token) : Idle { out, mode := .between }
  | halted (out : List Token) : Idle { out, mode := .halted }

/-- The scanner is idle, but for a number that may still go on. -/
inductive Settled : Scanner → Prop where
  | between (out : List Token) : Settled { out, mode := .between }
  | number (out : List Token) (numeral : Numeral) : Settled { out, mode := .number numeral }
  | halted (out : List Token) : Settled { out, mode := .halted }

variable {s t : Scanner} {c : Char} {blanks text : List Char}

theorem Idle.settled (idle : s.Idle) : s.Settled := by
  cases idle with
  | between out => exact .between out
  | halted out => exact .halted out

theorem foldl_of_halted (out : List Token) (text : List Char) :
    text.foldl step { out, mode := .halted } = { out, mode := .halted } := by
  induction text with
  | nil => rfl
  | cons c rest inductionHypothesis => exact inductionHypothesis

theorem Idle.step_space (idle : s.Idle) (space : isSpace c = true) : s.step c = s := by
  cases idle with
  | between out => exact if_pos space
  | halted out => rfl

theorem Idle.foldl_blank (idle : s.Idle) (blank : Blank blanks) : blanks.foldl step s = s := by
  induction blanks with
  | nil => rfl
  | cons c rest inductionHypothesis =>
      rw [List.foldl_cons, idle.step_space (blank c List.mem_cons_self)]
      exact inductionHypothesis fun other member => blank other (List.mem_cons_of_mem c member)

/-! ## What may come in a number -/

/-- The characters that begin a string or a word. -/
def openers : List Char :=
  ['"', 'n', 't', 'f']

theorem settled_startStep (s : Scanner) (plain : c ∉ openers) : (s.startStep c).Settled := by
  simp only [openers, List.mem_cons, List.not_mem_nil, or_false, not_or] at plain
  rcases plain with ⟨noQuote, noNull, noTrue, noFalse⟩
  unfold startStep
  split
  next => exact .between _
  next =>
    split
    all_goals first
      | exact .between _
      | exact absurd rfl ‹_›
      | skip
    split
    next numeral _ => exact .number _ numeral
    next => exact .halted _

theorem step_of_number (out : List Token) (numeral : Numeral) (c : Char) :
    ({ out, mode := .number numeral } : Scanner).step c =
      match numeral.step c with
      | .extended longer => { out, mode := .number longer }
      | .ended => ({ out := .number numeral.value :: out } : Scanner).step c
      | .invalid =>
        { out := .broken .scalar .invalidNumber .invalidNumber :: out, mode := .halted } := rfl

/-- Such characters keep the scanner out of strings and words. -/
theorem Settled.step (settled : s.Settled) (plain : c ∉ openers) : (s.step c).Settled := by
  cases settled with
  | between out => exact settled_startStep _ plain
  | number out numeral =>
      rw [step_of_number]
      cases numeral.step c with
      | extended longer => exact .number out longer
      | ended => exact settled_startStep _ plain
      | invalid => exact .halted _
  | halted out => exact .halted out

theorem Settled.foldl (settled : s.Settled) (plain : ∀ c ∈ text, c ∉ openers) :
    (text.foldl Scanner.step s).Settled := by
  induction text generalizing s with
  | nil => exact settled
  | cons c rest inductionHypothesis =>
      obtain ⟨first, others⟩ := List.forall_mem_cons.mp plain
      exact inductionHypothesis (settled.step first) others

/-! ## What ends a number -/

/-- What ends a number breaks one off that is not complete. -/
theorem step_of_delimiter (numeral : Numeral) (delimits : c ∈ delimiters) :
    numeral.step c = if numeral.complete then .ended else .invalid := by
  have foreign : Numeral.digit? c = none ∧ c ≠ '.' ∧ ¬ (c = 'e' ∨ c = 'E') ∧ c ≠ '+' ∧ c ≠ '-' := by
    simp only [delimiters, List.mem_cons, List.not_mem_nil, or_false] at delimits
    rcases delimits with rfl | rfl | rfl | rfl | rfl | rfl | rfl <;> decide
  rcases foreign with ⟨noDigit, noPoint, noMark, noPlus, noMinus⟩
  by_cases complete : numeral.complete = true
  · rw [if_pos complete, Numeral.step_eq_ended complete noDigit noPoint noMark]
  · rw [if_neg complete]
    unfold Numeral.complete at complete
    unfold Numeral.step
    cases phase : numeral.phase with
    | sign | point | markSign => simp only [noDigit]
    | mark => simp only [noDigit, if_neg noPlus, if_neg noMinus]
    | zero | whole | fraction | power =>
        rw [phase] at complete
        exact absurd rfl complete

/-- Whatever may follow a value leads on as from an idle scanner. -/
theorem Settled.exists_idle (settled : s.Settled) :
    ∃ ended : Scanner, ended.Idle ∧ ∀ c ∈ delimiters, s.step c = ended.step c := by
  cases settled with
  | between out => exact ⟨_, .between out, fun _ _ => rfl⟩
  | halted out => exact ⟨_, .halted out, fun _ _ => rfl⟩
  | number out numeral =>
      by_cases complete : numeral.complete = true
      · refine ⟨_, .between (.number numeral.value :: out), fun c delimits => ?_⟩
        rw [step_of_number, step_of_delimiter numeral delimits, if_pos complete]
      · refine ⟨_, .halted (.broken .scalar .invalidNumber .invalidNumber :: out),
          fun c delimits => ?_⟩
        rw [step_of_number, step_of_delimiter numeral delimits, if_neg complete]
        rfl

/-- Punctuation, which is a token by itself. -/
def punctuation : List Char :=
  ['[', ']', '\x7b', '\x7d', ',', ':']

theorem Idle.step (idle : s.Idle) (mark : c ∈ punctuation) : (s.step c).Idle := by
  cases idle with
  | between out =>
      simp only [punctuation, List.mem_cons, List.not_mem_nil, or_false] at mark
      rcases mark with rfl | rfl | rfl | rfl | rfl | rfl <;> exact .between _
  | halted out => exact .halted out

/-- Blanks before the punctuation that follows a value do nothing. -/
theorem Settled.foldl_blank_append (settled : s.Settled) (blank : Blank blanks)
    (delimits : c ∈ delimiters) : (blanks ++ [c]).foldl Scanner.step s = s.step c := by
  rcases settled.exists_idle with ⟨ended, idle, same⟩
  cases blanks with
  | nil => rfl
  | cons first rest =>
      obtain ⟨space, blank⟩ := List.forall_mem_cons.mp blank
      rw [List.cons_append, List.foldl_cons, same first (mem_delimiters_of_isSpace space),
        idle.step_space space, List.foldl_append, idle.foldl_blank blank, same c delimits]
      rfl

theorem Settled.step_delimiter (settled : s.Settled) (delimits : c ∈ delimiters)
    (mark : c ∈ punctuation) : (s.step c).Idle := by
  rcases settled.exists_idle with ⟨ended, idle, same⟩
  rw [same c delimits]
  exact idle.step mark

/-! ## Where texts lead -/

/-- All texts of one kind lead from one state to one other. -/
def Leads (s : Scanner) (spells : List Char → Prop) (t : Scanner) : Prop :=
  ∀ text, spells text → text.foldl Scanner.step s = t

theorem Leads.afterBlanks {spells : List Char → Prop} (leads : s.Leads spells t) (idle : s.Idle) :
    s.Leads (AfterBlanks spells) t := by
  rintro _ ⟨blanks, core, blank, spelled, rfl⟩
  rw [List.foldl_append, idle.foldl_blank blank]
  exact leads core spelled

theorem Idle.exists_leads_string (idle : s.Idle) (content : String) :
    ∃ t, t.Idle ∧ s.Leads (SpellsString content) t := by
  cases idle with
  | between out => exact ⟨_, .between _, fun _ spelled => foldl_spellsString out spelled⟩
  | halted out => exact ⟨_, .halted out, fun text _ => foldl_of_halted out text⟩

theorem Idle.exists_leads_key (idle : s.Idle) (key : String) :
    ∃ t, t.Idle ∧ s.Leads (SpellsKey key) t := by
  obtain ⟨named, ended, leads⟩ := idle.exists_leads_string key
  refine ⟨_, ended.step (by decide : ':' ∈ punctuation), ?_⟩
  rintro _ ⟨name, blanks, spelled, blank, rfl⟩
  rw [List.foldl_append, leads.afterBlanks idle name spelled, List.foldl_append,
    ended.foldl_blank blank]
  rfl

end Scanner

/-! ## The characters of a number -/

open Scanner (openers delimiters punctuation Idle Settled Leads)

theorem Decimal.plain_numerals (n : Nat) : ∀ c ∈ numerals n, c ∉ openers := by
  intro c listed opens
  have digit : c.isDigit = true := Nat.isDigit_of_mem_toDigits (by decide) (by decide) listed
  simp only [openers, List.mem_cons, List.not_mem_nil, or_false] at opens
  rcases opens with rfl | rfl | rfl | rfl <;> exact absurd digit (by decide)

theorem Decimal.plain_exponentText (exponent : Int) : ∀ c ∈ exponentText exponent, c ∉ openers := by
  refine List.forall_mem_cons.mpr ⟨by decide, List.forall_mem_cons.mpr ⟨?_, plain_numerals _⟩⟩
  split <;> decide

theorem Decimal.plain_place {digits : List Char} (plain : ∀ c ∈ digits, c ∉ openers) (lead : Int) :
    ∀ c ∈ place digits lead, c ∉ openers := by
  have zeros : ∀ count, ∀ c ∈ List.replicate count '0', c ∉ openers := by
    intro count c listed
    rw [List.eq_of_mem_replicate listed]
    decide
  have exponent := plain_exponentText lead
  unfold place
  split
  next =>
    split
    next =>
      exact List.forall_mem_append.mpr
        ⟨List.forall_mem_append.mpr ⟨by simp [openers], zeros _⟩, plain⟩
    next =>
      have whole : ∀ count, ∀ c ∈ digits.take count, c ∉ openers :=
        fun count c listed => plain c (List.mem_of_mem_take listed)
      have fraction : ∀ count, ∀ c ∈ digits.drop count, c ∉ openers :=
        fun count c listed => plain c (List.mem_of_mem_drop listed)
      refine List.forall_mem_append.mpr ⟨List.forall_mem_append.mpr ⟨whole _, zeros _⟩,
        List.forall_mem_cons.mpr ⟨by decide, ?_⟩⟩
      split
      next => simp [openers]
      next => exact fraction _
  next =>
    match digits, plain with
    | [], _ => exact nofun
    | [digit], plain =>
        exact List.forall_mem_cons.mpr ⟨plain digit List.mem_cons_self, exponent⟩
    | digit :: next :: rest, plain =>
        obtain ⟨first, others⟩ := List.forall_mem_cons.mp plain
        exact List.forall_mem_cons.mpr ⟨first, List.forall_mem_cons.mpr ⟨by decide,
          List.forall_mem_append.mpr ⟨others, exponent⟩⟩⟩

theorem Double.plain_text (x : Double) : ∀ c ∈ x.text, c ∉ openers := by
  have signed : ∀ magnitude : List Char, (∀ c ∈ magnitude, c ∉ openers) →
      ∀ c ∈ if x.negative then '-' :: magnitude else magnitude, c ∉ openers := by
    intro magnitude plain
    split
    next => exact List.forall_mem_cons.mpr ⟨by decide, plain⟩
    next => exact plain
  refine signed _ ?_
  split
  next => simp [openers]
  next =>
    refine Decimal.plain_place (fun c listed => ?_) _
    have kept := (List.dropWhile_suffix _).subset (List.mem_reverse.mp listed)
    exact Decimal.plain_numerals (Decimal.shortest x).digits c (List.mem_reverse.mp kept)

/-- Whatever a number is, no word and no string begins in its text. -/
theorem Number.plain_text (n : Number) : ∀ c ∈ n.text, c ∉ openers := by
  cases n with
  | integer value =>
      refine List.forall_mem_append.mpr ⟨?_, Decimal.plain_numerals _⟩
      split <;> simp [openers]
  | float x => exact x.plain_text

/-! ## Values -/

mutual

/-- All texts of a value lead an idle scanner to one state. -/
theorem Value.exists_leads : ∀ (v : Value) {s : Scanner}, s.Idle →
    ∃ t, t.Settled ∧ s.Leads v.Spells t
  | .null, s, idle => by
      refine ⟨"null".toList.foldl Scanner.step s, ?_, fun text spelled => ?_⟩
      · cases idle with
        | between out => exact .between _
        | halted out => exact .halted out
      · rw [Value.Spells] at spelled
        rw [spelled]
  | .truth value, s, idle => by
      refine ⟨(if value then "true" else "false").toList.foldl Scanner.step s, ?_,
        fun text spelled => ?_⟩
      · cases idle with
        | between out => cases value <;> exact .between _
        | halted out => cases value <;> exact .halted out
      · rw [Value.Spells] at spelled
        rw [spelled]
  | .number n, s, idle => by
      refine ⟨n.text.foldl Scanner.step s, idle.settled.foldl n.plain_text, fun text spelled => ?_⟩
      rw [Value.Spells] at spelled
      rw [spelled]
  | .string content, s, idle => by
      obtain ⟨t, ended, leads⟩ := idle.exists_leads_string content
      refine ⟨t, ended.settled, fun text spelled => leads text ?_⟩
      rwa [Value.Spells] at spelled
  | .array [], s, idle => by
      have opened := idle.step (by decide : '[' ∈ punctuation)
      refine ⟨_, (opened.step (by decide : ']' ∈ punctuation)).settled, fun text spelled => ?_⟩
      rw [Value.Spells] at spelled
      rcases spelled with ⟨blanks, blank, rfl⟩
      rw [List.foldl_cons, opened.settled.foldl_blank_append blank (by decide)]
  | .array (v :: vs), s, idle => by
      have opened := idle.step (by decide : '[' ∈ punctuation)
      obtain ⟨_, settled, first_leads⟩ := v.exists_leads opened
      obtain ⟨_, settled, others_lead⟩ := Value.exists_leads_items vs settled
      have closed := settled.step_delimiter (by decide : ']' ∈ delimiters) (by decide)
      refine ⟨_, closed.settled, fun text spelled => ?_⟩
      rw [Value.Spells] at spelled
      rcases spelled with ⟨first, others, blanks, spelled, rest, blank, rfl⟩
      rw [List.foldl_cons, List.foldl_append, List.foldl_append,
        first_leads.afterBlanks opened first spelled, others_lead others rest,
        settled.foldl_blank_append blank (by decide)]
  | .object [], s, idle => by
      have opened := idle.step (by decide : '\x7b' ∈ punctuation)
      refine ⟨_, (opened.step (by decide : '\x7d' ∈ punctuation)).settled, fun text spelled => ?_⟩
      rw [Value.Spells] at spelled
      rcases spelled with ⟨blanks, blank, rfl⟩
      rw [List.foldl_cons, opened.settled.foldl_blank_append blank (by decide)]
  | .object ((key, v) :: members), s, idle => by
      have opened := idle.step (by decide : '\x7b' ∈ punctuation)
      obtain ⟨_, named, key_leads⟩ := opened.exists_leads_key key
      obtain ⟨_, settled, first_leads⟩ := v.exists_leads named
      obtain ⟨_, settled, others_lead⟩ := Value.exists_leads_members members settled
      have closed := settled.step_delimiter (by decide : '\x7d' ∈ delimiters) (by decide)
      refine ⟨_, closed.settled, fun text spelled => ?_⟩
      rw [Value.Spells] at spelled
      rcases spelled with ⟨name, first, others, blanks, keyed, spelled, rest, blank, rfl⟩
      rw [List.foldl_cons, List.foldl_append, List.foldl_append, List.foldl_append,
        key_leads name keyed, first_leads.afterBlanks named first spelled, others_lead others rest,
        settled.foldl_blank_append blank (by decide)]

theorem Value.exists_leads_items : ∀ (vs : List Value) {s : Scanner}, s.Settled →
    ∃ t, t.Settled ∧ s.Leads (Value.SpellsItems vs) t
  | [], s, settled => by
      refine ⟨s, settled, fun text spelled => ?_⟩
      rw [Value.SpellsItems] at spelled
      rw [spelled]
      rfl
  | v :: vs, s, settled => by
      have separated := settled.step_delimiter (by decide : ',' ∈ delimiters) (by decide)
      obtain ⟨_, after, next_leads⟩ := v.exists_leads separated
      obtain ⟨t, ended, others_lead⟩ := Value.exists_leads_items vs after
      refine ⟨t, ended, fun text spelled => ?_⟩
      rw [Value.SpellsItems] at spelled
      rcases spelled with ⟨blanks, next, others, blank, spelled, rest, rfl⟩
      rw [List.append_cons, List.foldl_append, settled.foldl_blank_append blank (by decide),
        List.foldl_append, next_leads.afterBlanks separated next spelled, others_lead others rest]

theorem Value.exists_leads_members : ∀ (members : List (String × Value)) {s : Scanner},
    s.Settled → ∃ t, t.Settled ∧ s.Leads (Value.SpellsMembers members) t
  | [], s, settled => by
      refine ⟨s, settled, fun text spelled => ?_⟩
      rw [Value.SpellsMembers] at spelled
      rw [spelled]
      rfl
  | (key, v) :: members, s, settled => by
      have separated := settled.step_delimiter (by decide : ',' ∈ delimiters) (by decide)
      obtain ⟨_, named, key_leads⟩ := separated.exists_leads_key key
      obtain ⟨_, after, next_leads⟩ := v.exists_leads named
      obtain ⟨t, ended, others_lead⟩ := Value.exists_leads_members members after
      refine ⟨t, ended, fun text spelled => ?_⟩
      rw [Value.SpellsMembers] at spelled
      rcases spelled with ⟨blanks, name, next, others, blank, keyed, spelled, rest, rfl⟩
      rw [List.append_cons, List.foldl_append, settled.foldl_blank_append blank (by decide),
        List.foldl_append, List.foldl_append, key_leads name keyed,
        next_leads.afterBlanks named next spelled, others_lead others rest]

end

/-- Two texts of a value are scanned into the same tokens. -/
theorem Value.scan_eq_of_spells {v : Value} {text other : List Char} (spelled : v.Spells text)
    (respelled : v.Spells other) : scan text = scan other := by
  obtain ⟨t, _, leads⟩ := v.exists_leads (.between [])
  have reached : text.foldl Scanner.step {} = t := leads text spelled
  have reached' : other.foldl Scanner.step {} = t := leads other respelled
  rw [scan, scan, reached, reached']

/-- What is written for a value is spelled, without blanks around it. -/
theorem Value.spells_text (layout : Layout) (v : Value) : v.Spells (v.text layout).toList := by
  obtain ⟨core, spelled, written⟩ := v.exists_write layout 0
  have same : (v.text layout).toList = core := written ""
  rw [same]
  exact spelled

end Json
end Bayeux
