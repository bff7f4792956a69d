import Bayeux.Json.Layout
import Bayeux.Proofs.Json.Spelling

namespace Bayeux
namespace Json

/-!
# Written values

Whatever is written for a value is one of its texts, in every layout: a character is escaped in
one of the ways in which it may be, and the blanks of a layout stand before a token.
-/

/-! ## Strings -/

theorem hexValue?_hexDigit : ∀ d < 16, Quotation.hexValue? (Text.hexDigit d) = some d := by
  decide

/-- Every character is escaped in a way that spells it. -/
theorem spellsChar_escapeChar (c : Char) : SpellsChar c (escapeChar c) := by
  -- The characters with a short escape are seven.
  by_cases named : c ∈ ['"', '\\', '\x08', '\t', '\n', '\x0c', '\x0d']
  · simp only [List.mem_cons, List.not_mem_nil, or_false] at named
    rcases named with rfl | rfl | rfl | rfl | rfl | rfl | rfl <;> exact .short (by decide)
  · simp only [List.mem_cons, List.not_mem_nil, or_false, not_or] at named
    rcases named with ⟨noQuote, noBackslash, noBackspace, noTab, noFeed, noForm, noReturn⟩
    unfold escapeChar
    rw [if_neg noQuote, if_neg noBackslash, if_neg noBackspace, if_neg noTab, if_neg noFeed,
      if_neg noForm, if_neg noReturn]
    by_cases control : c < ' '
    · have code : c.toNat < 32 := control
      rw [if_pos control]
      have high := hexValue?_hexDigit (c.toNat / 16) (by omega)
      have low := hexValue?_hexDigit (c.toNat % 16) (by omega)
      have zero : Quotation.hexValue? '0' = some 0 := rfl
      have digits := Quotation.Digits.mk zero zero high low
      have unit : 16 * (16 * (16 * 0 + 0) + c.toNat / 16) + c.toNat % 16 = c.toNat := by omega
      rw [unit] at digits
      exact .unit digits
    · rw [if_neg control]
      exact .plain noQuote noBackslash control

theorem spellsChars_flatMap (content : List Char) :
    SpellsChars content (content.flatMap escapeChar) := by
  induction content with
  | nil => exact .nil
  | cons c rest inductionHypothesis => exact .cons (spellsChar_escapeChar c) inductionHypothesis

theorem spellsString_literal (content : String) :
    SpellsString content (literal content).toList := by
  unfold literal
  exact ⟨_, spellsChars_flatMap content.toList, String.toList_ofList⟩

/-! ## Blanks -/

theorem blank_nil : Blank [] :=
  List.forall_mem_nil _

theorem toList_pushn (out : String) (c : Char) (count : Nat) :
    (out.pushn c count).toList = out.toList ++ List.replicate count c := by
  rw [String.pushn_eq_repeat_push]
  induction count with
  | zero => exact (List.append_nil _).symm
  | succ count inductionHypothesis =>
      rw [Nat.repeat, String.toList_push, inductionHypothesis, List.append_assoc,
        List.replicate_succ']

namespace Layout

/-- A break is blank. -/
theorem exists_line (layout : Layout) (level : Nat) :
    ∃ blanks, Blank blanks ∧ ∀ out, (layout.line level out).toList = out.toList ++ blanks := by
  cases layout with
  | compact => exact ⟨[], blank_nil, fun out => (List.append_nil out.toList).symm⟩
  | indented =>
      refine ⟨'\n' :: List.replicate (2 * level) ' ', ?_, fun out => ?_⟩
      · intro c listed
        rcases List.mem_cons.mp listed with rfl | space
        · rfl
        · rw [List.eq_of_mem_replicate space]
          rfl
      · rw [line, toList_pushn, String.toList_push, List.append_assoc]
        rfl

/-- What stands between a key and its value is a colon and blanks. -/
theorem exists_afterKey (layout : Layout) :
    ∃ blanks, Blank blanks ∧ ∀ out, (layout.afterKey out).toList = out.toList ++ ':' :: blanks := by
  cases layout with
  | compact => exact ⟨[], blank_nil, fun _ => String.toList_push _⟩
  | indented =>
      refine ⟨[' '], List.forall_mem_singleton.mpr rfl, fun out => ?_⟩
      rw [afterKey, String.toList_push, String.toList_push, List.append_assoc]
      rfl

end Layout

/-! ## Values -/

section Pieces

variable {spells : List Char → Prop} {before text : List Char}

theorem AfterBlanks.intro (blank : Blank before) (spelled : spells text) :
    AfterBlanks spells (before ++ text) :=
  ⟨before, text, blank, spelled, rfl⟩

theorem spellsKey_literal (blank : Blank before) (key : String) :
    SpellsKey key (before ++ (literal key).toList ++ [':']) :=
  ⟨_, [], .intro blank (spellsString_literal key), blank_nil, rfl⟩

end Pieces

mutual

/-- What is written for a value is one of its texts. -/
theorem Value.exists_write (layout : Layout) : ∀ (v : Value) (level : Nat),
    ∃ text, v.Spells text ∧ ∀ out, (v.write layout level out).toList = out.toList ++ text
  | .null, level => ⟨_, rfl, fun _ => String.toList_append⟩
  | .truth false, level => ⟨_, rfl, fun _ => String.toList_append⟩
  | .truth true, level => ⟨_, rfl, fun _ => String.toList_append⟩
  | .number n, level => ⟨n.text, rfl, fun out => by
      rw [Value.write, String.toList_append, String.toList_ofList]⟩
  | .string content, level => ⟨_, spellsString_literal content, fun _ => String.toList_append⟩
  | .array [], level => ⟨_, ⟨[], blank_nil, rfl⟩, fun _ => String.toList_append⟩
  | .array (v :: vs), level => by
      rcases layout.exists_line (level + 1) with ⟨before, leading, opened⟩
      rcases v.exists_write layout (level + 1) with ⟨first, spelled, begun⟩
      rcases Value.exists_writeItems layout vs (level + 1) with ⟨others, rest, filled⟩
      rcases layout.exists_line level with ⟨after, trailing, closed⟩
      refine ⟨_, ⟨_, others, after, .intro leading spelled, rest, trailing, rfl⟩, fun out => ?_⟩
      rw [Value.write, String.toList_push, closed, filled, begun, opened, String.toList_push]
      simp only [List.append_assoc, List.cons_append, List.nil_append]
  | .object [], level => ⟨_, ⟨[], blank_nil, rfl⟩, fun out => by
      rw [Value.write, String.toList_push, String.toList_push, List.append_assoc]
      rfl⟩
  | .object ((key, v) :: members), level => by
      rcases layout.exists_line (level + 1) with ⟨before, leading, opened⟩
      rcases layout.exists_afterKey with ⟨between, separating, named⟩
      rcases v.exists_write layout (level + 1) with ⟨first, spelled, begun⟩
      rcases Value.exists_writeMembers layout members (level + 1) with ⟨others, rest, filled⟩
      rcases layout.exists_line level with ⟨after, trailing, closed⟩
      refine ⟨_, ⟨_, _, others, after, spellsKey_literal leading key,
        .intro separating spelled, rest, trailing, rfl⟩, fun out => ?_⟩
      rw [Value.write, String.toList_push, closed, filled, begun, named, String.toList_append,
        opened, String.toList_push]
      simp only [List.append_assoc, List.cons_append, List.nil_append]

theorem Value.exists_writeItems (layout : Layout) : ∀ (vs : List Value) (level : Nat),
    ∃ text, Value.SpellsItems vs text ∧
      ∀ out, (Value.writeItems layout level vs out).toList = out.toList ++ text
  | [], level => ⟨[], rfl, fun out => (List.append_nil out.toList).symm⟩
  | v :: vs, level => by
      rcases layout.exists_line level with ⟨before, leading, opened⟩
      rcases v.exists_write layout level with ⟨next, spelled, begun⟩
      rcases Value.exists_writeItems layout vs level with ⟨others, rest, filled⟩
      refine ⟨_, ⟨[], _, others, blank_nil, .intro leading spelled, rest, rfl⟩, fun out => ?_⟩
      rw [Value.writeItems, filled, begun, opened, String.toList_push]
      simp only [List.append_assoc, List.cons_append, List.nil_append]

theorem Value.exists_writeMembers (layout : Layout) : ∀ (members : List (String × Value))
    (level : Nat), ∃ text, Value.SpellsMembers members text ∧
      ∀ out, (Value.writeMembers layout level members out).toList = out.toList ++ text
  | [], level => ⟨[], rfl, fun out => (List.append_nil out.toList).symm⟩
  | (key, v) :: members, level => by
      rcases layout.exists_line level with ⟨before, leading, opened⟩
      rcases layout.exists_afterKey with ⟨between, separating, named⟩
      rcases v.exists_write layout level with ⟨next, spelled, begun⟩
      rcases Value.exists_writeMembers layout members level with ⟨others, rest, filled⟩
      refine ⟨_, ⟨[], _, _, others, blank_nil, spellsKey_literal leading key,
        .intro separating spelled, rest, rfl⟩, fun out => ?_⟩
      rw [Value.writeMembers, filled, begun, named, String.toList_append, opened,
        String.toList_push]
      simp only [List.append_assoc, List.cons_append, List.nil_append]

end

/-- The text of a value in any layout is one of its texts. -/
theorem Value.isTextOf_text (layout : Layout) (v : Value) : v.IsTextOf (v.text layout) := by
  rcases v.exists_write layout 0 with ⟨core, spelled, written⟩
  refine ⟨core, [], .intro blank_nil spelled, blank_nil, ?_⟩
  rw [List.append_nil]
  exact written ""

end Json
end Bayeux
