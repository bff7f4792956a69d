import Bayeux.Options.Entries
import Mathlib.Data.List.Infix

namespace Bayeux

/-!
# The scopes around a scope

A scope is the parts between its dots, joined by dots again, and the scopes that it lies in
have fewer and fewer of them.  Which entry is selected follows by going through these scopes:
it is the first one that is found, and what a scope farther out holds under the same key is
never looked at.
-/

namespace Scope

/-- A scope, what remains of it without its last part, and so on until no part is left. -/
def levels (scope : String) : List String :=
  (scope.toList.splitOn '.').inits.reverse.map fun parts => String.ofList (['.'].intercalate parts)

theorem afterDots_append {text : List Char} (dotless : '.' ∉ text) (rest : List Char) :
    afterDots (text ++ rest) = afterDots rest := by
  induction text with
  | nil => rfl
  | cons c text inductionHypothesis =>
      have other : c ≠ '.' := fun same => dotless (same ▸ List.mem_cons_self)
      rw [List.cons_append, afterDots, if_neg other]
      exact inductionHypothesis fun later => dotless (List.mem_cons_of_mem _ later)

/-- Cutting at the last dot, again and again, goes through the parts from the end. -/
theorem inits_splitOn_reverse (text : List Char) :
    (text.splitOn '.').inits.reverse.map ['.'].intercalate =
      text :: (afterDots text.reverse).map List.reverse ++ [[]] := by
  induction length : text.length using Nat.strongRecOn generalizing text with
  | ind n inductionHypothesis =>
      by_cases dot : '.' ∈ text
      · -- The last dot is the first one from the end.
        obtain ⟨last, before, split, dotless⟩ :=
          List.eq_append_cons_of_mem (List.mem_reverse.mpr dot)
        have joined : text = before.reverse ++ '.' :: last.reverse := by
          rw [← List.reverse_reverse text, split]
          simp
        have shorter : before.reverse.length < n := by
          rw [← length, joined]
          simp
        have parts : text.splitOn '.' = before.reverse.splitOn '.' ++ [last.reverse] := by
          rw [joined, List.splitOn_append_cons_self,
            List.splitOn_eq_singleton (mt List.mem_reverse.mp dotless)]
        calc (text.splitOn '.').inits.reverse.map ['.'].intercalate
            = ['.'].intercalate (text.splitOn '.') ::
                (before.reverse.splitOn '.').inits.reverse.map ['.'].intercalate := by
              rw [parts]
              simp [List.inits_append]
          _ = text :: (before.reverse :: (afterDots before).map List.reverse ++ [[]]) := by
              rw [List.intercalate_splitOn, inductionHypothesis _ shorter _ rfl,
                List.reverse_reverse]
          _ = text :: (afterDots text.reverse).map List.reverse ++ [[]] := by
              rw [split, afterDots_append dotless, afterDots, if_pos rfl]
              rfl
      · have none : afterDots text.reverse = [] := by
          rw [← List.append_nil text.reverse, afterDots_append (mt List.mem_reverse.mp dot)]
          rfl
        rw [none, List.splitOn_eq_singleton dot]
        simp

theorem enclosing_eq_levels (scope : String) : enclosing scope = levels scope := by
  have texts := congrArg (List.map String.ofList) (inits_splitOn_reverse scope.toList)
  rw [List.map_map] at texts
  unfold levels
  refine Eq.trans ?_ texts.symm
  simp [enclosing]

example : levels "a..b" = ["a..b", "a.", "a", ""] := by decide

end Scope

namespace Entries

/-- The entry of a key at the first of some scopes where there is one: its qualified key, with
its trimmed text. -/
def firstOf? (entries : Entries) (key : String) : List String → Option (String × String)
  | [] => none
  | level :: outer =>
    match entries.get? (Scope.qualify level key) with
    | some value => some (Scope.qualify level key, Text.trimmed value)
    | none => firstOf? entries key outer

theorem select?_eq_firstOf? (entries : Entries) (scope key : String) :
    entries.select? scope key = entries.firstOf? key (Scope.levels scope) := by
  unfold select?
  rw [Scope.enclosing_eq_levels]
  induction Scope.levels scope with
  | nil => rfl
  | cons level outer inductionHypothesis =>
      rw [List.findSome?_cons, firstOf?]
      cases entries.get? (Scope.qualify level key) with
      | none => exact inductionHypothesis
      | some value => rfl

theorem firstOf?_nil (entries : Entries) (key : String) : entries.firstOf? key [] = none := rfl

theorem map_snd_firstOf?_cons (entries : Entries) (key level : String) (outer : List String) :
    (entries.firstOf? key (level :: outer)).map (·.2) =
      ((entries.get? (Scope.qualify level key)).map Text.trimmed).or
        ((entries.firstOf? key outer).map (·.2)) := by
  rw [firstOf?]
  cases entries.get? (Scope.qualify level key) <;> rfl

/-- Wherever a key would be read at a place, a scope farther in has an entry for it. -/
def Shadowed (entries : Entries) (key place : String) (levels : List String) : Prop :=
  ∀ inner level outer, levels = inner ++ level :: outer → Scope.qualify level key = place →
    ∃ nearer ∈ inner, entries.contains (Scope.qualify nearer key) = true

/-- What is shadowed may say anything. -/
theorem firstOf?_insert_of_shadowed {entries : Entries} {key place : String} {levels : List String}
    (shadowed : entries.Shadowed key place levels) (value : String) :
    firstOf? (entries.insert place value) key levels = firstOf? entries key levels := by
  induction levels with
  | nil => rfl
  | cons level outer inductionHypothesis =>
      have elsewhere : Scope.qualify level key ≠ place := by
        intro here
        obtain ⟨nearer, impossible, _⟩ := shadowed [] level outer rfl here
        cases impossible
      rw [firstOf?, firstOf?, Table.get?_insert_of_ne entries elsewhere]
      cases found : entries.get? (Scope.qualify level key) with
      | some found => rfl
      | none =>
          apply inductionHypothesis
          intro inner farther rest split same
          obtain ⟨nearer, among, held⟩ :=
            shadowed (level :: inner) farther rest (congrArg (level :: ·) split) same
          rcases List.mem_cons.mp among with rfl | among
          · rw [Table.contains, found] at held
            cases held
          · exact ⟨nearer, among, held⟩

end Entries

end Bayeux
