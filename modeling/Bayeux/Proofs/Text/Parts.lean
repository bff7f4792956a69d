import Bayeux.Text.Blank
import Bayeux.Text.Split
import Mathlib.Data.List.DropRight

namespace Bayeux
namespace Text

/-!
# Parts of a text

What cutting and trimming make of a text, seen from the side of joining.  A text is cut before
and after its first separator, which neither part needs to show but the second one may.  Blanks
that are added at the ends are lost again, and a text without any keeps all of itself.
-/

/-! ## Cutting -/

section Cutting

variable {separator : Char} {text before after : List Char}

theorem splitAll_eq_splitOn (separator : Char) (text : List Char) :
    splitAll separator text = text.splitOn separator := by
  induction text with
  | nil => rfl
  | cons c rest inductionHypothesis =>
      rw [splitAll, List.splitOn_cons_eq_if_modifyHead, inductionHypothesis]
      by_cases cut : c = separator
      · rw [if_pos cut, if_pos (beq_iff_eq.mpr cut)]
      · rw [if_neg cut, if_neg fun same => cut (beq_iff_eq.mp same)]
        cases parts : rest.splitOn separator with
        | nil => exact absurd parts (List.splitOn_ne_nil separator rest)
        | cons part parts => rfl

theorem splitOnce?_append (fresh : separator ∉ before) :
    splitOnce? separator (before ++ separator :: after) = some (before, after) := by
  induction before with
  | nil => simp [splitOnce?]
  | cons c rest inductionHypothesis =>
      rw [List.mem_cons, not_or] at fresh
      rw [List.cons_append, splitOnce?, if_neg fun same => fresh.1 same.symm,
        inductionHypothesis fresh.2]
      rfl

theorem splitOnce?_eq_none_iff : splitOnce? separator text = none ↔ separator ∉ text := by
  induction text with
  | nil => simp [splitOnce?]
  | cons c rest inductionHypothesis =>
      rw [splitOnce?, List.mem_cons, not_or, ← inductionHypothesis]
      by_cases cut : c = separator
      · simp [cut]
      · rw [if_neg cut, Option.map_eq_none_iff]
        exact ⟨fun nothing => ⟨fun same => cut same.symm, nothing⟩, And.right⟩

/-- A text is cut at the first separator. -/
theorem splitOnce?_eq_some_iff :
    splitOnce? separator text = some (before, after) ↔
      separator ∉ before ∧ text = before ++ separator :: after := by
  constructor
  · intro cut
    induction text generalizing before with
    | nil => cases cut
    | cons c rest inductionHypothesis =>
        rw [splitOnce?] at cut
        split at cut
        next same =>
          cases cut
          exact ⟨List.not_mem_nil, by rw [same, List.nil_append]⟩
        next other =>
          rcases Option.map_eq_some_iff.mp cut with ⟨⟨start, last⟩, found, same⟩
          cases same
          rcases inductionHypothesis found with ⟨fresh, joined⟩
          refine ⟨?_, by rw [joined, List.cons_append]⟩
          rw [List.mem_cons, not_or]
          exact ⟨fun same => other same.symm, fresh⟩
  · rintro ⟨fresh, rfl⟩
    exact splitOnce?_append fresh

/-- The first part reaches up to the separator, and the separator precedes the second part. -/
theorem takeWhile_append (fresh : separator ∉ before) :
    (before ++ separator :: after).takeWhile (· != separator) = before := by
  have other : ∀ c ∈ before, (c != separator) = true := fun c member =>
    bne_iff_ne.mpr fun same => fresh (same ▸ member)
  rw [List.takeWhile_append_of_pos other, List.takeWhile_cons_of_neg (by simp), List.append_nil]

theorem dropWhile_append (fresh : separator ∉ before) :
    (before ++ separator :: after).dropWhile (· != separator) = separator :: after := by
  have other : ∀ c ∈ before, (c != separator) = true := fun c member =>
    bne_iff_ne.mpr fun same => fresh (same ▸ member)
  rw [List.dropWhile_append_of_pos other, List.dropWhile_cons_of_neg (by simp)]

/-- No separator is left in any part. -/
theorem not_mem_of_mem_splitAll {part : List Char} (member : part ∈ splitAll separator text) :
    separator ∉ part := by
  induction text generalizing part with
  | nil =>
      rw [List.mem_singleton.mp member]
      exact List.not_mem_nil
  | cons c rest inductionHypothesis =>
      rw [splitAll] at member
      split at member
      next same =>
        rcases List.mem_cons.mp member with rfl | later
        · exact List.not_mem_nil
        · exact inductionHypothesis later
      next other =>
        split at member
        next first parts cut =>
          rcases List.mem_cons.mp member with rfl | later
          · rw [List.mem_cons, not_or]
            exact ⟨fun same => other same.symm,
              inductionHypothesis (cut ▸ List.mem_cons_self)⟩
          · exact inductionHypothesis (cut ▸ List.mem_cons_of_mem first later)
        next =>
          rw [List.mem_singleton.mp member, List.mem_singleton]
          exact fun same => other same.symm

end Cutting

/-! ## Trimming -/

section Trimming

variable {text lead trail : List Char}

theorem trim_eq_rdropWhile (text : List Char) :
    trim text = (text.dropWhile isBlank).rdropWhile isBlank := rfl

theorem rdropWhile_append_of_pos (blank : ∀ c ∈ trail, isBlank c = true) :
    (text ++ trail).rdropWhile isBlank = text.rdropWhile isBlank := by
  unfold List.rdropWhile
  rw [List.reverse_append,
    List.dropWhile_append_of_pos fun c member => blank c (List.mem_reverse.mp member)]

/-- Only blanks at the ends of a text are lost. -/
theorem exists_trim (text : List Char) :
    ∃ lead trail, (∀ c ∈ lead, isBlank c = true) ∧ (∀ c ∈ trail, isBlank c = true) ∧
      text = lead ++ trim text ++ trail := by
  refine ⟨text.takeWhile isBlank, (text.dropWhile isBlank).rtakeWhile isBlank,
    fun c => List.mem_takeWhile_imp, fun c => List.mem_rtakeWhile_imp, ?_⟩
  rw [trim_eq_rdropWhile, List.append_assoc, List.rdropWhile_append_rtakeWhile,
    List.takeWhile_append_dropWhile]

theorem mem_of_mem_trim {c : Char} (member : c ∈ trim text) : c ∈ text := by
  rcases exists_trim text with ⟨lead, trail, _, _, joined⟩
  rw [joined]
  exact List.mem_append_left _ (List.mem_append_right _ member)

/-- Blanks around a text are lost. -/
theorem trim_surrounded (before : ∀ c ∈ lead, isBlank c = true)
    (after : ∀ c ∈ trail, isBlank c = true) : trim (lead ++ text ++ trail) = trim text := by
  rw [trim_eq_rdropWhile, trim_eq_rdropWhile, List.append_assoc,
    List.dropWhile_append_of_pos before, List.dropWhile_append]
  split
  next nothing =>
    have empty : text.dropWhile isBlank = [] := List.isEmpty_iff.mp nothing
    have gone : trail.dropWhile isBlank = [] := List.dropWhile_eq_nil_iff.mpr after
    rw [empty, gone]
  next => exact rdropWhile_append_of_pos after

/-- A text is left alone if it neither begins nor ends with a blank. -/
theorem trim_eq_self_iff :
    trim text = text ↔
      (∀ c ∈ text.head?, isBlank c = false) ∧ ∀ c ∈ text.getLast?, isBlank c = false := by
  have begins : text.dropWhile isBlank = text ↔ ∀ c ∈ text.head?, isBlank c = false := by
    rw [List.dropWhile_eq_self_iff]
    cases text <;> simp
  have ends : text.rdropWhile isBlank = text ↔ ∀ c ∈ text.getLast?, isBlank c = false := by
    rw [List.rdropWhile_eq_self_iff]
    cases text using List.reverseRecOn <;> simp
  rw [← begins, ← ends, trim_eq_rdropWhile]
  constructor
  · intro same
    have fewer := (List.rdropWhile_prefix (p := isBlank) (l := text.dropWhile isBlank)).length_le
    rw [same] at fewer
    have whole : text.dropWhile isBlank = text :=
      (List.dropWhile_suffix isBlank).eq_of_length_le fewer
    rw [whole] at same
    exact ⟨whole, same⟩
  · rintro ⟨starts, stops⟩
    rw [starts, stops]

theorem trim_trim (text : List Char) : trim (trim text) = trim text := by
  refine trim_eq_self_iff.mpr ⟨fun c first => ?_, fun c last => ?_⟩
  · rcases List.rdropWhile_prefix (p := isBlank) (l := text.dropWhile isBlank) with ⟨rest, joined⟩
    have starts : c ∈ (text.dropWhile isBlank).head? := by
      rw [← joined]
      exact List.mem_head?_append_of_mem_head? first
    have visible := List.head?_dropWhile_not isBlank text
    rw [Option.mem_def.mp starts] at visible
    exact visible
  · rcases List.mem_getLast?_eq_getLast last with ⟨present, same⟩
    rw [same]
    exact Bool.eq_false_iff.mpr (List.rdropWhile_last_not isBlank _ present)

theorem trim_of_visible (visible : ∀ c ∈ text, isBlank c = false) : trim text = text :=
  trim_eq_self_iff.mpr ⟨fun c first => visible c (List.mem_of_mem_head? first),
    fun c last => visible c (List.mem_of_getLast? last)⟩

end Trimming

end Text
end Bayeux
