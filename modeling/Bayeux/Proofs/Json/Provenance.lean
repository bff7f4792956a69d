import Bayeux.Json.Outline
import Bayeux.Proofs.Json.Literal

namespace Bayeux
namespace Json

/-!
# Where numbers come from

Every number in the outline of a text is the value of a literal, so it can be written and read
again.  That is known where the number is scanned, and it is carried from the tokens to the
lists and objects that are being built, and from there to the outline.
-/

/-! ## Tokens -/

/-- If the token holds a number, that is the value of some literal. -/
def Token.InRange : Token → Prop
  | .number (.ok n) => n.InRange
  | _ => True

theorem Token.inRange_number (numeral : Numeral) : (Token.number numeral.value).InRange := by
  cases value : numeral.value with
  | error fault => exact True.intro
  | ok n => exact Numeral.inRange_of_value value

namespace Quotation

variable {q : Quotation} {c : Char} {token : Token}

theorem inRange_of_plainStep (ended : q.plainStep c = .ended token) : token.InRange := by
  unfold plainStep at ended
  split at ended
  · cases ended
    exact True.intro
  · split at ended
    · cases ended
    · split at ended
      · cases ended
        exact True.intro
      · cases ended

theorem inRange_of_escapeStep (ended : q.escapeStep c = .ended token) : token.InRange := by
  unfold escapeStep at ended
  split at ended
  case _ | _ | _ | _ | _ | _ | _ | _ | _ => cases ended
  case _ =>
    cases ended
    exact True.intro

/-- A string that ends is no number. -/
theorem inRange_of_ended (ended : q.step c = .ended token) : token.InRange := by
  unfold step at ended
  split at ended
  · exact inRange_of_plainStep ended
  · exact inRange_of_escapeStep ended
  · unfold unitStep at ended
    simp only at ended
    split at ended
    · cases ended
    · split at ended
      · cases ended
      · cases ended
        exact True.intro
  · split at ended
    · cases ended
    · exact inRange_of_plainStep ended
  · split at ended
    · cases ended
    · exact inRange_of_escapeStep ended

end Quotation

namespace Scanner

/-- Every number that was scanned is in range, and no word that is being read is a number. -/
structure Sound (s : Scanner) : Prop where
  out : ∀ token ∈ s.out, token.InRange
  word : ∀ due token, s.mode = .word due token → token.InRange

variable {s : Scanner} {token : Token}

theorem Sound.emit (sound : s.Sound) (inRange : token.InRange) : (s.emit token).Sound where
  out := List.forall_mem_cons.mpr ⟨inRange, sound.out⟩
  word _ _ reading := by cases reading

theorem Sound.halt (sound : s.Sound) (inRange : token.InRange) : (s.halt token).Sound where
  out := List.forall_mem_cons.mpr ⟨inRange, sound.out⟩
  word _ _ reading := by cases reading

/-- Nothing new is scanned while a literal is being read. -/
theorem Sound.enter (sound : s.Sound) {mode : Mode}
    (word : ∀ due token, mode = .word due token → token.InRange) :
    ({ s with mode } : Scanner).Sound where
  out := sound.out
  word := word

theorem Sound.startStep (sound : s.Sound) (c : Char) : (s.startStep c).Sound := by
  unfold Scanner.startStep
  split
  · exact sound.enter fun _ _ reading => by cases reading
  · split
    case _ | _ | _ | _ | _ | _ => exact sound.emit True.intro
    case _ => exact sound.enter fun _ _ reading => by cases reading
    case _ | _ | _ =>
      apply sound.enter
      intro due token reading
      cases reading
      exact True.intro
    case _ =>
      split
      · exact sound.enter fun _ _ reading => by cases reading
      · exact sound.halt True.intro

theorem Sound.step (sound : s.Sound) (c : Char) : (s.step c).Sound := by
  unfold Scanner.step
  cases mode : s.mode with
  | between => exact sound.startStep c
  | word due token =>
      have inRange := sound.word due token mode
      cases due with
      | nil => exact (sound.emit inRange).startStep c
      | cons next rest =>
          simp only []
          split
          · split
            · exact sound.emit inRange
            · apply sound.enter
              intro due other reading
              cases reading
              exact inRange
          · exact sound.halt True.intro
  | number numeral =>
      simp only []
      split
      · exact sound.enter fun _ _ reading => by cases reading
      · exact (sound.emit (Token.inRange_number numeral)).startStep c
      · exact sound.halt True.intro
  | string quotation =>
      simp only []
      split
      · exact sound.enter fun _ _ reading => by cases reading
      · exact sound.halt True.intro
      next token _ ended => exact sound.emit (Quotation.inRange_of_ended ended)
  | halted => exact sound

theorem Sound.finish (sound : s.Sound) : ∀ token ∈ s.finish, token.InRange := by
  have joined : ∀ last : List Token, (∀ token ∈ last, token.InRange) →
      ∀ token ∈ (last ++ s.out).reverse, token.InRange := by
    intro last inRange token member
    rcases List.mem_append.mp (List.mem_reverse.mp member) with new | old
    · exact inRange token new
    · exact sound.out token old
  unfold Scanner.finish
  apply joined
  cases mode : s.mode with
  | between | halted => exact List.forall_mem_nil _
  | word due token =>
      cases due with
      | nil => exact List.forall_mem_singleton.mpr (sound.word [] token mode)
      | cons next rest => exact List.forall_mem_singleton.mpr True.intro
  | number numeral =>
      simp only []
      split
      · exact List.forall_mem_singleton.mpr (Token.inRange_number numeral)
      · exact List.forall_mem_singleton.mpr True.intro
  | string quotation => exact List.forall_mem_singleton.mpr True.intro

end Scanner

theorem inRange_of_mem_scan {text : List Char} {token : Token} (member : token ∈ scan text) :
    token.InRange := by
  have sound : ∀ (text : List Char) (s : Scanner), s.Sound → (text.foldl Scanner.step s).Sound := by
    intro text
    induction text with
    | nil => exact fun s sound => sound
    | cons c rest inductionHypothesis =>
        exact fun s sound => inductionHypothesis (s.step c) (sound.step c)
  have start : ({} : Scanner).Sound :=
    { out := List.forall_mem_nil _
      word := fun _ _ reading => by cases reading }
  exact (sound text {} start).finish token member

/-! ## Outlines -/

mutual

/-- All numbers in an outline are values of literals. -/
def Outline.InRange : Outline → Prop
  | .number (.ok n) => n.InRange
  | .list items => items.InRange
  | .object fields => fields.InRange
  | _ => True

def Items.InRange : Items → Prop
  | .stop _ => True
  | .item value rest => value.InRange ∧ rest.InRange

def Fields.InRange : Fields → Prop
  | .stop _ => True
  | .field _ value rest => value.InRange ∧ rest.InRange

end

namespace Outline

theorem inRange_ofItems {items : List Outline} (inRange : ∀ value ∈ items, value.InRange)
    (ending : ListEnding) : (ofItems items ending).InRange := by
  have joined : ∀ rest : Items, rest.InRange →
      (items.foldl (fun rest value => Items.item value rest) rest).InRange := by
    induction items with
    | nil => exact fun rest kept => kept
    | cons value before inductionHypothesis =>
        intro rest kept
        rcases List.forall_mem_cons.mp inRange with ⟨first, others⟩
        apply inductionHypothesis others
        rw [Items.InRange]
        exact ⟨first, kept⟩
  unfold ofItems
  rw [Outline.InRange]
  apply joined
  rw [Items.InRange]
  exact True.intro

theorem inRange_ofFields {fields : List (Key × Outline)}
    (inRange : ∀ field ∈ fields, field.2.InRange) (ending : ObjectEnding) :
    (ofFields fields ending).InRange := by
  have joined : ∀ rest : Fields, rest.InRange →
      (fields.foldl (fun rest field => Fields.field field.1 field.2 rest) rest).InRange := by
    induction fields with
    | nil => exact fun rest kept => kept
    | cons field before inductionHypothesis =>
        intro rest kept
        rcases List.forall_mem_cons.mp inRange with ⟨first, others⟩
        apply inductionHypothesis others
        rw [Fields.InRange]
        exact ⟨first, kept⟩
  unfold ofFields
  rw [Outline.InRange]
  apply joined
  rw [Fields.InRange]
  exact True.intro

theorem inRange_ofToken {token : Token} (inRange : token.InRange) :
    (ofToken token).InRange := by
  cases token with
  | number value =>
      cases value with
      | error fault =>
          unfold ofToken
          rw [Outline.InRange]
          · exact True.intro
          all_goals simp
      | ok n =>
          unfold ofToken
          rw [Outline.InRange]
          exact inRange
  | openList => exact inRange_ofItems (List.forall_mem_nil _) .exhausted
  | openObject => exact inRange_ofFields (List.forall_mem_nil _) .exhausted
  | closeList | closeObject | comma | colon | null | truth | string | broken | stray =>
      unfold ofToken
      simp [Outline.InRange]

/-- What precedes a value under way is in range. -/
def Slot.InRange : Slot → Prop
  | .item before => ∀ value ∈ before, value.InRange
  | .field before _ => ∀ field ∈ before, field.2.InRange

/-- What has been read of the innermost list or object, or of all, is in range. -/
def Phase.InRange : Phase → Prop
  | .afterItem items => ∀ value ∈ items, value.InRange
  | .nextKey fields | .colon fields _ | .afterField fields => ∀ field ∈ fields, field.2.InRange
  | .finished root _ => root.InRange
  | .value | .firstItem | .firstKey => True

namespace Builder

/-- Everything that has been built is in range. -/
structure Sound (b : Builder) : Prop where
  stack : ∀ slot ∈ b.stack, slot.InRange
  phase : b.phase.InRange

variable {b : Builder} {value : Outline}

/-- A value goes before what is read later in its list or object. -/
theorem Sound.fill (sound : b.Sound) (inRange : value.InRange) : (b.fill value).Sound := by
  rcases b with ⟨stack, phase⟩
  cases stack with
  | nil => exact ⟨sound.stack, inRange⟩
  | cons slot rest =>
      rcases List.forall_mem_cons.mp sound.stack with ⟨first, others⟩
      cases slot with
      | item before => exact ⟨others, List.forall_mem_cons.mpr ⟨inRange, first⟩⟩
      | field before key => exact ⟨others, List.forall_mem_cons.mpr ⟨inRange, first⟩⟩

theorem inRange_rooted {stack : List Slot} {phase : Phase}
    (slots : ∀ slot ∈ stack, slot.InRange) (inRange : value.InRange) :
    (({ stack, phase } : Builder).rooted value).InRange := by
  unfold rooted
  simp only []
  induction stack generalizing value with
  | nil => exact inRange
  | cons slot rest inductionHypothesis =>
      rcases List.forall_mem_cons.mp slots with ⟨first, others⟩
      rw [List.foldl_cons]
      apply inductionHypothesis others
      cases slot with
      | item before => exact inRange_ofItems (List.forall_mem_cons.mpr ⟨inRange, first⟩) _
      | field before key => exact inRange_ofFields (List.forall_mem_cons.mpr ⟨inRange, first⟩) _

theorem Sound.abandon (slots : ∀ slot ∈ b.stack, slot.InRange) (inRange : value.InRange) :
    (b.abandon value).Sound where
  stack := List.forall_mem_nil _
  phase := inRange_rooted slots inRange

theorem Sound.valueStep (sound : b.Sound) {token : Token} (inRange : token.InRange) :
    (b.valueStep token).Sound := by
  have built := inRange_ofToken inRange
  cases token with
  | openList | openObject => exact ⟨sound.stack, True.intro⟩
  | null | truth | number | string => exact sound.fill built
  | closeObject | comma | colon | broken | stray => exact .abandon sound.stack built
  | closeList =>
      unfold Builder.valueStep
      simp only []
      split
      next value before rest stack =>
        have slots := sound.stack
        rw [stack] at slots
        rcases List.forall_mem_cons.mp slots with ⟨first, others⟩
        exact .abandon others (inRange_ofItems first .trailingComma)
      next => exact .abandon sound.stack built

theorem Sound.keyStep (sound : b.Sound) {fields : List (Key × Outline)}
    (inRange : ∀ field ∈ fields, field.2.InRange) (token : Token) :
    (b.keyStep fields token).Sound := by
  unfold Builder.keyStep
  split
  · exact ⟨sound.stack, inRange⟩
  · exact .abandon sound.stack (inRange_ofFields inRange _)
  · exact .abandon sound.stack (inRange_ofFields inRange _)

theorem Sound.step (sound : b.Sound) {token : Token} (inRange : token.InRange) :
    (b.step token).Sound := by
  rcases b with ⟨stack, phase⟩
  have inside : phase.InRange := sound.phase
  have unmarked : (broken .absent .expectedColon .expectedColon).InRange := by
    simp [Outline.InRange]
  unfold Builder.step
  dsimp only
  split
  -- a value is due, or the first item of a list
  · exact sound.valueStep inRange
  · exact sound.fill (inRange_ofItems (List.forall_mem_nil _) .closed)
  · refine Sound.valueStep ⟨?_, inside⟩ inRange
    exact List.forall_mem_cons.mpr ⟨List.forall_mem_nil _, sound.stack⟩
  -- after an item
  · exact ⟨List.forall_mem_cons.mpr ⟨inside, sound.stack⟩, True.intro⟩
  · exact sound.fill (inRange_ofItems inside .closed)
  · exact .abandon sound.stack (inRange_ofItems inside .unseparated)
  -- a key is due, the first one or another
  · exact sound.fill (inRange_ofFields (List.forall_mem_nil _) .closed)
  · exact sound.keyStep (List.forall_mem_nil _) _
  · exact .abandon sound.stack (inRange_ofFields inside .trailingComma)
  · exact sound.keyStep inside _
  -- after a key
  · exact ⟨List.forall_mem_cons.mpr ⟨inside, sound.stack⟩, True.intro⟩
  · exact .abandon sound.stack
      (inRange_ofFields (List.forall_mem_cons.mpr ⟨unmarked, inside⟩) .exhausted)
  -- after a member
  · exact ⟨sound.stack, inside⟩
  · exact sound.fill (inRange_ofFields inside .closed)
  · exact .abandon sound.stack (inRange_ofFields inside .unseparated)
  -- the text's value is complete
  · exact ⟨sound.stack, inside⟩

theorem Sound.finish (sound : b.Sound) : b.finish.1.InRange := by
  rcases b with ⟨stack, phase⟩
  have inside := sound.phase
  have missing : ∀ fault, (broken .absent fault fault).InRange := fun fault => by
    simp [Outline.InRange]
  cases phase with
  | value => exact inRange_rooted sound.stack (missing .endInValue)
  | firstItem => exact inRange_rooted sound.stack (inRange_ofItems (List.forall_mem_nil _) _)
  | afterItem items => exact inRange_rooted sound.stack (inRange_ofItems inside _)
  | firstKey => exact inRange_rooted sound.stack (inRange_ofFields (List.forall_mem_nil _) _)
  | nextKey fields => exact inRange_rooted sound.stack (inRange_ofFields inside _)
  | colon fields key =>
      exact inRange_rooted sound.stack
        (inRange_ofFields (List.forall_mem_cons.mpr ⟨missing .endInObject, inside⟩) _)
  | afterField fields => exact inRange_rooted sound.stack (inRange_ofFields inside _)
  | finished root trailing => exact inside

end Builder

theorem inRange_ofTokens {tokens : List Token} (inRange : ∀ token ∈ tokens, token.InRange) :
    (ofTokens tokens).1.InRange := by
  have sound : ∀ b : Builder, b.Sound → (tokens.foldl Builder.step b).Sound := by
    induction tokens with
    | nil => exact fun b sound => sound
    | cons token rest inductionHypothesis =>
        rcases List.forall_mem_cons.mp inRange with ⟨first, others⟩
        exact fun b sound => inductionHypothesis others (b.step token) (sound.step first)
  exact (sound {} ⟨List.forall_mem_nil _, True.intro⟩).finish

end Outline

end Json
end Bayeux
