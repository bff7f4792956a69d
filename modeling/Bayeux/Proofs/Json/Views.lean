import Bayeux.Proofs.Json.Soundness

namespace Bayeux
namespace Json

/-!
# Views of values

A reader of known shape succeeds on exactly the values that a view shows something of, and
returns what the view shows.  A free-form value is read as it stands, but for its objects, which
are held as maps.
-/

/-! ## Views -/

namespace Value

def isNull : Value → Bool
  | null => true
  | _ => false

def text? : Value → Option String
  | string text => some text
  | _ => none

def truth? : Value → Option Bool
  | truth value => some value
  | _ => none

/-- A natural number of 64 bits. -/
def natural? : Value → Option Nat
  | number (.integer n) => if 0 ≤ n ∧ n < 2 ^ 64 then some n.toNat else none
  | _ => none

def texts? : Value → Option (List String)
  | array items => items.mapM text?
  | _ => none

/-- Any value but null. -/
def present? : Value → Option Value
  | null => none
  | v => some v.normal

theorem lt_of_natural? {v : Value} {n : Nat} (found : v.natural? = some n) : n < 2 ^ 64 := by
  unfold natural? at found
  split at found
  · split at found
    next bounds =>
      have same := Option.some.inj found
      omega
    next => cases found
  · cases found

/-- A value of integers of 64 bits that nests no deeper than there is room. -/
structure Fits (room : Nat) (v : Value) : Prop where
  integers : ∀ n ∈ v.numbers, n.isInteger64 = true
  depth : v.depth ≤ room

variable {room : Nat}

theorem Fits.of_mem_array {items : List Value} (fits : (array items).Fits room) :
    ∃ inner, room = inner + 1 ∧ ∀ v ∈ items, v.Fits inner := by
  have depth := fits.depth
  rw [Value.depth] at depth
  cases room with
  | zero => exact absurd depth (Nat.not_succ_le_zero _)
  | succ inner =>
      rw [Nat.add_le_add_iff_right, itemDepth_le_iff] at depth
      exact ⟨inner, rfl, fun v listed =>
        ⟨fun n inside => fits.integers n (mem_numbers_array.mpr ⟨v, listed, inside⟩),
          depth v listed⟩⟩

theorem Fits.of_mem_object {members : List (String × Value)} (fits : (object members).Fits room) :
    ∃ inner, room = inner + 1 ∧ ∀ member ∈ members, member.2.Fits inner := by
  have depth := fits.depth
  rw [Value.depth] at depth
  cases room with
  | zero => exact absurd depth (Nat.not_succ_le_zero _)
  | succ inner =>
      rw [Nat.add_le_add_iff_right, memberDepth_le_iff] at depth
      exact ⟨inner, rfl, fun member listed =>
        ⟨fun n inside => fits.integers n (mem_numbers_object.mpr ⟨member, listed, inside⟩),
          depth member listed⟩⟩

theorem Fits.value_outline {v : Value} (fits : v.Fits room) :
    v.outline.value room = .ok v.normal := by
  rw [v.value_outline room fun n inside => Number.reads_of_isInteger64 (fits.integers n inside),
    v.reread_eq_self fun n inside => Number.reread_of_isInteger64 (fits.integers n inside)]
  exact if_pos fits.depth

end Value

/-! ## Readers and views -/

section Readers

variable {α β : Type}

/-- A reader takes a value for what a view shows of it. -/
def Value.IsReadBy (v : Value) (read : Outline → Except Fault α) (view : Value → Option α) : Prop :=
  ∀ content, read v.outline = .ok content ↔ view v = some content

theorem Value.isReadBy_readString (v : Value) : v.IsReadBy Outline.readString Value.text? := by
  intro content
  cases v <;> simp [Value.outline, Outline.readString, Value.text?]

theorem Value.isReadBy_readTruth (v : Value) : v.IsReadBy Outline.readTruth Value.truth? := by
  intro content
  cases v <;> simp [Value.outline, Outline.readTruth, Value.truth?]

theorem Value.isReadBy_readUnsigned {v : Value} (integers : ∀ n ∈ v.numbers, n.isInteger64 = true) :
    v.IsReadBy Outline.readUnsigned Value.natural? := by
  intro content
  unfold Outline.readUnsigned
  cases v with
  | number n =>
      have integer := integers n (by rw [Value.numbers]; exact List.mem_singleton_self n)
      rw [Value.outline, Number.reading_of_isInteger64 integer]
      cases n with
      | float value => cases integer
      | integer value =>
          have bounds : value ≤ UInt64.size - 1 ↔ value < 2 ^ 64 := by
            unfold UInt64.size
            omega
          simp only [Outline.readInteger, Value.natural?, bounds]
          split <;> simp [Except.map]
  | null | truth | string | array | object =>
      simp [Value.outline, Outline.readInteger, Value.natural?, Except.map]

/-- A list is read item by item. -/
theorem Items.collect_eq_ok_iff {read : Outline → Except Fault α} {view : Value → Option α}
    {items : List Value} (reads : ∀ v ∈ items, v.IsReadBy read view) (done values : List α) :
    (Value.itemOutlines items).collect read done = .ok values ↔
      ∃ rest, items.mapM view = some rest ∧ values = done.reverse ++ rest := by
  induction items generalizing done with
  | nil => simp [Value.itemOutlines, Items.collect, ListEnding.fault?, eq_comm]
  | cons v vs inductionHypothesis =>
      have others := inductionHypothesis
        (fun other listed => reads other (List.mem_cons_of_mem v listed))
      have first := reads v List.mem_cons_self
      rw [Value.itemOutlines, Items.collect_item, List.mapM_cons]
      cases found : view v with
      | none =>
          cases result : read v.outline with
          | error fault => simp [Except.bind]
          | ok content =>
              rw [(first content).mp result] at found
              cases found
      | some content =>
          rw [(first content).mpr found]
          simp only [Except.bind, others]
          cases vs.mapM view <;> simp

theorem Value.isReadBy_readList {room : Nat} {v : Value} (fits : v.Fits room) :
    v.IsReadBy (Outline.readList room fun _ => Outline.readString) Value.texts? := by
  intro content
  cases v with
  | array items =>
      rcases fits.of_mem_array with ⟨inner, rfl, _⟩
      rw [Value.outline, Outline.readList, Value.texts?,
        Items.collect_eq_ok_iff fun v _ => v.isReadBy_readString]
      simp
  | null | truth | number | string | object => simp [Value.outline, Outline.readList, Value.texts?]

/-- Where null does not count as absence, the view must show something. -/
theorem Value.IsReadBy.required {v : Value} {read : Outline → Except Fault α}
    {view : Value → Option α} (reads : v.IsReadBy read view) (default content : α) :
    read v.outline = .ok content ↔
      (view v).isSome = true ∧ content = (view v).getD default := by
  rw [reads content]
  cases view v <;> simp [eq_comm]

/-- Null is read as absence, and anything else as what the view shows of it. -/
theorem Value.IsReadBy.optional {v : Value} {read : Outline → Except Fault α}
    {view : Value → Option α} (reads : v.IsReadBy read view) (nothing : view .null = none)
    (field : Option α) :
    v.outline.optional read = .ok field ↔
      (v.isNull = true ∨ (view v).isSome = true) ∧ field = view v := by
  by_cases absent : v = .null
  · rw [absent, nothing]
    simp [Value.outline, Outline.optional, Value.isNull, eq_comm]
  · have given : v.isNull = false := by
      cases v with
      | null => exact absurd rfl absent
      | truth | number | string | array | object => rfl
    rw [Outline.optional_outline read absent, given]
    cases result : read v.outline with
    | error fault =>
        have unseen : view v = none := by
          by_contra seen
          rcases Option.ne_none_iff_exists'.mp seen with ⟨content, found⟩
          rw [(reads content).mpr found] at result
          cases result
        simp [unseen, Except.map]
    | ok content =>
        rw [(reads content).mp result]
        simp [Except.map, eq_comm]

theorem Value.Fits.optional_value {room : Nat} {v : Value} (fits : v.Fits room)
    (field : Option Value) :
    v.outline.optional (Outline.value room) = .ok field ↔ True ∧ field = v.present? := by
  by_cases absent : v = .null
  · rw [absent]
    simp [Value.outline, Outline.optional, Value.present?, eq_comm]
  · have given : v.present? = some v.normal := by
      cases v with
      | null => exact absurd rfl absent
      | truth | number | string | array | object => rfl
    rw [Outline.optional_outline _ absent, fits.value_outline, given]
    simp [Except.map, eq_comm]

/-- What is read of a field is put in its place. -/
theorem bind_pure_eq_ok_iff {read : Except Fault α} {accepted : Prop} {content : α}
    (reads : ∀ result, read = .ok result ↔ accepted ∧ result = content) (place : α → β)
    (next : β) :
    (do return place (← read)) = .ok next ↔ accepted ∧ next = place content := by
  refine Iff.trans bind_eq_ok_iff ?_
  constructor
  · rintro ⟨result, succeeds, placed⟩
    rcases (reads result).mp succeeds with ⟨met, rfl⟩
    exact ⟨met, (Except.ok.inj placed).symm⟩
  · rintro ⟨met, rfl⟩
    exact ⟨content, (reads content).mpr ⟨met, rfl⟩, rfl⟩

end Readers

/-! ## Canonical values -/

namespace Value

theorem normalMembers_eq_map (members : List (String × Value)) :
    normalMembers members = members.map fun member => (member.1, member.2.normal) := by
  induction members with
  | nil => rfl
  | cons member rest inductionHypothesis =>
      rw [normalMembers, List.map_cons, inductionHypothesis]

/-- An object that is held as a map holds the last member of each key. -/
theorem lookup_of_normal {members : List (String × Value)} {held : Members}
    (normal : (object members).normal = .object held) (key : String) :
    held.lookup key = (members.reverse.lookup key).map Value.normal := by
  rw [Value.normal] at normal
  rw [← Value.object.inj normal, Members.lookup_ofList, normalMembers_eq_map, ← List.map_reverse,
    Members.lookup_map]

theorem normal_eq_null_iff {v : Value} : v.normal = .null ↔ v = .null := by
  cases v <;> simp [normal]

mutual

theorem canonical_normal : ∀ v : Value, (∀ n ∈ v.numbers, n.isInteger64 = true) →
    v.normal.Canonical
  | .null, integers => ⟨rfl, integers⟩
  | .truth value, integers => ⟨rfl, integers⟩
  | .number n, integers => ⟨rfl, integers⟩
  | .string text, integers => ⟨rfl, integers⟩
  | .array items, integers => by
      rw [numbers] at integers
      rw [normal]
      exact canonical_array (canonical_normalItems items integers)
  | .object members, integers => by
      rw [numbers] at integers
      rw [normal]
      exact canonical_object (Members.increasing_ofList _) fun member listed =>
        canonical_normalMembers members integers member (Members.mem_of_mem_ofList listed)

theorem canonical_normalItems : ∀ vs : List Value,
    (∀ n ∈ itemNumbers vs, n.isInteger64 = true) → ∀ v ∈ normalItems vs, v.Canonical
  | [], integers => List.forall_mem_nil _
  | v :: vs, integers => by
      rw [itemNumbers] at integers
      rw [normalItems]
      exact List.forall_mem_cons.mpr
        ⟨v.canonical_normal fun n inside => integers n (List.mem_append_left _ inside),
          canonical_normalItems vs fun n inside => integers n (List.mem_append_right _ inside)⟩

theorem canonical_normalMembers : ∀ members : List (String × Value),
    (∀ n ∈ memberNumbers members, n.isInteger64 = true) →
      ∀ member ∈ normalMembers members, member.2.Canonical
  | [], integers => List.forall_mem_nil _
  | (key, v) :: members, integers => by
      rw [memberNumbers] at integers
      rw [normalMembers]
      exact List.forall_mem_cons.mpr
        ⟨v.canonical_normal fun n inside => integers n (List.mem_append_left _ inside),
          canonical_normalMembers members fun n inside =>
            integers n (List.mem_append_right _ inside)⟩

end

theorem canonical_of_present? {v content : Value}
    (integers : ∀ n ∈ v.numbers, n.isInteger64 = true) (shown : v.present? = some content) :
    content ≠ .null ∧ content.Canonical := by
  unfold present? at shown
  split at shown
  · cases shown
  next given =>
    rw [← Option.some.inj shown]
    exact ⟨fun null => given (normal_eq_null_iff.mp null), v.canonical_normal integers⟩

end Value

end Json
end Bayeux
