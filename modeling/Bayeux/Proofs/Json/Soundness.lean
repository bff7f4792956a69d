import Bayeux.Proofs.Fallible
import Bayeux.Proofs.Json.Provenance
import Bayeux.Proofs.Json.Reading

namespace Bayeux
namespace Json

/-!
# What is read of a text

Whatever a text holds, a value that is read of it is one that can be written and read again:
its numbers are the values of literals, its objects are sorted, and it nests no deeper than
there was room.
-/

/-! ## Values -/

/-- A value whose numbers are values of literals, with sorted objects, that nests no deeper
than there is room. -/
structure Value.Sound (room : Nat) (v : Value) : Prop where
  sorted : v.isSorted = true
  inRange : ∀ n ∈ v.numbers, n.InRange
  depth : v.depth ≤ room

namespace Value

theorem Sound.readable {room : Nat} {v : Value} (sound : v.Sound room) : v.Readable :=
  ⟨sound.sorted, fun n inside => Number.reads_text (sound.inRange n inside)⟩

theorem Sound.mono {room more : Nat} {v : Value} (sound : v.Sound room) (le : room ≤ more) :
    v.Sound more where
  sorted := sound.sorted
  inRange := sound.inRange
  depth := sound.depth.trans le

theorem itemDepth_le_iff {items : List Value} {room : Nat} :
    itemDepth items ≤ room ↔ ∀ v ∈ items, v.depth ≤ room := by
  induction items with
  | nil => exact ⟨fun _ => List.forall_mem_nil _, fun _ => Nat.zero_le room⟩
  | cons item rest inductionHypothesis =>
      rw [itemDepth, Nat.max_le, inductionHypothesis, List.forall_mem_cons]

theorem memberDepth_le_iff {members : List (String × Value)} {room : Nat} :
    memberDepth members ≤ room ↔ ∀ member ∈ members, member.2.depth ≤ room := by
  induction members with
  | nil => exact ⟨fun _ => List.forall_mem_nil _, fun _ => Nat.zero_le room⟩
  | cons member rest inductionHypothesis =>
      rw [memberDepth, Nat.max_le, inductionHypothesis, List.forall_mem_cons]

theorem sound_array {room : Nat} {items : List Value} (sound : ∀ v ∈ items, v.Sound room) :
    (array items).Sound (room + 1) where
  sorted := isSorted_array.mpr fun v member => (sound v member).sorted
  inRange := by
    intro n inside
    rcases mem_numbers_array.mp inside with ⟨v, member, found⟩
    exact (sound v member).inRange n found
  depth := by
    rw [Value.depth, Nat.add_le_add_iff_right, itemDepth_le_iff]
    exact fun v member => (sound v member).depth

theorem sound_object {room : Nat} {members : Members} (increasing : members.Increasing)
    (sound : ∀ member ∈ members, member.2.Sound room) : (object members).Sound (room + 1) where
  sorted := isSorted_object.mpr ⟨increasing, fun member listed => (sound member listed).sorted⟩
  inRange := by
    intro n inside
    rcases mem_numbers_object.mp inside with ⟨member, listed, found⟩
    exact (sound member listed).inRange n found
  depth := by
    rw [Value.depth, Nat.add_le_add_iff_right, memberDepth_le_iff]
    exact fun member listed => (sound member listed).depth

/-- A value that is neither a list, an object nor a number. -/
theorem sound_of_plain {room : Nat} {v : Value} (sorted : v.isSorted = true)
    (none : v.numbers = []) (flat : v.depth = 0) : v.Sound room where
  sorted := sorted
  inRange n inside := by
    rw [none] at inside
    cases inside
  depth := flat.trans_le (Nat.zero_le room)

end Value

mutual

/-- Whatever value is read of an outline can be written and read again. -/
theorem Outline.sound_of_value : ∀ (outline : Outline) {room : Nat} {v : Value},
    outline.InRange → outline.value room = .ok v → v.Sound room
  | .null, room, v, inRange, read => by
      cases read
      exact Value.sound_of_plain rfl rfl rfl
  | .truth value, room, v, inRange, read => by
      cases read
      exact Value.sound_of_plain rfl rfl rfl
  | .number (.error fault), room, v, inRange, read => by cases read
  | .number (.ok n), room, v, inRange, read => by
      cases read
      rw [Outline.InRange] at inRange
      exact ⟨rfl, List.forall_mem_singleton.mpr inRange, Nat.zero_le room⟩
  | .string (.error fault), room, v, inRange, read => by cases read
  | .string (.ok text), room, v, inRange, read => by
      cases read
      exact Value.sound_of_plain rfl rfl rfl
  | .broken opening reading skipping, room, v, inRange, read => by cases read
  | .list items, room, v, inRange, read => by
      rw [Outline.InRange] at inRange
      cases room with
      | zero => cases read
      | succ room =>
          rw [Outline.value] at read
          rcases map_eq_ok_iff.mp read with ⟨vs, values, same⟩
          rw [← same]
          exact Value.sound_array
            (Items.sound_of_values items inRange (List.forall_mem_nil _) values)
  | .object fields, room, v, inRange, read => by
      rw [Outline.InRange] at inRange
      cases room with
      | zero => cases read
      | succ room =>
          rw [Outline.value] at read
          rcases map_eq_ok_iff.mp read with ⟨members, values, same⟩
          have sound := Fields.sound_of_values fields inRange List.Pairwise.nil
            (List.forall_mem_nil _) values
          rw [← same]
          exact Value.sound_object sound.1 sound.2

theorem Items.sound_of_values : ∀ (items : Items) {room : Nat} {done vs : List Value},
    items.InRange → (∀ v ∈ done, v.Sound room) → items.values room done = .ok vs →
      ∀ v ∈ vs, v.Sound room
  | .stop ending, room, done, vs, inRange, sound, read => by
      rw [Items.values] at read
      split at read
      · cases read
      · cases read
        exact fun v member => sound v (List.mem_reverse.mp member)
  | .item outline rest, room, done, vs, inRange, sound, read => by
      rw [Items.InRange] at inRange
      rw [Items.values_item] at read
      rcases bind_eq_ok_iff.mp read with ⟨v, first, others⟩
      exact Items.sound_of_values rest inRange.2
        (List.forall_mem_cons.mpr ⟨outline.sound_of_value inRange.1 first, sound⟩) others

theorem Fields.sound_of_values : ∀ (fields : Fields) {room : Nat} {done members : Members},
    fields.InRange → done.Increasing → (∀ member ∈ done, member.2.Sound room) →
      fields.values room done = .ok members →
        members.Increasing ∧ ∀ member ∈ members, member.2.Sound room
  | .stop ending, room, done, members, inRange, increasing, sound, read => by
      rw [Fields.values] at read
      split at read
      · cases read
      · cases read
        exact ⟨increasing, sound⟩
  | .field (.error fault) outline rest, room, done, members, inRange, increasing, sound, read => by
      cases read
  | .field (.ok key) outline rest, room, done, members, inRange, increasing, sound, read => by
      rw [Fields.InRange] at inRange
      rw [Fields.values_field] at read
      rcases bind_eq_ok_iff.mp read with ⟨v, first, others⟩
      refine Fields.sound_of_values rest inRange.2 (increasing.insert key v) ?_ others
      intro member listed
      rcases Members.mem_of_mem_insert listed with new | old
      · rw [new]
        exact outline.sound_of_value inRange.1 first
      · exact sound member old

end

/-! ## Readers of known shape -/

/-- Null is read only where it stands. -/
theorem Outline.eq_null_of_value {outline : Outline} {room : Nat}
    (reads : outline.value room = .ok .null) : outline = .null := by
  cases outline with
  | null => rfl
  | truth | broken => cases reads
  | number content | string content =>
      rcases map_eq_ok_iff.mp reads with ⟨_, _, same⟩
      cases same
  | list items =>
      cases room with
      | zero => cases reads
      | succ room =>
          rcases map_eq_ok_iff.mp reads with ⟨_, _, same⟩
          cases same
  | object fields =>
      cases room with
      | zero => cases reads
      | succ room =>
          rcases map_eq_ok_iff.mp reads with ⟨_, _, same⟩
          cases same

theorem Outline.optional_of_ne_null {α : Type} {outline : Outline} (present : outline ≠ .null)
    (read : Outline → Except Fault α) : outline.optional read = (read outline).map some := by
  cases outline with
  | null => exact absurd rfl present
  | truth | number | string | broken | list | object => rfl

/-- What is read of a field that may be absent is not null. -/
theorem Outline.sound_of_optional {outline : Outline} {room : Nat} {field : Option Value}
    (inRange : outline.InRange) (reads : outline.optional (Outline.value room) = .ok field) :
    ∀ v ∈ field, v ≠ .null ∧ v.Sound room := by
  intro v known
  rw [Option.mem_def.mp known] at reads
  have present : outline ≠ .null := by
    intro same
    rw [same] at reads
    cases reads
  rw [optional_of_ne_null present] at reads
  rcases map_eq_ok_iff.mp reads with ⟨w, value, same⟩
  rw [Option.some.inj same] at value
  refine ⟨?_, outline.sound_of_value inRange value⟩
  intro null
  rw [null] at value
  exact present (eq_null_of_value value)

/-- An integer is read from its range only. -/
theorem Outline.within_of_readInteger {low high value : Int} {expected : Expected}
    {outline : Outline} (reads : outline.readInteger low high expected = .ok value) :
    low ≤ value ∧ value ≤ high := by
  unfold readInteger at reads
  split at reads
  · split at reads
    next inside =>
      cases reads
      exact inside
    next => cases reads
  · cases reads

theorem Outline.lt_of_readUnsigned {outline : Outline} {n : Nat}
    (reads : outline.readUnsigned = .ok n) : n < 2 ^ 64 := by
  rcases map_eq_ok_iff.mp reads with ⟨value, found, rfl⟩
  have inside := within_of_readInteger found
  unfold UInt64.size at inside
  omega

theorem Outline.lt_of_readSigned {outline : Outline} {value : Int}
    (reads : outline.readSigned = .ok value) : value < 2 ^ 63 := by
  have inside := within_of_readInteger reads
  omega

/-- What every step keeps holds when all members have been gone through. -/
theorem Fields.gather_keeps {σ : Type} {step : σ → String → Outline → Except Fault σ}
    (keeps : σ → Prop)
    (kept : ∀ {state name outline next}, outline.InRange → keeps state →
      step state name outline = .ok next → keeps next) :
    ∀ (fields : Fields) {state result : σ}, fields.InRange → keeps state →
      fields.gather step state = .ok result → keeps result
  | .stop ending, state, result, inRange, start, gathered => by
      rw [Fields.gather] at gathered
      split at gathered
      · cases gathered
      · cases gathered
        exact start
  | .field (.error fault) outline rest, state, result, inRange, start, gathered => by
      cases gathered
  | .field (.ok name) outline rest, state, result, inRange, start, gathered => by
      rw [Fields.InRange] at inRange
      rw [Fields.gather] at gathered
      split at gathered
      · cases gathered
      next next stepped =>
        exact gather_keeps keeps kept rest inRange.2 (kept inRange.1 start stepped) gathered

/-- What is true of every item that is read is true of all of them. -/
theorem Items.collect_forall {α : Type} {read : Outline → Except Fault α} {P : α → Prop}
    (each : ∀ {outline value}, outline.InRange → read outline = .ok value → P value) :
    ∀ (items : Items) {done values : List α}, items.InRange → (∀ value ∈ done, P value) →
      items.collect read done = .ok values → ∀ value ∈ values, P value
  | .stop ending, done, values, inRange, earlier, collected => by
      rw [Items.collect] at collected
      split at collected
      · cases collected
      · cases collected
        exact fun value member => earlier value (List.mem_reverse.mp member)
  | .item outline rest, done, values, inRange, earlier, collected => by
      rw [Items.InRange] at inRange
      rw [Items.collect_item] at collected
      rcases bind_eq_ok_iff.mp collected with ⟨value, first, others⟩
      exact collect_forall each rest inRange.2
        (List.forall_mem_cons.mpr ⟨each inRange.1 first, earlier⟩) others

/-- A text is read by reading its outline. -/
theorem exists_of_readText {α : Type} {read : Outline → Except Fault α} {text : List Char}
    {value : α} (reads : readText read text = .ok value) :
    ∃ outline : Outline, outline.InRange ∧ read outline = .ok value := by
  refine ⟨(Outline.ofTokens (scan text)).1,
    Outline.inRange_ofTokens fun token member => inRange_of_mem_scan member, ?_⟩
  unfold readText at reads
  simp only [] at reads
  split at reads
  · cases reads
  next result found =>
    split at reads
    · cases reads
    · rw [found, Except.ok.inj reads]

end Json
end Bayeux
