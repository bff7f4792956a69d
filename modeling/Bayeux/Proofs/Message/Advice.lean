import Bayeux.Message.Reader
import Bayeux.Proofs.Json.Reading

namespace Bayeux
namespace Advice

/-!
# Advice is read back

Canonical advice is read back from what is written for it, as far as it fits.  The
known members come first, each at most once, so the reader goes through the fields in
their order; what it has read of them at each point is the advice cut down to those
fields.
-/

open Json (Value Members fitting)

/-- Advice that its written form stands for: times of 64 bits, and no member of
unknown name that has a known one. -/
structure Canonical (a : Advice) : Prop where
  interval : ∀ ms ∈ a.interval, ms < 2 ^ 64
  timeout : ∀ ms ∈ a.timeout, ms < 2 ^ 64
  unnamed : ∀ member ∈ a.other, member.1 ∉ Field.all.map Field.name
  other : (Value.object a.other).Canonical

/-- What is written for a known field. -/
def written (a : Advice) : Field → Option Value
  | .reconnect => a.reconnect.map fun policy => .string policy.text
  | .interval => a.interval.map fun ms : Nat => .number (.integer ms)
  | .timeout => a.timeout.map fun ms : Nat => .number (.integer ms)
  | .multipleClients => a.multipleClients.map .truth

/-- The advice cut down to some of the known fields. -/
def restrict (a : Advice) (fields : List Field) : Advice :=
  { reconnect := if .reconnect ∈ fields then a.reconnect else none
    interval := if .interval ∈ fields then a.interval else none
    timeout := if .timeout ∈ fields then a.timeout else none
    multipleClients := if .multipleClients ∈ fields then a.multipleClients else none }

/-- Takes over one known field. -/
def copy (a : Advice) (field : Field) (draft : Advice) : Advice :=
  match field with
  | .reconnect => { draft with reconnect := a.reconnect }
  | .interval => { draft with interval := a.interval }
  | .timeout => { draft with timeout := a.timeout }
  | .multipleClients => { draft with multipleClients := a.multipleClients }

/-- What the reader has when it has gone through some of the known fields. -/
def drafted (a : Advice) (fields : List Field) : Draft :=
  { advice := a.restrict fields
    seen := Members.seen a.written fields }

/-- What the reader has when it has also read some of the members of unknown name. -/
def completed (a : Advice) (others : Members) : Draft :=
  { advice := { a with other := others }, seen := (a.drafted Field.all).seen }

theorem value_eq (a : Advice) :
    a.value = .object (Members.named Field.name a.written Field.all ++ a.other) := by
  unfold value
  congr 1
  simp only [Members.named, Field.all, List.flatMap_cons, List.flatMap_nil, written, memberOf,
    Option.map_map, Field.name, List.append_nil, List.append_assoc]
  cases a.interval <;> cases a.timeout <;> rfl

theorem ofName?_name (field : Field) : Field.ofName? field.name = some field := by
  cases field <;> decide

theorem ofName?_eq_none {name : String} (unnamed : name ∉ Field.all.map Field.name) :
    Field.ofName? name = none := by
  apply List.find?_eq_none.mpr
  intro field member same
  exact unnamed (List.mem_map.mpr ⟨field, member, eq_of_beq same⟩)

theorem restrict_append (a : Advice) (done : List Field) (field : Field) :
    a.restrict (done ++ [field]) = a.copy field (a.restrict done) := by
  cases field <;> simp [restrict, copy]

/-- A field that is not written is cut down to nothing. -/
theorem copy_of_written_eq_none {a : Advice} {field : Field} (absent : a.written field = none)
    (done : List Field) : a.copy field (a.restrict done) = a.restrict done := by
  cases field with
  | reconnect | interval | timeout | multipleClients =>
      have nothing := Option.map_eq_none_iff.mp absent
      simp [copy, restrict, nothing]

section Reading

variable {a : Advice}

/-- Every field is read back from what is written for it. -/
theorem readField_written (canonical : a.Canonical) {field : Field} {v : Value}
    (writes : a.written field = some v) (draft : Advice) (room : Nat) :
    readField room draft field v.outline = fitting v.depth room (a.copy field draft) := by
  cases field with
  | reconnect =>
      rcases Option.map_eq_some_iff.mp writes with ⟨policy, known, rfl⟩
      have read : (Value.string policy.text).outline.optional (Reconnect.read room) =
          .ok (some policy) := by
        change (Reconnect.ofVariant policy.text).map some = _
        unfold Reconnect.ofVariant
        rw [Reconnect.ofText?_text]
        rfl
      rw [Value.depth, Json.fitting_zero, readField, read, copy, known]
      rfl
  | interval =>
      rcases Option.map_eq_some_iff.mp writes with ⟨ms, known, rfl⟩
      rw [Value.depth, Json.fitting_zero, readField, Json.Outline.optional_outline _ (by simp),
        Value.readUnsigned_outline (canonical.interval ms known), copy, known]
      rfl
  | timeout =>
      rcases Option.map_eq_some_iff.mp writes with ⟨ms, known, rfl⟩
      rw [Value.depth, Json.fitting_zero, readField, Json.Outline.optional_outline _ (by simp),
        Value.readUnsigned_outline (canonical.timeout ms known), copy, known]
      rfl
  | multipleClients =>
      rcases Option.map_eq_some_iff.mp writes with ⟨value, known, rfl⟩
      rw [Value.depth, Json.fitting_zero, copy, known]
      rfl

theorem drafted_of_written_eq_none {field : Field} (absent : a.written field = none)
    (done : List Field) : a.drafted (done ++ [field]) = a.drafted done := by
  unfold drafted
  rw [restrict_append, copy_of_written_eq_none absent, Members.seen_append_of_none absent]

/-- The reader takes in one more known field. -/
theorem step_written (canonical : a.Canonical) {done : List Field} {field : Field} {v : Value}
    (fresh : field ∉ done) (writes : a.written field = some v) (room : Nat) :
    Draft.step room (a.drafted done) field.name v.outline =
      fitting v.depth room (a.drafted (done ++ [field])) := by
  have unseen : field ∉ (a.drafted done).seen := fun member =>
    fresh (Members.mem_of_mem_seen member)
  have drafted : a.drafted (done ++ [field]) =
      { advice := a.copy field (a.restrict done), seen := field :: (a.drafted done).seen } := by
    unfold Advice.drafted
    rw [restrict_append, Members.seen_append_of_some writes]
  unfold Draft.step
  rw [ofName?_name, drafted]
  simp only [if_neg unseen]
  exact (congrArg (· >>= _) (readField_written canonical writes (a.restrict done) room)).trans
    (Json.fitting_bind_pure _ _ _ _)

/-- The reader takes in one more member of unknown name. -/
theorem step_unnamed (canonical : a.Canonical) {key : String} {v : Value} {done : Members}
    (member : (key, v) ∈ a.other) (greater : ∀ earlier ∈ done, earlier.1 < key) (room : Nat) :
    Draft.step room (a.completed done) key v.outline =
      fitting v.depth room (a.completed (done ++ [(key, v)])) := by
  have unknown : Field.ofName? key = none := ofName?_eq_none (canonical.unnamed _ member)
  have read : v.outline.value room = fitting v.depth room v :=
    (canonical.other.of_mem member).value_outline room
  unfold Draft.step
  rw [unknown]
  simp only [read]
  rw [← Members.insert_eq_append v greater]
  exact Json.fitting_bind_pure _ _ _ _

/-- Canonical advice is read back as far as it fits. -/
theorem read_outline (canonical : a.Canonical) (room : Nat) :
    read room a.value.outline = fitting a.value.depth room a := by
  rw [value_eq, Value.outline, Value.depth]
  cases room with
  | zero => exact (Json.fitting_succ_zero _ _).symm
  | succ room =>
      have gathered := Json.Fields.gather_record a.drafted a.completed
        (fun done field absent => drafted_of_written_eq_none absent done)
        (fun done field v fresh writes => step_written canonical fresh writes room)
        (by decide : Field.all.Nodup) rfl
        (fun done key v greater member => step_unnamed canonical member greater room)
        canonical.other.increasing
      rw [Json.fitting_succ_succ]
      exact (congrArg (Except.map Draft.advice) gathered).trans (Json.map_fitting _ _ _ _)

/-- Every number in canonical advice is an integer of 64 bits. -/
theorem isInteger64_of_mem (canonical : a.Canonical) {n : Json.Number}
    (inside : n ∈ a.value.numbers) : n.isInteger64 = true := by
  rw [value_eq, Value.mem_numbers_object] at inside
  rcases inside with ⟨member, listed, found⟩
  rcases List.mem_append.mp listed with known | unknown
  · rcases Members.exists_of_mem_named known with ⟨field, _, writes, _⟩
    cases field with
    | reconnect =>
        rcases Option.map_eq_some_iff.mp writes with ⟨policy, _, same⟩
        rw [← same] at found
        cases found
    | interval =>
        rcases Option.map_eq_some_iff.mp writes with ⟨ms, known, same⟩
        rw [← same] at found
        have bounded := canonical.interval ms known
        rw [List.mem_singleton.mp found]
        exact Json.Number.isInteger64_integer_iff.mpr (by omega)
    | timeout =>
        rcases Option.map_eq_some_iff.mp writes with ⟨ms, known, same⟩
        rw [← same] at found
        have bounded := canonical.timeout ms known
        rw [List.mem_singleton.mp found]
        exact Json.Number.isInteger64_integer_iff.mpr (by omega)
    | multipleClients =>
        rcases Option.map_eq_some_iff.mp writes with ⟨value, _, same⟩
        rw [← same] at found
        cases found
  · exact (canonical.other.of_mem unknown).2 n found

end Reading
end Advice
end Bayeux
