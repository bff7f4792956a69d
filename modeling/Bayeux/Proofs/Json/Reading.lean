import Bayeux.Proofs.Json.Building
import Bayeux.Proofs.Json.Members

namespace Bayeux
namespace Json

/-!
# Reading what was built

A reader of any kind succeeds on the outline of a value it was written for exactly if the
value nests no deeper than there is room.  The statement is an equation, so that the
parts of a list or an object combine: a whole fits if its deepest part does.
-/

/-! ## Nesting and order -/

mutual

/-- How many levels of lists and objects a value nests. -/
def Value.depth : Value → Nat
  | .array items => Value.itemDepth items + 1
  | .object members => Value.memberDepth members + 1
  | .null | .truth _ | .number _ | .string _ => 0

def Value.itemDepth : List Value → Nat
  | [] => 0
  | v :: vs => max v.depth (Value.itemDepth vs)

def Value.memberDepth : List (String × Value) → Nat
  | [] => 0
  | (_, v) :: members => max v.depth (Value.memberDepth members)

end

mutual

/-- Whether every object inside a value has increasing keys. -/
def Value.isSorted : Value → Bool
  | .array items => Value.itemsSorted items
  | .object members => decide (Members.Increasing members) && Value.membersSorted members
  | .null | .truth _ | .number _ | .string _ => true

def Value.itemsSorted : List Value → Bool
  | [] => true
  | v :: vs => v.isSorted && Value.itemsSorted vs

def Value.membersSorted : List (String × Value) → Bool
  | [] => true
  | (_, v) :: members => v.isSorted && Value.membersSorted members

end

theorem Value.isSorted_array {items : List Value} :
    (array items).isSorted = true ↔ ∀ v ∈ items, v.isSorted = true := by
  rw [isSorted]
  induction items with
  | nil => simp [itemsSorted]
  | cons item rest inductionHypothesis =>
      rw [itemsSorted, Bool.and_eq_true, inductionHypothesis, List.forall_mem_cons]

theorem Value.isSorted_object {members : Members} :
    (object members).isSorted = true ↔
      members.Increasing ∧ ∀ member ∈ members, member.2.isSorted = true := by
  have all : ∀ members : List (String × Value),
      membersSorted members = true ↔ ∀ member ∈ members, member.2.isSorted = true := by
    intro members
    induction members with
    | nil => simp [membersSorted]
    | cons member rest inductionHypothesis =>
        rw [membersSorted, Bool.and_eq_true, inductionHypothesis, List.forall_mem_cons]
  rw [isSorted, Bool.and_eq_true, decide_eq_true_iff, all]

theorem Value.memberDepth_append (first second : List (String × Value)) :
    memberDepth (first ++ second) = max (memberDepth first) (memberDepth second) := by
  induction first with
  | nil => exact (Nat.zero_max _).symm
  | cons member rest inductionHypothesis =>
      rw [List.cons_append, memberDepth, memberDepth, inductionHypothesis, Nat.max_assoc]

/-! ## Values that are read again -/

mutual

/-- The value with its numbers as they are read again. -/
def Value.reread : Value → Value
  | .number n => .number n.reread
  | .array items => .array (Value.rereadItems items)
  | .object members => .object (Value.rereadMembers members)
  | .null => .null
  | .truth value => .truth value
  | .string text => .string text

def Value.rereadItems : List Value → List Value
  | [] => []
  | v :: vs => v.reread :: Value.rereadItems vs

def Value.rereadMembers : List (String × Value) → List (String × Value)
  | [] => []
  | (key, v) :: members => (key, v.reread) :: Value.rereadMembers members

end

mutual

/-- A value without doubles is read again as itself. -/
theorem Value.reread_eq_self : ∀ v : Value, (∀ n ∈ v.numbers, n.reread = n) → v.reread = v
  | .null, faithful => rfl
  | .truth value, faithful => rfl
  | .number n, faithful => by
      rw [Value.reread, faithful n (by rw [Value.numbers]; exact List.mem_singleton_self n)]
  | .string text, faithful => rfl
  | .array items, faithful => by
      rw [Value.numbers] at faithful
      rw [Value.reread, Value.rereadItems_eq_self items faithful]
  | .object members, faithful => by
      rw [Value.numbers] at faithful
      rw [Value.reread, Value.rereadMembers_eq_self members faithful]

theorem Value.rereadItems_eq_self : ∀ vs : List Value,
    (∀ n ∈ Value.itemNumbers vs, n.reread = n) → Value.rereadItems vs = vs
  | [], faithful => rfl
  | v :: vs, faithful => by
      rw [Value.itemNumbers] at faithful
      rw [Value.rereadItems,
        v.reread_eq_self fun n member => faithful n (List.mem_append_left _ member),
        Value.rereadItems_eq_self vs fun n member => faithful n (List.mem_append_right _ member)]

theorem Value.rereadMembers_eq_self : ∀ members : List (String × Value),
    (∀ n ∈ Value.memberNumbers members, n.reread = n) → Value.rereadMembers members = members
  | [], faithful => rfl
  | (key, v) :: members, faithful => by
      rw [Value.memberNumbers] at faithful
      rw [Value.rereadMembers,
        v.reread_eq_self fun n member => faithful n (List.mem_append_left _ member),
        Value.rereadMembers_eq_self members fun n member =>
          faithful n (List.mem_append_right _ member)]

end

mutual

/-- The value with its objects as maps hold them, in order and with the last member of each
key only. -/
def Value.normal : Value → Value
  | .array items => .array (Value.normalItems items)
  | .object members => .object (Members.ofList (Value.normalMembers members))
  | .null => .null
  | .truth value => .truth value
  | .number n => .number n
  | .string text => .string text

def Value.normalItems : List Value → List Value
  | [] => []
  | v :: vs => v.normal :: Value.normalItems vs

def Value.normalMembers : List (String × Value) → List (String × Value)
  | [] => []
  | (key, v) :: members => (key, v.normal) :: Value.normalMembers members

end

theorem Value.rereadMembers_eq_map (members : List (String × Value)) :
    rereadMembers members = members.map fun member => (member.1, member.2.reread) := by
  induction members with
  | nil => rfl
  | cons member rest inductionHypothesis =>
      rw [rereadMembers, List.map_cons, inductionHypothesis]

mutual

/-- A value whose objects are in order already is not changed. -/
theorem Value.normal_reread : ∀ v : Value, v.isSorted = true → v.reread.normal = v.reread
  | .null, sorted => rfl
  | .truth value, sorted => rfl
  | .number n, sorted => rfl
  | .string text, sorted => rfl
  | .array items, sorted => by
      rw [Value.isSorted] at sorted
      rw [Value.reread, Value.normal, Value.normal_rereadItems items sorted]
  | .object members, sorted => by
      rw [Value.isSorted] at sorted
      have parts := Bool.and_eq_true_iff.mp sorted
      have increasing : Members.Increasing (Value.rereadMembers members) := by
        rw [Value.rereadMembers_eq_map]
        exact List.pairwise_map.mpr (of_decide_eq_true parts.1)
      rw [Value.reread, Value.normal, Value.normal_rereadMembers members parts.2,
        increasing.ofList_eq_self]

theorem Value.normal_rereadItems : ∀ vs : List Value, Value.itemsSorted vs = true →
    Value.normalItems (Value.rereadItems vs) = Value.rereadItems vs
  | [], sorted => rfl
  | v :: vs, sorted => by
      rw [Value.itemsSorted] at sorted
      have parts := Bool.and_eq_true_iff.mp sorted
      rw [Value.rereadItems, Value.normalItems, v.normal_reread parts.1,
        Value.normal_rereadItems vs parts.2]

theorem Value.normal_rereadMembers : ∀ members : List (String × Value),
    Value.membersSorted members = true →
      Value.normalMembers (Value.rereadMembers members) = Value.rereadMembers members
  | [], sorted => rfl
  | (key, v) :: members, sorted => by
      rw [Value.membersSorted] at sorted
      have parts := Bool.and_eq_true_iff.mp sorted
      rw [Value.rereadMembers, Value.normalMembers, v.normal_reread parts.1,
        Value.normal_rereadMembers members parts.2]

end

/-! ## What fits -/

/-- A value that is read if it nests no deeper than there is room. -/
def fitting {α : Type} (depth room : Nat) (value : α) : Except Fault α :=
  if depth ≤ room then .ok value else .error .tooDeep

section Fitting

variable {α β : Type}

theorem fitting_zero (room : Nat) (value : α) : fitting 0 room value = .ok value :=
  if_pos (Nat.zero_le room)

theorem fitting_succ_zero (depth : Nat) (value : α) :
    fitting (depth + 1) 0 value = .error .tooDeep :=
  if_neg (Nat.not_succ_le_zero depth)

/-- One level takes up one level of the room. -/
theorem fitting_succ_succ (depth room : Nat) (value : α) :
    fitting (depth + 1) (room + 1) value = fitting depth room value := by
  unfold fitting
  simp only [Nat.add_le_add_iff_right]

theorem map_fitting (f : α → β) (depth room : Nat) (value : α) :
    (fitting depth room value).map f = fitting depth room (f value) := by
  unfold fitting
  split <;> rfl

theorem fitting_bind_ok {f : α → Except Fault β} {value : α} {result : β}
    (next : f value = .ok result) (depth room : Nat) :
    (fitting depth room value).bind f = fitting depth room result := by
  unfold fitting
  split
  · exact next
  · rfl

theorem fitting_bind_pure (f : α → β) (depth room : Nat) (value : α) :
    (fitting depth room value >>= fun value => pure (f value)) =
      fitting depth room (f value) :=
  fitting_bind_ok (f := fun value => pure (f value)) rfl depth room

/-- What is read in turn fits if the deeper of both does. -/
theorem fitting_bind {f : α → Except Fault β} {depth other room : Nat} {value : α} {result : β}
    (next : f value = fitting other room result) :
    (fitting depth room value).bind f = fitting (max depth other) room result := by
  unfold fitting at next ⊢
  by_cases first : depth ≤ room
  · rw [if_pos first]
    by_cases second : other ≤ room
    · rw [if_pos (Nat.max_le.mpr ⟨first, second⟩)]
      rw [if_pos second] at next
      exact next
    · rw [if_neg (fun both => second (Nat.max_le.mp both).2)]
      rw [if_neg second] at next
      exact next
  · rw [if_neg first, if_neg (fun both => first (Nat.max_le.mp both).1)]
    rfl

end Fitting

/-! ## Free-form values -/

theorem Items.values_item (room : Nat) (outline : Outline) (rest : Items) (done : List Value) :
    (Items.item outline rest).values room done =
      (outline.value room).bind fun v => rest.values room (v :: done) := by
  rw [Items.values]
  cases outline.value room <;> rfl

theorem Fields.values_field (room : Nat) (key : String) (outline : Outline) (rest : Fields)
    (done : Members) :
    (Fields.field (.ok key) outline rest).values room done =
      (outline.value room).bind fun v => rest.values room (done.insert key v) := by
  rw [Fields.values]
  cases outline.value room <;> rfl

mutual

/-- A value whose numbers can be read is read with the numbers that are read, and with its
objects as maps hold them. -/
theorem Value.value_outline : ∀ (v : Value) (room : Nat),
    (∀ n ∈ v.numbers, Numeral.Reads n.text) →
      v.outline.value room = fitting v.depth room v.reread.normal
  | .null, room, readable => (fitting_zero room _).symm
  | .truth value, room, readable => (fitting_zero room _).symm
  | .number n, room, readable => by
      have reads := readable n (by rw [Value.numbers]; exact List.mem_singleton_self n)
      rw [Value.outline, Outline.value, Number.reading_of_reads reads]
      exact (fitting_zero room _).symm
  | .string text, room, readable => (fitting_zero room _).symm
  | .array items, room, readable => by
      rw [Value.outline, Value.depth]
      cases room with
      | zero => exact (fitting_succ_zero _ _).symm
      | succ room =>
          rw [Value.numbers] at readable
          rw [Outline.value, Value.values_itemOutlines items room [] readable, map_fitting,
            fitting_succ_succ]
          rfl
  | .object members, room, readable => by
      rw [Value.outline, Value.depth]
      cases room with
      | zero => exact (fitting_succ_zero _ _).symm
      | succ room =>
          rw [Value.numbers] at readable
          rw [Outline.value, Value.values_memberOutlines members room [] readable, map_fitting,
            fitting_succ_succ]
          rfl

theorem Value.values_itemOutlines : ∀ (vs : List Value) (room : Nat) (done : List Value),
    (∀ n ∈ Value.itemNumbers vs, Numeral.Reads n.text) →
      (Value.itemOutlines vs).values room done =
        fitting (Value.itemDepth vs) room
          (done.reverse ++ Value.normalItems (Value.rereadItems vs))
  | [], room, done, readable => by
      rw [Value.itemDepth, fitting_zero, Value.rereadItems, Value.normalItems, List.append_nil]
      rfl
  | v :: vs, room, done, readable => by
      rw [Value.itemNumbers] at readable
      have first := v.value_outline room
        (fun n member => readable n (List.mem_append_left _ member))
      have others := Value.values_itemOutlines vs room (v.reread.normal :: done)
        (fun n member => readable n (List.mem_append_right _ member))
      rw [List.reverse_cons, List.append_assoc, List.singleton_append] at others
      rw [Value.itemOutlines, Items.values_item, first, Value.itemDepth, Value.rereadItems,
        Value.normalItems]
      exact fitting_bind others

theorem Value.values_memberOutlines : ∀ (members : List (String × Value)) (room : Nat)
    (done : Members), (∀ n ∈ Value.memberNumbers members, Numeral.Reads n.text) →
      (Value.memberOutlines members).values room done =
        fitting (Value.memberDepth members) room
          ((Value.normalMembers (Value.rereadMembers members)).foldl
            (fun sorted member => sorted.insert member.1 member.2) done)
  | [], room, done, readable => by
      rw [Value.memberDepth, fitting_zero]
      rfl
  | (key, v) :: members, room, done, readable => by
      rw [Value.memberNumbers] at readable
      have first := v.value_outline room
        (fun n member => readable n (List.mem_append_left _ member))
      have others := Value.values_memberOutlines members room (done.insert key v.reread.normal)
        (fun n member => readable n (List.mem_append_right _ member))
      rw [Value.memberOutlines, Fields.values_field, first, Value.memberDepth,
        Value.rereadMembers, Value.normalMembers, List.foldl_cons]
      exact fitting_bind others

end

/-- A value that can be written and read again, held as maps hold it: its numbers have texts
that can be read, and its objects have increasing keys. -/
def Value.Readable (v : Value) : Prop :=
  v.isSorted = true ∧ ∀ n ∈ v.numbers, Numeral.Reads n.text

theorem Value.Readable.value_outline {v : Value} (readable : v.Readable) (room : Nat) :
    v.outline.value room = fitting v.depth room v.reread := by
  rw [v.value_outline room readable.2, v.normal_reread readable.1]

/-- A value without doubles, held as maps hold it: its numbers are integers of 64 bits, and
its objects have increasing keys. -/
def Value.Canonical (v : Value) : Prop :=
  v.isSorted = true ∧ ∀ n ∈ v.numbers, n.isInteger64 = true

theorem Value.Canonical.readable {v : Value} (canonical : v.Canonical) : v.Readable :=
  ⟨canonical.1, fun n member => Number.reads_of_isInteger64 (canonical.2 n member)⟩

theorem Value.Canonical.reread_eq_self {v : Value} (canonical : v.Canonical) : v.reread = v :=
  v.reread_eq_self fun n member => Number.reread_of_isInteger64 (canonical.2 n member)

theorem Value.Canonical.value_outline {v : Value} (canonical : v.Canonical) (room : Nat) :
    v.outline.value room = fitting v.depth room v := by
  rw [canonical.readable.value_outline, canonical.reread_eq_self]

theorem Value.canonical_array {items : List Value} (canonical : ∀ v ∈ items, v.Canonical) :
    (array items).Canonical := by
  refine ⟨isSorted_array.mpr fun v listed => (canonical v listed).1, fun n inside => ?_⟩
  rcases mem_numbers_array.mp inside with ⟨v, listed, found⟩
  exact (canonical v listed).2 n found

theorem Value.canonical_object {members : Members} (increasing : members.Increasing)
    (canonical : ∀ member ∈ members, member.2.Canonical) : (object members).Canonical := by
  refine ⟨isSorted_object.mpr ⟨increasing, fun member listed => (canonical member listed).1⟩,
    fun n inside => ?_⟩
  rcases mem_numbers_object.mp inside with ⟨member, listed, found⟩
  exact (canonical member listed).2 n found

/-- The members of a canonical object are canonical. -/
theorem Value.Canonical.of_mem {members : Members} (canonical : (Value.object members).Canonical)
    {member : String × Value} (listed : member ∈ members) : member.2.Canonical :=
  ⟨(isSorted_object.mp canonical.1).2 member listed,
    fun n inside => canonical.2 n (mem_numbers_object.mpr ⟨member, listed, inside⟩)⟩

theorem Value.Canonical.increasing {members : Members}
    (canonical : (Value.object members).Canonical) : members.Increasing :=
  (isSorted_object.mp canonical.1).1

/-- Only null is read as absence. -/
theorem Outline.optional_outline {α : Type} (read : Outline → Except Fault α) {v : Value}
    (present : v ≠ .null) : v.outline.optional read = (read v.outline).map some := by
  cases v with
  | null => exact absurd rfl present
  | truth value => rfl
  | number n => rfl
  | string text => rfl
  | array items => rfl
  | object members => rfl

/-! ## Integers -/

theorem Value.readInteger_outline {low high value : Int}
    (bounded : (Number.integer value).isInteger64 = true) (inside : low ≤ value ∧ value ≤ high)
    (expected : Expected) :
    (number (.integer value)).outline.readInteger low high expected = .ok value := by
  rw [outline, Number.reading_of_isInteger64 bounded, Outline.readInteger, if_pos inside]

theorem Value.readUnsigned_outline {n : Nat} (bounded : n < 2 ^ 64) :
    (number (.integer n)).outline.readUnsigned = .ok n := by
  have inside : (0 : Int) ≤ n ∧ (n : Int) ≤ UInt64.size - 1 := by
    unfold UInt64.size
    omega
  have integer : (Number.integer n).isInteger64 = true :=
    Number.isInteger64_integer_iff.mpr (by omega)
  unfold Outline.readUnsigned
  rw [readInteger_outline integer inside]
  rfl

theorem Value.readSigned_outline {value : Int} (low : -2 ^ 63 ≤ value) (high : value < 2 ^ 63) :
    (number (.integer value)).outline.readSigned = .ok value :=
  readInteger_outline (Number.isInteger64_integer_iff.mpr (by omega)) (by omega) .signed

/-! ## Lists of known shape -/

section Lists

variable {α β : Type} {read : Outline → Except Fault β}

theorem Items.collect_item (outline : Outline) (rest : Items) (done : List β) :
    (Items.item outline rest).collect read done =
      (read outline).bind fun value => rest.collect read (value :: done) := by
  rw [Items.collect]
  cases read outline <;> rfl

/-- A list is read if each of its items is read wherever it fits. -/
theorem Items.collect_itemOutlines {write : α → Value} {result : α → β} {room : Nat}
    {values : List α}
    (reads : ∀ value ∈ values,
      read (write value).outline = fitting (write value).depth room (result value))
    (done : List β) :
    (Value.itemOutlines (values.map write)).collect read done =
      fitting (Value.itemDepth (values.map write)) room (done.reverse ++ values.map result) := by
  induction values generalizing done with
  | nil =>
      rw [List.map_nil, Value.itemDepth, fitting_zero, List.map_nil, List.append_nil]
      rfl
  | cons value rest inductionHypothesis =>
      have others := inductionHypothesis
        (fun other member => reads other (List.mem_cons_of_mem value member))
        (result value :: done)
      rw [List.reverse_cons, List.append_assoc, List.singleton_append] at others
      rw [List.map_cons, Value.itemOutlines, Items.collect_item, reads value List.mem_cons_self,
        Value.itemDepth]
      exact fitting_bind others

theorem Outline.readList_outline {read : Nat → Outline → Except Fault β} {write : α → Value}
    (result : α → β) {values : List α} (reads : ∀ room, ∀ value ∈ values,
      read room (write value).outline = fitting (write value).depth room (result value))
    (room : Nat) :
    (Value.array (values.map write)).outline.readList room read =
      fitting (Value.array (values.map write)).depth room (values.map result) := by
  rw [Value.outline, Value.depth]
  cases room with
  | zero => exact (fitting_succ_zero _ _).symm
  | succ room =>
      rw [Outline.readList, fitting_succ_succ]
      exact Items.collect_itemOutlines (reads room) []

end Lists

/-! ## Records -/

/-- The members that are written for the fields of a record, in their order. -/
def Members.named {φ : Type} (name : φ → String) (written : φ → Option Value)
    (fields : List φ) : List (String × Value) :=
  fields.flatMap fun field => ((written field).map fun v => (name field, v)).toList

/-- The fields that are written, the last one first, as a reader notes them. -/
def Members.seen {φ : Type} (written : φ → Option Value) (fields : List φ) : List φ :=
  (fields.filter fun field => (written field).isSome).reverse

section Records

variable {σ φ : Type}

theorem Members.mem_of_mem_seen {written : φ → Option Value} {fields : List φ} {field : φ}
    (member : field ∈ seen written fields) : field ∈ fields :=
  (List.mem_filter.mp (List.mem_reverse.mp member)).1

theorem Members.seen_append_of_some {written : φ → Option Value} {field : φ} {v : Value}
    (writes : written field = some v) (done : List φ) :
    seen written (done ++ [field]) = field :: seen written done := by
  unfold seen
  rw [List.filter_append, List.reverse_append]
  simp [writes]

theorem Members.seen_append_of_none {written : φ → Option Value} {field : φ}
    (absent : written field = none) (done : List φ) :
    seen written (done ++ [field]) = seen written done := by
  unfold seen
  rw [List.filter_append]
  simp [absent]

theorem Fields.gather_memberOutlines (step : σ → String → Outline → Except Fault σ)
    (members : List (String × Value)) (state : σ) :
    (Value.memberOutlines members).gather step state =
      members.foldlM (fun state member => step state member.1 member.2.outline) state := by
  induction members generalizing state with
  | nil => rfl
  | cons member rest inductionHypothesis =>
      rw [Value.memberOutlines, Fields.gather, List.foldlM_cons]
      cases step state member.1 member.2.outline with
      | error fault => rfl
      | ok next => exact inductionHypothesis next

/-- Two lists of members are read one after the other. -/
theorem foldlM_append_fitting {step : σ → String × Value → Except Fault σ}
    {first second : List (String × Value)} {start middle last : σ} {depth other room : Nat}
    (begins : first.foldlM step start = fitting depth room middle)
    (continues : second.foldlM step middle = fitting other room last) :
    (first ++ second).foldlM step start = fitting (max depth other) room last := by
  rw [List.foldlM_append, begins]
  exact fitting_bind (f := fun state => second.foldlM step state) continues

variable {step : σ → String → Outline → Except Fault σ} {room : Nat} {name : φ → String}
  {written : φ → Option Value}

/-- Known fields are read one after the other.  A field that is not written leaves no
trace in what has been read. -/
theorem foldlM_named {known : List φ → σ}
    (absent : ∀ done field, written field = none → known (done ++ [field]) = known done)
    (present : ∀ done field v, field ∉ done → written field = some v →
      step (known done) (name field) v.outline = fitting v.depth room (known (done ++ [field])))
    {fields done : List φ} (distinct : (done ++ fields).Nodup) :
    (Members.named name written fields).foldlM
        (fun state member => step state member.1 member.2.outline) (known done) =
      fitting (Value.memberDepth (Members.named name written fields)) room
        (known (done ++ fields)) := by
  unfold Members.named
  induction fields generalizing done with
  | nil =>
      rw [List.flatMap_nil, Value.memberDepth, fitting_zero, List.append_nil]
      rfl
  | cons field rest inductionHypothesis =>
      have fresh : field ∉ done := fun member =>
        (List.nodup_append.mp distinct).2.2 field member field List.mem_cons_self rfl
      rw [List.append_cons] at distinct
      have others := inductionHypothesis distinct
      rw [← List.append_cons] at others
      rw [List.flatMap_cons]
      cases writes : written field with
      | none =>
          rw [absent done field writes] at others
          exact others
      | some v =>
          rw [Option.map_some, Option.toList_some, List.singleton_append, List.foldlM_cons,
            present done field v fresh writes, Value.memberDepth]
          exact fitting_bind others

/-- Members of unknown name are read one after the other. -/
theorem foldlM_members {more : Members → σ} {members done : Members}
    (each : ∀ done key v, (∀ member ∈ done, member.1 < key) → (key, v) ∈ members →
      step (more done) key v.outline = fitting v.depth room (more (done ++ [(key, v)])))
    (increasing : Members.Increasing (done ++ members)) :
    members.foldlM (fun state member => step state member.1 member.2.outline) (more done) =
      fitting (Value.memberDepth members) room (more (done ++ members)) := by
  induction members generalizing done with
  | nil =>
      rw [Value.memberDepth, fitting_zero, List.append_nil]
      rfl
  | cons member rest inductionHypothesis =>
      rcases member with ⟨key, v⟩
      have greater : ∀ member ∈ done, member.1 < key := fun member listed =>
        (List.pairwise_append.mp increasing).2.2 member listed _ List.mem_cons_self
      rw [List.append_cons] at increasing
      have others := inductionHypothesis
        (fun done key v sorted member => each done key v sorted (List.mem_cons_of_mem _ member))
        increasing
      rw [← List.append_cons] at others
      rw [List.foldlM_cons, each done key v greater List.mem_cons_self, Value.memberDepth]
      exact fitting_bind others

/-- A record is read by its known fields and then its members of unknown name. -/
theorem Fields.gather_record {fields : List φ} {others : Members}
    (known : List φ → σ) (more : Members → σ)
    (absent : ∀ done field, written field = none → known (done ++ [field]) = known done)
    (present : ∀ done field v, field ∉ done → written field = some v →
      step (known done) (name field) v.outline = fitting v.depth room (known (done ++ [field])))
    (distinct : fields.Nodup) (joined : known fields = more [])
    (unnamed : ∀ done key v, (∀ member ∈ done, member.1 < key) → (key, v) ∈ others →
      step (more done) key v.outline = fitting v.depth room (more (done ++ [(key, v)])))
    (increasing : others.Increasing) :
    (Value.memberOutlines (Members.named name written fields ++ others)).gather step (known []) =
      fitting (Value.memberDepth (Members.named name written fields ++ others)) room
        (more others) := by
  have begins := foldlM_named absent present (List.nil_append fields ▸ distinct)
  have continues := foldlM_members unnamed (List.nil_append others ▸ increasing)
  rw [List.nil_append] at begins
  rw [List.nil_append, ← joined] at continues
  rw [gather_memberOutlines, foldlM_append_fitting begins continues, Value.memberDepth_append]

/-- A member that is written for a field bears its name. -/
theorem Members.exists_of_mem_named {name : φ → String} {written : φ → Option Value}
    {fields : List φ} {member : String × Value} (listed : member ∈ named name written fields) :
    ∃ field ∈ fields, written field = some member.2 ∧ member.1 = name field := by
  rcases List.mem_flatMap.mp listed with ⟨field, known, inside⟩
  rcases Option.map_eq_some_iff.mp (Option.mem_toList.mp inside) with ⟨v, writes, same⟩
  rw [← same]
  exact ⟨field, known, writes, rfl⟩

end Records

end Json
end Bayeux
