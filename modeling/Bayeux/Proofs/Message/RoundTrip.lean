import Bayeux.Codec
import Bayeux.Proofs.Json.Respelling
import Bayeux.Proofs.Message.Advice

namespace Bayeux

/-!
# Batches are read back

A canonical batch is read back from either of its written forms, provided that it nests
at most 127 levels deep, and is refused as too deep otherwise.  If its data and extensions
hold other numbers than integers of 64 bits, it is read back but for those numbers.
Whatever a batch holds, both forms are read alike.
Messages are read like advice: the known members first, each cut down to the fields gone
through so far, and then the members of unknown name.
-/

open Json (Value Members fitting)

namespace Message

/-- A message that its written form stands for: no null where absence is meant, and no
member of unknown name that has a known one. -/
structure Canonical (m : Message) : Prop where
  data : ∀ v ∈ m.data, v ≠ .null ∧ v.Canonical
  ext : ∀ v ∈ m.ext, v ≠ .null ∧ v.Canonical
  advice : ∀ a ∈ m.advice, a.Canonical
  unnamed : ∀ member ∈ m.other, member.1 ∉ Field.all.map Field.name
  other : (Value.object m.other).Canonical

/-- A message that can be written and read again.  Its data and its extensions may hold all
numbers that have a text, the rest of it is canonical. -/
structure Readable (m : Message) : Prop where
  data : ∀ v ∈ m.data, v ≠ .null ∧ v.Readable
  ext : ∀ v ∈ m.ext, v ≠ .null ∧ v.Readable
  advice : ∀ a ∈ m.advice, a.Canonical
  unnamed : ∀ member ∈ m.other, member.1 ∉ Field.all.map Field.name
  other : (Value.object m.other).Canonical

theorem Canonical.readable {m : Message} (canonical : m.Canonical) : m.Readable where
  data v known := ⟨(canonical.data v known).1, (canonical.data v known).2.readable⟩
  ext v known := ⟨(canonical.ext v known).1, (canonical.ext v known).2.readable⟩
  advice := canonical.advice
  unnamed := canonical.unnamed
  other := canonical.other

/-- The message with the numbers of its data and its extensions as they are read again. -/
def reread (m : Message) : Message :=
  { m with data := m.data.map Value.reread, ext := m.ext.map Value.reread }

theorem Canonical.reread_eq_self {m : Message} (canonical : m.Canonical) : m.reread = m := by
  have same : ∀ field : Option Value, (∀ v ∈ field, v ≠ .null ∧ v.Canonical) →
      field.map Value.reread = field := by
    intro field whole
    cases field with
    | none => rfl
    | some v => exact congrArg some (whole v rfl).2.reread_eq_self
  unfold reread
  rw [same m.data canonical.data, same m.ext canonical.ext]

/-- What is written for a known field. -/
def written (m : Message) : Field → Option Value
  | .channel => some (.string m.channel)
  | .id => m.id.map .string
  | .clientId => m.clientId.map fun id => .string id.text
  | .data => m.data
  | .successful => m.successful.map .truth
  | .error => m.error.map .string
  | .advice => m.advice.map Advice.value
  | .ext => m.ext
  | .version => m.version.map .string
  | .minimumVersion => m.minimumVersion.map .string
  | .supportedConnectionTypes =>
    m.supportedConnectionTypes.map fun types => .array (types.map .string)
  | .connectionType => m.connectionType.map .string
  | .subscription => m.subscription.map .string
  | .timestamp => m.timestamp.map .string

/-- The message cut down to some of the known fields. -/
def restrict (m : Message) (fields : List Field) : Message :=
  { channel := if .channel ∈ fields then m.channel else ""
    id := if .id ∈ fields then m.id else none
    clientId := if .clientId ∈ fields then m.clientId else none
    data := if .data ∈ fields then m.data else none
    successful := if .successful ∈ fields then m.successful else none
    error := if .error ∈ fields then m.error else none
    advice := if .advice ∈ fields then m.advice else none
    ext := if .ext ∈ fields then m.ext else none
    version := if .version ∈ fields then m.version else none
    minimumVersion := if .minimumVersion ∈ fields then m.minimumVersion else none
    supportedConnectionTypes :=
      if .supportedConnectionTypes ∈ fields then m.supportedConnectionTypes else none
    connectionType := if .connectionType ∈ fields then m.connectionType else none
    subscription := if .subscription ∈ fields then m.subscription else none
    timestamp := if .timestamp ∈ fields then m.timestamp else none }

/-- Takes over one known field. -/
def copy (m : Message) (field : Field) (draft : Message) : Message :=
  match field with
  | .channel => { draft with channel := m.channel }
  | .id => { draft with id := m.id }
  | .clientId => { draft with clientId := m.clientId }
  | .data => { draft with data := m.data }
  | .successful => { draft with successful := m.successful }
  | .error => { draft with error := m.error }
  | .advice => { draft with advice := m.advice }
  | .ext => { draft with ext := m.ext }
  | .version => { draft with version := m.version }
  | .minimumVersion => { draft with minimumVersion := m.minimumVersion }
  | .supportedConnectionTypes =>
    { draft with supportedConnectionTypes := m.supportedConnectionTypes }
  | .connectionType => { draft with connectionType := m.connectionType }
  | .subscription => { draft with subscription := m.subscription }
  | .timestamp => { draft with timestamp := m.timestamp }

/-- What the reader has when it has gone through some of the known fields. -/
def drafted (m : Message) (fields : List Field) : Draft :=
  { message := m.restrict fields
    seen := Members.seen m.written fields }

/-- What the reader has when it has also read some of the members of unknown name. -/
def completed (m : Message) (others : Members) : Draft :=
  { message := { m with other := others }, seen := (m.drafted Field.all).seen }

theorem value_eq (m : Message) :
    m.value = .object (Members.named Field.name m.written Field.all ++ m.other) := by
  unfold value members
  congr 1
  simp only [Members.named, Field.all, List.flatMap_cons, List.flatMap_nil, written,
    Advice.memberOf, Option.map_map, Option.map_some, Option.toList_some, Field.name,
    List.append_nil, List.append_assoc, List.cons_append, List.nil_append]
  rfl

theorem ofName?_name (field : Field) : Field.ofName? field.name = some field := by
  cases field <;> decide

theorem ofName?_eq_none {name : String} (unnamed : name ∉ Field.all.map Field.name) :
    Field.ofName? name = none := by
  apply List.find?_eq_none.mpr
  intro field member same
  exact unnamed (List.mem_map.mpr ⟨field, member, eq_of_beq same⟩)

/-- Reading again changes what is written, not what is left out. -/
theorem isSome_written_reread (m : Message) (field : Field) :
    (m.reread.written field).isSome = (m.written field).isSome := by
  cases field with
  | data | ext => exact Option.isSome_map
  | channel | id | clientId | successful | error | advice | version | minimumVersion
  | supportedConnectionTypes | connectionType | subscription | timestamp => rfl

theorem restrict_append (m : Message) (done : List Field) (field : Field) :
    m.restrict (done ++ [field]) = m.copy field (m.restrict done) := by
  cases field <;> simp [restrict, copy]

/-- A field that is not written is cut down to nothing. -/
theorem copy_of_written_eq_none {m : Message} {field : Field} (absent : m.written field = none)
    (done : List Field) : m.copy field (m.restrict done) = m.restrict done := by
  cases field with
  | channel => cases absent
  | data | ext =>
      have nothing := absent
      simp only [written] at nothing
      simp [copy, restrict, nothing]
  | id | clientId | successful | error | advice | version | minimumVersion
  | supportedConnectionTypes | connectionType | subscription | timestamp =>
      have nothing := Option.map_eq_none_iff.mp absent
      simp [copy, restrict, nothing]

section Reading

variable {m : Message}

theorem drafted_of_written_eq_none {field : Field} (absent : m.written field = none)
    (done : List Field) : m.drafted (done ++ [field]) = m.drafted done := by
  unfold drafted
  rw [restrict_append, copy_of_written_eq_none absent, Members.seen_append_of_none absent]

/-- Every field is read back from what is written for it. -/
theorem readField_written (readable : m.Readable) {field : Field} {v : Value}
    (writes : m.written field = some v) (draft : Message) (room : Nat) :
    readField room draft field v.outline = fitting v.depth room (m.reread.copy field draft) := by
  cases field with
  | channel =>
      cases writes
      rw [Value.depth, Json.fitting_zero]
      rfl
  | id | error | version | minimumVersion | connectionType | subscription | timestamp =>
      rcases Option.map_eq_some_iff.mp writes with ⟨text, known, rfl⟩
      rw [Value.depth, Json.fitting_zero, copy, reread, known]
      rfl
  | clientId =>
      rcases Option.map_eq_some_iff.mp writes with ⟨id, known, rfl⟩
      rw [Value.depth, Json.fitting_zero, copy, reread, known]
      rfl
  | successful =>
      rcases Option.map_eq_some_iff.mp writes with ⟨value, known, rfl⟩
      rw [Value.depth, Json.fitting_zero, copy, reread, known]
      rfl
  | data =>
      have known : m.data = some v := writes
      rcases readable.data v known with ⟨present, whole⟩
      rw [readField, Json.Outline.optional_outline _ present, whole.value_outline,
        Json.map_fitting, copy, reread, known]
      exact Json.fitting_bind_pure _ _ _ _
  | ext =>
      have known : m.ext = some v := writes
      rcases readable.ext v known with ⟨present, whole⟩
      rw [readField, Json.Outline.optional_outline _ present, whole.value_outline,
        Json.map_fitting, copy, reread, known]
      exact Json.fitting_bind_pure _ _ _ _
  | advice =>
      rcases Option.map_eq_some_iff.mp writes with ⟨a, known, rfl⟩
      have present : a.value ≠ .null := fun same => by cases same
      rw [readField, Json.Outline.optional_outline _ present,
        Advice.read_outline (readable.advice a known), Json.map_fitting, copy, reread, known]
      exact Json.fitting_bind_pure _ _ _ _
  | supportedConnectionTypes =>
      rcases Option.map_eq_some_iff.mp writes with ⟨types, known, rfl⟩
      have present : Value.array (types.map .string) ≠ .null := fun same => by cases same
      have each : ∀ room, ∀ type ∈ types, (Value.string type).outline.readString =
          fitting (Value.string type).depth room type :=
        fun room type _ => (Json.fitting_zero room type).symm
      rw [readField, Json.Outline.optional_outline _ present,
        Json.Outline.readList_outline (fun type => type) each, List.map_id', Json.map_fitting,
        copy, reread, known]
      exact Json.fitting_bind_pure _ _ _ _

/-- The reader takes in one more known field. -/
theorem step_written (readable : m.Readable) {done : List Field} {field : Field} {v : Value}
    (fresh : field ∉ done) (writes : m.written field = some v) (room : Nat) :
    Draft.step room (m.reread.drafted done) field.name v.outline =
      fitting v.depth room (m.reread.drafted (done ++ [field])) := by
  have unseen : field ∉ (m.reread.drafted done).seen := fun member =>
    fresh (Members.mem_of_mem_seen member)
  have present : (m.reread.written field).isSome = true := by
    rw [isSome_written_reread, writes]
    rfl
  rcases Option.isSome_iff_exists.mp present with ⟨again, rewrites⟩
  have drafted : m.reread.drafted (done ++ [field]) =
      { message := m.reread.copy field (m.reread.restrict done),
        seen := field :: (m.reread.drafted done).seen } := by
    unfold Message.drafted
    rw [restrict_append, Members.seen_append_of_some rewrites]
  unfold Draft.step
  rw [ofName?_name, drafted]
  simp only [if_neg unseen]
  exact (congrArg (· >>= _)
    (readField_written readable writes (m.reread.restrict done) room)).trans
      (Json.fitting_bind_pure _ _ _ _)

/-- The reader takes in one more member of unknown name. -/
theorem step_unnamed (readable : m.Readable) {key : String} {v : Value} {done : Members}
    (member : (key, v) ∈ m.other) (greater : ∀ earlier ∈ done, earlier.1 < key) (room : Nat) :
    Draft.step room (m.reread.completed done) key v.outline =
      fitting v.depth room (m.reread.completed (done ++ [(key, v)])) := by
  have unknown : Field.ofName? key = none := ofName?_eq_none (readable.unnamed _ member)
  have read : v.outline.value room = fitting v.depth room v :=
    (readable.other.of_mem member).value_outline room
  unfold Draft.step
  rw [unknown]
  simp only [read]
  rw [← Members.insert_eq_append v greater]
  exact Json.fitting_bind_pure _ _ _ _

/-- Every message names its channel, so what was read of it is complete. -/
theorem finish_completed (m : Message) : (m.completed m.other).finish = .ok m := by
  have seen : Field.channel ∈ (m.completed m.other).seen := by
    apply List.mem_reverse.mpr
    exact List.mem_filter.mpr ⟨List.mem_cons_self, rfl⟩
  unfold Draft.finish
  rw [if_pos seen]
  rfl

/-- A message that can be read again is read back as far as it fits. -/
theorem read_outline (readable : m.Readable) (room : Nat) :
    read room m.value.outline = fitting m.value.depth room m.reread := by
  rw [value_eq, Value.outline, Value.depth]
  cases room with
  | zero => exact (Json.fitting_succ_zero _ _).symm
  | succ room =>
      have absent : ∀ done field, m.written field = none →
          m.reread.drafted (done ++ [field]) = m.reread.drafted done := by
        intro done field nothing
        apply drafted_of_written_eq_none
        rw [← Option.isNone_iff_eq_none, ← Option.not_isSome, isSome_written_reread, nothing]
        rfl
      have gathered := Json.Fields.gather_record m.reread.drafted m.reread.completed absent
        (fun done field v fresh writes => step_written readable fresh writes room)
        (by decide : Field.all.Nodup) rfl
        (fun done key v greater member => step_unnamed readable member greater room)
        readable.other.increasing
      have complete : ∀ fields : Json.Fields, read (room + 1) (.object fields) =
          (fields.gather (Draft.step room) {}).bind Draft.finish := by
        intro fields
        rw [read]
        cases fields.gather (Draft.step room) {} <;> rfl
      rw [Json.fitting_succ_succ, complete]
      exact (congrArg (·.bind Draft.finish) gathered).trans
        (Json.fitting_bind_ok (finish_completed m.reread) _ _)

/-- Every number in such a message has a text that can be read. -/
theorem reads_of_mem (readable : m.Readable) {n : Json.Number}
    (inside : n ∈ m.value.numbers) : Json.Numeral.Reads n.text := by
  rw [value_eq, Value.mem_numbers_object] at inside
  rcases inside with ⟨member, listed, found⟩
  rcases List.mem_append.mp listed with known | unknown
  · rcases Members.exists_of_mem_named known with ⟨field, _, writes, _⟩
    cases field with
    | channel =>
        rw [← Option.some.inj writes] at found
        cases found
    | id | error | version | minimumVersion | connectionType | subscription | timestamp
    | clientId | successful =>
        rcases Option.map_eq_some_iff.mp writes with ⟨value, _, same⟩
        rw [← same] at found
        cases found
    | data => exact (readable.data _ writes).2.2 n found
    | ext => exact (readable.ext _ writes).2.2 n found
    | advice =>
        rcases Option.map_eq_some_iff.mp writes with ⟨a, known, same⟩
        rw [← same] at found
        exact Json.Number.reads_of_isInteger64
          (Advice.isInteger64_of_mem (readable.advice a known) found)
    | supportedConnectionTypes =>
        rcases Option.map_eq_some_iff.mp writes with ⟨types, _, same⟩
        rw [← same, Value.mem_numbers_array] at found
        rcases found with ⟨item, listed, inside⟩
        rcases List.mem_map.mp listed with ⟨type, _, same⟩
        rw [← same] at inside
        cases inside
  · exact Json.Number.reads_of_isInteger64 ((readable.other.of_mem unknown).2 n found)

end Reading
end Message

namespace Batch

/-- Every message of the batch can be written and read again. -/
def Readable (batch : Batch) : Prop :=
  ∀ m ∈ batch, m.Readable

/-- Every message of the batch is one that its written form stands for. -/
def Canonical (batch : Batch) : Prop :=
  ∀ m ∈ batch, m.Canonical

theorem Canonical.readable {batch : Batch} (canonical : batch.Canonical) : batch.Readable :=
  fun m member => (canonical m member).readable

/-- The messages as they are read again. -/
def reread (batch : Batch) : Batch :=
  batch.map Message.reread

theorem Canonical.reread_eq_self {batch : Batch} (canonical : batch.Canonical) :
    batch.reread = batch :=
  (List.map_congr_left fun m member => (canonical m member).reread_eq_self).trans
    (List.map_id' batch)

theorem Readable.read_outline {batch : Batch} (readable : batch.Readable) (room : Nat) :
    read room batch.value.outline = fitting batch.value.depth room batch.reread :=
  Json.Outline.readList_outline Message.reread
    (fun room m member => Message.read_outline (readable m member) room) room

theorem read_outline {batch : Batch} (canonical : batch.Canonical) (room : Nat) :
    read room batch.value.outline = fitting batch.value.depth room batch := by
  rw [canonical.readable.read_outline, canonical.reread_eq_self]

theorem Readable.isLiteral_of_mem {batch : Batch} (readable : batch.Readable)
    {n : Json.Number} (inside : n ∈ batch.value.numbers) : n.IsLiteral := by
  unfold value at inside
  rcases Value.mem_numbers_array.mp inside with ⟨item, listed, found⟩
  rcases List.mem_map.mp listed with ⟨m, member, same⟩
  rw [← same] at found
  exact Json.Number.isLiteral_of_reads (Message.reads_of_mem (readable m member) found)

theorem isLiteral_of_mem {batch : Batch} (canonical : batch.Canonical) {n : Json.Number}
    (inside : n ∈ batch.value.numbers) : n.IsLiteral :=
  canonical.readable.isLiteral_of_mem inside

/-- A text of a list is read as a batch, never as one message by itself. -/
theorem ofText_of_array {text : String} {items : List Value}
    (spelled : (Value.array items).IsTextOf text)
    (literals : ∀ n ∈ (Value.array items).numbers, n.IsLiteral) :
    ofText text = read Json.depthLimit (Value.array items).outline := by
  have noObject : ¬ (Text.trimStart text.toList).head? = some '\x7b' := fun begins => by
    rcases (Value.head?_trimStart_of_isTextOf literals spelled).mp begins with ⟨_, same⟩
    cases same
  unfold ofText
  simp only [if_neg noObject]
  exact Json.readText_of_isTextOf _ literals spelled

theorem ofText_text {batch : Batch} (layout : Json.Layout)
    (literals : ∀ n ∈ batch.value.numbers, n.IsLiteral) :
    ofText (batch.value.text layout) = read Json.depthLimit batch.value.outline :=
  ofText_of_array (Value.isTextOf_text layout batch.value) literals

/-- Nothing but its tokens tells one text of a list from another. -/
theorem ofText_eq_of_spells {items : List Value} {text other : String}
    (spelled : (Value.array items).Spells text.toList)
    (respelled : (Value.array items).Spells other.toList) : ofText text = ofText other := by
  have noObject : ∀ {text : String}, (Value.array items).Spells text.toList →
      ¬ (Text.trimStart text.toList).head? = some '\x7b' := by
    intro text spelled
    rcases Value.exists_tail_of_array spelled with ⟨rest, same⟩
    rw [same, Text.trimStart, List.dropWhile_cons_of_neg (by decide)]
    exact fun brace => absurd (Option.some.inj brace) (by decide)
  unfold ofText
  simp only [if_neg (noObject spelled), if_neg (noObject respelled), Json.readText,
    Value.scan_eq_of_spells spelled respelled]

end Batch

namespace Codec

/-- A batch that can be read again is read back from what either codec writes, but for its
numbers, if it nests at most 127 levels deep, and is refused otherwise. -/
theorem decode_encode_of_readable {batch : Batch} (readable : batch.Readable)
    (writer reader : Codec) :
    reader.decode (writer.encode batch) =
      if batch.value.depth ≤ 127 then .ok batch.reread else .error .tooDeep := by
  unfold decode encode
  rw [Batch.ofText_text writer.layout fun n inside => readable.isLiteral_of_mem inside]
  exact readable.read_outline Json.depthLimit

/-- A canonical batch is read back from what either codec writes, by either codec, if it
nests at most 127 levels deep, and is refused otherwise. -/
theorem decode_encode {batch : Batch} (canonical : batch.Canonical) (writer reader : Codec) :
    reader.decode (writer.encode batch) =
      if batch.value.depth ≤ 127 then .ok batch else .error .tooDeep := by
  unfold decode encode
  rw [Batch.ofText_text writer.layout fun n inside => Batch.isLiteral_of_mem canonical inside]
  exact Batch.read_outline canonical Json.depthLimit

/-- Data of 125 levels is the deepest that a message in a batch can carry. -/
theorem decode_encode_at_limit :
    let nested := fun levels =>
      Nat.repeat (fun inner => Value.array [inner]) levels (.number (.integer (-2 ^ 63)))
    let batch := fun levels => ([{
      channel := "/a"
      data := some (nested levels)
      advice := some { interval := some (2 ^ 64 - 1), other := [("note", .string "\n\x07")] }
    }] : Batch)
    Codec.indented.decode (Codec.compact.encode (batch 125)) = .ok (batch 125) ∧
      Codec.compact.decode (Codec.indented.encode (batch 126)) = .error .tooDeep := by
  intro nested batch
  have whole : ∀ levels, (nested levels).Canonical := by
    intro levels
    induction levels with
    | zero => exact ⟨rfl, by decide⟩
    | succ levels inductionHypothesis =>
        change (Value.array [nested levels]).Canonical
        rcases inductionHypothesis with ⟨sorted, integers⟩
        refine ⟨?_, ?_⟩
        · rw [Value.isSorted, Value.itemsSorted, sorted]
          rfl
        · rw [Value.numbers, Value.itemNumbers, Value.itemNumbers, List.append_nil]
          exact integers
  have present : ∀ levels, nested levels ≠ .null := by
    intro levels same
    cases levels <;> cases same
  have canonical : ∀ levels, Batch.Canonical (batch levels) := by
    intro levels m member
    rw [List.mem_singleton.mp member]
    refine ⟨?_, ?_, ?_, ?_, ⟨rfl, ?_⟩⟩
    · intro v known
      rw [← Option.some.inj known]
      exact ⟨present levels, whole levels⟩
    · intro v known
      cases known
    · intro a known
      rw [← Option.some.inj known]
      exact ⟨by decide, by decide, by decide, ⟨rfl, by decide⟩⟩
    · intro unknown none
      cases none
    · intro n none
      cases none
  have within : (Batch.value (batch 125)).depth ≤ 127 := by decide +kernel
  have beyond : ¬ (Batch.value (batch 126)).depth ≤ 127 := by decide +kernel
  exact ⟨(decode_encode (canonical 125) .compact .indented).trans (if_pos within),
    (decode_encode (canonical 126) .indented .compact).trans (if_neg beyond)⟩

/-- Whatever a batch holds, all that either codec makes of what either of them has written is the
same: one batch, or one fault. -/
theorem decode_encode_agrees (batch : Batch) (writer other reader another : Codec) :
    reader.decode (writer.encode batch) = another.decode (other.encode batch) :=
  Batch.ofText_eq_of_spells (Value.spells_text writer.layout batch.value)
    (Value.spells_text other.layout batch.value)

end Codec
end Bayeux
