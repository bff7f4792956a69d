import Bayeux.Proofs.Json.Schema
import Bayeux.Proofs.Message.RoundTrip

namespace Bayeux

/-!
# The schema of messages

A text is read as a batch exactly if it is an object or a list of objects that conform to the
schema of messages, and the batch is what the objects hold: a known field is absent where its
key is missing or has null, and the members of unknown name are kept, the last one of each.
-/

open Json (Value Members Outline Fault)

/-! ## Advice -/

namespace Reconnect

/-- A policy by its name, or as an object with the one member `policy: null`. -/
def ofValue? : Value → Option Reconnect
  | .string name => ofText? name
  | .object [(name, .null)] => ofText? name
  | _ => none

theorem ofVariant_eq_ok_iff {name : String} {policy : Reconnect} :
    ofVariant name = .ok policy ↔ ofText? name = some policy := by
  unfold ofVariant
  cases ofText? name <;> simp

theorem isReadBy_read {room : Nat} {v : Value} (fits : v.Fits room) :
    v.IsReadBy (read room) ofValue? := by
  intro policy
  cases v with
  | string name => exact ofVariant_eq_ok_iff
  | object members =>
      rcases fits.of_mem_object with ⟨inner, rfl, _⟩
      cases members with
      | nil => simp [Value.outline, Value.memberOutlines, read, ofValue?]
      | cons member rest =>
          rcases member with ⟨name, content⟩
          -- only null may be the content, and only if no member follows
          cases known : ofText? name with
          | none =>
              have variant : ofVariant name = .error (.unknownVariant name (all.map text)) := by
                unfold ofVariant
                rw [known]
              cases content <;> cases rest <;>
                simp [Value.outline, Value.memberOutlines, read, variant, known, ofValue?]
          | some found =>
              have variant := ofVariant_eq_ok_iff.mpr known
              cases content <;> cases rest <;>
                simp [Value.outline, Value.memberOutlines, read, variant, known, ofValue?]
  | null | truth | number | array => simp [Value.outline, read, ofValue?]

end Reconnect

namespace Advice

/-- Whether a field takes a value; null is taken by all. -/
def Field.Accepts (field : Field) (v : Value) : Prop :=
  v.isNull = true ∨
    match field with
    | .reconnect => (Reconnect.ofValue? v).isSome = true
    | .interval | .timeout => v.natural?.isSome = true
    | .multipleClients => v.truth?.isSome = true

instance (field : Field) (v : Value) : Decidable (field.Accepts v) :=
  match field with
  | .reconnect =>
    inferInstanceAs (Decidable (v.isNull = true ∨ (Reconnect.ofValue? v).isSome = true))
  | .interval | .timeout =>
    inferInstanceAs (Decidable (v.isNull = true ∨ v.natural?.isSome = true))
  | .multipleClients =>
    inferInstanceAs (Decidable (v.isNull = true ∨ v.truth?.isSome = true))

/-- An object that advice can be read of. -/
abbrev Conforms (members : List (String × Value)) : Prop :=
  Members.Conform Field.ofName? Field.Accepts members

/-- Advice from what its fields hold and the members of unknown name. -/
def ofEntries (entry : Field → Option Value) (other : Members) : Advice :=
  { reconnect := (entry .reconnect).bind Reconnect.ofValue?
    interval := (entry .interval).bind Value.natural?
    timeout := (entry .timeout).bind Value.natural?
    multipleClients := (entry .multipleClients).bind Value.truth?
    other }

/-- The advice that an object holds. -/
def ofMembers (members : List (String × Value)) : Advice :=
  ofEntries (Members.entry Field.name members) (Members.others Field.ofName? members)

def ofValue? : Value → Option Advice
  | .object members => if Conforms members then some (ofMembers members) else none
  | _ => none

theorem ofValue?_eq_some_iff {v : Value} {a : Advice} :
    ofValue? v = some a ↔
      ∃ members, v = .object members ∧ Conforms members ∧ ofMembers members = a := by
  cases v with
  | object members => by_cases conforms : Conforms members <;> simp [ofValue?, conforms]
  | null | truth | number | string | array => simp [ofValue?]

theorem ofName?_eq_some_iff {name : String} {field : Field} :
    Field.ofName? name = some field ↔ field.name = name :=
  Json.find?_eq_some_iff_of_named ofName?_name

section Reading

variable {room : Nat} {v : Value}

/-- One field is read into the advice, if it takes the value. -/
theorem readField_eq_ok_iff (fits : v.Fits room) (entry : Field → Option Value) (other : Members)
    (field : Field) (next : Advice) :
    readField room (ofEntries entry other) field v.outline = .ok next ↔
      field.Accepts v ∧ next = ofEntries (Function.update entry field (some v)) other := by
  cases field with
  | reconnect =>
      exact Json.bind_pure_eq_ok_iff ((Reconnect.isReadBy_read fits).optional rfl)
        (fun content => { ofEntries entry other with reconnect := content }) next
  | interval =>
      exact Json.bind_pure_eq_ok_iff ((Value.isReadBy_readUnsigned fits.integers).optional rfl)
        (fun content => { ofEntries entry other with interval := content }) next
  | timeout =>
      exact Json.bind_pure_eq_ok_iff ((Value.isReadBy_readUnsigned fits.integers).optional rfl)
        (fun content => { ofEntries entry other with timeout := content }) next
  | multipleClients =>
      exact Json.bind_pure_eq_ok_iff (v.isReadBy_readTruth.optional rfl)
        (fun content => { ofEntries entry other with multipleClients := content }) next

/-- The reader's draft when it has gone through some members. -/
def draftOf (entry : Field → Option Value) (other : Members) (seen : List Field) : Draft :=
  { advice := ofEntries entry other, seen }

theorem step_eq_ok_iff (fits : v.Fits room) (entry : Field → Option Value) (other : Members)
    (seen : List Field) (field : Field) (next : Draft) :
    Draft.step room (draftOf entry other seen) field.name v.outline = .ok next ↔
      field ∉ seen ∧ field.Accepts v ∧
        next = draftOf (Function.update entry field (some v)) other (field :: seen) := by
  unfold Draft.step
  rw [ofName?_name]
  exact Json.unrepeated_eq_ok_iff (readField_eq_ok_iff fits entry other field)
    (fun advice => { advice, seen := field :: seen : Draft }) next

theorem step_eq_ok_of_unknown (fits : v.Fits room) {name : String}
    (unknown : Field.ofName? name = none) (entry : Field → Option Value) (other : Members)
    (seen : List Field) :
    Draft.step room (draftOf entry other seen) name v.outline =
      .ok (draftOf entry (other.insert name v.normal) seen) := by
  unfold Draft.step
  rw [unknown]
  simp only [fits.value_outline]
  rfl

/-- Advice is read of an object that conforms to the schema. -/
theorem isReadBy_read (fits : v.Fits room) : v.IsReadBy (read room) ofValue? := by
  intro advice
  cases v with
  | object members =>
      rcases fits.of_mem_object with ⟨inner, rfl, each⟩
      have gathered := Json.Fields.gather_eq_ok_iff ofName?_eq_some_iff draftOf
        (fun entry other seen field v next listed =>
          step_eq_ok_iff (each _ listed) entry other seen field next)
        (fun entry other seen name v listed unknown =>
          step_eq_ok_of_unknown (each _ listed) unknown entry other seen)
      change ((Value.memberOutlines members).gather (Draft.step inner)
        (draftOf (fun _ => none) [] [])).map Draft.advice = .ok advice ↔
          (if Conforms members then some (ofMembers members) else none) = some advice
      rw [map_eq_ok_iff]
      simp only [gathered, and_assoc, exists_and_left, exists_eq_left]
      split
      next conforms => simp [conforms, draftOf, ofMembers]
      next violates => simp [violates]
  | null | truth | number | string | array => simp [Value.outline, read, ofValue?]

end Reading

/-- What is read of an object of integers is canonical. -/
theorem canonical_ofMembers {members : List (String × Value)}
    (integers : ∀ member ∈ members, ∀ n ∈ member.2.numbers, n.isInteger64 = true) :
    (ofMembers members).Canonical where
  interval ms known := by
    rcases Option.bind_eq_some_iff.mp known with ⟨v, _, found⟩
    exact Value.lt_of_natural? found
  timeout ms known := by
    rcases Option.bind_eq_some_iff.mp known with ⟨v, _, found⟩
    exact Value.lt_of_natural? found
  unnamed _ listed := Members.not_mem_names_of_mem_others ofName?_eq_some_iff listed Field.all
  other := Members.canonical_others Field.ofName? integers

end Advice

/-! ## Messages -/

namespace Message

/-- Whether a field takes a value; null is taken by all but the channel. -/
def Field.Accepts (field : Field) (v : Value) : Prop :=
  match field with
  | .channel => v.text?.isSome = true
  | .data | .ext => True
  | .successful => v.isNull = true ∨ v.truth?.isSome = true
  | .advice => v.isNull = true ∨ (Advice.ofValue? v).isSome = true
  | .supportedConnectionTypes => v.isNull = true ∨ v.texts?.isSome = true
  | .id | .clientId | .error | .version | .minimumVersion | .connectionType | .subscription
  | .timestamp => v.isNull = true ∨ v.text?.isSome = true

instance (field : Field) (v : Value) : Decidable (field.Accepts v) :=
  match field with
  | .channel => inferInstanceAs (Decidable (v.text?.isSome = true))
  | .data | .ext => inferInstanceAs (Decidable True)
  | .successful => inferInstanceAs (Decidable (v.isNull = true ∨ v.truth?.isSome = true))
  | .advice => inferInstanceAs (Decidable (v.isNull = true ∨ (Advice.ofValue? v).isSome = true))
  | .supportedConnectionTypes =>
    inferInstanceAs (Decidable (v.isNull = true ∨ v.texts?.isSome = true))
  | .id | .clientId | .error | .version | .minimumVersion | .connectionType | .subscription
  | .timestamp => inferInstanceAs (Decidable (v.isNull = true ∨ v.text?.isSome = true))

/-- An object that a message can be read of. -/
def Conforms (members : List (String × Value)) : Prop :=
  Members.Conform Field.ofName? Field.Accepts members ∧
    Field.channel ∈ Members.fields Field.ofName? members

instance (members : List (String × Value)) : Decidable (Conforms members) :=
  inferInstanceAs (Decidable (_ ∧ _))

/-- A message from what its fields hold and the members of unknown name. -/
def ofEntries (entry : Field → Option Value) (other : Members) : Message :=
  { channel := ((entry .channel).bind Value.text?).getD ""
    id := (entry .id).bind Value.text?
    clientId := ((entry .clientId).bind Value.text?).map ClientId.mk
    data := (entry .data).bind Value.present?
    successful := (entry .successful).bind Value.truth?
    error := (entry .error).bind Value.text?
    advice := (entry .advice).bind Advice.ofValue?
    ext := (entry .ext).bind Value.present?
    version := (entry .version).bind Value.text?
    minimumVersion := (entry .minimumVersion).bind Value.text?
    supportedConnectionTypes := (entry .supportedConnectionTypes).bind Value.texts?
    connectionType := (entry .connectionType).bind Value.text?
    subscription := (entry .subscription).bind Value.text?
    timestamp := (entry .timestamp).bind Value.text?
    other }

/-- The message that an object holds. -/
def ofMembers (members : List (String × Value)) : Message :=
  ofEntries (Members.entry Field.name members) (Members.others Field.ofName? members)

def ofValue? : Value → Option Message
  | .object members => if Conforms members then some (ofMembers members) else none
  | _ => none

theorem ofValue?_eq_some_iff {v : Value} {m : Message} :
    ofValue? v = some m ↔
      ∃ members, v = .object members ∧ Conforms members ∧ ofMembers members = m := by
  cases v with
  | object members => by_cases conforms : Conforms members <;> simp [ofValue?, conforms]
  | null | truth | number | string | array => simp [ofValue?]

theorem ofName?_eq_some_iff {name : String} {field : Field} :
    Field.ofName? name = some field ↔ field.name = name :=
  Json.find?_eq_some_iff_of_named ofName?_name

section Schema

variable {room : Nat} {v : Value}

/-- One field is read into the message, if it takes the value. -/
theorem readField_eq_ok_iff (fits : v.Fits room) (entry : Field → Option Value) (other : Members)
    (field : Field) (next : Message) :
    readField room (ofEntries entry other) field v.outline = .ok next ↔
      field.Accepts v ∧ next = ofEntries (Function.update entry field (some v)) other := by
  have text := v.isReadBy_readString.optional rfl
  cases field with
  | channel =>
      exact Json.bind_pure_eq_ok_iff (v.isReadBy_readString.required "")
        (fun content => { ofEntries entry other with channel := content }) next
  | id =>
      exact Json.bind_pure_eq_ok_iff text
        (fun content => { ofEntries entry other with id := content }) next
  | clientId =>
      exact Json.bind_pure_eq_ok_iff text
        (fun content => { ofEntries entry other with clientId := content.map ClientId.mk }) next
  | data =>
      exact Json.bind_pure_eq_ok_iff fits.optional_value
        (fun content => { ofEntries entry other with data := content }) next
  | successful =>
      exact Json.bind_pure_eq_ok_iff (v.isReadBy_readTruth.optional rfl)
        (fun content => { ofEntries entry other with successful := content }) next
  | error =>
      exact Json.bind_pure_eq_ok_iff text
        (fun content => { ofEntries entry other with error := content }) next
  | advice =>
      exact Json.bind_pure_eq_ok_iff ((Advice.isReadBy_read fits).optional rfl)
        (fun content => { ofEntries entry other with advice := content }) next
  | ext =>
      exact Json.bind_pure_eq_ok_iff fits.optional_value
        (fun content => { ofEntries entry other with ext := content }) next
  | version =>
      exact Json.bind_pure_eq_ok_iff text
        (fun content => { ofEntries entry other with version := content }) next
  | minimumVersion =>
      exact Json.bind_pure_eq_ok_iff text
        (fun content => { ofEntries entry other with minimumVersion := content }) next
  | supportedConnectionTypes =>
      exact Json.bind_pure_eq_ok_iff ((Value.isReadBy_readList fits).optional rfl)
        (fun content => { ofEntries entry other with supportedConnectionTypes := content }) next
  | connectionType =>
      exact Json.bind_pure_eq_ok_iff text
        (fun content => { ofEntries entry other with connectionType := content }) next
  | subscription =>
      exact Json.bind_pure_eq_ok_iff text
        (fun content => { ofEntries entry other with subscription := content }) next
  | timestamp =>
      exact Json.bind_pure_eq_ok_iff text
        (fun content => { ofEntries entry other with timestamp := content }) next

/-- The reader's draft when it has gone through some members. -/
def draftOf (entry : Field → Option Value) (other : Members) (seen : List Field) : Draft :=
  { message := ofEntries entry other, seen }

theorem step_eq_ok_iff (fits : v.Fits room) (entry : Field → Option Value) (other : Members)
    (seen : List Field) (field : Field) (next : Draft) :
    Draft.step room (draftOf entry other seen) field.name v.outline = .ok next ↔
      field ∉ seen ∧ field.Accepts v ∧
        next = draftOf (Function.update entry field (some v)) other (field :: seen) := by
  unfold Draft.step
  rw [ofName?_name]
  exact Json.unrepeated_eq_ok_iff (readField_eq_ok_iff fits entry other field)
    (fun message => { message, seen := field :: seen : Draft }) next

theorem step_eq_ok_of_unknown (fits : v.Fits room) {name : String}
    (unknown : Field.ofName? name = none) (entry : Field → Option Value) (other : Members)
    (seen : List Field) :
    Draft.step room (draftOf entry other seen) name v.outline =
      .ok (draftOf entry (other.insert name v.normal) seen) := by
  unfold Draft.step
  rw [unknown]
  simp only [fits.value_outline]
  rfl

/-- A message is read of an object that conforms to the schema. -/
theorem isReadBy_read (fits : v.Fits room) : v.IsReadBy (read room) ofValue? := by
  intro m
  cases v with
  | object members =>
      rcases fits.of_mem_object with ⟨inner, rfl, each⟩
      have gathered := Json.Fields.gather_eq_ok_iff ofName?_eq_some_iff draftOf
        (fun entry other seen field v next listed =>
          step_eq_ok_iff (each _ listed) entry other seen field next)
        (fun entry other seen name v listed unknown =>
          step_eq_ok_of_unknown (each _ listed) unknown entry other seen)
      have whole : read (inner + 1) (Value.object members).outline =
          ((Value.memberOutlines members).gather (Draft.step inner)
            (draftOf (fun _ => none) [] [])).bind Draft.finish := by
        change read (inner + 1) (.object (Value.memberOutlines members)) =
          ((Value.memberOutlines members).gather (Draft.step inner) {}).bind Draft.finish
        rw [read]
        cases (Value.memberOutlines members).gather (Draft.step inner) {} <;> rfl
      rw [whole, bind_eq_ok_iff]
      simp only [gathered, and_assoc, exists_and_left, exists_eq_left]
      simp only [draftOf, Draft.finish, List.mem_reverse, ofValue?]
      by_cases conforms : Members.Conform Field.ofName? Field.Accepts members
      · by_cases addressed : Field.channel ∈ Members.fields Field.ofName? members
        · have whole : Conforms members := ⟨conforms, addressed⟩
          simp [conforms, addressed, whole, ofMembers]
        · have broken : ¬ Conforms members := fun whole => addressed whole.2
          simp [addressed, broken]
      · have broken : ¬ Conforms members := fun whole => conforms whole.1
        simp [conforms, broken]
  | null | truth | number | string | array => simp [Value.outline, read, ofValue?]

end Schema

/-- What is read of an object of integers is canonical. -/
theorem canonical_ofMembers {members : List (String × Value)}
    (integers : ∀ member ∈ members, ∀ n ∈ member.2.numbers, n.isInteger64 = true) :
    (ofMembers members).Canonical := by
  have held : ∀ {field v}, Members.entry Field.name members field = some v →
      ∀ n ∈ v.numbers, n.isInteger64 = true := by
    intro field v found
    exact integers (field.name, v) (Members.mem_of_lookup found)
  have present : ∀ {field content},
      (Members.entry Field.name members field).bind Value.present? = some content →
        content ≠ .null ∧ content.Canonical := by
    intro field content found
    rcases Option.bind_eq_some_iff.mp found with ⟨v, stands, shown⟩
    exact Value.canonical_of_present? (held stands) shown
  refine ⟨fun _ => present, fun _ => present, ?_,
    fun _ listed => Members.not_mem_names_of_mem_others ofName?_eq_some_iff listed Field.all,
    Members.canonical_others Field.ofName? integers⟩
  intro a found
  rcases Option.bind_eq_some_iff.mp found with ⟨v, stands, shown⟩
  rcases Advice.ofValue?_eq_some_iff.mp shown with ⟨inner, rfl, _, rfl⟩
  exact Advice.canonical_ofMembers fun member listed n inside =>
    held stands n (Value.mem_numbers_object.mpr ⟨_, listed, inside⟩)

end Message

/-! ## Batches -/

namespace Batch

/-- A list of objects that conform, or one such object by itself. -/
def ofValue? : Value → Option Batch
  | .array items => items.mapM Message.ofValue?
  | v => (Message.ofValue? v).map fun m => [m]

theorem mapM_ofValue?_eq_some_iff {items : List Value} {batch : Batch} :
    items.mapM Message.ofValue? = some batch ↔
      ∃ objects : List (List (String × Value)), items = objects.map .object ∧
        (∀ members ∈ objects, Message.Conforms members) ∧
          batch = objects.map Message.ofMembers := by
  induction items generalizing batch with
  | nil =>
      constructor
      · intro found
        exact ⟨[], rfl, List.forall_mem_nil _, (Option.some.inj found).symm⟩
      · rintro ⟨objects, none, _, rfl⟩
        rw [List.map_eq_nil_iff.mp none.symm]
        rfl
  | cons v vs inductionHypothesis =>
      rw [List.mapM_cons]
      constructor
      · intro found
        rcases Option.bind_eq_some_iff.mp found with ⟨m, first, rest⟩
        rcases Option.bind_eq_some_iff.mp rest with ⟨ms, others, same⟩
        rcases Message.ofValue?_eq_some_iff.mp first with ⟨members, rfl, conforms, rfl⟩
        rcases inductionHypothesis.mp others with ⟨objects, rfl, conform, rfl⟩
        exact ⟨members :: objects, rfl, List.forall_mem_cons.mpr ⟨conforms, conform⟩,
          (Option.some.inj same).symm⟩
      · rintro ⟨objects, same, conform, rfl⟩
        cases objects with
        | nil => cases same
        | cons members objects =>
            rcases List.forall_mem_cons.mp conform with ⟨conforms, others⟩
            rcases List.cons.inj same with ⟨rfl, rfl⟩
            rw [inductionHypothesis.mpr ⟨objects, rfl, others, rfl⟩,
              Message.ofValue?_eq_some_iff.mpr ⟨members, rfl, conforms, rfl⟩]
            rfl

theorem ofValue?_eq_some_iff {v : Value} {batch : Batch} :
    ofValue? v = some batch ↔
      ∃ objects : List (List (String × Value)),
        (v = .array (objects.map .object) ∨ ∃ members, objects = [members] ∧ v = .object members) ∧
          (∀ members ∈ objects, Message.Conforms members) ∧
            batch = objects.map Message.ofMembers := by
  cases v with
  | array items =>
      rw [ofValue?, mapM_ofValue?_eq_some_iff]
      simp
  | object members =>
      change (Message.ofValue? (.object members)).map (fun m => [m]) = some batch ↔ _
      rw [Option.map_eq_some_iff]
      constructor
      · rintro ⟨m, found, rfl⟩
        rcases Message.ofValue?_eq_some_iff.mp found with ⟨same, stands, conforms, rfl⟩
        exact ⟨[same], Or.inr ⟨same, rfl, stands⟩, List.forall_mem_singleton.mpr conforms, rfl⟩
      · rintro ⟨objects, stands | ⟨same, rfl, stands⟩, conform, rfl⟩
        · cases stands
        · cases stands
          exact ⟨_, Message.ofValue?_eq_some_iff.mpr
            ⟨members, rfl, List.forall_mem_singleton.mp conform, rfl⟩, rfl⟩
  | null | truth | number | string => simp [ofValue?, Message.ofValue?]

/-- A batch that is read of integers is canonical. -/
theorem canonical_of_ofValue? {v : Value} {batch : Batch}
    (integers : ∀ n ∈ v.numbers, n.isInteger64 = true) (held : ofValue? v = some batch) :
    batch.Canonical := by
  rcases ofValue?_eq_some_iff.mp held with ⟨objects, stands, _, rfl⟩
  intro m listed
  rcases List.mem_map.mp listed with ⟨members, member, rfl⟩
  refine Message.canonical_ofMembers fun entry inObject n inside => integers n ?_
  have inner := Value.mem_numbers_object.mpr ⟨entry, inObject, inside⟩
  rcases stands with rfl | ⟨same, rfl, rfl⟩
  · exact Value.mem_numbers_array.mpr ⟨_, List.mem_map_of_mem member, inner⟩
  · rw [List.mem_singleton.mp member] at inner
    exact inner

/-- Every text of a value is read as the batch that the value holds. -/
theorem ofText_eq_ok_iff {text : String} {v : Value} (spelled : v.IsTextOf text)
    (fits : v.Fits Json.depthLimit) (batch : Batch) :
    ofText text = .ok batch ↔ ofValue? v = some batch := by
  have literals : ∀ n ∈ v.numbers, n.IsLiteral := fun n inside =>
    Json.Number.isLiteral_of_reads (Json.Number.reads_of_isInteger64 (fits.integers n inside))
  cases v with
  | array items =>
      rcases fits.of_mem_array with ⟨inner, room, each⟩
      rw [ofText_of_array spelled literals, room]
      change (Value.itemOutlines items).collect (Message.read inner) [] = .ok batch ↔ _
      rw [Json.Items.collect_eq_ok_iff fun v listed => Message.isReadBy_read (each v listed)]
      simp [ofValue?]
  | object members =>
      have alone := (Value.head?_trimStart_of_isTextOf literals spelled).mpr ⟨members, rfl⟩
      unfold ofText
      simp only [if_pos alone]
      rw [Json.readText_of_isTextOf _ literals spelled, map_eq_ok_iff]
      simp only [Message.isReadBy_read fits _, ofValue?, Option.map_eq_some_iff]
  | null | truth | number | string =>
      unfold ofText
      simp only []
      rw [if_neg fun begins => by
        simpa using (Value.head?_trimStart_of_isTextOf literals spelled).mp begins,
        Json.readText_of_isTextOf _ literals spelled]
      simp [read, Value.outline, Outline.readList, ofValue?, Message.ofValue?]

end Batch

namespace Codec

/-- Either codec reads a text as a batch exactly if it is an object or a list of objects that
conform to the schema.  The batch is what the objects hold, and it is canonical.  Of each unknown
key of a message or of advice, and of each key inside a free-form value, the last occurrence is
kept. -/
theorem decode_eq_ok_iff (codec : Codec) {text : String} {v : Value} (spelled : v.IsTextOf text)
    (integers : ∀ n ∈ v.numbers, n.isInteger64 = true) (depth : v.depth ≤ 127) :
    (∀ batch, codec.decode text = .ok batch ↔
      ∃ objects : List (List (String × Value)),
        (v = .array (objects.map .object) ∨ ∃ members, objects = [members] ∧ v = .object members) ∧
          (∀ members ∈ objects, Message.Conforms members) ∧
            batch = objects.map Message.ofMembers) ∧
      (∀ batch, codec.decode text = .ok batch → batch.Canonical) ∧
        ∀ (members : List (String × Value)) (key : String),
          ((Message.ofMembers members).other.lookup key =
            if (Message.Field.ofName? key).isSome then none
            else (members.reverse.lookup key).map Value.normal) ∧
          ((Advice.ofMembers members).other.lookup key =
            if (Advice.Field.ofName? key).isSome then none
            else (members.reverse.lookup key).map Value.normal) ∧
          ∀ held, (Value.object members).normal = .object held →
            held.lookup key = (members.reverse.lookup key).map Value.normal := by
  have reads : ∀ batch, codec.decode text = .ok batch ↔ Batch.ofValue? v = some batch :=
    Batch.ofText_eq_ok_iff spelled ⟨integers, depth⟩
  refine ⟨fun batch => (reads batch).trans Batch.ofValue?_eq_some_iff, fun batch decoded => ?_,
    fun members key => ⟨Members.lookup_others _ members key, Members.lookup_others _ members key,
      fun _ normal => Value.lookup_of_normal normal key⟩⟩
  exact Batch.canonical_of_ofValue? integers ((reads batch).mp decoded)

/-- A slash may be escaped, blanks may stand between the members, and of two members of the
same unknown name the last one counts. -/
theorem decode_repeated_key :
    compact.decode "\x7b\"channel\":\"\\u002Fa\",\"x\":1, \"x\":null\x7d" =
      .ok [{ channel := "/a", other := [("x", .null)] }] := by
  let members : List (String × Value) :=
    [("channel", .string "/a"), ("x", .number (.integer 1)), ("x", .null)]
  have channel : Json.SpellsKey "channel" "\"channel\":".toList :=
    Json.spellsKey_literal Json.blank_nil "channel"
  have key : ∀ before, Json.Blank before → Json.SpellsKey "x" (before ++ "\"x\":".toList) := by
    intro before blank
    have spelled := Json.spellsKey_literal blank "x"
    rwa [List.append_assoc] at spelled
  have slash : Json.SpellsString "/a" "\"\\u002Fa\"".toList := by
    have unit : Json.Quotation.Digits '/'.toNat "002F".toList :=
      .mk (i := 0) (j := 0) (k := 2) (l := 15) rfl rfl rfl rfl
    exact ⟨_, .cons (.unit unit) (.cons (.plain (by decide) (by decide) (by decide)) .nil), rfl⟩
  have second : Value.SpellsMembers [("x", .null)] ", \"x\":null".toList :=
    ⟨[], " \"x\":".toList, "null".toList, [], Json.blank_nil,
      key [' '] (List.forall_mem_singleton.mpr rfl), .intro Json.blank_nil rfl, rfl, rfl⟩
  have others : Value.SpellsMembers members.tail ",\"x\":1, \"x\":null".toList :=
    ⟨[], "\"x\":".toList, "1".toList, _, Json.blank_nil, key [] Json.blank_nil,
      .intro Json.blank_nil rfl, second, rfl⟩
  have spelled : (Value.object members).IsTextOf
      "\x7b\"channel\":\"\\u002Fa\",\"x\":1, \"x\":null\x7d" :=
    ⟨_, [], .intro Json.blank_nil ⟨_, _, _, [], channel, .intro Json.blank_nil slash, others,
      Json.blank_nil, rfl⟩, Json.blank_nil, rfl⟩
  have schema := decode_eq_ok_iff compact spelled (by decide) (by decide)
  exact (schema.1 _).mpr ⟨[members], .inr ⟨members, rfl, rfl⟩,
    List.forall_mem_singleton.mpr (by decide), rfl⟩

end Codec
end Bayeux
