import Bayeux.Engine
import Bayeux.Proofs.Json.Soundness
import Bayeux.Proofs.Message.RoundTrip

namespace Bayeux

/-!
# What is read of a batch

Data and extensions of a message that was read can be written and read again, and nest no
deeper than there was room for them.  In a list, that is 125 levels.  A message that stands
by itself has room for one level more, and when it is passed on in a list it nests one level
more than can be read.
-/

open Json (Value Members Outline)

namespace Message

/-- A message whose data and extensions can be written and read again, and nest no deeper
than there is room. -/
structure Sound (room : Nat) (m : Message) : Prop where
  data : ∀ v ∈ m.data, v ≠ .null ∧ v.Sound room
  ext : ∀ v ∈ m.ext, v ≠ .null ∧ v.Sound room

theorem Sound.mono {room more : Nat} {m : Message} (sound : m.Sound room) (le : room ≤ more) :
    m.Sound more where
  data v known := ⟨(sound.data v known).1, (sound.data v known).2.mono le⟩
  ext v known := ⟨(sound.ext v known).1, (sound.ext v known).2.mono le⟩

/-! ## Reading -/

section Reading

variable {room : Nat} {outline : Outline} {m next : Message}

/-- The fields without free-form values can be anything. -/
theorem Sound.of_same (sound : m.Sound room) (data : next.data = m.data)
    (ext : next.ext = m.ext) : next.Sound room where
  data := data ▸ sound.data
  ext := ext ▸ sound.ext

theorem Sound.readField (sound : m.Sound room) (inRange : outline.InRange) {field : Field}
    (reads : Message.readField room m field outline = .ok next) : next.Sound room := by
  cases field with
  | data =>
      rcases bind_eq_ok_iff.mp reads with ⟨value, found, same⟩
      rw [← Except.ok.inj same]
      exact ⟨Json.Outline.sound_of_optional inRange found, sound.ext⟩
  | ext =>
      rcases bind_eq_ok_iff.mp reads with ⟨value, found, same⟩
      rw [← Except.ok.inj same]
      exact ⟨sound.data, Json.Outline.sound_of_optional inRange found⟩
  | channel | id | clientId | successful | error | advice | version | minimumVersion
  | supportedConnectionTypes | connectionType | subscription | timestamp =>
      rcases bind_eq_ok_iff.mp reads with ⟨value, found, same⟩
      rw [← Except.ok.inj same]
      exact sound.of_same rfl rfl

theorem Sound.step {draft further : Draft} (sound : draft.message.Sound room)
    (inRange : outline.InRange) {name : String}
    (reads : Draft.step room draft name outline = .ok further) : further.message.Sound room := by
  unfold Draft.step at reads
  split at reads
  next field known =>
    split at reads
    · cases reads
    · rcases bind_eq_ok_iff.mp reads with ⟨value, found, same⟩
      rw [← Except.ok.inj same]
      exact sound.readField inRange found
  next unknown =>
    rcases bind_eq_ok_iff.mp reads with ⟨value, found, same⟩
    rw [← Except.ok.inj same]
    exact sound.of_same rfl rfl

/-- A message that was read is sound for the room that there is inside it. -/
theorem sound_of_read (inRange : outline.InRange) (reads : read (room + 1) outline = .ok m) :
    m.Sound room := by
  cases outline with
  | object fields =>
      rw [Json.Outline.InRange] at inRange
      rw [read] at reads
      cases gathered : fields.gather (Draft.step room) {} with
      | error fault =>
          rw [gathered] at reads
          cases reads
      | ok draft =>
          have sound : draft.message.Sound room :=
            Json.Fields.gather_keeps (fun draft : Draft => draft.message.Sound room)
              (fun inRange sound stepped => sound.step inRange stepped) fields inRange
              ⟨fun _ absent => (by cases absent), fun _ absent => (by cases absent)⟩ gathered
          rw [gathered] at reads
          simp only [Draft.finish] at reads
          split at reads
          · rw [← Except.ok.inj reads]
            exact sound
          · cases reads
  | null | truth | number | string | broken | list => cases reads

end Reading

/-! ## Passing on -/

/-- A message nests one level more than its fields. -/
theorem depth_value_le {m : Message} {room : Nat} (data : ∀ v ∈ m.data, v.depth ≤ room)
    (ext : ∀ v ∈ m.ext, v.depth ≤ room) (advice : ∀ a ∈ m.advice, a.value.depth ≤ room)
    (types : ∀ types ∈ m.supportedConnectionTypes, 1 ≤ room)
    (other : ∀ member ∈ m.other, member.2.depth ≤ room) : m.value.depth ≤ room + 1 := by
  rw [value_eq, Value.depth, Nat.add_le_add_iff_right, Value.memberDepth_le_iff]
  intro member listed
  rcases List.mem_append.mp listed with known | unknown
  · rcases Members.exists_of_mem_named known with ⟨field, _, writes, _⟩
    cases field with
    | channel =>
        rw [← Option.some.inj writes]
        exact Nat.zero_le room
    | id | error | version | minimumVersion | connectionType | subscription | timestamp
    | clientId | successful =>
        rcases Option.map_eq_some_iff.mp writes with ⟨value, _, same⟩
        rw [← same]
        exact Nat.zero_le room
    | data => exact data _ writes
    | ext => exact ext _ writes
    | advice =>
        rcases Option.map_eq_some_iff.mp writes with ⟨a, known, same⟩
        rw [← same]
        exact advice a known
    | supportedConnectionTypes =>
        rcases Option.map_eq_some_iff.mp writes with ⟨names, known, same⟩
        have flat : Value.itemDepth (names.map .string) ≤ 0 := by
          rw [Value.itemDepth_le_iff]
          intro item inside
          rcases List.mem_map.mp inside with ⟨name, _, text⟩
          rw [← text]
          exact Nat.le_refl 0
        rw [← same, Value.depth]
        exact (Nat.succ_le_succ flat).trans (types names known)
  · exact other member unknown

section Published

variable {room : Nat} {m : Message}

/-- What subscribers see of a message that was read can be read again. -/
theorem Sound.readable_published (sound : m.Sound room) : (Engine.published m).Readable where
  data v known := ⟨(sound.data v known).1, (sound.data v known).2.readable⟩
  ext v known := ⟨(sound.ext v known).1, (sound.ext v known).2.readable⟩
  advice _ absent := by cases absent
  unnamed _ absent := by cases absent
  other := ⟨rfl, fun _ absent => by cases absent⟩

theorem Sound.depth_published_le (sound : m.Sound room) :
    (Engine.published m).value.depth ≤ room + 1 := by
  apply depth_value_le
  · exact fun v known => (sound.data v known).2.depth
  · exact fun v known => (sound.ext v known).2.depth
  · intro _ absent
    cases absent
  · intro _ absent
    cases absent
  · intro _ absent
    cases absent

end Published
end Message

/-! ## Batches -/

/-- A message that some text was read as, alone or among others. -/
def Message.WasRead (m : Message) : Prop :=
  ∃ text batch, Batch.ofText text = .ok batch ∧ m ∈ batch

/-- A message that some text was read as that is an object and no list. -/
def Message.CameAlone (m : Message) : Prop :=
  ∃ text, Batch.ofText text = .ok [m] ∧ (Text.trimStart text.toList).head? = some '\x7b'

/-- A text holds a list, whose messages have room for 125 levels each, or a single message
by itself, which has room for 126. -/
theorem Batch.sound_of_ofText {text : String} {batch : Batch} (reads : ofText text = .ok batch) :
    (∀ m ∈ batch, m.Sound 125) ∨
      ∃ m, batch = [m] ∧ m.Sound 126 ∧ (Text.trimStart text.toList).head? = some '\x7b' := by
  unfold ofText at reads
  simp only [] at reads
  split at reads
  next opening =>
    rcases map_eq_ok_iff.mp reads with ⟨m, found, same⟩
    rcases Json.exists_of_readText found with ⟨outline, inRange, whole⟩
    exact Or.inr ⟨m, same.symm, Message.sound_of_read inRange whole, opening⟩
  next opening =>
    rcases Json.exists_of_readText reads with ⟨outline, inRange, whole⟩
    left
    cases outline with
    | list items =>
        rw [Json.Outline.InRange] at inRange
        have each : ∀ {outline : Outline} {m : Message}, outline.InRange →
            Message.read 126 outline = .ok m → m.Sound 125 :=
          fun inRange reads => Message.sound_of_read inRange reads
        exact Json.Items.collect_forall each items inRange (List.forall_mem_nil _) whole
    | null | truth | number | string | broken | object => cases whole

namespace Message.WasRead

variable {m : Message}

theorem sound_or_cameAlone (wasRead : m.WasRead) : m.Sound 125 ∨ m.Sound 126 ∧ m.CameAlone := by
  rcases wasRead with ⟨text, batch, reads, member⟩
  rcases Batch.sound_of_ofText reads with each | ⟨alone, same, sound, opening⟩
  · exact Or.inl (each m member)
  · rw [same] at member reads
    rw [List.mem_singleton.mp member]
    exact Or.inr ⟨sound, text, reads, opening⟩

theorem sound (wasRead : m.WasRead) : m.Sound 126 := by
  rcases wasRead.sound_or_cameAlone with listed | alone
  · exact listed.mono (by decide)
  · exact alone.1

end Message.WasRead

theorem Batch.depth_value_le_iff {batch : Batch} {room : Nat} :
    batch.value.depth ≤ room + 1 ↔ ∀ m ∈ batch, m.value.depth ≤ room := by
  unfold value
  rw [Value.depth, Nat.add_le_add_iff_right, Value.itemDepth_le_iff]
  exact List.forall_mem_map

end Bayeux
