import Bayeux.Json.Outline

namespace Bayeux
namespace Json

/-!
# Typed readers

A reader walks the outline of a text and returns a value of its type, or the first fault
in the order of the text.  A list or an object may be entered only while the nesting
has room: a text nests at most 127 levels deep.
-/

/-- The number of levels that a text may nest. -/
def depthLimit : Nat := 127

/-! ## Free-form values -/

mutual

/-- Reads any value, with room for that many levels. -/
def Outline.value (room : Nat) : Outline → Except Fault Value
  | .null => .ok .null
  | .truth value => .ok (.truth value)
  | .number value => value.map .number
  | .string text => text.map .string
  | .broken _ reading _ => .error reading
  | .list items =>
    match room with
    | 0 => .error .tooDeep
    | inner + 1 => (items.values inner []).map .array
  | .object fields =>
    match room with
    | 0 => .error .tooDeep
    | inner + 1 => (fields.values inner []).map .object

/-- Reads items after those already read, which are in reverse. -/
def Items.values (room : Nat) : Items → List Value → Except Fault (List Value)
  | .stop ending, done =>
    match ending.fault? with
    | some fault => .error fault
    | none => .ok done.reverse
  | .item outline rest, done =>
    match outline.value room with
    | .error fault => .error fault
    | .ok value => rest.values room (value :: done)

/-- Reads members into a sorted object; the last member of a key counts. -/
def Fields.values (room : Nat) : Fields → Members → Except Fault Members
  | .stop ending, done =>
    match ending.fault? with
    | some fault => .error fault
    | none => .ok done
  | .field key outline rest, done =>
    match key with
    | .error fault => .error fault
    | .ok name =>
      match outline.value room with
      | .error fault => .error fault
      | .ok value => rest.values room (done.insert name value)

end

/-! ## Scalars -/

namespace Outline

def readString : Outline → Except Fault String
  | .string text => text
  | other => .error (other.mismatch .string)

def readTruth : Outline → Except Fault Bool
  | .truth value => .ok value
  | other => .error (other.mismatch .truth)

/-- An integer from a range; one outside it is an invalid value, a double the
wrong type. -/
def readInteger (low high : Int) (expected : Expected) : Outline → Except Fault Int
  | .number (.ok (.integer value)) =>
    if low ≤ value ∧ value ≤ high then .ok value
    else .error (.invalidValue (.number (.integer value)) expected)
  | other => .error (other.mismatch expected)

/-- An integer from zero to `2 ^ 64 - 1`. -/
def readUnsigned (outline : Outline) : Except Fault Nat :=
  (outline.readInteger 0 (UInt64.size - 1) .unsigned).map Int.toNat

/-- An integer from `-2 ^ 63` to `2 ^ 63 - 1`. -/
def readSigned (outline : Outline) : Except Fault Int :=
  outline.readInteger (-(1 <<< 63 : Nat)) ((1 <<< 63 : Nat) - 1) .signed

/-- Reads null as absence. -/
def optional {α : Type} (read : Outline → Except Fault α) : Outline → Except Fault (Option α)
  | .null => .ok none
  | other => (read other).map some

end Outline

/-! ## Lists and objects of known shape -/

/-- Reads every item with one reader, after those already read. -/
def Items.collect {α : Type} (read : Outline → Except Fault α) :
    Items → List α → Except Fault (List α)
  | .stop ending, done =>
    match ending.fault? with
    | some fault => .error fault
    | none => .ok done.reverse
  | .item outline rest, done =>
    match read outline with
    | .error fault => .error fault
    | .ok value => rest.collect read (value :: done)

/-- Folds a step over the members, in their order. -/
def Fields.gather {σ : Type} (step : σ → String → Outline → Except Fault σ) :
    Fields → σ → Except Fault σ
  | .stop ending, state =>
    match ending.fault? with
    | some fault => .error fault
    | none => .ok state
  | .field key outline rest, state =>
    match key with
    | .error fault => .error fault
    | .ok name =>
      match step state name outline with
      | .error fault => .error fault
      | .ok next => rest.gather step next

/-- Reads a list of items of one kind, from a place with room for `room` levels;
the reader of an item gets the room that is left. -/
def Outline.readList {α : Type} (room : Nat) (read : Nat → Outline → Except Fault α) :
    Outline → Except Fault (List α)
  | .list items =>
    match room with
    | 0 => .error .tooDeep
    | inner + 1 => items.collect (read inner) []
  | other => .error (other.mismatch .sequence)

/-! ## Whole texts -/

/-- Reads a text of one value, after which nothing but blanks may follow. -/
def readText {α : Type} (read : Outline → Except Fault α) (text : List Char) :
    Except Fault α :=
  let (root, trailing) := Outline.ofTokens (scan text)
  match read root with
  | .error fault => .error fault
  | .ok value => if trailing then .error .trailingCharacters else .ok value

/-- Reads a text as a free-form value. -/
def Value.ofText (text : String) : Except Fault Value :=
  readText (Outline.value depthLimit) text.toList

end Json
end Bayeux
