import Bayeux.Json.Token

namespace Bayeux
namespace Json

/-!
# Outlines

An outline holds the values of a text in their nesting, complete or not.  A list or an
object that breaks off records how it ends, and a value that is missing or malformed
stands in the tree as a broken leaf.  A typed reader walks the tree in the order of the
text, so it meets the first fault where a reader of the text would have met it.
-/

/-- How a list ends. -/
inductive ListEnding where
  | closed
  | trailingComma
  /-- Something other than a comma follows an item. -/
  | unseparated
  | exhausted
deriving DecidableEq, Repr

/-- How an object ends. -/
inductive ObjectEnding where
  | closed
  | trailingComma
  /-- Something other than a comma follows a member. -/
  | unseparated
  | exhausted
  | exhaustedAfterComma
  | brokenKey (reading skipping : Fault)
  /-- Something other than a string stands where a key is due. -/
  | keyless

/-- A key, or what a reader minds about it. -/
abbrev Key := Except Fault String

mutual

inductive Outline where
  | null
  | truth (value : Bool)
  | number (value : Except Fault Number)
  | string (text : Except Fault String)
  | broken (opening : Opening) (reading skipping : Fault)
  | list (items : Items)
  | object (fields : Fields)

/-- Items of a list up to its ending. -/
inductive Items where
  | stop (ending : ListEnding)
  | item (value : Outline) (rest : Items)

/-- Members of an object up to its ending. -/
inductive Fields where
  | stop (ending : ObjectEnding)
  | field (key : Key) (value : Outline) (rest : Fields)

end

namespace ListEnding

/-- What a reader makes of the ending. -/
def fault? : ListEnding → Option Fault
  | closed => none
  | trailingComma => some .trailingComma
  | unseparated => some .expectedListCommaOrEnd
  | exhausted => some .endInList

/-- What a skipper makes of the ending: after a comma it wants a value. -/
def skipFault? : ListEnding → Option Fault
  | trailingComma => some .expectedValue
  | ending => ending.fault?

end ListEnding

namespace ObjectEnding

def fault? : ObjectEnding → Option Fault
  | closed => none
  | trailingComma => some .trailingComma
  | unseparated => some .expectedObjectCommaOrEnd
  | exhausted => some .endInObject
  | exhaustedAfterComma => some .endInValue
  | brokenKey reading _ => some reading
  | keyless => some .keyNotString

/-- What a skipper makes of the ending: after a comma it wants a key. -/
def skipFault? : ObjectEnding → Option Fault
  | trailingComma => some .keyNotString
  | exhaustedAfterComma => some .endInObject
  | brokenKey _ skipping => some skipping
  | ending => ending.fault?

end ObjectEnding

namespace Outline

/-- The kind of value that stands here, or the fault that stands in its place. -/
def head : Outline → Except Fault Found
  | null => .ok .null
  | truth value => .ok (.truth value)
  | number value => value.map .number
  | string text => text.map .string
  | broken _ reading _ => .error reading
  | list _ => .ok .sequence
  | object _ => .ok .map

/-- What a reader that wants something else makes of a value. -/
def mismatch (outline : Outline) (expected : Expected) : Fault :=
  match outline.head with
  | .ok found => .invalidType found expected
  | .error fault => fault

end Outline

/-! ## Skipping a value -/

mutual

/-- What a skipper minds in a value, if anything.  It has no limit on nesting. -/
def Outline.skipFault? : Outline → Option Fault
  | .broken _ _ skipping => some skipping
  | .list items => items.skipFault?
  | .object fields => fields.skipFault?
  | _ => none

def Items.skipFault? : Items → Option Fault
  | .stop ending => ending.skipFault?
  | .item value rest =>
    match value.skipFault? with
    | some fault => some fault
    | none => rest.skipFault?

def Fields.skipFault? : Fields → Option Fault
  | .stop ending => ending.skipFault?
  | .field _ value rest =>
    match value.skipFault? with
    | some fault => some fault
    | none => rest.skipFault?

end

/-! ## Building the outline of a text -/

namespace Outline

/-- A place that a value under way is going to fill, with what precedes it in
its list or object, in reverse. -/
inductive Slot where
  | item (before : List Outline)
  | field (before : List (Key × Outline)) (key : Key)

/-- What may come next. -/
inductive Phase where
  | value
  | firstItem
  | afterItem (items : List Outline)
  | firstKey
  | nextKey (fields : List (Key × Outline))
  | colon (fields : List (Key × Outline)) (key : Key)
  | afterField (fields : List (Key × Outline))
  /-- The text's value is complete, or broken off where nothing can follow. -/
  | finished (root : Outline) (trailing : Bool)

/-- A list from its items in reverse. -/
def ofItems (items : List Outline) (ending : ListEnding) : Outline :=
  .list (items.foldl (fun rest value => .item value rest) (.stop ending))

/-- An object from its members in reverse. -/
def ofFields (fields : List (Key × Outline)) (ending : ObjectEnding) : Outline :=
  .object (fields.foldl (fun rest field => .field field.1 field.2 rest) (.stop ending))

/-- What stands where a token begins a value. -/
def ofToken : Token → Outline
  | .null => .null
  | .truth value => .truth value
  | .number value => .number value
  | .string text => .string text
  | .broken opening reading skipping => .broken opening reading skipping
  | .openList => ofItems [] .exhausted
  | .openObject => ofFields [] .exhausted
  | _ => .broken .absent .expectedValue .expectedValue

/-- The unfinished lists and objects, innermost first, and what may come next. -/
structure Builder where
  stack : List Slot := []
  phase : Phase := .value

namespace Builder

/-- Puts a complete value in its place. -/
def fill (b : Builder) (value : Outline) : Builder :=
  match b.stack with
  | [] => { b with phase := .finished value false }
  | .item before :: rest => { stack := rest, phase := .afterItem (value :: before) }
  | .field before key :: rest =>
    { stack := rest, phase := .afterField ((key, value) :: before) }

/-- The root when a value is broken: the lists and objects around it stay open. -/
def rooted (b : Builder) (value : Outline) : Outline :=
  b.stack.foldl
    (fun inner slot =>
      match slot with
      | .item before => ofItems (inner :: before) .exhausted
      | .field before key => ofFields ((key, inner) :: before) .exhausted)
    value

/-- Puts a broken value in its place and gives up: nothing after it can be read. -/
def abandon (b : Builder) (value : Outline) : Builder :=
  { stack := [], phase := .finished (b.rooted value) false }

/-- A token where a value is due. -/
def valueStep (b : Builder) (token : Token) : Builder :=
  match token with
  | .openList => { b with phase := .firstItem }
  | .openObject => { b with phase := .firstKey }
  | .null | .truth _ | .number _ | .string _ => b.fill (ofToken token)
  | .closeList =>
    match b.stack with
    | .item (value :: before) :: rest =>
      { b with stack := rest }.abandon (ofItems (value :: before) .trailingComma)
    | _ => b.abandon (ofToken token)
  | _ => b.abandon (ofToken token)

/-- A token where a key is due, after the given members. -/
def keyStep (b : Builder) (fields : List (Key × Outline)) (token : Token) : Builder :=
  match token with
  | .string text => { b with phase := .colon fields text }
  | .broken .quote reading skipping => b.abandon (ofFields fields (.brokenKey reading skipping))
  | _ => b.abandon (ofFields fields .keyless)

def step (b : Builder) (token : Token) : Builder :=
  match b.phase, token with
  | .value, _ => b.valueStep token
  | .firstItem, .closeList => b.fill (ofItems [] .closed)
  | .firstItem, _ => { b with stack := .item [] :: b.stack }.valueStep token
  | .afterItem items, .comma => { stack := .item items :: b.stack, phase := .value }
  | .afterItem items, .closeList => b.fill (ofItems items .closed)
  | .afterItem items, _ => b.abandon (ofItems items .unseparated)
  | .firstKey, .closeObject => b.fill (ofFields [] .closed)
  | .firstKey, _ => b.keyStep [] token
  | .nextKey fields, .closeObject => b.abandon (ofFields fields .trailingComma)
  | .nextKey fields, _ => b.keyStep fields token
  | .colon fields key, .colon => { stack := .field fields key :: b.stack, phase := .value }
  | .colon fields key, _ =>
    b.abandon (ofFields ((key, .broken .absent .expectedColon .expectedColon) :: fields) .exhausted)
  | .afterField fields, .comma => { b with phase := .nextKey fields }
  | .afterField fields, .closeObject => b.fill (ofFields fields .closed)
  | .afterField fields, _ => b.abandon (ofFields fields .unseparated)
  | .finished root _, _ => { b with phase := .finished root true }

/-- The root at the end of the text, and whether anything followed it. -/
def finish (b : Builder) : Outline × Bool :=
  match b.phase with
  | .finished root trailing => (root, trailing)
  | .value => (b.rooted (.broken .absent .endInValue .endInValue), false)
  | .firstItem => (b.rooted (ofItems [] .exhausted), false)
  | .afterItem items => (b.rooted (ofItems items .exhausted), false)
  | .firstKey => (b.rooted (ofFields [] .exhausted), false)
  | .nextKey fields => (b.rooted (ofFields fields .exhaustedAfterComma), false)
  | .colon fields key =>
    let unmarked : Outline := .broken .absent .endInObject .endInObject
    (b.rooted (ofFields ((key, unmarked) :: fields) .exhausted), false)
  | .afterField fields => (b.rooted (ofFields fields .exhausted), false)

end Builder

/-- The outline of a list of tokens, and whether tokens follow its value. -/
def ofTokens (tokens : List Token) : Outline × Bool :=
  (tokens.foldl Builder.step {}).finish

end Outline

end Json
end Bayeux
