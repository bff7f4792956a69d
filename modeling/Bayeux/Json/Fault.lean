import Bayeux.Json.Value
import Bayeux.Text.Quoted

namespace Bayeux
namespace Json

/-!
# Faults of a text

Why a text could not be read.  Each cause is a constructor; its wording and its
category follow from it.
-/

/-- The kind of value that was met, with the value itself where it is short. -/
inductive Found where
  | null
  | truth (value : Bool)
  | number (value : Number)
  | string (text : String)
  | sequence
  | map
deriving DecidableEq, Repr

/-- What was due at a place. -/
inductive Expected where
  | string
  | truth
  | unsigned
  | signed
  | sequence
  | unit
  | record (name : String)
deriving DecidableEq, Repr

inductive Fault where
  | endInValue
  | endInList
  | endInObject
  | endInString
  | expectedColon
  | expectedListCommaOrEnd
  | expectedObjectCommaOrEnd
  | expectedIdent
  | expectedValue
  | invalidEscape
  | invalidNumber
  | numberOutOfRange
  | controlCharacter
  | keyNotString
  | loneSurrogate
  | unpairedSurrogate
  | trailingComma
  | trailingCharacters
  | tooDeep
  | invalidType (found : Found) (expected : Expected)
  | invalidValue (found : Found) (expected : Expected)
  | missingField (name : String)
  | duplicateField (name : String)
  | unknownVariant (name : String) (known : List String)
deriving DecidableEq, Repr

/-- A text can end too early, break the grammar, or hold the wrong data. -/
inductive Category where
  | endOfText
  | grammar
  | data
deriving DecidableEq, Repr

namespace Found

def text : Found → String
  | null => "null"
  | truth value => "boolean `" ++ (if value then "true" else "false") ++ "`"
  | number (.integer value) => "integer `" ++ String.ofList (Number.integer value).text ++ "`"
  | number (.float value) => "floating point `" ++ String.ofList value.text ++ "`"
  | string text => "string " ++ Text.quoted text
  | sequence => "sequence"
  | map => "map"

end Found

namespace Expected

def text : Expected → String
  | string => "a string"
  | truth => "a boolean"
  | unsigned => "u64"
  | signed => "i64"
  | sequence => "a sequence"
  | unit => "unit"
  | record name => "struct " ++ name

end Expected

namespace Fault

def category : Fault → Category
  | endInValue | endInList | endInObject | endInString => .endOfText
  | invalidType _ _ | invalidValue _ _ | missingField _ | duplicateField _
  | unknownVariant _ _ => .data
  | _ => .grammar

/-- A list of names for a message, each between backquotes. -/
def alternatives (names : List String) : String :=
  ", ".intercalate (names.map fun name => "`" ++ name ++ "`")

def message : Fault → String
  | endInValue => "EOF while parsing a value"
  | endInList => "EOF while parsing a list"
  | endInObject => "EOF while parsing an object"
  | endInString => "EOF while parsing a string"
  | expectedColon => "expected `:`"
  | expectedListCommaOrEnd => "expected `,` or `]`"
  | expectedObjectCommaOrEnd => "expected `,` or `\x7d`"
  | expectedIdent => "expected ident"
  | expectedValue => "expected value"
  | invalidEscape => "invalid escape"
  | invalidNumber => "invalid number"
  | numberOutOfRange => "number out of range"
  | controlCharacter => "control character (\\u0000-\\u001F) found while parsing a string"
  | keyNotString => "key must be a string"
  | loneSurrogate => "lone leading surrogate in hex escape"
  | unpairedSurrogate => "unexpected end of hex escape"
  | trailingComma => "trailing comma"
  | trailingCharacters => "trailing characters"
  | tooDeep => "recursion limit exceeded"
  | invalidType found expected =>
    "invalid type: " ++ found.text ++ ", expected " ++ expected.text
  | invalidValue found expected =>
    "invalid value: " ++ found.text ++ ", expected " ++ expected.text
  | missingField name => "missing field `" ++ name ++ "`"
  | duplicateField name => "duplicate field `" ++ name ++ "`"
  | unknownVariant name known =>
    "unknown variant `" ++ name ++ "`, expected one of " ++ alternatives known

end Fault

end Json
end Bayeux
