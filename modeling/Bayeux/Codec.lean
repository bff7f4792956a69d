import Bayeux.Message.Reader
import Bayeux.ConfigError

namespace Bayeux

/-!
# Codecs

The two written forms of a batch.  Both read both forms.
-/

inductive Codec where
  | compact
  | indented
deriving DecidableEq, Repr

namespace Codec

def name : Codec → String
  | compact => "json"
  | indented => "json-pretty"

/-- The registered codecs; the first is the default. -/
def all : List Codec :=
  [compact, indented]

def layout : Codec → Json.Layout
  | compact => .compact
  | indented => .indented

def ofName (name : String) : Except ConfigError Codec :=
  match all.find? fun codec => codec.name == name with
  | some codec => .ok codec
  | none => .error (.unknownCodec name)

theorem ofName_name (codec : Codec) : ofName codec.name = .ok codec := by
  cases codec <;> rfl

def encode (codec : Codec) (batch : Batch) : String :=
  batch.value.text codec.layout

def decode (_ : Codec) (text : String) : Except Json.Fault Batch :=
  Batch.ofText text

end Codec

/-- How a transport is told its codec. -/
inductive CodecChoice where
  | default
  | named (name : String)
  | given (codec : Codec)
deriving DecidableEq, Repr

def CodecChoice.resolve : CodecChoice → Except ConfigError Codec
  | default => .ok .compact
  | named name => Codec.ofName name
  | given codec => .ok codec

end Bayeux
