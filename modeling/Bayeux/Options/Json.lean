import Bayeux.Options.Basic
import Bayeux.Json.Layout
import Bayeux.Json.Reader

namespace Bayeux

/-!
# Settings as an object

Transport settings can be written as an object, with every duration in milliseconds.
Members may be left out, those of unknown name are skipped, and a list of the settings
in their order will do as well.
-/

open Json (Fault Outline Items Value)

namespace SessionLimit

def read (outline : Outline) : Except Fault SessionLimit :=
  outline.readSigned.map ofInt

def value (limit : SessionLimit) : Value :=
  .number (.integer limit.toInt)

def ofText (text : String) : Except Fault SessionLimit :=
  Json.readText read text.toList

end SessionLimit

namespace TransportOptions

/-! ## Writing -/

/-- A duration, which is written with 64 bits. -/
def millis (ms : Nat) : Value :=
  .number (.integer (ms % UInt64.size : Nat))

def fieldValue (o : TransportOptions) : OptionKey → Value
  | .cookieName => .string o.cookieName
  | .cookiePath => .string o.cookiePath
  | .cookieDomain => (o.cookieDomain.map Value.string).getD .null
  | .cookieMaxAge => (o.cookieMaxAge.map millis).getD .null
  | .limit => o.limit.value
  | .multiSessionInterval => millis o.multiSessionInterval
  | .autoBatch => .truth o.autoBatch
  | .allowWithoutBrowser => .truth o.allowWithoutBrowser
  | .timeout => millis o.timeout
  | .interval => millis o.interval
  | .maxInterval => millis o.maxInterval
  | .jsonDebug => .truth o.jsonDebug

def value (o : TransportOptions) : Value :=
  .object (OptionKey.all.map fun key => (key.field, o.fieldValue key))

/-! ## Reading -/

def readField (o : TransportOptions) (key : OptionKey) (outline : Outline) :
    Except Fault TransportOptions :=
  match key with
  | .cookieName => do return { o with cookieName := ← outline.readString }
  | .cookiePath => do return { o with cookiePath := ← outline.readString }
  | .cookieDomain => do return { o with cookieDomain := ← outline.optional Outline.readString }
  | .cookieMaxAge => do return { o with cookieMaxAge := ← outline.optional Outline.readUnsigned }
  | .limit => do return { o with limit := ← SessionLimit.read outline }
  | .multiSessionInterval => do return { o with multiSessionInterval := ← outline.readUnsigned }
  | .autoBatch => do return { o with autoBatch := ← outline.readTruth }
  | .allowWithoutBrowser => do return { o with allowWithoutBrowser := ← outline.readTruth }
  | .timeout => do return { o with timeout := ← outline.readUnsigned }
  | .interval => do return { o with interval := ← outline.readUnsigned }
  | .maxInterval => do return { o with maxInterval := ← outline.readUnsigned }
  | .jsonDebug => do return { o with jsonDebug := ← outline.readTruth }

/-- Settings under construction, with the members seen so far. -/
structure Draft where
  options : TransportOptions := {}
  seen : List OptionKey := []

def Draft.step (draft : Draft) (name : String) (outline : Outline) : Except Fault Draft :=
  match OptionKey.ofField? name with
  | some key =>
    if key ∈ draft.seen then .error (.duplicateField name)
    else do
      return { options := ← draft.options.readField key outline, seen := key :: draft.seen }
  | none =>
    match outline.skipFault? with
    | some fault => .error fault
    | none => .ok draft

/-- Reads settings in their order from a list, which may end early. -/
def readItems (o : TransportOptions) : List OptionKey → Items → Except Fault TransportOptions
  | key :: keys, .item outline rest =>
    match o.readField key outline with
    | .error fault => .error fault
    | .ok changed => changed.readItems keys rest
  | [], .item _ _ => .error .trailingCharacters
  | [], .stop .unseparated => .error .trailingCharacters
  | _, .stop ending =>
    match ending.fault? with
    | some fault => .error fault
    | none => .ok o

def read : Outline → Except Fault TransportOptions
  | .object fields => (fields.gather Draft.step {}).map Draft.options
  | .list items => readItems {} OptionKey.all items
  | other => .error (other.mismatch (.record "TransportOptions"))

def ofText (text : String) : Except Fault TransportOptions :=
  Json.readText read text.toList

end TransportOptions

end Bayeux
