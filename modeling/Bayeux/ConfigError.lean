import Bayeux.Text.Quoted

namespace Bayeux

/-!
# Faults of a configuration

A configuration is checked before anything runs, and each way to be wrong is a
constructor with its wording beside it.
-/

inductive ConfigError where
  | unknownCodec (name : String)
  /-- The value of an option cannot be parsed at the option's type. -/
  | invalidOption (key value : String)
deriving DecidableEq, Repr

namespace ConfigError

def message : ConfigError → String
  | unknownCodec name => "unknown codec: " ++ name
  | invalidOption key value =>
    "invalid value " ++ Text.quoted value ++ " for option " ++ key

/-- The text under which a builder reports the fault. -/
def report (error : ConfigError) : String :=
  "configuration error: " ++ error.message

end ConfigError

end Bayeux
