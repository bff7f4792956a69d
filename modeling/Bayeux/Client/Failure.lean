import Bayeux.ConfigError
import Bayeux.Json.Fault

namespace Bayeux

/-!
# Failures of clients and exchanges

Why a client could not be built, and why an exchange did not produce messages.
-/

inductive ClientBuildError where
  | config (error : ConfigError)
  /-- The URL is absolute but not one of the web. -/
  | invalidUrl (url : String)
deriving DecidableEq, Repr

def ClientBuildError.message : ClientBuildError → String
  | config error => error.report
  | invalidUrl url => "invalid URL: " ++ url

inductive Failure where
  | aborted
  | terminated
  /-- The request could not be completed. -/
  | http (reason : String)
  /-- The server answered with a status other than success. -/
  | status (code : Nat)
  /-- The reply did not decode. -/
  | malformed (fault : Json.Fault)
deriving DecidableEq, Repr

namespace Failure

def message : Failure → String
  | aborted => "exchange aborted"
  | terminated => "transport terminated"
  | http reason => "HTTP request failed: " ++ reason
  | status code => "unexpected HTTP status " ++ toString code
  | malformed fault => "malformed message batch: " ++ fault.message

end Failure

end Bayeux
