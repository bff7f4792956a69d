import Bayeux.Browser
import Bayeux.Cookie
import Bayeux.SessionLimit
import Bayeux.Options.Entries

namespace Bayeux

/-!
# Settings of a transport

What a server transport can be told, with a default for each setting.  Durations are in
milliseconds.
-/

structure TransportOptions where
  cookieName : String := "BAYEUX_BROWSER"
  cookiePath : String := "/"
  cookieDomain : Option String := none
  cookieMaxAge : Option Nat := none
  /-- Connections that one browser may have held. -/
  limit : SessionLimit := .atMost 1
  /-- Pause advised to a client that was turned away; zero tells it to stay away. -/
  multiSessionInterval : Nat := 2000
  /-- Whether the replies of one request wake a session only once. -/
  autoBatch : Bool := true
  /-- Whether a client without a known browser may always be held. -/
  allowWithoutBrowser : Bool := false
  /-- How long a connect is held. -/
  timeout : Nat := 30000
  /-- Pause advised between connects. -/
  interval : Nat := 0
  /-- Longest pause of a well-behaved client. -/
  maxInterval : Nat := 10000
  jsonDebug : Bool := false
deriving DecidableEq, Repr

/-- The settings, in the order in which they are declared, read and written. -/
inductive OptionKey where
  | cookieName
  | cookiePath
  | cookieDomain
  | cookieMaxAge
  | limit
  | multiSessionInterval
  | autoBatch
  | allowWithoutBrowser
  | timeout
  | interval
  | maxInterval
  | jsonDebug
deriving DecidableEq, Repr

namespace OptionKey

def all : List OptionKey :=
  [cookieName, cookiePath, cookieDomain, cookieMaxAge, limit, multiSessionInterval, autoBatch,
    allowWithoutBrowser, timeout, interval, maxInterval, jsonDebug]

theorem mem_all (key : OptionKey) : key ∈ all := by
  cases key <;> decide

/-- The member of a settings object. -/
def field : OptionKey → String
  | cookieName => "browserCookieName"
  | cookiePath => "browserCookiePath"
  | cookieDomain => "browserCookieDomain"
  | cookieMaxAge => "browserCookieMaxAge"
  | limit => "maxSessionsPerBrowser"
  | multiSessionInterval => "multiSessionInterval"
  | autoBatch => "autoBatch"
  | allowWithoutBrowser => "allowMultiSessionsNoBrowser"
  | timeout => "timeout"
  | interval => "interval"
  | maxInterval => "maxInterval"
  | jsonDebug => "jsonDebug"

/-- The key of a table entry; it differs from the member only for the cookie's name. -/
def entry : OptionKey → String
  | cookieName => "browserId"
  | key => key.field

def ofField? (name : String) : Option OptionKey :=
  all.find? fun key => key.field == name

end OptionKey

namespace TransportOptions

/-- Takes in the trimmed text of one entry; `none` if it does not parse.  A
cookie's age is in seconds here, and a negative one is no age at all. -/
def withEntry? (o : TransportOptions) (key : OptionKey) (text : String) :
    Option TransportOptions :=
  match key with
  | .cookieName => some { o with cookieName := text }
  | .cookiePath => some { o with cookiePath := text }
  | .cookieDomain =>
    some { o with cookieDomain := if text.isEmpty then none else some text }
  | .cookieMaxAge => (Text.signed64? text).map fun (seconds : Int) =>
    { o with cookieMaxAge := if seconds < 0 then none else some (seconds.toNat * 1000) }
  | .limit => (Text.signed64? text).map fun max => { o with limit := .ofInt max }
  | .multiSessionInterval => (Text.unsigned64? text).map fun ms =>
    { o with multiSessionInterval := ms }
  | .autoBatch => (Text.truth? text).map fun flag => { o with autoBatch := flag }
  | .allowWithoutBrowser => (Text.truth? text).map fun flag =>
    { o with allowWithoutBrowser := flag }
  | .timeout => (Text.unsigned64? text).map fun ms => { o with timeout := ms }
  | .interval => (Text.unsigned64? text).map fun ms => { o with interval := ms }
  | .maxInterval => (Text.unsigned64? text).map fun ms => { o with maxInterval := ms }
  | .jsonDebug => (Text.truth? text).map fun flag => { o with jsonDebug := flag }

/-- Reads one setting from its most specific entry, if there is one. -/
def readEntry (entries : Entries) (scope : String) (o : TransportOptions) (key : OptionKey) :
    Except ConfigError TransportOptions :=
  match entries.select? scope key.entry with
  | none => .ok o
  | some (qualified, text) =>
    match o.withEntry? key text with
    | some changed => .ok changed
    | none => .error (.invalidOption qualified text)

/-- The settings that a table of entries makes in a scope. -/
def ofEntries (entries : Entries) (scope : String) : Except ConfigError TransportOptions :=
  OptionKey.all.foldlM (readEntry entries scope) {}

end TransportOptions

/-! ## The browser cookie -/

/-- How browsers are recognised: the cookie that carries their id. -/
structure BrowserIdentity where
  cookieName : String := "BAYEUX_BROWSER"
  cookiePath : String := "/"
  cookieDomain : Option String := none
  cookieMaxAge : Option Nat := none
deriving DecidableEq, Repr

/-- The cookie that gives a browser its id. -/
def BrowserIdentity.cookie (identity : BrowserIdentity) (browser : BrowserId) : Cookie :=
  { name := identity.cookieName
    value := browser.text
    path := some identity.cookiePath
    domain := identity.cookieDomain
    maxAge := identity.cookieMaxAge }

def TransportOptions.identity (o : TransportOptions) : BrowserIdentity :=
  { cookieName := o.cookieName
    cookiePath := o.cookiePath
    cookieDomain := o.cookieDomain
    cookieMaxAge := o.cookieMaxAge }

end Bayeux
