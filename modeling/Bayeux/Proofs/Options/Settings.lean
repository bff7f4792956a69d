import Bayeux.Options.Basic
import Bayeux.Proofs.Fallible
import Bayeux.Proofs.Options.Scopes
import Bayeux.Proofs.Text.Integer
import Mathlib.Data.List.Nodup

namespace Bayeux

/-!
# What entries make of the settings

Each setting is read on its own: from the entry that its scopes select, if there is one, in
the way that its kind of value is written.  So the settings are told by what is selected for
each key, and the first key in reading order whose text means nothing is reported.
-/

/-! ## One setting -/

namespace OptionKey

/-- The kind of value that a setting has. -/
abbrev Content : OptionKey → Type
  | .cookieName | .cookiePath => String
  | .cookieDomain => Option String
  | .cookieMaxAge => Option Nat
  | .limit => SessionLimit
  | .multiSessionInterval | .timeout | .interval | .maxInterval => Nat
  | .autoBatch | .allowWithoutBrowser | .jsonDebug => Bool

/-- What the text of an entry means for a setting.  An empty domain is none, a cookie's age is
given in seconds, and a negative age is none; a negative limit lifts it and zero denies all. -/
def Denotes : (key : OptionKey) → String → key.Content → Prop
  | .cookieName, text, name => name = text
  | .cookiePath, text, path => path = text
  | .cookieDomain, text, domain => domain = if text = "" then none else some text
  | .cookieMaxAge, text, age =>
    ∃ seconds, Text.IsSigned64 text seconds ∧
      age = if seconds < 0 then none else some (seconds.toNat * 1000)
  | .limit, text, allowed =>
    ∃ max, Text.IsSigned64 text max ∧
      allowed = if max < 0 then .unlimited else if max = 0 then .deny else .atMost max.toNat
  | .multiSessionInterval, text, ms => Text.IsUnsigned64 text ms
  | .autoBatch, text, flag => Text.IsTruth text flag
  | .allowWithoutBrowser, text, flag => Text.IsTruth text flag
  | .timeout, text, ms => Text.IsUnsigned64 text ms
  | .interval, text, ms => Text.IsUnsigned64 text ms
  | .maxInterval, text, ms => Text.IsUnsigned64 text ms
  | .jsonDebug, text, flag => Text.IsTruth text flag

/-- Whether a text means anything for a setting. -/
def Parses (key : OptionKey) (text : String) : Prop :=
  ∃ value, key.Denotes text value

/-- What a setting is after it was read: what it was, or what the text means. -/
inductive Reads (key : OptionKey) (before : key.Content) : Option String → key.Content → Prop
  | kept : Reads key before none before
  | given {text : String} {value : key.Content} (meaning : key.Denotes text value) :
      Reads key before (some text) value

theorem nodup_all : all.Nodup := by decide

end OptionKey

namespace TransportOptions

open OptionKey (Denotes Parses Reads)

variable {o changed : TransportOptions} {key other : OptionKey}

/-- The value of a setting. -/
def content (o : TransportOptions) : (key : OptionKey) → key.Content
  | .cookieName => o.cookieName
  | .cookiePath => o.cookiePath
  | .cookieDomain => o.cookieDomain
  | .cookieMaxAge => o.cookieMaxAge
  | .limit => o.limit
  | .multiSessionInterval => o.multiSessionInterval
  | .autoBatch => o.autoBatch
  | .allowWithoutBrowser => o.allowWithoutBrowser
  | .timeout => o.timeout
  | .interval => o.interval
  | .maxInterval => o.maxInterval
  | .jsonDebug => o.jsonDebug

/-- The settings with another value of one of them. -/
def put (o : TransportOptions) : (key : OptionKey) → key.Content → TransportOptions
  | .cookieName, name => { o with cookieName := name }
  | .cookiePath, path => { o with cookiePath := path }
  | .cookieDomain, domain => { o with cookieDomain := domain }
  | .cookieMaxAge, age => { o with cookieMaxAge := age }
  | .limit, limit => { o with limit := limit }
  | .multiSessionInterval, ms => { o with multiSessionInterval := ms }
  | .autoBatch, flag => { o with autoBatch := flag }
  | .allowWithoutBrowser, flag => { o with allowWithoutBrowser := flag }
  | .timeout, ms => { o with timeout := ms }
  | .interval, ms => { o with interval := ms }
  | .maxInterval, ms => { o with maxInterval := ms }
  | .jsonDebug, flag => { o with jsonDebug := flag }

theorem content_put_self (o : TransportOptions) (key : OptionKey) (value : key.Content) :
    (o.put key value).content key = value := by
  cases key <;> rfl

theorem content_put_of_ne (o : TransportOptions) (distinct : other ≠ key) (value : key.Content) :
    (o.put key value).content other = o.content other := by
  cases key <;> cases other <;> first | rfl | exact absurd rfl distinct

theorem put_content (o : TransportOptions) (key : OptionKey) : o.put key (o.content key) = o := by
  cases key <;> rfl

/-- Settings are told by their values. -/
theorem eq_of_content (same : ∀ key, o.content key = changed.content key) : o = changed := by
  have fields := And.intro (same .cookieName) <| And.intro (same .cookiePath) <|
    And.intro (same .cookieDomain) <| And.intro (same .cookieMaxAge) <|
    And.intro (same .limit) <| And.intro (same .multiSessionInterval) <|
    And.intro (same .autoBatch) <| And.intro (same .allowWithoutBrowser) <|
    And.intro (same .timeout) <| And.intro (same .interval) <|
    And.intro (same .maxInterval) (same .jsonDebug)
  cases o
  cases changed
  simp only [TransportOptions.mk.injEq]
  exact fields

theorem map_eq_some_iff_of_reads {α : Type} {read : Option α} {Means : α → Prop}
    (reads : ∀ value, read = some value ↔ Means value) (put : α → TransportOptions) :
    read.map put = some changed ↔ ∃ value, Means value ∧ changed = put value := by
  simp only [Option.map_eq_some_iff, reads, eq_comm]

theorem withEntry?_eq_some_iff {text : String} :
    o.withEntry? key text = some changed ↔
      ∃ value, key.Denotes text value ∧ changed = o.put key value := by
  cases key with
  | cookieName | cookiePath | cookieDomain =>
      unfold withEntry?
      simp only [String.isEmpty_iff]
      constructor
      · rintro ⟨⟩
        exact ⟨_, rfl, rfl⟩
      · rintro ⟨_, rfl, rfl⟩
        rfl
  | cookieMaxAge | limit =>
      refine (map_eq_some_iff_of_reads (fun _ => Text.signed64?_eq_some_iff) _).trans ⟨?_, ?_⟩
      · rintro ⟨number, meaning, rfl⟩
        exact ⟨_, ⟨number, meaning, rfl⟩, rfl⟩
      · rintro ⟨_, ⟨number, meaning, rfl⟩, rfl⟩
        exact ⟨number, meaning, rfl⟩
  | multiSessionInterval | timeout | interval | maxInterval =>
      exact map_eq_some_iff_of_reads (fun _ => Text.unsigned64?_eq_some_iff) _
  | autoBatch | allowWithoutBrowser | jsonDebug =>
      exact map_eq_some_iff_of_reads (fun _ => Text.truth?_eq_some_iff) _

theorem withEntry?_eq_none_iff {text : String} :
    o.withEntry? key text = none ↔ ¬ key.Parses text := by
  constructor
  · rintro refused ⟨value, meaning⟩
    rw [withEntry?_eq_some_iff.mpr ⟨value, meaning, rfl⟩] at refused
    cases refused
  · intro meaningless
    cases read : o.withEntry? key text with
    | none => rfl
    | some changed =>
        obtain ⟨value, meaning, _⟩ := withEntry?_eq_some_iff.mp read
        exact absurd ⟨value, meaning⟩ meaningless

end TransportOptions

/-! ## All settings -/

/-- What is selected for a setting in a scope: a qualified key with its text. -/
def Entries.chosen? (entries : Entries) (scope : String) (key : OptionKey) :
    Option (String × String) :=
  entries.firstOf? key.entry (Scope.levels scope)

/-- What is selected for a setting in a scope. -/
def Entries.chosenText? (entries : Entries) (scope : String) (key : OptionKey) : Option String :=
  (entries.chosen? scope key).map (·.2)

namespace TransportOptions

open OptionKey (Denotes Parses Reads)

variable {entries : Entries} {scope : String} {o changed : TransportOptions} {key : OptionKey}
variable {fault : ConfigError} {keys : List OptionKey}

/-- The settings are those of some texts, and the default ones where there is no text. -/
def Configured (texts : OptionKey → Option String) (o : TransportOptions) : Prop :=
  ∀ key : OptionKey, key.Reads (({} : TransportOptions).content key) (texts key) (o.content key)

theorem readEntry_of_chosen?_eq_none (absent : entries.chosen? scope key = none) :
    readEntry entries scope o key = .ok o := by
  rw [Entries.chosen?, ← Entries.select?_eq_firstOf?] at absent
  rw [readEntry, absent]

theorem readEntry_of_chosen?_eq_some {place text : String}
    (chosen : entries.chosen? scope key = some (place, text)) :
    readEntry entries scope o key =
      match o.withEntry? key text with
      | some changed => .ok changed
      | none => .error (.invalidOption place text) := by
  rw [Entries.chosen?, ← Entries.select?_eq_firstOf?] at chosen
  unfold readEntry
  split
  next absent =>
    rw [absent] at chosen
    cases chosen
  next qualified value found =>
    rw [found] at chosen
    cases chosen
    rfl

theorem readEntry_eq_ok_iff :
    readEntry entries scope o key = .ok changed ↔
      ∃ value, key.Reads (o.content key) (entries.chosenText? scope key) value ∧
        changed = o.put key value := by
  cases chosen : entries.chosen? scope key with
  | none =>
      rw [readEntry_of_chosen?_eq_none chosen, Entries.chosenText?, chosen]
      constructor
      · intro kept
        cases kept
        exact ⟨_, .kept, (o.put_content key).symm⟩
      · rintro ⟨_, ⟨⟩, rfl⟩
        rw [put_content]
  | some entry =>
      obtain ⟨place, text⟩ := entry
      rw [readEntry_of_chosen?_eq_some chosen, Entries.chosenText?, chosen]
      constructor
      · intro accepted
        cases read : o.withEntry? key text with
        | none =>
            rw [read] at accepted
            cases accepted
        | some result =>
            rw [read] at accepted
            cases accepted
            obtain ⟨value, meaning, changes⟩ := withEntry?_eq_some_iff.mp read
            exact ⟨value, .given meaning, changes⟩
      · rintro ⟨value, reads, changes⟩
        cases reads with
        | given meaning =>
            rw [withEntry?_eq_some_iff.mpr ⟨value, meaning, changes⟩]

theorem readEntry_eq_error_iff :
    readEntry entries scope o key = .error fault ↔
      ∃ place text, entries.chosen? scope key = some (place, text) ∧ ¬ key.Parses text ∧
        fault = .invalidOption place text := by
  constructor
  · intro refused
    cases chosen : entries.chosen? scope key with
    | none =>
        rw [readEntry_of_chosen?_eq_none chosen] at refused
        cases refused
    | some entry =>
        obtain ⟨place, text⟩ := entry
        rw [readEntry_of_chosen?_eq_some chosen] at refused
        cases read : o.withEntry? key text with
        | none =>
            rw [read] at refused
            cases refused
            exact ⟨place, text, rfl, withEntry?_eq_none_iff.mp read, rfl⟩
        | some result =>
            rw [read] at refused
            cases refused
  · rintro ⟨place, text, chosen, meaningless, rfl⟩
    rw [readEntry_of_chosen?_eq_some chosen, withEntry?_eq_none_iff.mpr meaningless]

/-- Reading some keys gives each of them what its text means, and leaves the other settings. -/
theorem foldlM_readEntry_eq_ok_iff (distinct : keys.Nodup) :
    keys.foldlM (readEntry entries scope) o = .ok changed ↔
      (∀ key ∈ keys, key.Reads (o.content key) (entries.chosenText? scope key)
        (changed.content key)) ∧
      ∀ key ∉ keys, changed.content key = o.content key := by
  induction keys generalizing o with
  | nil =>
      rw [List.foldlM_nil]
      constructor
      · intro same
        cases same
        exact ⟨nofun, fun _ _ => rfl⟩
      · rintro ⟨_, kept⟩
        exact congrArg Except.ok (eq_of_content fun key => (kept key List.not_mem_nil).symm)
  | cons first rest inductionHypothesis =>
      obtain ⟨fresh, distinct⟩ := List.nodup_cons.mp distinct
      have other : ∀ key ∈ rest, key ≠ first := fun key later same => fresh (same ▸ later)
      have step : (first :: rest).foldlM (readEntry entries scope) o = .ok changed ↔
          ∃ middle, readEntry entries scope o first = .ok middle ∧
            rest.foldlM (readEntry entries scope) middle = .ok changed := by
        rw [List.foldlM_cons]
        exact bind_eq_ok_iff
      simp only [step, readEntry_eq_ok_iff, inductionHypothesis distinct]
      constructor
      · rintro ⟨_, ⟨value, reads, rfl⟩, later, kept⟩
        constructor
        · intro key among
          rcases List.mem_cons.mp among with rfl | among
          · rw [kept _ fresh, content_put_self]
            exact reads
          · have reads := later key among
            rwa [content_put_of_ne o (other key among)] at reads
        · intro key absent
          obtain ⟨different, absent⟩ := not_or.mp (mt List.mem_cons.mpr absent)
          rw [kept key absent, content_put_of_ne o different]
      · rintro ⟨all, kept⟩
        refine ⟨_, ⟨changed.content first, all first List.mem_cons_self, rfl⟩, ?_, ?_⟩
        · intro key later
          rw [content_put_of_ne o (other key later)]
          exact all key (List.mem_cons_of_mem _ later)
        · intro key absent
          by_cases same : key = first
          · rw [same, content_put_self]
          · rw [content_put_of_ne o same]
            exact kept key fun among => (List.mem_cons.mp among).elim same absent

/-- Reading some keys fails at the first one whose text means nothing. -/
theorem foldlM_readEntry_eq_error_iff :
    keys.foldlM (readEntry entries scope) o = .error fault ↔
      ∃ earlier key later place text, keys = earlier ++ key :: later ∧
        entries.chosen? scope key = some (place, text) ∧ ¬ key.Parses text ∧
        fault = .invalidOption place text ∧
        ∀ before ∈ earlier, ∀ text, entries.chosenText? scope before = some text →
          before.Parses text := by
  induction keys generalizing o with
  | nil =>
      refine ⟨nofun, ?_⟩
      rintro ⟨earlier, _, _, _, _, split, _⟩
      exact absurd split (List.append_ne_nil_of_right_ne_nil _ (List.cons_ne_nil _ _)).symm
  | cons first rest inductionHypothesis =>
      rw [List.foldlM_cons]
      cases read : readEntry entries scope o first with
      | error stopped =>
          obtain ⟨place, text, selected, meaningless, shape⟩ := readEntry_eq_error_iff.mp read
          constructor
          · intro same
            cases same
            exact ⟨[], first, rest, place, text, rfl, selected, meaningless, shape, nofun⟩
          · rintro ⟨earlier, key, later, place', text', split, selected', _, shape', parse⟩
            cases earlier with
            | nil =>
                cases split
                rw [selected] at selected'
                cases selected'
                rw [shape, shape']
                rfl
            | cons before earlier =>
                cases split
                have chosen : entries.chosenText? scope first = some text := by
                  rw [Entries.chosenText?, selected]
                  rfl
                exact absurd (parse first List.mem_cons_self text chosen) meaningless
      | ok middle =>
          obtain ⟨value, reads, _⟩ := readEntry_eq_ok_iff.mp read
          have parsed : ∀ text, entries.chosenText? scope first = some text →
              first.Parses text := by
            intro text chosen
            rw [chosen] at reads
            cases reads with
            | given meaning => exact ⟨value, meaning⟩
          change rest.foldlM (readEntry entries scope) middle = _ ↔ _
          rw [inductionHypothesis]
          constructor
          · rintro ⟨earlier, key, later, place, text, rfl, selected, meaningless, shape, parse⟩
            refine ⟨first :: earlier, key, later, place, text, rfl, selected, meaningless,
              shape, ?_⟩
            exact List.forall_mem_cons.mpr ⟨parsed, parse⟩
          · rintro ⟨earlier, key, later, place, text, split, selected, meaningless, shape, parse⟩
            cases earlier with
            | nil =>
                cases split
                have chosen : entries.chosenText? scope first = some text := by
                  rw [Entries.chosenText?, selected]
                  rfl
                exact absurd (parsed text chosen) meaningless
            | cons before earlier =>
                cases split
                exact ⟨earlier, key, later, place, text, rfl, selected, meaningless, shape,
                  (List.forall_mem_cons.mp parse).2⟩

theorem ofEntries_eq_ok_iff :
    ofEntries entries scope = .ok o ↔ Configured (entries.chosenText? scope) o := by
  rw [ofEntries, foldlM_readEntry_eq_ok_iff OptionKey.nodup_all]
  exact ⟨fun all key => all.1 key key.mem_all,
    fun configured => ⟨fun key _ => configured key, fun key absent => absurd key.mem_all absent⟩⟩

theorem exists_ofEntries_eq_error_iff :
    (∃ fault, ofEntries entries scope = .error fault) ↔
      ∃ (key : OptionKey) (text : String), entries.chosenText? scope key = some text ∧
        ¬ key.Parses text := by
  constructor
  · rintro ⟨fault, failed⟩
    obtain ⟨_, key, _, place, text, _, chosen, meaningless, _⟩ :=
      foldlM_readEntry_eq_error_iff.mp failed
    refine ⟨key, text, ?_, meaningless⟩
    rw [Entries.chosenText?, chosen]
    rfl
  · rintro ⟨key, text, chosen, meaningless⟩
    cases made : ofEntries entries scope with
    | error fault => exact ⟨fault, rfl⟩
    | ok o =>
        have reads := ofEntries_eq_ok_iff.mp made key
        rw [chosen] at reads
        cases reads with
        | given meaning => exact absurd ⟨_, meaning⟩ meaningless

/-- Settings are the defaults, overridden by what the nearest scope says about each key, or the
first text that cannot be read; what no key selects makes no difference. -/
theorem ofEntries_reads_nearest (entries : Entries) (scope : String) :
    (∀ o, ofEntries entries scope = .ok o ↔ Configured (entries.chosenText? scope) o) ∧
    (∀ fault, ofEntries entries scope = .error fault ↔
      ∃ earlier key later place text, OptionKey.all = earlier ++ key :: later ∧
        entries.chosen? scope key = some (place, text) ∧ ¬ key.Parses text ∧
        fault = .invalidOption place text ∧
        ∀ before ∈ earlier, ∀ text, entries.chosenText? scope before = some text →
          before.Parses text) ∧
    ∀ place value,
      (∀ key : OptionKey, entries.Shadowed key.entry place (Scope.levels scope)) →
      ofEntries (entries.insert place value) scope = ofEntries entries scope := by
  refine ⟨fun o => ofEntries_eq_ok_iff, fun fault => foldlM_readEntry_eq_error_iff, ?_⟩
  intro place value shadowed
  have same : readEntry (entries.insert place value) scope = readEntry entries scope := by
    funext o key
    rw [readEntry, readEntry, Entries.select?_eq_firstOf?, Entries.select?_eq_firstOf?,
      Entries.firstOf?_insert_of_shadowed (shadowed key)]
  rw [ofEntries, ofEntries, same]

/-- What a scope farther out says is never read, though it could not be. -/
theorem ofEntries_reads_nearest_of_two :
    let entries : Entries := .ofList [("long-polling.timeout", " 5 ")]
    (∀ key : OptionKey, entries.Shadowed key.entry "timeout" (Scope.levels "long-polling")) ∧
      ofEntries (entries.insert "timeout" "soon") "long-polling" = .ok { timeout := 5 } := by
  intro entries
  have levels : Scope.levels "long-polling" = ["long-polling", ""] := by decide
  have shadowed : ∀ key : OptionKey,
      entries.Shadowed key.entry "timeout" (Scope.levels "long-polling") := by
    intro key inner level outer split here
    rw [levels] at split
    have among : level ∈ ["long-polling", ""] :=
      split ▸ List.mem_append_right inner List.mem_cons_self
    simp only [List.mem_cons, List.not_mem_nil, or_false] at among
    rcases among with rfl | rfl
    · cases key <;> exact absurd here (by decide)
    · cases inner with
      | nil => exact absurd (List.cons.inj split).1 (by decide)
      | cons nearer inner =>
          refine ⟨nearer, List.mem_cons_self, ?_⟩
          rw [← (List.cons.inj split).1]
          cases key <;> first | exact absurd here (by decide) | decide
  refine ⟨shadowed, ?_⟩
  rw [(ofEntries_reads_nearest entries "long-polling").2.2 "timeout" "soon" shadowed]
  decide

end TransportOptions

end Bayeux
