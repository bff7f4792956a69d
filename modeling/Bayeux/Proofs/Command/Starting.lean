import Bayeux.Command.Start
import Bayeux.Proofs.Command.Arguments
import Bayeux.Proofs.Options.Settings
import Bayeux.Proofs.Table
import Bayeux.Proofs.Text.Parts

namespace Bayeux

/-!
# What a started server is told

The options on the command line and the parameters that some settings have of their own end up
in one table, from which each transport reads its settings.  For a setting of a transport this
comes down to a fixed order: options in the transport's own scope, options in the scopes around
it, the parameter, the default.  A text that is selected so and cannot be read keeps the server
from being built.
-/

open Text (trim trimmed)

/-! ## Options of a connection type -/

namespace ServerSettings

/-- The options of a connection type, if it is switched on. -/
def options? (settings : ServerSettings) : ConnectionType → Option TransportOptions
  | .longPolling => some settings.longPolling
  | .callbackPolling => settings.callbackPolling

variable {settings changed : ServerSettings} {entries : Entries}

/-- Both types read the table in their own scopes, if they are switched on. -/
theorem options?_withEntries (read : settings.withEntries entries = .ok changed)
    (type : ConnectionType) :
    (changed.options? type).isSome = (settings.options? type).isSome ∧
      ∀ o, changed.options? type = some o →
        TransportOptions.ofEntries entries type.scope = .ok o := by
  obtain ⟨path, codec, before, callback, endpoint⟩ := settings
  obtain ⟨longPolling, main, read⟩ := bind_eq_ok_iff.mp read
  cases callback with
  | none =>
      cases read
      cases type with
      | longPolling =>
          exact ⟨rfl, fun _ same => main.trans (congrArg Except.ok (Option.some.inj same))⟩
      | callbackPolling => exact ⟨rfl, nofun⟩
  | some callback =>
      obtain ⟨callbackPolling, other, read⟩ := bind_eq_ok_iff.mp read
      cases read
      cases type with
      | longPolling =>
          exact ⟨rfl, fun _ same => main.trans (congrArg Except.ok (Option.some.inj same))⟩
      | callbackPolling =>
          exact ⟨rfl, fun _ same => other.trans (congrArg Except.ok (Option.some.inj same))⟩

theorem exists_withEntries_eq_error_iff :
    (∃ fault, settings.withEntries entries = .error fault) ↔
      ∃ type, (settings.options? type).isSome = true ∧
        ∃ fault, TransportOptions.ofEntries entries type.scope = .error fault := by
  constructor
  · rintro ⟨fault, failed⟩
    unfold withEntries at failed
    cases main : TransportOptions.ofEntries entries ConnectionType.longPolling.scope with
    | error stopped => exact ⟨.longPolling, rfl, stopped, main⟩
    | ok longPolling =>
        rw [main] at failed
        cases callback : settings.callbackPolling with
        | none =>
            rw [callback] at failed
            cases failed
        | some before =>
            rw [callback] at failed
            cases other :
                TransportOptions.ofEntries entries ConnectionType.callbackPolling.scope with
            | error stopped =>
                exact ⟨.callbackPolling, by rw [options?, callback]; rfl, stopped, other⟩
            | ok callbackPolling =>
                rw [other] at failed
                cases failed
  · rintro ⟨type, present, fault, failed⟩
    cases read : settings.withEntries entries with
    | error stopped => exact ⟨stopped, rfl⟩
    | ok changed =>
        obtain ⟨kept, reads⟩ := options?_withEntries read type
        rw [present, Option.isSome_iff_exists] at kept
        obtain ⟨o, held⟩ := kept
        rw [reads o held] at failed
        cases failed

theorem options_build {server : Server} (built : settings.build = .ok server)
    (type : ConnectionType) :
    (server.transports.get? type).map (·.options) = settings.options? type := by
  unfold build Server.assemble at built
  cases resolved : settings.codec.resolve with
  | error fault =>
      rw [resolved] at built
      cases built
  | ok codec =>
      rw [resolved] at built
      cases callback : settings.callbackPolling with
      | none =>
          rw [transports, callback] at built
          cases built
          rw [options?.eq_def, callback]
          cases type <;> rfl
      | some options =>
          rw [transports, callback] at built
          cases built
          rw [options?.eq_def, callback]
          cases type <;> rfl

end ServerSettings

namespace Command
namespace StartArguments

/-! ## Keys and values -/

/-- The key of an option: what precedes the first equals sign, trimmed. -/
def keyOf (text : String) : String :=
  String.ofList (trim (text.toList.takeWhile (· != '=')))

/-- The value of an option: all that follows the first equals sign, trimmed. -/
def valueOf (text : String) : String :=
  String.ofList (trim (text.toList.dropWhile (· != '=')).tail)

/-- The value that was last given for a key. -/
def given? (texts : List String) (key : String) : Option String :=
  (texts.reverse.find? fun text => keyOf text = key).map valueOf

theorem keyValue?_eq_some_iff {text key value : String} :
    keyValue? text = some (key, value) ↔
      ('=' ∈ text.toList ∧ keyOf text ≠ "") ∧ key = keyOf text ∧ value = valueOf text := by
  unfold keyValue?
  cases cut : Text.splitOnce? '=' text.toList with
  | none =>
      have absent := Text.splitOnce?_eq_none_iff.mp cut
      exact ⟨nofun, fun given => absurd given.1.1 absent⟩
  | some parts =>
      obtain ⟨before, after⟩ := parts
      obtain ⟨fresh, joined⟩ := Text.splitOnce?_eq_some_iff.mp cut
      have present : '=' ∈ text.toList := by
        rw [joined]
        exact List.mem_append_right before List.mem_cons_self
      have key_eq : keyOf text = String.ofList (trim before) := by
        rw [keyOf, joined, Text.takeWhile_append fresh]
      have value_eq : valueOf text = String.ofList (trim after) := by
        rw [valueOf, joined, Text.dropWhile_append fresh, List.tail_cons]
      rw [key_eq, value_eq, Option.bind_some]
      by_cases empty : trim before = []
      · simp only [empty, List.isEmpty_nil, if_true, reduceCtorEq, false_iff]
        exact fun given => given.1.2 rfl
      · have named : String.ofList (trim before) ≠ "" := fun none =>
          empty (String.ofList_injective none)
        simp only [if_neg (mt List.isEmpty_iff.mp empty), Option.some.injEq, Prod.mk.injEq]
        exact ⟨fun same => ⟨⟨present, named⟩, same.1.symm, same.2.symm⟩,
          fun given => ⟨given.2.1.symm, given.2.2.symm⟩⟩

theorem trimmed_valueOf (text : String) : trimmed (valueOf text) = valueOf text := by
  rw [trimmed, valueOf, String.toList_ofList, Text.trim_trim]

/-! ## Parameters of their own -/

/-- The text of the parameter that a setting has of its own. -/
def flag? (a : StartArguments) : OptionKey → Option String
  | .timeout => some (toString a.timeout)
  | .limit => some (toString a.maxSessionsPerBrowser)
  | .multiSessionInterval => some (toString a.multiSessionInterval)
  | .allowWithoutBrowser => some (if a.allowWithoutBrowser then "true" else "false")
  | _ => none

/-- The settings that these parameters ask for, without any options. -/
def flagged (a : StartArguments) : TransportOptions :=
  { timeout := a.timeout
    limit := .ofInt a.maxSessionsPerBrowser
    multiSessionInterval := a.multiSessionInterval
    allowWithoutBrowser := a.allowWithoutBrowser }

/-- The text for a setting of a transport: the last option in the innermost scope that has one,
before the parameter of the setting. -/
def selected? (a : StartArguments) (texts : List String) :
    ConnectionType → OptionKey → Option String
  | .longPolling, key =>
    (given? texts ("long-polling." ++ key.entry)).or
      ((given? texts key.entry).or (a.flag? key))
  | .callbackPolling, key =>
    (given? texts ("long-polling.jsonp." ++ key.entry)).or
      ((given? texts ("long-polling." ++ key.entry)).or
        ((given? texts key.entry).or (a.flag? key)))

/-- The connection types that are not switched off. -/
def Enables (a : StartArguments) : ConnectionType → Prop
  | .longPolling => True
  | .callbackPolling => a.noCallbackPolling = false

variable {a : StartArguments} {texts : List String} {key : OptionKey}

/-- No parameter's text shows blanks. -/
theorem trimmed_of_mem_named {entry : OptionKey × String} (listed : entry ∈ a.named) :
    trimmed entry.2 = entry.2 := by
  simp only [named, List.mem_cons, List.not_mem_nil, or_false] at listed
  rcases listed with rfl | rfl | rfl | rfl
  · exact Text.trimmed_toString_nat _
  · exact Text.trimmed_toString_int _
  · exact Text.trimmed_toString_nat _
  · cases a.allowWithoutBrowser <;> decide

/-- What the table says under a key: the last option, before a parameter. -/
theorem get?_entries (given : a.options = texts.map fun text => (keyOf text, valueOf text))
    (place : String) :
    (a.entries.get? place).map trimmed =
      (given? texts place).or
        ((a.named.reverse.find? fun entry => entry.1.entry = place).map (·.2)) := by
  have fromOptions : (a.options.reverse.find? fun entry => entry.1 = place).map (·.2) =
      given? texts place := by
    rw [given, ← List.map_reverse, List.find?_map, Option.map_map]
    rfl
  rw [entries, Table.get?_ofList, List.reverse_append, List.find?_append, Option.map_or,
    fromOptions, ← List.map_reverse, List.find?_map, Option.map_map, Option.map_or]
  congr 1
  · rw [given?, Option.map_map]
    exact congrArg (Option.map · _) (funext trimmed_valueOf)
  · change (Option.map (·.2) (a.named.reverse.find? fun entry => entry.1.entry = place)).map
      trimmed = _
    cases found : a.named.reverse.find? fun entry => entry.1.entry = place with
    | none => rfl
    | some entry =>
        have listed := List.mem_reverse.mp (List.mem_of_find?_eq_some found)
        exact congrArg some (trimmed_of_mem_named listed)

/-- A parameter stands in the table without a scope. -/
theorem find?_named_qualify {scope : String} (inner : scope ≠ "") :
    (a.named.reverse.find? fun entry => entry.1.entry = Scope.qualify scope key.entry) = none := by
  have dotless : ∀ key : OptionKey, '.' ∉ key.entry.toList := by
    intro key
    cases key <;> decide
  have dotted : '.' ∈ (Scope.qualify scope key.entry).toList := by
    rw [Scope.qualify, if_neg (mt String.isEmpty_iff.mp inner), String.toList_append,
      String.toList_append]
    exact List.mem_append_left _ (List.mem_append_right _ List.mem_cons_self)
  rw [List.find?_eq_none]
  intro entry _ same
  exact dotless entry.1 (of_decide_eq_true same ▸ dotted)

theorem find?_named_entry :
    (a.named.reverse.find? fun entry => entry.1.entry = key.entry).map (·.2) = a.flag? key := by
  cases key <;> simp [named, flag?, OptionKey.entry, OptionKey.field]

/-- What is selected from the table is what goes before on the command line. -/
theorem chosenText?_entries (given : a.options = texts.map fun text => (keyOf text, valueOf text))
    (type : ConnectionType) (key : OptionKey) :
    a.entries.chosenText? type.scope key = a.selected? texts type key := by
  have bare : ((a.entries.get? (Scope.qualify "" key.entry)).map trimmed) =
      (given? texts key.entry).or (a.flag? key) := by
    rw [← find?_named_entry]
    exact get?_entries given key.entry
  have inScope : ∀ scope ≠ "", (a.entries.get? (Scope.qualify scope key.entry)).map trimmed =
      given? texts (scope ++ "." ++ key.entry) := by
    intro scope inner
    rw [get?_entries given, find?_named_qualify inner, Scope.qualify,
      if_neg (mt String.isEmpty_iff.mp inner)]
    exact Option.or_none
  have main := inScope "long-polling" (by decide)
  have callback := inScope "long-polling.jsonp" (by decide)
  cases type with
  | longPolling =>
      have levels : Scope.levels ConnectionType.longPolling.scope = ["long-polling", ""] := by
        decide
      rw [Entries.chosenText?, Entries.chosen?, levels]
      simp only [Entries.map_snd_firstOf?_cons, bare, main, Entries.firstOf?_nil, Option.map_none,
        Option.or_none]
      rfl
  | callbackPolling =>
      have levels : Scope.levels ConnectionType.callbackPolling.scope =
          ["long-polling.jsonp", "long-polling", ""] := by decide
      rw [Entries.chosenText?, Entries.chosen?, levels]
      simp only [Entries.map_snd_firstOf?_cons, bare, main, callback, Entries.firstOf?_nil,
        Option.map_none, Option.or_none]
      rfl

/-! ## The arguments -/

/-- Everything that is given as an option has a key, and becomes an entry. -/
theorem options_ofFound {found : Found}
    (accepted : found.Accepted (Parameter.help :: parameters)) :
    (∀ text ∈ found.all "option", '=' ∈ text.toList ∧ keyOf text ≠ "") ∧
    (ofFound found).options =
      (found.all "option").map fun text => (keyOf text, valueOf text) := by
  have all : ∀ text ∈ found.all "option", '=' ∈ text.toList ∧ keyOf text ≠ "" := by
    intro text listed
    obtain ⟨⟨name, value⟩, member, rfl⟩ := List.mem_map.mp listed
    obtain ⟨inFound, named⟩ := List.mem_filter.mp member
    obtain ⟨p, known, long, accepts⟩ := accepted name value inFound
    cases (beq_iff_eq.mp named : name = "option")
    have keyed : (keyValue? value).isSome = true := by
      simp only [parameters, List.mem_cons, List.not_mem_nil, or_false] at known
      rcases known with rfl | rfl | rfl | rfl | rfl | rfl | rfl | rfl | rfl | rfl | rfl | rfl
      all_goals first
        | exact accepts rfl
        | exact absurd long (by decide)
    obtain ⟨⟨key, text⟩, read⟩ := Option.isSome_iff_exists.mp keyed
    exact (keyValue?_eq_some_iff.mp read).1
  refine ⟨all, ?_⟩
  have read : ∀ text ∈ found.all "option", keyValue? text = some (keyOf text, valueOf text) :=
    fun text listed => keyValue?_eq_some_iff.mpr ⟨all text listed, rfl, rfl⟩
  calc (found.all "option").filterMap keyValue?
      = (found.all "option").filterMap (some ∘ fun text => (keyOf text, valueOf text)) :=
        List.filterMap_congr read
    _ = (found.all "option").map fun text => (keyOf text, valueOf text) :=
        congrFun List.filterMap_eq_map _

/-- The parameters with settings of their own are read when the arguments are, so their texts
mean something, and no other thing than what was read. -/
theorem denotes_flag?_ofFound (found : Found) {key : OptionKey} {text : String}
    (own : (ofFound found).flag? key = some text) :
    key.Denotes text ((ofFound found).flagged.content key) := by
  have natural : ∀ (given : Option String) {default : Nat}, default < 2 ^ 64 →
      (given.bind Text.unsigned64?).getD default < 2 ^ 64 := by
    intro given default small
    cases read : given.bind Text.unsigned64? with
    | none => exact small
    | some n =>
        obtain ⟨text, _, read⟩ := Option.bind_eq_some_iff.mp read
        exact (Text.unsigned64?_eq_some_iff.mp read).2
  have integer : ∀ (given : Option String) {default : Int}, -2 ^ 63 ≤ default ∧ default < 2 ^ 63 →
      -2 ^ 63 ≤ (given.bind Text.signed64?).getD default ∧
        (given.bind Text.signed64?).getD default < 2 ^ 63 := by
    intro given default small
    cases read : given.bind Text.signed64? with
    | none => exact small
    | some n =>
        obtain ⟨text, _, read⟩ := Option.bind_eq_some_iff.mp read
        exact (Text.signed64?_eq_some_iff.mp read).2
  cases key with
  | timeout | multiSessionInterval =>
      cases own
      exact Text.isUnsigned64_toString (natural _ (by decide))
  | limit =>
      cases own
      have bounds :=
        integer (found.last? "max-sessions-per-browser") (by decide : _ ≤ (1 : Int) ∧ _)
      exact ⟨_, Text.isSigned64_toString bounds.1 bounds.2, rfl⟩
  | allowWithoutBrowser =>
      cases own
      exact rfl
  | _ => cases own

/-- Whether the options of the connection types are what the command line says: there for the
types that are not switched off, with the settings that are selected, and absent otherwise. -/
def Honoured (a : StartArguments) (texts : List String)
    (options : ConnectionType → Option TransportOptions) : Prop :=
  ∀ type,
    match options type with
    | some o => a.Enables type ∧ TransportOptions.Configured (a.selected? texts type) o
    | none => ¬ a.Enables type

theorem isSome_options?_settings (type : ConnectionType) :
    (a.settings.options? type).isSome = true ↔ a.Enables type := by
  cases type with
  | longPolling => exact iff_of_true rfl trivial
  | callbackPolling =>
      rw [Enables, ServerSettings.options?, settings]
      cases a.noCallbackPolling with
      | false => exact iff_of_true rfl rfl
      | true => exact iff_of_false Bool.false_ne_true nofun

theorem honoured_of_withEntries {settings : ServerSettings}
    (given : a.options = texts.map fun text => (keyOf text, valueOf text))
    (read : a.settings.withEntries a.entries = .ok settings) :
    a.Honoured texts settings.options? := by
  intro type
  obtain ⟨kept, reads⟩ := ServerSettings.options?_withEntries read type
  have enabled := isSome_options?_settings (a := a) type
  rw [← kept] at enabled
  cases held : settings.options? type with
  | none =>
      rw [held] at enabled
      exact fun on => absurd (enabled.mpr on) (by decide)
  | some o =>
      rw [held] at enabled
      refine ⟨enabled.mp rfl, ?_⟩
      rw [← funext (chosenText?_entries given type)]
      exact TransportOptions.ofEntries_eq_ok_iff.mp (reads o held)

theorem exists_withEntries_eq_error_iff
    (given : a.options = texts.map fun text => (keyOf text, valueOf text)) :
    (∃ fault, a.settings.withEntries a.entries = .error fault) ↔
      ∃ type, a.Enables type ∧ ∃ (key : OptionKey) (text : String),
        a.selected? texts type key = some text ∧ ¬ key.Parses text := by
  rw [ServerSettings.exists_withEntries_eq_error_iff]
  simp only [isSome_options?_settings, TransportOptions.exists_ofEntries_eq_error_iff,
    chosenText?_entries given]

theorem exists_withEntries_of_build {address : Net.SocketAddress} {server : Server}
    {sweeper : Sweeper} (built : a.build = .ok (address, server, sweeper)) :
    ∃ settings, a.settings.withEntries a.entries = .ok settings ∧ settings.build = .ok server := by
  unfold build at built
  split at built
  next address _ =>
    obtain ⟨main, _, built⟩ := bind_eq_ok_iff.mp built
    obtain ⟨settings, read, built⟩ := bind_eq_ok_iff.mp built
    obtain ⟨server, made, built⟩ := bind_eq_ok_iff.mp built
    cases built
    exact ⟨settings, eq_ok_of_mapError read, eq_ok_of_mapError made⟩
  next => cases built

/-- Every setting of every transport is what the options and parameters select for it, in their
order of precedence, and if a selected text cannot be read then nothing is built. -/
theorem start_honours_options {arguments : List String} {found : Found}
    (read : Command.read parameters arguments = .ok found) :
    (∀ text ∈ found.all "option", '=' ∈ text.toList ∧ keyOf text ≠ "") ∧
    (∀ (key : OptionKey) (text : String), (ofFound found).flag? key = some text →
      key.Denotes text ((ofFound found).flagged.content key)) ∧
    (∀ settings, (ofFound found).settings.withEntries (ofFound found).entries = .ok settings →
      (ofFound found).Honoured (found.all "option") settings.options?) ∧
    ((∃ fault, (ofFound found).settings.withEntries (ofFound found).entries = .error fault) ↔
      ∃ type, (ofFound found).Enables type ∧ ∃ (key : OptionKey) (text : String),
        (ofFound found).selected? (found.all "option") type key = some text ∧
        ¬ key.Parses text) ∧
    (∀ fault, (ofFound found).settings.withEntries (ofFound found).entries = .error fault →
      ∃ stopped, (ofFound found).build = .error stopped) ∧
    ∀ address server sweeper, (ofFound found).build = .ok (address, server, sweeper) →
      (ofFound found).Honoured (found.all "option") fun type =>
        (server.transports.get? type).map (·.options) := by
  obtain ⟨keyed, given⟩ := options_ofFound (read_accepted read)
  refine ⟨keyed, fun _ _ => denotes_flag?_ofFound found, fun _ => honoured_of_withEntries given,
    exists_withEntries_eq_error_iff given, ?_, ?_⟩
  · intro fault failed
    cases built : (ofFound found).build with
    | error stopped => exact ⟨stopped, rfl⟩
    | ok made =>
        obtain ⟨address, server, sweeper⟩ := made
        obtain ⟨settings, succeeded, _⟩ := exists_withEntries_of_build built
        rw [failed] at succeeded
        cases succeeded
  · intro address server sweeper built
    obtain ⟨settings, succeeded, made⟩ := exists_withEntries_of_build built
    have same := funext (ServerSettings.options_build made)
    rw [same]
    exact honoured_of_withEntries given succeeded

/-- An option in the inner scope goes before a later one without a scope, but only there. -/
theorem start_honours_inner_scope :
    ∃ found, Command.read parameters
          ["-t", "5000", "-o", "long-polling.jsonp.timeout = 100", "--option=timeout=200"] =
        .ok found ∧
      (ofFound found).selected? (found.all "option") .callbackPolling .timeout = some "100" ∧
      (ofFound found).selected? (found.all "option") .longPolling .timeout = some "200" ∧
      ∀ settings, (ofFound found).settings.withEntries (ofFound found).entries = .ok settings →
        (ofFound found).Honoured (found.all "option") settings.options? := by
  have read : Command.read parameters
      ["-t", "5000", "-o", "long-polling.jsonp.timeout = 100", "--option=timeout=200"] =
        .ok [("timeout", "5000"), ("option", "long-polling.jsonp.timeout = 100"),
          ("option", "timeout=200")] := rfl
  exact ⟨_, read, by decide, by decide, (start_honours_options read).2.2.1⟩

end StartArguments
end Command

end Bayeux
