import Bayeux.Options.Json
import Bayeux.Proofs.Json.Soundness
import Bayeux.Proofs.Json.Writing
import Bayeux.Proofs.Options.Settings

namespace Bayeux

/-!
# Settings are read back

Settings are written as an object with one member for each, and every duration is written with
64 bits.  Reading it gives the settings again with their durations cut down to 64 bits, whatever
they were.  Nothing is cut off from settings that were themselves read from a text, and from
those made from entries nothing but the age of the cookie: it is told there in seconds, and its
milliseconds may not fit.
-/

open Json (Outline Items Fields Value)

/-! ## Limits -/

namespace SessionLimit

/-- Every limit is written as a signed number of 64 bits. -/
theorem toInt_within (limit : SessionLimit) : -2 ^ 63 ≤ limit.toInt ∧ limit.toInt < 2 ^ 63 := by
  cases limit <;> simp only [toInt] <;> omega

/-- What a signed number stands for is written as a number that stands for the same. -/
theorem ofInt_toInt_ofInt {value : Int} (high : value < 2 ^ 63) :
    ofInt (ofInt value).toInt = ofInt value := by
  by_cases negative : value < 0
  · have lifted : ofInt value = unlimited := if_pos negative
    rw [lifted]
    rfl
  · rw [toInt_ofInt (Int.not_lt.mp negative) high]

theorem read_value (limit : SessionLimit) :
    SessionLimit.read limit.value.outline = .ok (ofInt limit.toInt) := by
  rw [read, value, Value.readSigned_outline limit.toInt_within.1 limit.toInt_within.2]
  rfl

end SessionLimit

/-! ## What comes back -/

/-- What comes back of a setting that was written. -/
def OptionKey.narrow : (key : OptionKey) → key.Content → key.Content
  | .cookieName, name => name
  | .cookiePath, path => path
  | .cookieDomain, domain => domain
  | .cookieMaxAge, age => age.map (· % 2 ^ 64)
  | .limit, allowed => SessionLimit.ofInt allowed.toInt
  | .multiSessionInterval, ms => ms % 2 ^ 64
  | .autoBatch, flag => flag
  | .allowWithoutBrowser, flag => flag
  | .timeout, ms => ms % 2 ^ 64
  | .interval, ms => ms % 2 ^ 64
  | .maxInterval, ms => ms % 2 ^ 64
  | .jsonDebug, flag => flag

namespace TransportOptions

variable {o changed : TransportOptions} {key : OptionKey}

/-- The settings that come back. -/
def narrowed (o : TransportOptions) : TransportOptions :=
  { o with
    cookieMaxAge := o.cookieMaxAge.map (· % 2 ^ 64)
    limit := .ofInt o.limit.toInt
    multiSessionInterval := o.multiSessionInterval % 2 ^ 64
    timeout := o.timeout % 2 ^ 64
    interval := o.interval % 2 ^ 64
    maxInterval := o.maxInterval % 2 ^ 64 }

theorem content_narrowed (o : TransportOptions) (key : OptionKey) :
    o.narrowed.content key = key.narrow (o.content key) := by
  cases key <;> rfl

theorem narrowed_put (o : TransportOptions) (key : OptionKey) (value : key.Content) :
    (o.put key value).narrowed = o.narrowed.put key (key.narrow value) := by
  cases key <;> rfl

/-! ## Writing and reading -/

theorem readUnsigned_millis (ms : Nat) : (millis ms).outline.readUnsigned = .ok (ms % 2 ^ 64) :=
  Value.readUnsigned_outline (Nat.mod_lt ms (by decide))

/-- Each setting is read back from what is written for it. -/
theorem readField_fieldValue (o draft : TransportOptions) (key : OptionKey) :
    draft.readField key (o.fieldValue key).outline =
      .ok (draft.put key (o.narrowed.content key)) := by
  cases key with
  | cookieName | cookiePath | autoBatch | allowWithoutBrowser | jsonDebug => rfl
  | cookieDomain =>
      rw [readField, fieldValue]
      cases given : o.cookieDomain <;> rw [content_narrowed, content, given] <;> rfl
  | cookieMaxAge =>
      rw [readField, fieldValue, content_narrowed, content]
      cases o.cookieMaxAge with
      | none => rfl
      | some age =>
          have present : millis age ≠ .null := by
            intro absent
            cases absent
          rw [Option.map_some, Option.getD_some, Json.Outline.optional_outline _ present,
            readUnsigned_millis]
          rfl
  | limit =>
      rw [readField, fieldValue, SessionLimit.read_value]
      rfl
  | multiSessionInterval | timeout | interval | maxInterval =>
      rw [readField, fieldValue, readUnsigned_millis]
      rfl

theorem ofField?_field (key : OptionKey) : OptionKey.ofField? key.field = some key := by
  cases key <;> decide

/-- Members that come for the first time are put in their places one after the other. -/
theorem foldlM_step_fieldValue {keys : List OptionKey} {draft : Draft} (distinct : keys.Nodup)
    (unseen : ∀ key ∈ keys, key ∉ draft.seen) :
    keys.foldlM (fun draft key => Draft.step draft key.field (o.fieldValue key).outline) draft =
      .ok { options := keys.foldl (fun built key => built.put key (o.narrowed.content key))
              draft.options
            seen := keys.reverse ++ draft.seen } := by
  induction keys generalizing draft with
  | nil => rfl
  | cons key rest inductionHypothesis =>
      obtain ⟨fresh, distinct⟩ := List.nodup_cons.mp distinct
      obtain ⟨absent, unseen⟩ := List.forall_mem_cons.mp unseen
      have stepped : Draft.step draft key.field (o.fieldValue key).outline =
          .ok { options := draft.options.put key (o.narrowed.content key),
                seen := key :: draft.seen } := by
        unfold Draft.step
        rw [ofField?_field]
        simp only [if_neg absent, readField_fieldValue]
        rfl
      have later : ∀ other ∈ rest, other ∉ key :: draft.seen := by
        intro other listed seen
        rcases List.mem_cons.mp seen with rfl | earlier
        · exact fresh listed
        · exact unseen other listed earlier
      rw [List.foldlM_cons, stepped]
      refine (inductionHypothesis distinct later).trans ?_
      rw [List.reverse_cons, List.append_assoc]
      rfl

theorem content_foldl_put {keys : List OptionKey} {built : TransportOptions}
    (settled : key ∈ keys ∨ built.content key = o.content key) :
    (keys.foldl (fun built key => built.put key (o.content key)) built).content key =
      o.content key := by
  induction keys generalizing built with
  | nil => exact settled.resolve_left List.not_mem_nil
  | cons first rest inductionHypothesis =>
      apply inductionHypothesis
      by_cases same : key = first
      · rw [same]
        exact .inr (content_put_self _ _ _)
      · rw [content_put_of_ne _ same]
        exact settled.imp_left fun listed => (List.mem_cons.mp listed).resolve_left same

theorem foldl_put_content (o : TransportOptions) :
    OptionKey.all.foldl (fun built key => built.put key (o.content key)) {} = o :=
  eq_of_content fun key => content_foldl_put (.inl key.mem_all)

theorem read_outline (o : TransportOptions) : read o.value.outline = .ok o.narrowed := by
  let started : Draft := {}
  have unseen : ∀ key ∈ OptionKey.all, key ∉ started.seen := fun _ _ => List.not_mem_nil
  have gathered := foldlM_step_fieldValue (o := o) OptionKey.nodup_all unseen
  rw [foldl_put_content] at gathered
  rw [value, Value.outline, read, Fields.gather_memberOutlines, List.foldlM_map, gathered]
  rfl

/-- Every number that is written has a literal that can be read. -/
theorem isLiteral_of_mem {n : Json.Number} (inside : n ∈ o.value.numbers) : n.IsLiteral := by
  rw [value, Value.mem_numbers_object] at inside
  obtain ⟨member, listed, found⟩ := inside
  obtain ⟨key, _, rfl⟩ := List.mem_map.mp listed
  have ofMillis : ∀ ms, n ∈ (millis ms).numbers → n.isInteger64 = true := by
    intro ms found
    rw [List.mem_singleton.mp found]
    exact Json.Number.isInteger64_integer_iff.mpr (by unfold UInt64.size; omega)
  have integer : n.isInteger64 = true := by
    cases key with
    | cookieName | cookiePath | autoBatch | allowWithoutBrowser | jsonDebug => cases found
    | cookieDomain =>
        rw [fieldValue] at found
        cases given : o.cookieDomain <;> rw [given] at found <;> cases found
    | cookieMaxAge =>
        rw [fieldValue] at found
        cases given : o.cookieMaxAge with
        | none =>
            rw [given] at found
            cases found
        | some age =>
            rw [given] at found
            exact ofMillis age found
    | limit =>
        have within := o.limit.toInt_within
        rw [List.mem_singleton.mp found]
        exact Json.Number.isInteger64_integer_iff.mpr (by omega)
    | multiSessionInterval | timeout | interval | maxInterval => exact ofMillis _ found
  exact Json.Number.isLiteral_of_reads (Json.Number.reads_of_isInteger64 integer)

/-- Whatever settings are written, in either layout, they are read again as they come back. -/
theorem ofText_text (o : TransportOptions) (layout : Json.Layout) :
    ofText (o.value.text layout) = .ok o.narrowed :=
  (Json.readText_of_isTextOf read (fun _ inside => isLiteral_of_mem inside)
    (Value.isTextOf_text layout o.value)).trans o.read_outline

/-! ## Settings that were read from a text -/

/-- What is read for a setting comes back as it is. -/
theorem exists_of_readField {outline : Outline} (reads : o.readField key outline = .ok changed) :
    ∃ value, changed = o.put key value ∧ key.narrow value = value := by
  cases key with
  | cookieName | cookiePath | cookieDomain | autoBatch | allowWithoutBrowser | jsonDebug =>
      obtain ⟨value, _, same⟩ := bind_eq_ok_iff.mp reads
      exact ⟨value, (Except.ok.inj same).symm, rfl⟩
  | cookieMaxAge =>
      obtain ⟨value, found, same⟩ := bind_eq_ok_iff.mp reads
      refine ⟨value, (Except.ok.inj same).symm, ?_⟩
      cases value with
      | none => rfl
      | some age =>
          have bounded : age < 2 ^ 64 := by
            unfold Outline.optional at found
            split at found
            · cases found
            · obtain ⟨_, read, same⟩ := map_eq_ok_iff.mp found
              cases same
              exact Outline.lt_of_readUnsigned read
          exact congrArg some (Nat.mod_eq_of_lt bounded)
  | limit =>
      obtain ⟨value, found, same⟩ := bind_eq_ok_iff.mp reads
      obtain ⟨number, read, rfl⟩ := map_eq_ok_iff.mp found
      exact ⟨_, (Except.ok.inj same).symm,
        SessionLimit.ofInt_toInt_ofInt (Outline.lt_of_readSigned read)⟩
  | multiSessionInterval | timeout | interval | maxInterval =>
      obtain ⟨ms, found, same⟩ := bind_eq_ok_iff.mp reads
      exact ⟨ms, (Except.ok.inj same).symm, Nat.mod_eq_of_lt (Outline.lt_of_readUnsigned found)⟩

theorem narrowed_of_readField {outline : Outline} (stable : o.narrowed = o)
    (reads : o.readField key outline = .ok changed) : changed.narrowed = changed := by
  obtain ⟨value, rfl, same⟩ := exists_of_readField reads
  rw [narrowed_put, stable, same]

theorem narrowed_of_step {draft next : Draft} {name : String} {outline : Outline}
    (stable : draft.options.narrowed = draft.options)
    (reads : draft.step name outline = .ok next) : next.options.narrowed = next.options := by
  unfold Draft.step at reads
  split at reads
  · split at reads
    · cases reads
    · obtain ⟨options, found, same⟩ := bind_eq_ok_iff.mp reads
      cases same
      exact narrowed_of_readField stable found
  · split at reads
    · cases reads
    · cases reads
      exact stable

/-- By recursion on the items: each of them is read for the next key. -/
theorem narrowed_of_readItems : ∀ (keys : List OptionKey) (items : Items) {o : TransportOptions},
    o.narrowed = o → o.readItems keys items = .ok changed → changed.narrowed = changed
  | key :: keys, .item outline rest, o, stable, reads => by
      rw [readItems] at reads
      split at reads
      · cases reads
      next found => exact narrowed_of_readItems keys rest (narrowed_of_readField stable found) reads
  | [], .item _ _, o, stable, reads => by cases reads
  | keys, .stop ending, o, stable, reads => by
      cases keys <;> cases ending <;> cases reads <;> exact stable

theorem narrowed_default : ({} : TransportOptions).narrowed = {} := by decide

theorem narrowed_of_ofText {text : String} (reads : ofText text = .ok o) : o.narrowed = o := by
  obtain ⟨outline, inRange, found⟩ := Json.exists_of_readText reads
  cases outline with
  | object fields =>
      rw [Outline.InRange] at inRange
      obtain ⟨draft, gathered, rfl⟩ := map_eq_ok_iff.mp found
      exact Fields.gather_keeps (fun draft : Draft => draft.options.narrowed = draft.options)
        (fun _ => narrowed_of_step) fields inRange narrowed_default gathered
  | list items => exact narrowed_of_readItems OptionKey.all items narrowed_default found
  | null | truth | number | string | broken => cases found

/-! ## Settings made from entries -/

variable {texts : OptionKey → Option String}

theorem Configured.kept (configured : Configured texts o) (absent : texts key = none) :
    o.content key = ({} : TransportOptions).content key := by
  have reads := configured key
  rw [absent] at reads
  generalize o.content key = value at reads ⊢
  cases reads with
  | kept => rfl

theorem Configured.denotes {text : String} (configured : Configured texts o)
    (chosen : texts key = some text) : key.Denotes text (o.content key) := by
  have reads := configured key
  rw [chosen] at reads
  cases reads with
  | given meaning => exact meaning

/-- What a text means for a setting comes back as it is, but for the age of a cookie. -/
theorem narrow_of_denotes {text : String} {value : key.Content} (meaning : key.Denotes text value)
    (other : key ≠ .cookieMaxAge) : key.narrow value = value := by
  cases key with
  | cookieName | cookiePath | cookieDomain | autoBatch | allowWithoutBrowser | jsonDebug => rfl
  | cookieMaxAge => exact absurd rfl other
  | limit =>
      obtain ⟨max, signed, rfl⟩ := meaning
      change SessionLimit.ofInt (SessionLimit.ofInt max).toInt = SessionLimit.ofInt max
      exact SessionLimit.ofInt_toInt_ofInt signed.2.2
  | multiSessionInterval | timeout | interval | maxInterval => exact Nat.mod_eq_of_lt meaning.2

theorem narrowed_of_configured (configured : Configured texts o) :
    o.narrowed = { o with cookieMaxAge := o.cookieMaxAge.map (· % 2 ^ 64) } := by
  apply eq_of_content
  intro key
  by_cases age : key = .cookieMaxAge
  · rw [age]
    rfl
  · have same : key.narrow (o.content key) = o.content key := by
      cases chosen : texts key with
      | none => rw [configured.kept chosen, ← content_narrowed, narrowed_default]
      | some text => exact narrow_of_denotes (configured.denotes chosen) age
    rw [content_narrowed, same]
    exact (o.content_put_of_ne age _).symm

theorem map_mod_eq_self_iff {age : Option Nat} :
    age.map (· % 2 ^ 64) = age ↔ ∀ ms ∈ age, ms < 2 ^ 64 := by
  cases age with
  | none => exact ⟨fun _ => nofun, fun _ => rfl⟩
  | some ms =>
      rw [Option.map_some, Option.some_inj, Nat.mod_eq_iff_lt (by decide)]
      exact ⟨fun fits other same => Option.some_inj.mp same ▸ fits, fun fits => fits ms rfl⟩

theorem fits_iff_of_denotes {text : String} {age : Option Nat}
    (meaning : OptionKey.cookieMaxAge.Denotes text age) :
    (∀ ms ∈ age, ms < 2 ^ 64) ↔
      ∀ seconds, Text.IsSigned64 text seconds → seconds * 1000 < 2 ^ 64 := by
  obtain ⟨seconds, signed, rfl⟩ := meaning
  have only : ∀ other, Text.IsSigned64 text other → other = seconds := by
    intro other meant
    have read := Text.signed64?_eq_some_iff.mpr meant
    rw [Text.signed64?_eq_some_iff.mpr signed] at read
    exact (Option.some_inj.mp read).symm
  by_cases negative : seconds < 0
  · rw [if_pos negative]
    refine ⟨fun _ other meant => ?_, fun _ => nofun⟩
    rw [only other meant]
    omega
  · rw [if_neg negative]
    constructor
    · intro fits other meant
      have bound := fits _ rfl
      rw [only other meant]
      omega
    · intro fits ms same
      have bound := fits seconds signed
      rw [← Option.some_inj.mp same]
      omega

theorem fits_iff_of_configured (configured : Configured texts o) :
    (∀ ms ∈ o.cookieMaxAge, ms < 2 ^ 64) ↔
      ∀ text seconds, texts .cookieMaxAge = some text → Text.IsSigned64 text seconds →
        seconds * 1000 < 2 ^ 64 := by
  cases chosen : texts .cookieMaxAge with
  | none =>
      have default : o.cookieMaxAge = none := configured.kept chosen
      rw [default]
      exact ⟨fun _ => nofun, fun _ => nofun⟩
  | some text =>
      have meaning : OptionKey.cookieMaxAge.Denotes text o.cookieMaxAge :=
        configured.denotes chosen
      refine (fits_iff_of_denotes meaning).trans ⟨?_, fun fits seconds => fits text seconds rfl⟩
      rintro fits _ seconds ⟨⟩
      exact fits seconds

/-- Settings that were accepted from a text are read back as they are from what is written for
them, in either layout.  Settings that were accepted from entries are read back with the age of
their cookie cut down to 64 bits, and so as they are exactly if the milliseconds of the age that
the entries give in seconds fit. -/
theorem ofText_text_of_accepted (layout : Json.Layout) :
    (∀ text o, ofText text = .ok o → ofText (o.value.text layout) = .ok o) ∧
    ∀ entries scope o, ofEntries entries scope = .ok o →
      ofText (o.value.text layout) =
        .ok { o with cookieMaxAge := o.cookieMaxAge.map (· % 2 ^ 64) } ∧
      (ofText (o.value.text layout) = .ok o ↔
        ∀ text seconds, entries.chosenText? scope .cookieMaxAge = some text →
          Text.IsSigned64 text seconds → seconds * 1000 < 2 ^ 64) := by
  constructor
  · intro text o accepted
    rw [ofText_text, narrowed_of_ofText accepted]
  · intro entries scope o accepted
    have configured := ofEntries_eq_ok_iff.mp accepted
    have back : ofText (o.value.text layout) =
        .ok { o with cookieMaxAge := o.cookieMaxAge.map (· % 2 ^ 64) } := by
      rw [ofText_text, narrowed_of_configured configured]
    refine ⟨back, ?_⟩
    rw [back, ← fits_iff_of_configured configured, ← map_mod_eq_self_iff]
    constructor
    · intro same
      exact congrArg cookieMaxAge (Except.ok.inj same)
    · intro same
      rw [same]

/-- An age of 18446744073709552 seconds is accepted, and comes back as one of 384 milliseconds. -/
theorem ofText_text_of_accepted_wrapped :
    let entries : Entries := .ofList [("browserCookieMaxAge", "18446744073709552")]
    let o : TransportOptions := { cookieMaxAge := some 18446744073709552000 }
    ofEntries entries "" = .ok o ∧
      ofText (o.value.text .compact) = .ok { o with cookieMaxAge := some 384 } ∧
      ofText "[]" = .ok {} ∧
      ofText (({} : TransportOptions).value.text .indented) = .ok {} := by
  intro entries o
  have accepted : ofEntries entries "" = .ok o := by decide
  have started : ofText "[]" = .ok {} := by decide
  exact ⟨accepted, ((ofText_text_of_accepted .compact).2 entries "" o accepted).1, started,
    (ofText_text_of_accepted .indented).1 "[]" {} started⟩

end TransportOptions

end Bayeux
