import Bayeux.Proofs.BrowserId
import Bayeux.Proofs.Text.Parts
import Bayeux.Request

namespace Bayeux

/-!
# Browsers are recognised

A browser gets its id in one header and gives it back in another, among cookies that are none
of the server's business.  The two headers are written by different rules.  What the server gives
out is read back as long as the name of its cookie is one that a header can carry; under any other
name nothing is ever found, whatever a browser sends.
-/

/-! ## Names and other cookies -/

namespace CookieHeader

/-- A name that can be told from the rest of a header. -/
structure IsName (name : String) : Prop where
  noEquals : '=' ∉ name.toList
  noSemicolon : ';' ∉ name.toList
  begins : ∀ c ∈ name.toList.head?, Text.isBlank c = false
  ends : ∀ c ∈ name.toList.getLast?, Text.isBlank c = false

/-- A part of a header that is no cookie of that name.  It has another key, or no key at all. -/
def IsOther (name other : String) : Prop :=
  ';' ∉ other.toList ∧
    ('=' ∈ other.toList → Text.trim (other.toList.takeWhile (· != '=')) ≠ name.toList)

instance (name other : String) : Decidable (IsOther name other) :=
  inferInstanceAs (Decidable (_ ∧ _))

theorem IsName.trim_eq {name : String} (isName : IsName name) :
    Text.trim name.toList = name.toList :=
  Text.trim_eq_self_iff.mpr ⟨isName.begins, isName.ends⟩

theorem not_mem_of_isBlank {blanks : List Char} (blank : ∀ c ∈ blanks, Text.isBlank c = true)
    {c : Char} (visible : Text.isBlank c = false) : c ∉ blanks := fun member => by
  rw [blank c member] at visible
  cases visible

/-- A cookie of the name that is looked for has that name as its key. -/
theorem trim_key_of_valueOf? {name part value : List Char}
    (found : valueOf? name part = some value) :
    '=' ∈ part ∧ Text.trim (part.takeWhile (· != '=')) = name ∧ '=' ∉ name := by
  unfold valueOf? at found
  split at found
  next key rest cut =>
    split at found
    next same =>
      rcases Text.splitOnce?_eq_some_iff.mp cut with ⟨fresh, inner⟩
      rcases Text.exists_trim part with ⟨lead, trail, before, _, joined⟩
      have noEquals : '=' ∉ lead ++ key := by
        rw [List.mem_append, not_or]
        exact ⟨not_mem_of_isBlank before (by decide), fresh⟩
      rw [inner, List.append_assoc, List.append_assoc, ← List.append_assoc,
        List.cons_append] at joined
      have trimmed : Text.trim (lead ++ key ++ []) = Text.trim key :=
        Text.trim_surrounded before (List.forall_mem_nil _)
      rw [List.append_nil] at trimmed
      refine ⟨?_, ?_, fun member => fresh (Text.mem_of_mem_trim (same ▸ member))⟩
      · rw [joined]
        exact List.mem_append_right _ List.mem_cons_self
      · rw [joined, Text.takeWhile_append noEquals, trimmed, same]
    next => cases found
  next => cases found

theorem IsOther.valueOf?_eq_none {name other : String} (isOther : IsOther name other) :
    valueOf? name.toList other.toList = none := by
  cases found : valueOf? name.toList other.toList with
  | none => rfl
  | some value =>
      rcases trim_key_of_valueOf? found with ⟨cut, same, _⟩
      exact absurd same (isOther.2 cut)

/-- Whatever is found in a header has a name that a header can carry. -/
theorem isName_of_find? {header name value : String} (found : find? header name = some value) :
    IsName name := by
  unfold find? at found
  rcases Option.map_eq_some_iff.mp found with ⟨text, first, _⟩
  rcases List.exists_of_findSome?_eq_some first with ⟨part, member, held⟩
  rcases trim_key_of_valueOf? held with ⟨_, same, noEquals⟩
  have trimmed : Text.trim name.toList = name.toList := by
    rw [← same, Text.trim_trim]
  rcases Text.trim_eq_self_iff.mp trimmed with ⟨begins, ends⟩
  refine ⟨noEquals, fun inside => ?_, begins, ends⟩
  rw [← same] at inside
  have early := (List.takeWhile_sublist _).subset (Text.mem_of_mem_trim inside)
  exact Text.not_mem_of_mem_splitAll member early

/-! ## One cookie among others -/

theorem unquote_of_not_mem {text : List Char} (plain : '"' ∉ text) : unquote text = text := by
  have keeps : ∀ text : List Char, '"' ∉ text → text.dropWhile (· == '"') = text := by
    intro text plain
    cases text with
    | nil => rfl
    | cons c rest =>
        rw [List.mem_cons, not_or] at plain
        exact List.dropWhile_cons_of_neg fun same => plain.1 (eq_of_beq same).symm
  unfold unquote
  rw [keeps text plain, keeps text.reverse fun member => plain (List.mem_reverse.mp member),
    List.reverse_reverse]

/-- A cookie with blanks around it has the value that was written, if that is plain text. -/
theorem valueOf?_pair {name : String} (isName : IsName name) {value lead trail : List Char}
    (plain : ∀ c ∈ value, c ∈ Base36.alphabet) (before : ∀ c ∈ lead, Text.isBlank c = true)
    (after : ∀ c ∈ trail, Text.isBlank c = true) :
    valueOf? name.toList (lead ++ (name.toList ++ '=' :: value) ++ trail) = some value := by
  have visible : ∀ c ∈ Base36.alphabet, Text.isBlank c = false := by
    have all : (Base36.alphabet.all fun c => !Text.isBlank c) = true := by decide
    exact fun c listed => (Bool.not_eq_true' _).mp (List.all_eq_true.mp all c listed)
  have noQuote : '"' ∉ value := fun member => absurd (plain _ member) (by decide)
  have whole : Text.trim (name.toList ++ '=' :: value) = name.toList ++ '=' :: value := by
    refine Text.trim_eq_self_iff.mpr ⟨fun c first => ?_, fun c last => ?_⟩
    · rw [List.head?_append] at first
      cases start : name.toList.head? with
      | some d =>
          rw [start] at first
          cases first
          exact isName.begins c start
      | none =>
          rw [start] at first
          cases first
          decide
    · rw [List.getLast?_append_of_ne_nil _ (List.cons_ne_nil _ _)] at last
      rcases List.mem_cons.mp (List.mem_of_getLast? last) with rfl | inside
      · decide
      · exact visible c (plain c inside)
  unfold valueOf?
  rw [Text.trim_surrounded before after, whole, Text.splitOnce?_append isName.noEquals]
  simp only [isName.trim_eq, if_true]
  rw [Text.trim_of_visible fun c member => visible c (plain c member), unquote_of_not_mem noQuote]

/-- The first cookie of a name is found among any others. -/
theorem find?_intercalate {name value lead trail : String} {before after : List String}
    (isName : IsName name) (plain : ∀ c ∈ value.toList, c ∈ Base36.alphabet)
    (others : ∀ other ∈ before ++ after, IsOther name other)
    (blankBefore : ∀ c ∈ lead.toList, Text.isBlank c = true)
    (blankAfter : ∀ c ∈ trail.toList, Text.isBlank c = true) :
    find? (";".intercalate (before ++ (lead ++ (name ++ "=" ++ value) ++ trail) :: after)) name =
      some value := by
  have own : (lead ++ (name ++ "=" ++ value) ++ trail).toList =
      lead.toList ++ (name.toList ++ '=' :: value.toList) ++ trail.toList := by
    simp only [String.toList_append, List.append_assoc]
    rfl
  have separate : ∀ part ∈ (before ++ (lead ++ (name ++ "=" ++ value) ++ trail) :: after).map
      String.toList, ';' ∉ part := by
    intro part member
    rcases List.mem_map.mp member with ⟨text, listed, rfl⟩
    rcases List.mem_append.mp listed with first | rest
    · exact (others text (List.mem_append_left _ first)).1
    · rcases List.mem_cons.mp rest with rfl | later
      · rw [own]
        simp only [List.mem_append, List.mem_cons, not_or]
        exact ⟨⟨not_mem_of_isBlank blankBefore (by decide), isName.noSemicolon, by decide,
          fun inside => absurd (plain _ inside) (by decide)⟩,
          not_mem_of_isBlank blankAfter (by decide)⟩
      · exact (others text (List.mem_append_right _ later)).1
  have none : (before.map String.toList).findSome? (valueOf? name.toList) = none := by
    refine List.findSome?_eq_none_iff.mpr fun part member => ?_
    rcases List.mem_map.mp member with ⟨text, listed, rfl⟩
    exact (others text (List.mem_append_left _ listed)).valueOf?_eq_none
  unfold find?
  rw [String.toList_intercalate, Text.splitAll_eq_splitOn]
  rw [show ";".toList = [';'] from rfl, List.splitOn_intercalate ';' separate (by simp),
    List.map_append, List.map_cons, List.findSome?_append, none, Option.none_or,
    List.findSome?_cons, own, valueOf?_pair isName plain blankBefore blankAfter]
  exact congrArg some String.ofList_toList

end CookieHeader

/-! ## Both headers -/

/-- The part of a header that a browser gives back. -/
def Cookie.pair (cookie : Cookie) : String :=
  cookie.name ++ "=" ++ cookie.value

/-- What a browser is given with its id is the name and the id, and then properties.  If the name
is one that a header can carry, the id is read back from every header that gives this
pair back among other cookies, broken ones included, and a request with such a header is
recognised.  Under any other name nothing is found in that header, nor in any other. -/
theorem BrowserIdentity.recognises (identity : BrowserIdentity) (port random now : Nat)
    {before after : List String} {lead trail : String}
    (others : ∀ other ∈ before ++ after, CookieHeader.IsOther identity.cookieName other)
    (blankBefore : ∀ c ∈ lead.toList, Text.isBlank c = true)
    (blankAfter : ∀ c ∈ trail.toList, Text.isBlank c = true) :
    let id := BrowserId.generate port random now
    let cookie := identity.cookie id
    let header := ";".intercalate (before ++ (lead ++ cookie.pair ++ trail) :: after)
    (∃ properties, cookie.header = cookie.pair ++ "; Path=" ++ properties) ∧
      (CookieHeader.IsName identity.cookieName →
        CookieHeader.find? header identity.cookieName = some id.text ∧
          ∀ r : Request, r.headerValues "cookie" = [header] → r.browser? identity = some id) ∧
      (¬ CookieHeader.IsName identity.cookieName →
        CookieHeader.find? header identity.cookieName = none ∧
          ∀ r : Request, r.browser? identity = none) := by
  intro id cookie header
  refine ⟨?_, fun isName => ?_, fun noName => ?_⟩
  · refine ⟨identity.cookiePath ++ Cookie.optionText "Domain" cookie.domain ++
      Cookie.optionText "Max-Age" (cookie.maxAge.map fun ms => toString (ms / 1000)), ?_⟩
    have path : Cookie.optionText "Path" cookie.path = "; Path=" ++ identity.cookiePath :=
      congrArg (· ++ identity.cookiePath) (by decide : "; " ++ "Path" ++ "=" = "; Path=")
    rw [Cookie.header, path]
    simp only [Cookie.pair, String.append_assoc]
  · have found : CookieHeader.find? header identity.cookieName = some id.text :=
      CookieHeader.find?_intercalate isName
        (fun c member => BrowserId.mem_alphabet_of_mem_generate member) others blankBefore
        blankAfter
    have present : id.text.isEmpty = false := Bool.eq_false_iff.mpr fun empty =>
      BrowserId.generate_ne_nil port random now
        (String.toList_eq_nil_iff.mpr (String.isEmpty_iff.mp empty))
    refine ⟨found, fun r carried => ?_⟩
    rw [Request.browser?, Request.cookie?, carried, List.findSome?_singleton, found,
      Option.bind_some, present]
    rfl
  · have nothing : ∀ header, CookieHeader.find? header identity.cookieName = none := fun header =>
      Option.eq_none_iff_forall_ne_some.mpr fun value found =>
        noName (CookieHeader.isName_of_find? found)
    refine ⟨nothing header, fun r => ?_⟩
    have silent : r.cookie? identity.cookieName = none :=
      List.findSome?_eq_none_iff.mpr fun header _ => nothing header
    rw [Request.browser?, silent, Option.bind_none]

/-- The id is found between a cookie whose value looks like its name, a part without a key, and
cookies whose names only differ in case and in length. -/
theorem BrowserIdentity.recognises_among_others :
    let identity : BrowserIdentity := { cookieName := "BID" }
    let header := "theme=BID; lone; BID=1f90zrs68g\t;bid=x;BID2=y;"
    (∀ other ∈ ["theme=BID", " lone"] ++ ["bid=x", "BID2=y", ""],
        CookieHeader.IsOther identity.cookieName other) ∧
      CookieHeader.find? header identity.cookieName = some "1f90zrs68g" := by
  intro identity header
  have others : ∀ other ∈ ["theme=BID", " lone"] ++ ["bid=x", "BID2=y", ""],
      CookieHeader.IsOther "BID" other := by decide
  have isName : CookieHeader.IsName "BID" := by
    refine ⟨by decide, by decide, fun c first => ?_, fun c last => ?_⟩
    · cases (first : some 'B' = some c)
      rfl
    · cases (last : some 'D' = some c)
      rfl
  have minted : BrowserId.generate 8080 35 1000 = ⟨"1f90zrs68g"⟩ := by
    decide +kernel
  have written : ";".intercalate (["theme=BID", " lone"] ++
      (" " ++ (identity.cookie ⟨"1f90zrs68g"⟩).pair ++ "\t") :: ["bid=x", "BID2=y", ""]) =
        header := by
    decide
  have recognised := (@BrowserIdentity.recognises identity 8080 35 1000 _ _ " " "\t" others
    (List.all_eq_true.mp (by decide)) (List.all_eq_true.mp (by decide))).2.1 isName
  rw [minted, written] at recognised
  exact ⟨others, recognised.1⟩

end Bayeux
