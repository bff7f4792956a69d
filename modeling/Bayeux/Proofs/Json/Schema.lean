import Bayeux.Proofs.Json.Views
import Mathlib.Logic.Function.Basic

namespace Bayeux
namespace Json

/-!
# Objects that conform to a schema

A record is read member by member, and an object conforms to its schema as a whole: each known
key stands in it once at most, with a value that its field accepts.  Of the members of unknown
name the last one of each is kept.
-/

section Records

variable {φ σ : Type} {ofName? : String → Option φ} {accepts : φ → Value → Prop}
  {members : List (String × Value)} {member : String × Value}

namespace Members

/-- The known fields of an object, in the order of its members. -/
def fields (ofName? : String → Option φ) (members : List (String × Value)) : List φ :=
  members.filterMap fun member => ofName? member.1

/-- What an object holds for each field; nothing, if the field does not come. -/
def entry (name : φ → String) (members : List (String × Value)) (field : φ) : Option Value :=
  members.lookup (name field)

/-- The members of unknown name as a map. -/
def others (ofName? : String → Option φ) (members : List (String × Value)) : Members :=
  ofList ((members.filter fun member => (ofName? member.1).isNone).map fun member =>
    (member.1, member.2.normal))

/-- An object that conforms to a schema: no known field comes twice, and each has a value
that it accepts. -/
structure Conform (ofName? : String → Option φ) (accepts : φ → Value → Prop)
    (members : List (String × Value)) : Prop where
  distinct : (fields ofName? members).Nodup
  accepted : ∀ member ∈ members, ∀ field ∈ ofName? member.1, accepts field member.2

instance [DecidableEq φ] [∀ field v, Decidable (accepts field v)] :
    Decidable (Conform ofName? accepts members) :=
  decidable_of_iff ((fields ofName? members).Nodup ∧
      ∀ member ∈ members, ∀ field ∈ ofName? member.1, accepts field member.2)
    ⟨fun both => ⟨both.1, both.2⟩, fun conforms => ⟨conforms.distinct, conforms.accepted⟩⟩

theorem canonical_others (ofName? : String → Option φ)
    (integers : ∀ member ∈ members, ∀ n ∈ member.2.numbers, n.isInteger64 = true) :
    (Value.object (others ofName? members)).Canonical := by
  refine Value.canonical_object (increasing_ofList _) fun member listed => ?_
  rcases List.mem_map.mp (mem_of_mem_ofList listed) with ⟨original, kept, rfl⟩
  exact original.2.canonical_normal (integers original (List.mem_filter.mp kept).1)

theorem fields_append (ofName? : String → Option φ) (members : List (String × Value))
    (member : String × Value) :
    fields ofName? (members ++ [member]) = fields ofName? members ++ (ofName? member.1).toList := by
  unfold fields
  rw [List.filterMap_append]
  cases known : ofName? member.1 <;> simp [known]

theorem others_append_of_known {field : φ} (known : ofName? member.1 = some field) :
    others ofName? (members ++ [member]) = others ofName? members := by
  unfold others
  rw [List.filter_append]
  simp [known]

theorem others_append_of_unknown (unknown : ofName? member.1 = none) :
    others ofName? (members ++ [member]) =
      (others ofName? members).insert member.1 member.2.normal := by
  unfold others
  rw [← ofList_append _ (member.1, member.2.normal), List.filter_append]
  simp [unknown]

/-- A map of the members of unknown name holds the last one of each. -/
theorem lookup_others (ofName? : String → Option φ) (members : List (String × Value))
    (key : String) :
    (others ofName? members).lookup key =
      if (ofName? key).isSome then none else (members.reverse.lookup key).map Value.normal := by
  induction members using List.reverseRecOn with
  | nil => simp [others, ofList]
  | append_singleton members member inductionHypothesis =>
      rw [List.reverse_append, List.reverse_singleton, List.singleton_append, lookup_cons]
      cases known : ofName? member.1 with
      | none =>
          rw [others_append_of_unknown known, lookup_insert, inductionHypothesis]
          by_cases same : key = member.1
          · rw [if_pos same, if_pos same, same, known]
            rfl
          · rw [if_neg same, if_neg same]
      | some field =>
          rw [others_append_of_known known, inductionHypothesis]
          by_cases same : key = member.1
          · rw [same, known]
            rfl
          · rw [if_neg same]

theorem conform_append_of_known {field : φ} (known : ofName? member.1 = some field) :
    Conform ofName? accepts (members ++ [member]) ↔
      Conform ofName? accepts members ∧ field ∉ fields ofName? members ∧
        accepts field member.2 := by
  have fields := fields_append ofName? members member
  rw [known, Option.toList_some] at fields
  constructor
  · intro conforms
    have distinct := conforms.distinct
    rw [fields] at distinct
    have parts := List.nodup_append.mp distinct
    have last : member ∈ members ++ [member] :=
      List.mem_append_right _ (List.mem_singleton_self member)
    exact ⟨⟨parts.1, fun other listed => conforms.accepted other (List.mem_append_left _ listed)⟩,
      fun listed => parts.2.2 field listed field (List.mem_singleton_self field) rfl,
      conforms.accepted member last field known⟩
  · rintro ⟨conforms, fresh, accepted⟩
    refine ⟨?_, ?_⟩
    · rw [fields]
      refine List.nodup_append.mpr ⟨conforms.distinct, List.nodup_singleton field, ?_⟩
      intro earlier listed last isLast same
      rw [List.mem_singleton.mp isLast] at same
      exact fresh (same ▸ listed)
    · intro other listed named isNamed
      rcases List.mem_append.mp listed with earlier | last
      · exact conforms.accepted other earlier named isNamed
      · rw [List.mem_singleton.mp last] at isNamed ⊢
        rw [Option.some.inj (isNamed.symm.trans known)]
        exact accepted

theorem conform_append_of_unknown (unknown : ofName? member.1 = none) :
    Conform ofName? accepts (members ++ [member]) ↔ Conform ofName? accepts members := by
  have fields := fields_append ofName? members member
  rw [unknown, Option.toList_none, List.append_nil] at fields
  constructor
  · intro conforms
    exact ⟨fields ▸ conforms.distinct,
      fun other listed => conforms.accepted other (List.mem_append_left _ listed)⟩
  · intro conforms
    refine ⟨fields ▸ conforms.distinct, ?_⟩
    intro other listed named isNamed
    rcases List.mem_append.mp listed with earlier | last
    · exact conforms.accepted other earlier named isNamed
    · rw [List.mem_singleton.mp last, unknown] at isNamed
      cases isNamed

section Entries

variable {name : φ → String} (named : ∀ {key field}, ofName? key = some field ↔ name field = key)

include named

/-- What comes for a field for the first time is what the field holds. -/
theorem entry_append_of_known [DecidableEq φ] {field : φ} (v : Value)
    (fresh : field ∉ fields ofName? members) :
    entry name (members ++ [(name field, v)]) =
      Function.update (entry name members) field (some v) := by
  funext other
  unfold entry
  rw [List.lookup_append, lookup_cons]
  by_cases same : other = field
  · have absent : members.lookup (name field) = none := by
      refine List.lookup_eq_none_iff.mpr fun member listed => ?_
      refine bne_iff_ne.mpr fun isNamed => fresh ?_
      exact List.mem_filterMap.mpr ⟨member, listed, named.mpr isNamed⟩
    rw [same, absent, if_pos rfl, Function.update_self]
    rfl
  · have different : name other ≠ name field := fun isNamed =>
      same (Option.some.inj ((named.mpr rfl).symm.trans (named.mpr isNamed.symm)))
    rw [if_neg different, Function.update_of_ne same]
    exact Option.or_none

theorem entry_append_of_unknown (unknown : ofName? member.1 = none) :
    entry name (members ++ [member]) = entry name members := by
  funext field
  have different : name field ≠ member.1 := by
    intro same
    rw [named.mpr same] at unknown
    cases unknown
  unfold entry
  rw [List.lookup_append, lookup_cons, if_neg different]
  exact Option.or_none

/-- No member of the map has a known name. -/
theorem not_mem_names_of_mem_others (listed : member ∈ others ofName? members) (known : List φ) :
    member.1 ∉ known.map name := by
  intro isNamed
  rcases List.mem_map.mp isNamed with ⟨field, _, same⟩
  rcases List.mem_map.mp (mem_of_mem_ofList listed) with ⟨original, kept, rfl⟩
  have unknown := (List.mem_filter.mp kept).2
  rw [named.mpr same] at unknown
  cases unknown

end Entries
end Members

/-- A field is found by its name and by no other. -/
theorem find?_eq_some_iff_of_named {name : φ → String} {known : List φ}
    (found : ∀ field, known.find? (fun other => name other == name field) = some field)
    {key : String} {field : φ} :
    known.find? (fun other => name other == key) = some field ↔ name field = key := by
  constructor
  · intro isFound
    have isNamed := List.find?_some (p := fun other => name other == key) isFound
    exact eq_of_beq isNamed
  · rintro rfl
    exact found field

/-- A field that has come before is refused, and any other is read and put in its place. -/
theorem unrepeated_eq_ok_iff [DecidableEq φ] {α : Type} {seen : List φ} {field : φ} {fault : Fault}
    {read : Except Fault α} {accepted : Prop} {content : α}
    (reads : ∀ result, read = .ok result ↔ accepted ∧ result = content) (place : α → σ)
    (next : σ) :
    (if field ∈ seen then .error fault else do return place (← read)) = .ok next ↔
      field ∉ seen ∧ accepted ∧ next = place content := by
  by_cases repeated : field ∈ seen
  · simp [repeated]
  · rw [if_neg repeated, and_iff_right repeated]
    exact bind_pure_eq_ok_iff reads place next

/-- The steps of a reading are gone through one after the other. -/
theorem foldlM_append_singleton_eq_ok_iff {α : Type} {step : σ → α → Except Fault σ}
    {members : List α} {start result : σ} (member : α) :
    (members ++ [member]).foldlM step start = .ok result ↔
      ∃ middle, members.foldlM step start = .ok middle ∧ step middle member = .ok result := by
  simp only [List.foldlM_append, List.foldlM_cons, List.foldlM_nil, bind_pure]
  exact bind_eq_ok_iff

/-- An object is read member by member.  At each point the reader has a draft, which is made
up of what each field holds, the members of unknown name and the fields seen so far. -/
theorem Fields.gather_eq_ok_iff [DecidableEq φ] {name : φ → String}
    (named : ∀ {key field}, ofName? key = some field ↔ name field = key)
    (draft : (φ → Option Value) → Members → List φ → σ)
    {step : σ → String → Outline → Except Fault σ}
    (known : ∀ entry others seen field v next, (name field, v) ∈ members →
      (step (draft entry others seen) (name field) v.outline = .ok next ↔
        field ∉ seen ∧ accepts field v ∧
          next = draft (Function.update entry field (some v)) others (field :: seen)))
    (unknown : ∀ entry others seen key v, (key, v) ∈ members → ofName? key = none →
      step (draft entry others seen) key v.outline =
        .ok (draft entry (others.insert key v.normal) seen))
    (result : σ) :
    (Value.memberOutlines members).gather step (draft (fun _ => none) [] []) = .ok result ↔
      Members.Conform ofName? accepts members ∧
        result = draft (Members.entry name members) (Members.others ofName? members)
          (Members.fields ofName? members).reverse := by
  rw [gather_memberOutlines]
  induction members using List.reverseRecOn generalizing result with
  | nil =>
      have conforms : Members.Conform ofName? accepts [] := ⟨List.nodup_nil, List.forall_mem_nil _⟩
      constructor
      · intro reads
        exact ⟨conforms, (Except.ok.inj reads).symm⟩
      · rintro ⟨_, rfl⟩
        rfl
  | append_singleton members member inductionHypothesis =>
      rcases member with ⟨key, v⟩
      have last : (key, v) ∈ members ++ [(key, v)] :=
        List.mem_append_right _ (List.mem_singleton_self _)
      have earlier := inductionHypothesis
        (fun entry others seen field v next listed =>
          known entry others seen field v next (List.mem_append_left _ listed))
        (fun entry others seen key v listed =>
          unknown entry others seen key v (List.mem_append_left _ listed))
      simp only [foldlM_append_singleton_eq_ok_iff, earlier, and_assoc, exists_and_left,
        exists_eq_left]
      cases isNamed : ofName? key with
      | none =>
          rw [unknown _ _ _ key v last isNamed, Members.conform_append_of_unknown isNamed,
            Members.others_append_of_unknown isNamed, Members.fields_append, isNamed,
            Members.entry_append_of_unknown named isNamed, Option.toList_none, List.append_nil,
            Except.ok.injEq, eq_comm]
      | some field =>
          cases named.mp isNamed
          rw [known _ _ _ field v result last, Members.conform_append_of_known isNamed,
            Members.others_append_of_known isNamed, Members.fields_append, isNamed,
            Option.toList_some, List.reverse_append, List.reverse_singleton, List.singleton_append,
            List.mem_reverse, and_assoc, and_assoc]
          refine and_congr_right fun _ => and_congr_right fun fresh => ?_
          rw [Members.entry_append_of_known named v fresh]

end Records

end Json
end Bayeux
