import Bayeux.Json.Value
import Mathlib.Data.List.Induction

namespace Bayeux
namespace Json
namespace Members

/-!
# Objects as maps

A member takes its place in the order of the keys, so members that are inserted one by one are
in order, and of two members with the same key the last one stays.
-/

/-! ## Order -/

/-- The keys of an object are strictly increasing, as in a map. -/
def Increasing (members : Members) : Prop :=
  members.Pairwise fun first second => first.1 < second.1

instance (members : Members) : Decidable members.Increasing :=
  inferInstanceAs (Decidable (members.Pairwise fun first second => first.1 < second.1))

/-- A member with a greater key than all others goes to the end. -/
theorem insert_eq_append {members : Members} {key : String} (value : Value)
    (greater : ∀ member ∈ members, member.1 < key) :
    members.insert key value = members ++ [(key, value)] := by
  induction members with
  | nil => rfl
  | cons member rest inductionHypothesis =>
      have less := greater member List.mem_cons_self
      have notBefore : ¬ key < member.1 := String.lt_asymm less
      have notSame : ¬ key = member.1 := by
        intro same
        rw [same] at less
        exact String.lt_irrefl _ less
      unfold insert
      rw [if_neg notBefore, if_neg notSame,
        inductionHypothesis fun other later => greater other (List.mem_cons_of_mem member later)]
      rfl

/-- Members that come in order are inserted one after the other at the end. -/
theorem foldl_insert {done members : Members} (increasing : Increasing (done ++ members)) :
    members.foldl (fun sorted member => sorted.insert member.1 member.2) done =
      done ++ members := by
  induction members generalizing done with
  | nil => rw [List.foldl_nil, List.append_nil]
  | cons member rest inductionHypothesis =>
      have greater : ∀ earlier ∈ done, earlier.1 < member.1 := fun earlier listed =>
        (List.pairwise_append.mp increasing).2.2 earlier listed member List.mem_cons_self
      rw [List.append_cons] at increasing ⊢
      rw [List.foldl_cons, insert_eq_append member.2 greater]
      exact inductionHypothesis increasing

theorem Increasing.ofList_eq_self {members : Members} (increasing : members.Increasing) :
    ofList members = members :=
  foldl_insert (List.nil_append members ▸ increasing)

section Insertion

variable {members : Members} {key : String} {value : Value}

theorem mem_of_mem_insert {member : String × Value} (listed : member ∈ members.insert key value) :
    member = (key, value) ∨ member ∈ members := by
  induction members with
  | nil => exact Or.inl (List.mem_singleton.mp listed)
  | cons first rest inductionHypothesis =>
      unfold insert at listed
      split at listed
      · exact List.mem_cons.mp listed
      · split at listed
        · rcases List.mem_cons.mp listed with same | later
          · exact Or.inl same
          · exact Or.inr (List.mem_cons_of_mem first later)
        · rcases List.mem_cons.mp listed with same | later
          · exact Or.inr (List.mem_cons.mpr (Or.inl same))
          · rcases inductionHypothesis later with new | old
            · exact Or.inl new
            · exact Or.inr (List.mem_cons_of_mem first old)

/-- Members stay in order whatever is inserted. -/
theorem Increasing.insert (increasing : members.Increasing) (key : String) (value : Value) :
    (members.insert key value).Increasing := by
  induction members with
  | nil => exact List.pairwise_singleton _ _
  | cons first rest inductionHypothesis =>
      rcases List.pairwise_cons.mp increasing with ⟨greater, others⟩
      unfold Members.insert
      split
      next less =>
        refine List.pairwise_cons.mpr ⟨?_, increasing⟩
        intro member listed
        rcases List.mem_cons.mp listed with same | later
        · rw [same]
          exact less
        · exact String.lt_trans less (greater member later)
      next notLess =>
        split
        next same =>
          refine List.pairwise_cons.mpr ⟨?_, others⟩
          intro member later
          rw [same]
          exact greater member later
        next notSame =>
          have more : first.1 < key := by
            by_contra notMore
            exact notSame (String.le_antisymm (String.not_lt.mp notMore) (String.not_lt.mp notLess))
          refine List.pairwise_cons.mpr ⟨?_, inductionHypothesis others⟩
          intro member listed
          rcases mem_of_mem_insert listed with new | old
          · rw [new]
            exact more
          · exact greater member old

end Insertion

/-! ## Looking up -/

theorem lookup_cons (member : String × Value) (rest : List (String × Value)) (key : String) :
    List.lookup key (member :: rest) =
      if key = member.1 then some member.2 else rest.lookup key := by
  rcases member with ⟨first, v⟩
  rw [List.lookup_cons]
  by_cases same : key = first
  · rw [if_pos same, beq_iff_eq.mpr same]
  · rw [if_neg same, beq_eq_false_iff_ne.mpr same]

theorem lookup_insert (members : Members) (key other : String) (value : Value) :
    (members.insert key value).lookup other =
      if other = key then some value else members.lookup other := by
  induction members with
  | nil => exact lookup_cons (key, value) [] other
  | cons member rest inductionHypothesis =>
      unfold insert
      split
      · rw [lookup_cons]
      · split
        next replaced =>
          rw [lookup_cons, lookup_cons, replaced]
          split <;> rfl
        next distinct =>
          rw [lookup_cons, lookup_cons, inductionHypothesis]
          by_cases found : other = member.1
          · rw [if_pos found, if_pos found, if_neg fun same => distinct (same.symm.trans found)]
          · rw [if_neg found, if_neg found]

theorem mem_of_lookup {members : List (String × Value)} {key : String} {v : Value}
    (found : members.lookup key = some v) : (key, v) ∈ members := by
  rcases List.lookup_eq_some_iff.mp found with ⟨before, after, rfl, _⟩
  exact List.mem_append_right _ List.mem_cons_self

theorem lookup_map (f : Value → Value) (members : List (String × Value)) (key : String) :
    (members.map fun member => (member.1, f member.2)).lookup key =
      (members.lookup key).map f := by
  induction members with
  | nil => rfl
  | cons member rest inductionHypothesis =>
      rw [List.map_cons, lookup_cons, lookup_cons, inductionHypothesis]
      split <;> rfl

theorem ofList_append (members : List (String × Value)) (member : String × Value) :
    ofList (members ++ [member]) = (ofList members).insert member.1 member.2 :=
  List.foldl_append ..

/-- A map holds the last member of each key. -/
theorem lookup_ofList (members : List (String × Value)) (key : String) :
    (ofList members).lookup key = members.reverse.lookup key := by
  induction members using List.reverseRecOn with
  | nil => rfl
  | append_singleton members member inductionHypothesis =>
      rw [ofList_append, lookup_insert, inductionHypothesis, List.reverse_append]
      exact (lookup_cons member members.reverse key).symm

theorem mem_of_mem_ofList {members : List (String × Value)} {member : String × Value}
    (listed : member ∈ ofList members) : member ∈ members := by
  induction members using List.reverseRecOn with
  | nil => cases listed
  | append_singleton members last inductionHypothesis =>
      rw [ofList_append] at listed
      rcases mem_of_mem_insert listed with new | old
      · exact List.mem_append_right _ (List.mem_singleton.mpr new)
      · exact List.mem_append_left _ (inductionHypothesis old)

theorem increasing_ofList (members : List (String × Value)) : (ofList members).Increasing := by
  induction members using List.reverseRecOn with
  | nil => exact List.Pairwise.nil
  | append_singleton members last inductionHypothesis =>
      rw [ofList_append]
      exact inductionHypothesis.insert last.1 last.2

end Members
end Json
end Bayeux
