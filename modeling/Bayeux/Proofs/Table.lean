import Bayeux.Table
import Mathlib.Data.List.Induction
import Mathlib.Data.List.Nodup
import Mathlib.Data.Set.Card

namespace Bayeux
namespace Table

/-!
# Tables seen through their keys

What `get?` sees of every operation, and how many keys share a value.  The
number of keys with a value is well behaved only if no key is listed twice, which
every operation keeps.
-/

variable {κ α : Type}

theorem ext_entries {t u : Table κ α} (same : t.entries = u.entries) : t = u := by
  cases t
  cases u
  exact congrArg Table.mk same

theorem keys_map {β : Type} (t : Table κ α) (change : α → β) :
    (⟨t.entries.map fun entry => (entry.1, change entry.2)⟩ : Table κ β).keys = t.keys := by
  unfold keys
  rw [List.map_map]
  rfl

theorem size_eq (t : Table κ α) : t.size = t.keys.length :=
  (List.length_map _).symm

/-- Keys none of which is listed twice are as many as the list is long. -/
theorem ncard_setOf_mem {keys : List κ} (distinct : keys.Nodup) :
    {key | key ∈ keys}.ncard = keys.length := by
  classical
  rw [← List.coe_toFinset, Set.ncard_coe_finset, List.toFinset_card_of_nodup distinct]

variable [DecidableEq κ]

theorem get?_insert (t : Table κ α) (key other : κ) (value : α) :
    (t.insert key value).get? other = if other = key then some value else t.get? other := by
  by_cases same : other = key
  · subst same
    rw [if_pos rfl]
    exact t.get?_insert_self other value
  · rw [if_neg same]
    exact t.get?_insert_of_ne same value

theorem get?_erase (t : Table κ α) (key other : κ) :
    (t.erase key).get? other = if other = key then none else t.get? other := by
  by_cases same : other = key
  · subst same
    rw [if_pos rfl]
    exact t.get?_erase_self other
  · rw [if_neg same]
    exact t.get?_erase_of_ne same

theorem get?_modify (t : Table κ α) (key other : κ) (change : α → α) :
    (t.modify key change).get? other =
      if other = key then (t.get? key).map change else t.get? other := by
  unfold modify
  cases found : t.get? key with
  | some value =>
      simp only [get?_insert, Option.map_some]
  | none =>
      by_cases same : other = key
      · rw [if_pos same, same]
        simpa using found
      · rw [if_neg same]

theorem getD_insert (t : Table κ α) (key other : κ) (value default : α) :
    (t.insert key value).getD other default =
      if other = key then value else t.getD other default := by
  unfold getD
  rw [get?_insert]
  by_cases same : other = key
  · rw [if_pos same, if_pos same]
    rfl
  · rw [if_neg same, if_neg same]

theorem contains_eq (t : Table κ α) (key : κ) : t.contains key = (t.get? key).isSome := rfl

/-- Entries may be removed by their keys, and the keys that stay keep their values. -/
theorem get?_filter_keys (t : Table κ α) (keeps : κ → Bool) (key : κ) :
    (⟨t.entries.filter fun entry => keeps entry.1⟩ : Table κ α).get? key =
      if keeps key then t.get? key else none := by
  unfold get?
  rw [List.find?_filter]
  cases kept : keeps key with
  | true =>
      rw [if_pos rfl]
      congr 2
      funext entry
      by_cases same : entry.1 = key
      · simp [same, kept]
      · simp [same]
  | false =>
      have nothing : t.entries.find? (fun entry => keeps entry.1 && decide (entry.1 = key)) =
          none := by
        apply List.find?_eq_none.mpr
        intro entry _ found
        have parts := Bool.and_eq_true_iff.mp found
        rw [of_decide_eq_true parts.2, kept] at parts
        cases parts.1
      simp [nothing]

/-! ## Membership -/

theorem mem_of_get? {t : Table κ α} {key : κ} {value : α} (found : t.get? key = some value) :
    (key, value) ∈ t.entries := by
  unfold get? at found
  rcases Option.map_eq_some_iff.mp found with ⟨entry, listed, same⟩
  have keyed : entry.1 = key := by
    simpa using List.find?_some listed
  have member := List.mem_of_find?_eq_some listed
  rw [← keyed, ← same]
  exact member

theorem get?_eq_none_iff (t : Table κ α) (key : κ) : t.get? key = none ↔ key ∉ t.keys := by
  unfold get? keys
  rw [Option.map_eq_none_iff, List.find?_eq_none]
  constructor
  · intro absent member
    rcases List.mem_map.mp member with ⟨entry, listed, same⟩
    exact absent entry listed (decide_eq_true same)
  · intro absent entry listed found
    exact absent (List.mem_map.mpr ⟨entry, listed, of_decide_eq_true found⟩)

theorem contains_iff_mem_keys {t : Table κ α} {key : κ} :
    t.contains key = true ↔ key ∈ t.keys := by
  rw [contains_eq, ← Option.ne_none_iff_isSome, Ne, get?_eq_none_iff, not_not]

theorem ne_of_mem {t : Table κ α} {key : κ} (absent : t.get? key = none) {entry : κ × α}
    (listed : entry ∈ t.entries) : entry.1 ≠ key :=
  fun same =>
    (t.get?_eq_none_iff key).mp absent (List.mem_map.mpr ⟨entry, listed, same⟩)

theorem erase_of_get?_eq_none {t : Table κ α} {key : κ} (absent : t.get? key = none) :
    t.erase key = t :=
  ext_entries (List.filter_eq_self.mpr fun _ listed => decide_eq_true (ne_of_mem absent listed))

/-- Of the entries with one key, the last of the list stands. -/
theorem get?_ofList (list : List (κ × α)) (key : κ) :
    (ofList list).get? key = (list.reverse.find? fun entry => entry.1 = key).map (·.2) := by
  induction list using List.reverseRecOn with
  | nil => rfl
  | append_singleton list entry inductionHypothesis =>
      have inserted : ofList (list ++ [entry]) = (ofList list).insert entry.1 entry.2 := by
        unfold ofList
        rw [List.foldl_append]
        rfl
      rw [inserted, get?_insert, List.reverse_append, List.reverse_singleton, List.singleton_append,
        List.find?_cons]
      by_cases same : key = entry.1
      · rw [if_pos same, decide_eq_true same.symm]
        rfl
      · rw [if_neg same, decide_eq_false fun other => same other.symm, inductionHypothesis]

theorem mem_of_get?_ofList {list : List (κ × α)} {key : κ}
    {value : α} (found : (ofList list).get? key = some value) : (key, value) ∈ list := by
  rw [get?_ofList, Option.map_eq_some_iff] at found
  rcases found with ⟨⟨other, _⟩, found, rfl⟩
  have same := List.find?_some found
  rw [← of_decide_eq_true same]
  exact List.mem_reverse.mp (List.mem_of_find?_eq_some found)

/-! ## Keys listed once -/

theorem nodup_keys_erase {t : Table κ α} (distinct : t.keys.Nodup) (key : κ) :
    (t.erase key).keys.Nodup :=
  distinct.sublist (List.Sublist.map _ List.filter_sublist)

theorem not_mem_keys_erase (t : Table κ α) (key : κ) : key ∉ (t.erase key).keys :=
  ((t.erase key).get?_eq_none_iff key).mp (t.get?_erase_self key)

theorem nodup_keys_insert {t : Table κ α} (distinct : t.keys.Nodup) (key : κ) (value : α) :
    (t.insert key value).keys.Nodup :=
  List.nodup_cons.mpr ⟨t.not_mem_keys_erase key, nodup_keys_erase distinct key⟩

theorem nodup_keys_modify {t : Table κ α} (distinct : t.keys.Nodup) (key : κ)
    (change : α → α) : (t.modify key change).keys.Nodup := by
  unfold modify
  split
  · exact nodup_keys_insert distinct key _
  · exact distinct

/-- Where no key is listed twice, an entry of the list is the one that is found. -/
theorem get?_eq_some_of_mem {t : Table κ α} (distinct : t.keys.Nodup) {key : κ} {value : α}
    (listed : (key, value) ∈ t.entries) : t.get? key = some value := by
  have present : t.get? key ≠ none := fun absent =>
    (t.get?_eq_none_iff key).mp absent (List.mem_map.mpr ⟨_, listed, rfl⟩)
  rcases Option.ne_none_iff_exists'.mp present with ⟨other, found⟩
  have same : ((key, other) : κ × α) = (key, value) :=
    List.inj_on_of_nodup_map distinct (mem_of_get? found) listed rfl
  cases same
  exact found

/-- Entries may be removed by their keys and values, if no key is listed twice. -/
theorem get?_filter {t : Table κ α} (distinct : t.keys.Nodup) (keeps : κ × α → Bool) (key : κ) :
    (⟨t.entries.filter keeps⟩ : Table κ α).get? key =
      (t.get? key).filter fun value => keeps (key, value) := by
  have fewer : (⟨t.entries.filter keeps⟩ : Table κ α).keys.Nodup :=
    distinct.sublist (List.filter_sublist.map _)
  apply Option.ext
  intro value
  rw [Option.filter_eq_some_iff]
  constructor
  · intro found
    have listed := List.mem_filter.mp (mem_of_get? found)
    exact ⟨get?_eq_some_of_mem distinct listed.1, listed.2⟩
  · rintro ⟨found, kept⟩
    exact get?_eq_some_of_mem fewer (List.mem_filter.mpr ⟨mem_of_get? found, kept⟩)

/-- Every value may be changed without regard to its key. -/
theorem get?_map {β : Type} (t : Table κ α) (change : α → β) (key : κ) :
    (⟨t.entries.map fun entry => (entry.1, change entry.2)⟩ : Table κ β).get? key =
      (t.get? key).map change := by
  unfold get?
  rw [List.find?_map, Option.map_map, Option.map_map]
  rfl

/-- Erasing the key of the first entry leaves the others. -/
theorem erase_cons {key : κ} {rest : List (κ × α)} (absent : (mk rest).get? key = none)
    (value : α) : (mk ((key, value) :: rest)).erase key = ⟨rest⟩ := by
  rw [← erase_of_get?_eq_none absent]
  apply ext_entries
  simp [erase]

/-- Erasing a key that was not there before undoes its insertion. -/
theorem erase_insert {t : Table κ α} {key : κ} (absent : t.get? key = none) (value : α) :
    (t.insert key value).erase key = t := by
  unfold insert
  rw [erase_of_get?_eq_none absent]
  exact erase_cons absent value

/-- An entry may be taken to the front. -/
theorem perm_entries {t : Table κ α} (distinct : t.keys.Nodup) {key : κ} {value : α}
    (found : t.get? key = some value) :
    t.entries.Perm ((key, value) :: (t.erase key).entries) := by
  rcases t with ⟨entries⟩
  induction entries with
  | nil => cases found
  | cons first rest inductionHypothesis =>
      have parts := List.nodup_cons.mp distinct
      by_cases same : first.1 = key
      · subst same
        have own := Option.some.inj ((get?_eq_some_of_mem distinct List.mem_cons_self).symm.trans
          found)
        rw [erase_cons (((mk rest).get?_eq_none_iff _).mpr parts.1), ← own]
      · have later : (mk rest).get? key = some value := by
          rw [← found]
          simp [get?, same]
        have others : ((mk (first :: rest)).erase key).entries =
            first :: ((mk rest).erase key).entries := by simp [erase, same]
        rw [others]
        exact ((inductionHypothesis parts.2 later).cons first).trans (.swap _ _ _)

/-! ## How many keys there are -/

theorem ncard_contains {t : Table κ α} (distinct : t.keys.Nodup) :
    {key | t.contains key = true}.ncard = t.size := by
  simp only [contains_iff_mem_keys]
  rw [ncard_setOf_mem distinct, size_eq]

theorem size_insert_of_get?_eq_none {t : Table κ α} {key : κ} (absent : t.get? key = none)
    (value : α) : (t.insert key value).size = t.size + 1 := by
  unfold insert
  rw [erase_of_get?_eq_none absent]
  rfl

theorem keys_erase (t : Table κ α) (key : κ) : (t.erase key).keys = t.keys.filter (· ≠ key) := by
  unfold keys erase
  rw [List.filter_map]
  rfl

theorem size_erase_add_one {t : Table κ α} (distinct : t.keys.Nodup) {key : κ}
    (present : (t.get? key).isSome) : (t.erase key).size + 1 = t.size := by
  have member : key ∈ t.keys := by
    by_contra absent
    rw [(t.get?_eq_none_iff key).mpr absent] at present
    cases present
  have others : t.keys.filter (· ≠ key) = t.keys.erase key := by
    rw [distinct.erase_eq_filter]
    exact List.filter_congr fun _ _ => decide_not
  rw [size_eq, size_eq, keys_erase, others, List.length_erase_of_mem member]
  exact Nat.sub_add_cancel (List.length_pos_of_mem member)

theorem size_modify {t : Table κ α} (distinct : t.keys.Nodup) (key : κ) (change : α → α) :
    (t.modify key change).size = t.size := by
  unfold modify
  split
  next value found => exact size_erase_add_one distinct (Option.isSome_of_eq_some found)
  next absent => rfl

/-! ## How many keys share a value -/

section Tally

variable [DecidableEq α]

/-- The number of keys with a value. -/
def tally (t : Table κ α) (value : α) : Nat :=
  t.entries.countP fun entry => entry.2 = value

theorem tally_insert (t : Table κ α) (key : κ) (value counted : α) :
    (t.insert key value).tally counted =
      (t.erase key).tally counted + if value = counted then 1 else 0 := by
  unfold tally insert
  rw [List.countP_cons]
  by_cases same : value = counted
  · simp [same]
  · simp [same]

/-- Erasing a key takes its value away once, and nothing else. -/
theorem tally_erase_add {t : Table κ α} (distinct : t.keys.Nodup) {key : κ} {value : α}
    (found : t.get? key = some value) (counted : α) :
    (t.erase key).tally counted + (if value = counted then 1 else 0) = t.tally counted := by
  rcases t with ⟨entries⟩
  induction entries with
  | nil => cases found
  | cons entry rest inductionHypothesis =>
      have parts : entry.1 ∉ rest.map (·.1) ∧ (rest.map (·.1)).Nodup :=
        List.nodup_cons.mp distinct
      by_cases same : entry.1 = key
      · have absent : (⟨rest⟩ : Table κ α).get? key = none :=
          (get?_eq_none_iff _ key).mpr (same ▸ parts.1)
        have kept : rest.filter (fun other => decide (other.1 ≠ key)) = rest :=
          congrArg Table.entries (erase_of_get?_eq_none absent)
        have held : entry.2 = value := by
          simpa [get?, same] using found
        simp only [tally, erase, List.filter_cons, same, ne_eq, not_true_eq_false, decide_false,
          Bool.false_eq_true, if_false, List.countP_cons, held]
        simp only [ne_eq] at kept
        rw [kept]
        by_cases counts : value = counted <;> simp [counts]
      · have tail : (⟨rest⟩ : Table κ α).get? key = some value := by
          simpa [get?, List.find?_cons, same] using found
        have smaller := inductionHypothesis parts.2 tail
        simp only [tally, erase] at smaller
        simp only [tally, erase, List.filter_cons, ne_eq, same, not_false_eq_true, decide_true,
          if_true, List.countP_cons]
        simp only [ne_eq] at smaller
        omega

/-- A value that some key has is counted. -/
theorem tally_pos {t : Table κ α} {key : κ} {value : α} (found : t.get? key = some value) :
    0 < t.tally value :=
  List.countP_pos_iff.mpr ⟨(key, value), mem_of_get? found, decide_eq_true rfl⟩

end Tally

end Table
end Bayeux
