namespace Bayeux

/-!
# Computations that may fail

A computation that is put together from others succeeds if they all do, and its result comes
from theirs.  Nothing here depends on what a fault is.
-/

variable {ε α β : Type}

theorem bind_eq_ok_iff {first : Except ε α} {next : α → Except ε β} {result : β} :
    first.bind next = .ok result ↔ ∃ value, first = .ok value ∧ next value = .ok result := by
  constructor
  · intro succeeds
    cases first with
    | error fault => cases succeeds
    | ok value => exact ⟨value, rfl, succeeds⟩
  · rintro ⟨value, rfl, continues⟩
    exact continues

theorem map_eq_ok_iff {first : Except ε α} {f : α → β} {result : β} :
    first.map f = .ok result ↔ ∃ value, first = .ok value ∧ f value = result := by
  constructor
  · intro succeeds
    cases first with
    | error fault => cases succeeds
    | ok value => exact ⟨value, rfl, Except.ok.inj succeeds⟩
  · rintro ⟨value, rfl, rfl⟩
    rfl

/-- Another report of a fault makes no success of it. -/
theorem eq_ok_of_mapError {ε' : Type} {first : Except ε α} {report : ε → ε'} {result : α}
    (succeeds : first.mapError report = .ok result) : first = .ok result := by
  cases first with
  | error fault => cases succeeds
  | ok value => exact congrArg Except.ok (Except.ok.inj succeeds)

/-! ## Lists of computations -/

section Lists

variable {f : α → Except ε β} {list : List α}

/-- The results of a list of computations that all succeed come from its members. -/
theorem exists_of_mem_mapM {results : List β} (succeeds : list.mapM f = .ok results) {result : β}
    (member : result ∈ results) : ∃ value ∈ list, f value = .ok result := by
  induction list generalizing results with
  | nil =>
      cases succeeds
      cases member
  | cons head rest inductionHypothesis =>
      rw [List.mapM_cons] at succeeds
      rcases bind_eq_ok_iff.mp succeeds with ⟨value, first, succeeds⟩
      rcases bind_eq_ok_iff.mp succeeds with ⟨values, others, succeeds⟩
      cases succeeds
      rcases List.mem_cons.mp member with same | later
      · exact ⟨head, List.mem_cons_self, same ▸ first⟩
      · rcases inductionHypothesis others later with ⟨source, listed, computed⟩
        exact ⟨source, List.mem_cons_of_mem head listed, computed⟩

/-- One failure makes a list of computations fail, wherever it stands. -/
theorem mapM_eq_error_iff :
    (∃ fault, list.mapM f = .error fault) ↔ ∃ value ∈ list, ∃ fault, f value = .error fault := by
  induction list with
  | nil =>
      constructor
      · rintro ⟨_, fails⟩
        cases fails
      · rintro ⟨_, member, _⟩
        cases member
  | cons head rest inductionHypothesis =>
      rw [List.mapM_cons]
      cases first : f head with
      | error fault =>
          exact iff_of_true ⟨fault, rfl⟩ ⟨head, List.mem_cons_self, fault, first⟩
      | ok result =>
          have others : (∃ value ∈ head :: rest, ∃ fault, f value = .error fault) ↔
              ∃ fault, rest.mapM f = .error fault := by
            rw [inductionHypothesis]
            simp [first]
          rw [others]
          cases rest.mapM f with
          | error fault => exact iff_of_true ⟨fault, rfl⟩ ⟨fault, rfl⟩
          | ok results => exact iff_of_false nofun nofun

end Lists

end Bayeux
