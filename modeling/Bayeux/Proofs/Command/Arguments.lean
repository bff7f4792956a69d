import Bayeux.Command.Usage
import Bayeux.Proofs.Fallible

namespace Bayeux
namespace Command

/-!
# What reading arguments finds

Nothing is found that no parameter stands for, and no value that its parameter would refuse:
each way to take in an argument keeps to this, whether the value was attached or comes later.
-/

/-- All that was found belongs to a parameter, which accepts the value if it takes one. -/
def Found.Accepted (parameters : List Parameter) (found : Found) : Prop :=
  ∀ name value, (name, value) ∈ found →
    ∃ p ∈ parameters, p.long = name ∧ (p.takesValue = true → p.accepts value = true)

namespace Reading

variable {parameters : List Parameter} {r next : Reading} {p : Parameter} {value : Option String}

/-- A reading that has found what its parameters accept, and that waits for one of them. -/
structure Sound (parameters : List Parameter) (r : Reading) : Prop where
  found : r.found.Accepted parameters
  waiting : ∀ p value, r.waiting = some (p, value) → p ∈ parameters

theorem sound_empty (parameters : List Parameter) : Sound parameters {} where
  found := nofun
  waiting := nofun

theorem Sound.record (sound : r.Sound parameters) (known : p ∈ parameters)
    (recorded : r.record p value = .ok next) : next.Sound parameters := by
  unfold Reading.record at recorded
  split at recorded
  next => cases recorded
  next present =>
    split at recorded
    next => cases recorded
    next =>
      split at recorded
      next => cases recorded
      next accepted =>
        cases recorded
        refine ⟨?_, sound.waiting⟩
        intro name text listed
        rcases List.mem_append.mp listed with before | here
        · exact sound.found name text before
        · cases List.mem_singleton.mp here
          refine ⟨p, known, rfl, fun takes => ?_⟩
          cases value with
          | none => exact absurd (by rw [takes]; rfl) present
          | some text => simpa using accepted

theorem Sound.flush (sound : r.Sound parameters) (flushed : r.flush = .ok next) :
    next.Sound parameters := by
  unfold Reading.flush at flushed
  split at flushed
  next p value waiting =>
    have idle : Sound parameters { r with waiting := none } := ⟨sound.found, nofun⟩
    exact idle.record (sound.waiting p value waiting) flushed
  next =>
    cases flushed
    exact sound

theorem Sound.start (sound : r.Sound parameters) (known : p ∈ parameters)
    (started : r.start p value = .ok next) : next.Sound parameters := by
  obtain ⟨flushed, flush, started⟩ := bind_eq_ok_iff.mp started
  have sound := sound.flush flush
  by_cases help : p.long = Parameter.help.long
  · rw [if_pos help] at started
    cases started
  · rw [if_neg help] at started
    split at started
    next =>
      cases started
      refine ⟨sound.found, ?_⟩
      rintro _ _ ⟨⟩
      exact known
    next => exact sound.record known started

theorem Sound.long {name : List Char} (sound : r.Sound parameters)
    (read : r.long parameters name = .ok next) : next.Sound parameters := by
  unfold Reading.long at read
  split at read
  next name value _ =>
    split at read
    next => cases read
    next p found =>
      split at read
      next => cases read
      next => exact sound.start (List.mem_of_find?_eq_some found) read

theorem Sound.letters {letters : List Char} (sound : r.Sound parameters)
    (read : r.letters parameters letters = .ok next) : next.Sound parameters := by
  induction letters generalizing r with
  | nil =>
      cases read
      exact sound
  | cons c rest inductionHypothesis =>
      unfold Reading.letters at read
      split at read
      next => cases read
      next p found =>
        have known := List.mem_of_find?_eq_some found
        split at read
        next => exact sound.start known read
        next =>
          obtain ⟨middle, started, read⟩ := bind_eq_ok_iff.mp read
          exact inductionHypothesis (sound.start known started) read

theorem Sound.plain {argument : String} (sound : r.Sound parameters)
    (read : r.plain argument = .ok next) : next.Sound parameters := by
  unfold Reading.plain at read
  split at read
  next p waiting =>
    cases read
    refine ⟨sound.found, ?_⟩
    rintro _ _ ⟨⟩
    exact sound.waiting p none waiting
  next => cases read

theorem Sound.argument {argument : String} (sound : r.Sound parameters)
    (read : r.argument parameters argument = .ok next) : next.Sound parameters := by
  unfold Reading.argument at read
  split at read
  next => cases read
  next =>
    split at read
    next =>
      cases read
      exact ⟨sound.found, sound.waiting⟩
    next => exact sound.long read
    next =>
      split at read
      next => exact sound.letters read
      next => exact sound.plain read
    next => exact sound.plain read

theorem Sound.arguments {arguments : List String} (sound : r.Sound parameters)
    (read : arguments.foldlM (Reading.argument parameters) r = .ok next) :
    next.Sound parameters := by
  induction arguments generalizing r with
  | nil =>
      cases read
      exact sound
  | cons argument rest inductionHypothesis =>
      rw [List.foldlM_cons] at read
      obtain ⟨middle, first, read⟩ := bind_eq_ok_iff.mp read
      exact inductionHypothesis (sound.argument first) read

end Reading

/-- Whatever the arguments are, what is read from them is accepted. -/
theorem read_accepted {parameters : List Parameter} {arguments : List String} {found : Found}
    (succeeds : read parameters arguments = .ok found) :
    found.Accepted (Parameter.help :: parameters) := by
  obtain ⟨reading, read, succeeds⟩ := bind_eq_ok_iff.mp succeeds
  obtain ⟨flushed, flush, same⟩ := bind_eq_ok_iff.mp succeeds
  cases same
  exact (((Reading.sound_empty _).arguments read).flush flush).found

end Command
end Bayeux
