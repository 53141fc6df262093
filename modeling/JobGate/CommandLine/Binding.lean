import JobGate.CommandLine.Usage
import JobGate.Dictionary
import JobGate.Text.Cut
/-! Bindings on the command line. A name goes up to the first equals sign and must not be empty; of
several values for one name the last counts. -/
namespace JobGate.CommandLine

def binding? (s : String) : Option (String × String) :=
  match Text.cut '=' s.toList with
  | none => none
  | some (name, value) =>
    if name = [] then none else some (String.ofList name, String.ofList value)

theorem binding?_eq_some_iff {s name value : String} :
    binding? s = some (name, value) ↔
      s.toList = name.toList ++ '=' :: value.toList ∧ '=' ∉ name.toList ∧ name ≠ "" := by
  constructor
  · intro h
    rw [binding?] at h
    split at h
    · exact absurd h (by simp)
    · rename_i a b hc
      split at h
      · exact absurd h (by simp)
      · rename_i ha
        obtain ⟨rfl, rfl⟩ := Prod.mk.inj (Option.some.inj h)
        have hc := Text.cut_eq_some_iff.1 hc
        exact ⟨by simpa using hc.1, by simpa using hc.2,
          fun he => ha (by simpa using congrArg String.toList he)⟩
  · rintro ⟨hs, hn, he⟩
    have hc := Text.cut_eq_some_iff.2 ⟨hs, hn⟩
    have ha : name.toList ≠ [] := fun h => he (by simpa using congrArg String.ofList h)
    simp [binding?, hc, ha]

def readBinding (s : String) : Except UsageError (String × String) :=
  match binding? s with
  | some b => .ok b
  | none => .error (.malformedBinding s)

def readBindings (ss : List String) : Except UsageError (Dictionary String) :=
  (ss.mapM readBinding).map .ofList

end JobGate.CommandLine
