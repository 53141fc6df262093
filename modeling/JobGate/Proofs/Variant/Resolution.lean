import JobGate.Proofs.Traversal
import JobGate.Variant.Basic
/-! What a field comes to under bindings. `TextOf` says which text a variant stands for; a variant
without one is a placeholder that is not bound, or is bound to a value that has no text. -/
namespace JobGate.Variant
open Traversal
variable {data : Bindings} {v : Variant} {s : String}

/-- The text that a variant stands for: a literal its own, a placeholder that of the value which is
bound to its name, just as it is. -/
inductive TextOf (data : Bindings) : Variant → String → Prop where
  | literal (s : String) : TextOf data (.literal s) s
  | bound {name s : String} {w : Value} (hn : data.get? name = some w) (hw : w.written = .ok s) :
      TextOf data (.placeholder name) s

theorem resolve_eq_ok_iff : v.resolve data = .ok s ↔ TextOf data v s := by
  cases v with
  | literal t =>
    constructor
    · intro h
      cases h
      exact .literal s
    · intro h
      cases h
      rfl
  | placeholder name =>
    rw [resolve]
    cases hn : data.get? name with
    | none =>
      constructor
      · intro h
        cases h
      · intro h
        cases h with
        | bound hn' hw => cases hn.symm.trans hn'
    | some w =>
      rw [mapError_eq_ok_iff]
      constructor
      · exact .bound hn
      · intro h
        cases h with
        | bound hn' hw =>
          cases hn.symm.trans hn'
          exact hw

theorem resolve_eq_unbound_iff {name : String} :
    v.resolve data = .error (.unbound name) ↔ v = .placeholder name ∧ data.get? name = none := by
  cases v with
  | literal t => simp [resolve]
  | placeholder name' =>
    rw [resolve]
    cases hn : data.get? name' with
    | none =>
      constructor
      · intro h
        cases h
        exact ⟨rfl, hn⟩
      · intro ⟨he, _⟩
        cases he
        rfl
    | some w =>
      constructor
      · intro h
        obtain ⟨f, -, hf⟩ := mapError_eq_error_iff.1 h
        cases hf
      · intro ⟨he, hn'⟩
        cases he
        cases hn.symm.trans hn'

theorem resolve_eq_numeral_iff {f : Numeral.Fault} :
    v.resolve data = .error (.numeral f) ↔
      ∃ name w, v = .placeholder name ∧ data.get? name = some w ∧ w.written = .error f := by
  cases v with
  | literal t => simp [resolve]
  | placeholder name =>
    rw [resolve]
    cases hn : data.get? name with
    | none => simp [hn]
    | some w => simp [hn, mapError_eq_error_iff, eq_comm]

end JobGate.Variant
