import JobGate.Proofs.Condition.FirstFault
import JobGate.Proofs.Requirement.Selector
/-! The selector of a compiled condition says all that its requirements say: conditions that
compile to one selector compile to the same requirements, whatever was bound. -/
namespace JobGate.Condition
open Traversal

theorem wellFormed_of_compile {c : Condition} {base : String} {data : Bindings}
    {k : CompiledCondition} (h : c.compile base data = .ok k) :
    ∀ r ∈ k.requirements, r.WellFormed := by
  obtain ⟨-, hall⟩ := compile_eq_ok_iff.1 h
  intro r hr
  obtain ⟨p, -, hp⟩ := exists_of_mem_right hall r hr
  obtain ⟨key, op, values, -, -, -, hb⟩ := compileClause_eq_ok_iff.1 hp
  exact Requirement.wellFormed_of_build hb

theorem requirements_eq_of_selector_eq {c c' : Condition} {base base' : String}
    {data data' : Bindings} {k k' : CompiledCondition} (hk : c.compile base data = .ok k)
    (hk' : c'.compile base' data' = .ok k') (h : k.selector = k'.selector) :
    k.requirements = k'.requirements :=
  Requirement.selectors_unique (wellFormed_of_compile hk) (wellFormed_of_compile hk') h

def boundKey : Condition :=
  let values : List Variant := [.literal "b", .literal "", .literal "a", .literal ""]
  ⟨"build", [⟨.placeholder "k", .literal "In", values⟩, ⟨.literal "x", .literal "Exists", []⟩]⟩

def writtenKey : Condition :=
  let values : List Variant := [.literal "", .literal "", .literal "b", .literal "a"]
  ⟨"test", [⟨.literal "app/env", .literal "In", values⟩, ⟨.literal "x", .literal "Exists", []⟩]⟩

theorem requirements_eq_of_selector_eq_boundKey : ∃ k k' : CompiledCondition,
    boundKey.compile "p" (Dictionary.ofList [("k", .text "app/env")]) = .ok k ∧
    writtenKey.compile "q" Dictionary.empty = .ok k' ∧ k.selector = "app/env in (,,a,b),x" ∧
    k.requirements = k'.requirements := by
  have hsort : ["b", "", "a", ""].mergeSort = ["", "", "a", "b"] :=
    Requirement.mergeSort_eq_of_perm (by decide) (by decide)
  have hsort' : ["", "", "b", "a"].mergeSort = ["", "", "a", "b"] :=
    Requirement.mergeSort_eq_of_perm (by decide) (by decide)
  have h : boundKey.compile "p" (Dictionary.ofList [("k", .text "app/env")]) = .ok
      ⟨"build", [⟨"app/env", .oneOf, ["b", "", "a", ""].mergeSort⟩,
        ⟨"x", .present, [].mergeSort⟩]⟩ := rfl
  have h' : writtenKey.compile "q" Dictionary.empty = .ok
      ⟨"test", [⟨"app/env", .oneOf, ["", "", "b", "a"].mergeSort⟩,
        ⟨"x", .present, [].mergeSort⟩]⟩ := rfl
  rw [hsort, List.mergeSort_nil] at h
  rw [hsort', List.mergeSort_nil] at h'
  exact ⟨_, _, h, h', by decide, requirements_eq_of_selector_eq h h' (by decide)⟩

end JobGate.Condition
