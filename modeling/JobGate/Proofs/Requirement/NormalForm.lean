import JobGate.Proofs.Requirement.Refusal
/-! A requirement that was built is rebuilt from its own parts as it is, and the order of the
values in a clause does not matter: main statement, `build_normal_form`. -/
namespace JobGate.Requirement
variable {key operator : String} {op : Operator} {values values' : List String} {r : Requirement}

theorem mergeSort_congr (hp : values.Perm values') : values.mergeSort = values'.mergeSort :=
  mergeSort_eq_of_perm (hp.trans (List.mergeSort_perm values' _).symm) (sorted_mergeSort values')

theorem WellFormed.mergeSort_values (h : r.WellFormed) : r.values.mergeSort = r.values :=
  mergeSort_eq_of_perm (List.Perm.refl r.values) h.sorted

theorem build_of_wellFormed (h : r.WellFormed) :
    build r.key r.operator.name r.values = .ok r := by
  rw [build_of_accepted h.accepted, h.mergeSort_values]

theorem build_perm (hp : values.Perm values') (hr : build key operator values = .ok r) :
    build key operator values' = .ok r := by
  obtain ⟨op, hop, haccepted, rfl⟩ := build_eq_ok_iff.1 hr
  exact build_eq_ok_iff.2 ⟨op, hop, haccepted.perm hp, by rw [mergeSort_congr hp]⟩

/- The problems of rearranged values. -/

theorem arityProblem?_perm (hp : values.Perm values') :
    arityProblem? op values = arityProblem? op values' := by
  have hnil : values = [] ↔ values' = [] := by
    rw [← List.length_eq_zero_iff, hp.length_eq, List.length_eq_zero_iff]
  cases op with
  | oneOf | noneOf | present | absent => simp only [arityProblem?, hnil]
  | greater | less => simp only [arityProblem?, hp.length_eq]

theorem readableProblems_perm (hp : values.Perm values') :
    (readableProblems key op values).Perm (readableProblems key op values') := by
  rw [readableProblems, readableProblems, arityProblem?_perm hp]
  exact ((hp.filterMap _).append_left _).append (hp.filterMap _)

/-- A requirement that was built is built again from its own key, operator and values. Clauses that
differ in the order of their values, of which none that is compared has too many digits, are built
into one requirement or are refused both, with problems that differ in their order only. -/
theorem build_normal_form :
    (∀ (key operator : String) (values : List String) (r : Requirement),
      build key operator values = .ok r → build r.key r.operator.name r.values = .ok r) ∧
    ∀ (key operator : String) (values values' : List String), values.Perm values' →
      (operator = "Gt" ∨ operator = "Lt" → ∀ v ∈ values, ¬ Numeral.IsOverlong v) →
      (∃ r, build key operator values = .ok r ∧ build key operator values' = .ok r) ∨
        ∃ ps ps', build key operator values = .error (.problems ps) ∧
          build key operator values' = .error (.problems ps') ∧ ps.Perm ps' := by
  refine ⟨fun key operator values r hr => build_of_wellFormed (wellFormed_of_build hr), ?_⟩
  intro key operator values values' hp hv
  cases hop : Operator.ofName? operator with
  | none => exact .inr ⟨_, _, by rw [build, hop], by rw [build, hop], List.Perm.refl _⟩
  | some op =>
    have hshort : op.IsOrder → ∀ v ∈ values, ¬ Numeral.IsOverlong v :=
      fun ho => hv (isOrder_of_name_iff.1 ⟨op, hop, ho⟩)
    have hshort' : op.IsOrder → ∀ v ∈ values', ¬ Numeral.IsOverlong v :=
      fun ho v hv => hshort ho v (hp.mem_iff.2 hv)
    have hps : (readableProblems key op values).Perm (readableProblems key op values') :=
      readableProblems_perm hp
    by_cases hnil : readableProblems key op values = []
    · have hr : build key operator values = .ok ⟨key, op, values.mergeSort⟩ := by
        rw [build_of_known hop hshort, if_pos hnil]
      exact .inl ⟨_, hr, build_perm hp hr⟩
    · have hnil' : readableProblems key op values' ≠ [] := by
        intro he
        rw [he] at hps
        exact hnil hps.eq_nil
      refine .inr ⟨_, _, ?_, ?_, hps⟩
      · rw [build_of_known hop hshort, if_neg hnil]
      · rw [build_of_known hop hshort', if_neg hnil']

/- Two values in either order: of labels, and of integers that they are not, one of them being no
label value either. -/

theorem build_normal_form_swapped :
    build "n" "In" ["b", "a"] = .ok ⟨"n", .oneOf, ["a", "b"]⟩ ∧
    build "n" "In" ["a", "b"] = .ok ⟨"n", .oneOf, ["a", "b"]⟩ ∧
    (∃ r, build "n" "In" ["b", "a"] = .ok r ∧ build r.key r.operator.name r.values = .ok r) ∧
    ∃ ps ps', build "n" "Gt" ["x", "-"] = .error (.problems ps) ∧
      build "n" "Gt" ["-", "x"] = .error (.problems ps') ∧ ps.Perm ps' := by
  obtain ⟨hown, hperm⟩ := build_normal_form
  have hin : "In" = "Gt" ∨ "In" = "Lt" → ∀ v ∈ ["b", "a"], ¬ Numeral.IsOverlong v := by decide
  have hgt : "Gt" = "Gt" ∨ "Gt" = "Lt" → ∀ v ∈ ["x", "-"], ¬ Numeral.IsOverlong v := by
    intro _
    decide
  have hsort : ["b", "a"].mergeSort = ["a", "b"] :=
    mergeSort_eq_of_perm (.swap _ _ []) (by decide)
  have hbuilt : build "n" "In" ["b", "a"] = .ok ⟨"n", .oneOf, ["b", "a"].mergeSort⟩ := rfl
  rw [hsort] at hbuilt
  have hrefused : build "n" "Gt" ["x", "-"] = .error (.problems [.notOneValue .greater,
      .notInteger .greater "x", .notInteger .greater "-", .badValue "-" .malformed]) := rfl
  refine ⟨hbuilt, ?_, ⟨_, hbuilt, hown _ _ _ _ hbuilt⟩, ?_⟩
  · obtain ⟨r, hr, hr'⟩ | ⟨ps, -, hps, -⟩ := hperm "n" "In" ["b", "a"] ["a", "b"] (.swap _ _ []) hin
    · cases hbuilt.symm.trans hr
      exact hr'
    · cases hbuilt.symm.trans hps
  · obtain ⟨r, hr, -⟩ | hps := hperm "n" "Gt" ["x", "-"] ["-", "x"] (.swap _ _ []) hgt
    · cases hrefused.symm.trans hr
    · exact hps

end JobGate.Requirement
