import JobGate.Proofs.Numeral.Reading
import JobGate.Proofs.Requirement.Built
/-! What becomes of a clause that is not built. The values that are compared are read before
anything is told, so one with too many digits is a fault of its own (`build_eq_numeral_iff`). Every
other clause is refused with all that is wrong with it (`build_of_known`). -/
namespace JobGate.Requirement
variable {key operator : String} {op : Operator} {values : List String} {f : Numeral.Fault}

def firstOverlong? (values : List String) : Option String :=
  values.find? (fun v => Numeral.IsOverlong v)

theorem notIntegers_eq_error_iff : notIntegers op values = .error f ↔
    ∃ v, firstOverlong? values = some v ∧ f = .tooManyDigits (Numeral.digitCount v) := by
  induction values with
  | nil => simp [notIntegers, firstOverlong?]
  | cons value rest ih =>
    rw [notIntegers, firstOverlong?]
    cases hv : Numeral.readStrict value with
    | error fault =>
      obtain ⟨hlong, rfl⟩ := Numeral.readStrict_eq_error_iff.1 hv
      simp [List.find?_cons_of_pos, hlong, bind, Except.bind, eq_comm]
    | ok read =>
      have hlong : ¬ Numeral.IsOverlong value := Numeral.readStrict_eq_ok_iff_not_overlong.1 ⟨_, hv⟩
      rw [List.find?_cons_of_neg (by simpa using hlong), ← firstOverlong?, ← ih]
      cases notIntegers op rest <;> simp [bind, Except.bind, pure, Except.pure]

theorem problems_eq_error_iff : problems key op values = .error f ↔ op.IsOrder ∧
    ∃ v, firstOverlong? values = some v ∧ f = .tooManyDigits (Numeral.digitCount v) := by
  have hmap : problems key op values = .error f ↔ integerProblems op values = .error f := by
    rw [problems]
    cases integerProblems op values <;> simp [Except.map]
  rw [hmap]
  cases op with
  | oneOf | noneOf | present | absent => simp [integerProblems, Operator.IsOrder]
  | greater | less => simp [integerProblems, Operator.IsOrder, notIntegers_eq_error_iff]

def integerProblem? (op : Operator) (value : String) : Option Problem :=
  match op with
  | .greater | .less => if Numeral.IsStrict value.toList then none else some (.notInteger op value)
  | _ => none

theorem notIntegers_of_not_overlong (ho : op.IsOrder)
    (hv : ∀ v ∈ values, ¬ Numeral.IsOverlong v) :
    notIntegers op values = .ok (values.filterMap (integerProblem? op)) := by
  have hproblem (value : String) : integerProblem? op value =
      if Numeral.IsStrict value.toList then none else some (.notInteger op value) := by
    obtain rfl | rfl := ho <;> rfl
  induction values with
  | nil => rfl
  | cons value rest ih =>
    obtain ⟨hvalue, hrest⟩ := List.forall_mem_cons.1 hv
    obtain ⟨read, hread⟩ := Numeral.readStrict_eq_ok_iff_not_overlong.2 hvalue
    have hnone : read = none ↔ ¬ Numeral.IsStrict value.toList := by
      rw [← Numeral.readStrict_eq_none_iff, hread, Except.ok.injEq]
    rw [notIntegers, hread, ih hrest, List.filterMap_cons, hproblem]
    by_cases hstrict : Numeral.IsStrict value.toList
    · obtain ⟨n, rfl⟩ := Option.ne_none_iff_exists'.1 (fun he => hnone.1 he hstrict)
      rw [if_pos hstrict]
      rfl
    · rw [if_neg hstrict, hnone.2 hstrict]
      rfl

def readableProblems (key : String) (op : Operator) (values : List String) : List Problem :=
  keyProblems key ++ (arityProblem? op values).toList ++ values.filterMap (integerProblem? op) ++
    valueProblems values

theorem problems_of_not_overlong (hv : op.IsOrder → ∀ v ∈ values, ¬ Numeral.IsOverlong v) :
    problems key op values = .ok (readableProblems key op values) := by
  have hintegers : integerProblems op values = .ok (values.filterMap (integerProblem? op)) := by
    cases op with
    | oneOf | noneOf | present | absent =>
      have hnone : values.filterMap (fun _ : String => (none : Option Problem)) = [] := by simp
      exact congrArg Except.ok hnone.symm
    | greater => exact notIntegers_of_not_overlong (.inl rfl) (hv (.inl rfl))
    | less => exact notIntegers_of_not_overlong (.inr rfl) (hv (.inr rfl))
  rw [problems, hintegers]
  rfl

theorem build_of_known (hop : Operator.ofName? operator = some op)
    (hv : op.IsOrder → ∀ v ∈ values, ¬ Numeral.IsOverlong v) :
    build key operator values = if readableProblems key op values = [] then
      .ok ⟨key, op, values.mergeSort⟩ else .error (.problems (readableProblems key op values)) := by
  simp only [build, hop, problems_of_not_overlong hv]
  cases readableProblems key op values with
  | nil => rfl
  | cons p ps => rfl

theorem isOrder_of_name_iff : (∃ op, Operator.ofName? operator = some op ∧ op.IsOrder) ↔
    operator = "Gt" ∨ operator = "Lt" := by
  simp only [Operator.ofName?_eq_some_iff]
  constructor
  · rintro ⟨op, rfl, ho⟩
    exact Operator.isOrder_iff_name.1 ho
  · rintro (rfl | rfl)
    · exact ⟨.greater, rfl, .inl rfl⟩
    · exact ⟨.less, rfl, .inr rfl⟩

theorem build_eq_numeral_iff : build key operator values = .error (.numeral f) ↔
    (operator = "Gt" ∨ operator = "Lt") ∧
      ∃ v, firstOverlong? values = some v ∧ f = .tooManyDigits (Numeral.digitCount v) := by
  rw [← isOrder_of_name_iff, build]
  cases Operator.ofName? operator with
  | none => simp
  | some op =>
    have hproblems : problems key op values = .error f ↔ _ := problems_eq_error_iff
    simp only [Option.some.injEq, exists_eq_left', ← hproblems]
    cases problems key op values with
    | error fault => simp
    | ok ps => cases ps <;> simp

end JobGate.Requirement
