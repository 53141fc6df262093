import JobGate.Proofs.Requirement.Evaluation
/-! Which clauses are accepted. A bound has to be an integer and a value of a label, so it is one
to 63 digits (`isInteger_and_isValue_iff`). Main statement: `build_accepts_iff`. -/
namespace JobGate.Requirement
variable {key operator : String} {op : Operator} {values : List String} {v : String}

/-- One to 63 ASCII digits. -/
def IsBound (s : String) : Prop :=
  s.toList ≠ [] ∧ s.toList.length ≤ 63 ∧ ∀ c ∈ s.toList, '0' ≤ c ∧ c ≤ '9'

/-- The operators, by name, and the values that each of them takes. -/
def Takes (operator : String) (values : List String) : Prop :=
  (operator = "In" ∨ operator = "NotIn") ∧ values ≠ [] ∨
    (operator = "Exists" ∨ operator = "DoesNotExist") ∧ values = [] ∨
    (operator = "Gt" ∨ operator = "Lt") ∧ ∃ bound, values = [bound] ∧ IsBound bound

/- Bounds. -/

theorem isDigit_iff {c : Char} : Numeral.isDigit c ↔ '0' ≤ c ∧ c ≤ '9' := by
  simp [Numeral.isDigit]

theorem ne_minus_of_isValue (h : Label.IsValue v.toList) : ∀ c ∈ v.toList.head?, c ≠ '-' := by
  intro c hc
  obtain hnil | hname := h
  · rw [hnil] at hc
    cases hc
  · rintro rfl
    exact absurd (hname.head '-' hc) (by decide)

theorem splitMinus_of_isValue (h : Label.IsValue v.toList) :
    Numeral.splitMinus v.toList = (false, v.toList) := by
  have hhead := ne_minus_of_isValue h
  cases hv : v.toList with
  | nil => rfl
  | cons c rest =>
    rw [hv] at hhead
    exact Numeral.splitMinus_of_ne (hhead c rfl)

theorem isName_of_isBound (h : IsBound v) : Label.IsName v.toList := by
  obtain ⟨hne, hlength, hdigits⟩ := h
  have halphanumeric : ∀ c ∈ v.toList, Label.isAlphanumeric c := by
    intro c hc
    simp [Label.isAlphanumeric, Label.isDigit, hdigits c hc]
  refine ⟨hne, hlength, ?_, ?_, ?_⟩
  · intro c hc
    simp [Label.isNameChar, halphanumeric c hc]
  · exact fun c hc => halphanumeric c (List.mem_of_mem_head? hc)
  · exact fun c hc => halphanumeric c (List.mem_of_getLast? hc)

/-- What is read of a value of a label is read of all its characters. -/
theorem readStrict_of_isValue {n : Int} (h : Label.IsValue v.toList) :
    Numeral.readStrict v = .ok (some n) ↔
      (v.toList ≠ [] ∧ ∀ c ∈ v.toList, '0' ≤ c ∧ c ≤ '9') ∧ n = Numeral.decimal v.toList := by
  have hsplit := splitMinus_of_isValue h
  have hlimit : v.toList.length ≤ Numeral.digitLimit := by
    obtain hnil | hname := h
    · simp [hnil]
    · exact hname.length_le.trans (by decide)
  rw [Numeral.readStrict_eq_some_iff, Numeral.IsStrict, Numeral.digitCount, hsplit]
  simp only [List.all_eq_true, isDigit_iff, hlimit, true_and]
  rfl

theorem isInteger_and_isValue_iff : IsInteger v ∧ Label.IsValue v.toList ↔ IsBound v := by
  constructor
  · intro ⟨⟨n, hn⟩, hvalue⟩
    obtain ⟨⟨hne, hdigits⟩, -⟩ := (readStrict_of_isValue hvalue).1 hn
    have hname := hvalue.resolve_left hne
    exact ⟨hne, hname.length_le, hdigits⟩
  · intro h
    have hvalue : Label.IsValue v.toList := .inr (isName_of_isBound h)
    exact ⟨⟨_, (readStrict_of_isValue hvalue).2 ⟨⟨h.1, h.2.2⟩, rfl⟩⟩, hvalue⟩

/- Clauses. -/

theorem exists_of_takes (h : Takes operator values) : ∃ op : Operator, operator = op.name := by
  obtain ⟨h | h, -⟩ | ⟨h | h, -⟩ | ⟨h | h, -⟩ := h
  · exact ⟨.oneOf, h⟩
  · exact ⟨.noneOf, h⟩
  · exact ⟨.present, h⟩
  · exact ⟨.absent, h⟩
  · exact ⟨.greater, h⟩
  · exact ⟨.less, h⟩

theorem takes_name_iff (hvalues : ∀ v ∈ values, Label.IsValue v.toList) :
    Takes op.name values ↔
      op.Admits values.length ∧ (op.IsOrder → ∀ v ∈ values, IsInteger v) := by
  have hbound : (∃ bound, values = [bound] ∧ IsBound bound) ↔
      values.length = 1 ∧ ∀ v ∈ values, IsInteger v := by
    rw [List.length_eq_one_iff]
    constructor
    · intro ⟨bound, hv, hb⟩
      subst hv
      exact ⟨⟨bound, rfl⟩, by simpa using (isInteger_and_isValue_iff.2 hb).1⟩
    · intro ⟨⟨bound, hv⟩, hintegers⟩
      subst hv
      have hmem : bound ∈ [bound] := List.mem_singleton_self bound
      exact ⟨bound, rfl, isInteger_and_isValue_iff.1 ⟨hintegers bound hmem, hvalues bound hmem⟩⟩
  cases op with
  | oneOf | noneOf | present | absent =>
    simp [Takes, Operator.name, Operator.Admits, Operator.IsOrder]
  | greater | less =>
    simp [Takes, Operator.name, Operator.Admits, Operator.IsOrder, hbound]

theorem accepted_iff : Accepted key op values ↔
    Label.IsKey key.toList ∧ (∀ v ∈ values, Label.IsValue v.toList) ∧ Takes op.name values := by
  constructor
  · intro h
    exact ⟨h.key, h.values, (takes_name_iff h.values).2 ⟨h.arity, h.integers⟩⟩
  · intro ⟨hkey, hvalues, htakes⟩
    obtain ⟨harity, hintegers⟩ := (takes_name_iff hvalues).1 htakes
    exact ⟨hkey, harity, hintegers, hvalues⟩

/-- What is built of a clause compares with no negative number. -/
theorem bound_of_build {r : Requirement} (h : build key operator values = .ok r)
    (ho : r.operator.IsOrder) : ∃ n : Nat, r.bound = .ok n := by
  have hwell := wellFormed_of_build h
  obtain ⟨v, n, hv, hn, hbound⟩ := bound_eq_of_wellFormed hwell ho
  have hvalue : Label.IsValue v.toList := hwell.accepted.values v (by simp [hv])
  obtain ⟨-, rfl⟩ := (readStrict_of_isValue hvalue).1 hn
  exact ⟨_, hbound⟩

/-- A clause is accepted exactly if its key is one of labels, all its values are values of labels
and its operator takes them. It is made a requirement with that key and operator and all of the
values, repeated ones too, in ascending order. A bound is never negative, because what starts with
a minus is no value of a label. -/
theorem build_accepts_iff (key operator : String) (values : List String) :
    ((∃ r, build key operator values = .ok r) ↔
      Label.IsKey key.toList ∧ (∀ v ∈ values, Label.IsValue v.toList) ∧ Takes operator values) ∧
    (∀ r, build key operator values = .ok r →
      r.key = key ∧ r.operator.name = operator ∧ r.values.Perm values ∧
      r.values.Pairwise (· ≤ ·) ∧ (r.operator.IsOrder → ∃ n : Nat, r.bound = .ok n)) ∧
    ∀ digits : List Char, valueProblem? (String.ofList ('-' :: digits)) ≠ none := by
  refine ⟨?_, ?_, ?_⟩
  · simp only [build_eq_ok_iff, Operator.ofName?_eq_some_iff, accepted_iff]
    constructor
    · intro ⟨_, op, hop, haccepted, _⟩
      rw [hop]
      exact haccepted
    · intro ⟨hkey, hvalues, htakes⟩
      obtain ⟨op, rfl⟩ := exists_of_takes htakes
      exact ⟨_, op, rfl, ⟨hkey, hvalues, htakes⟩, rfl⟩
  · intro r hr
    obtain ⟨op, hop, -, rfl⟩ := build_eq_ok_iff.1 hr
    exact ⟨rfl, (Operator.ofName?_eq_some_iff.1 hop).symm, List.mergeSort_perm values _,
      sorted_mergeSort values, bound_of_build hr⟩
  · intro digits hnone
    refine ne_minus_of_isValue (valueProblem?_eq_none_iff.1 hnone) '-' ?_ rfl
    rw [String.toList_ofList]
    rfl

/- A value given twice, and a bound with a minus. -/

theorem build_accepts_iff_repeated :
    (∃ r, build "app" "In" ["b", "a", "b"] = .ok r ∧ r.values = ["a", "b", "b"]) ∧
    ¬ ∃ r, build "app" "Gt" ["-5"] = .ok r := by
  constructor
  · obtain ⟨haccepted, hbuilt, -⟩ := build_accepts_iff "app" "In" ["b", "a", "b"]
    have hkey : Label.IsKey "app".toList := keyProblems_eq_nil_iff.1 rfl
    have hvalues : ∀ v ∈ ["b", "a", "b"], Label.IsValue v.toList := by
      simp only [← valueProblem?_eq_none_iff]
      decide
    obtain ⟨r, hr⟩ := haccepted.2 ⟨hkey, hvalues, .inl ⟨.inl rfl, List.cons_ne_nil _ _⟩⟩
    obtain ⟨-, -, hperm, hsorted, -⟩ := hbuilt r hr
    refine ⟨r, hr, ?_⟩
    have hperm : r.values.Perm ["a", "b", "b"] := hperm.trans (.swap "a" "b" ["b"])
    exact hperm.eq_of_pairwise (fun _ _ _ _ => String.le_antisymm) hsorted (by decide)
  · obtain ⟨haccepted, -, hminus⟩ := build_accepts_iff "app" "Gt" ["-5"]
    intro h
    obtain ⟨-, hvalues, -⟩ := haccepted.1 h
    exact hminus ['5'] (valueProblem?_eq_none_iff.2 (hvalues "-5" (List.mem_singleton_self _)))

end JobGate.Requirement
