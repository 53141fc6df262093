import JobGate.Proofs.Condition.Outcome
import JobGate.Proofs.Condition.Violation
/-! Validation and instantiation agree. Where a field fails validation has an error; what is left
to fail in a condition without errors is the text of a requirement. -/
namespace JobGate.Condition
variable {base job : String} {data : Bindings} {clause : Clause} {i : Nat} {path : Path}
  {c : Condition} {inputs : Dictionary Input} {w : Workflow}

/-- Where and why a clause is refused. -/
inductive Refused (base : String) (data : Bindings) (clause : Clause) (i : Nat) :
    Path → Obstacle → Prop where
  | key {name : String} (hk : clause.key = .placeholder name) (hn : data.get? name = none) :
      Refused base data clause i ⟨base, .key i⟩ (.unbound (.placeholder name))
  | operator {name : String} (ho : clause.operator = .placeholder name) :
      Refused base data clause i ⟨base, .operator i⟩ .misplacedPlaceholder
  | value {name : String} {j : Nat} (hv : clause.values[j]? = some (.placeholder name)) :
      Refused base data clause i ⟨base, .value i j⟩ .misplacedPlaceholder
  | requirement {op : String} {ps : List Problem} (ho : clause.operator = .literal op) :
      Refused base data clause i ⟨base, .clause i⟩ (.requirement ps)

theorem ClauseFault.refused {obstacle : Obstacle}
    (h : ClauseFault base data clause i (.refused path obstacle)) :
    Refused base data clause i path obstacle := by
  cases declines_iff.1 h with
  | unbound hk hn => exact .key hk hn
  | operator _ ho => exact .operator ho
  | value _ _ hv _ => exact .value hv
  | requirement _ ho _ _ => exact .requirement ho

theorem refused_of_compile {obstacle : Obstacle}
    (h : c.compile base data = .error (.refused path obstacle)) :
    ∃ i clause, c.clauses[i]? = some clause ∧ Refused base data clause i path obstacle := by
  obtain ⟨i, clause, hi, hf, -⟩ := compile_eq_error_iff.1 h
  exact ⟨i, clause, hi, hf.refused⟩

theorem error_of_violation {p : Place} {cause : Cause} (h : Violation inputs c.clauses p cause) :
    (⟨⟨baseOf job, p⟩, cause⟩ : Error) ∈ errors job (some c) inputs w :=
  mem_errors_iff.2 ⟨rfl, .inl h⟩

theorem error_of_misplaced (inputs : Dictionary Input) (w : Workflow)
    (h : c.compile (baseOf job) data = .error (.refused path .misplacedPlaceholder)) :
    (⟨path, .misplacedPlaceholder⟩ : Error) ∈ errors job (some c) inputs w := by
  obtain ⟨i, clause, hi, hr⟩ := refused_of_compile h
  cases hr with
  | operator ho => exact error_of_violation (.operator hi (by rw [ho]; rfl))
  | value hv => exact error_of_violation (.value hi hv rfl)

theorem error_of_requirement {ps : List Problem} (inputs : Dictionary Input) (w : Workflow)
    (h : c.compile (baseOf job) data = .error (.refused path (.requirement ps))) :
    ∃ i clause op, path = ⟨baseOf job, .clause i⟩ ∧ c.clauses[i]? = some clause ∧
      clause.operator = .literal op ∧ (op ∉ Operator.names →
        (⟨⟨baseOf job, .operator i⟩, .unknownOperator op⟩ : Error) ∈
          errors job (some c) inputs w) := by
  obtain ⟨i, clause, hi, hr⟩ := refused_of_compile h
  cases hr with
  | @requirement op _ ho =>
    refine ⟨i, clause, op, rfl, hi, ho, ?_⟩
    intro hop
    have hcause : operatorCause? clause.operator = some (.unknownOperator op) := by
      rw [ho, operatorCause?, if_neg hop]
    exact error_of_violation (.operator hi hcause)

/-- Every input that is declared as a string has a value. -/
def BindsStrings (inputs : Dictionary Input) (data : Bindings) : Prop :=
  ∀ name input, inputs.get? name = some input → input.type.name = "string" → data.contains name

theorem error_of_unbound {v : Variant} (w : Workflow) (hb : BindsStrings inputs data)
    (h : c.compile (baseOf job) data = .error (.refused path (.unbound v))) :
    ∃ i cause, path = ⟨baseOf job, .key i⟩ ∧
      (⟨path, cause⟩ : Error) ∈ errors job (some c) inputs w := by
  obtain ⟨i, clause, hi, hr⟩ := refused_of_compile h
  cases hr with
  | @key name hk hn =>
    cases hc : keyCause? inputs clause.key with
    | some cause => exact ⟨i, cause, rfl, error_of_violation (.key hi hc)⟩
    | none =>
      obtain ⟨input, hin, hs⟩ := keyCause?_eq_none_iff.1 hc name hk
      have hbound := hb name input hin hs
      rw [Dictionary.contains, hn] at hbound
      cases hbound

/- Conditions with errors do not compile. -/

theorem compileClause_of_compile {k : CompiledCondition} (h : c.compile base data = .ok k)
    (hi : c.clauses[i]? = some clause) : ∃ r, compileClause base data clause i = .ok r := by
  obtain ⟨-, hall⟩ := compile_eq_ok_iff.1 h
  have hmem : (clause, i) ∈ c.clauses.zipIdx := List.mem_zipIdx_iff_getElem?.2 hi
  obtain ⟨r, -, hr⟩ := Traversal.exists_of_mem_left hall _ hmem
  exact ⟨r, hr⟩

theorem not_compiles_of_violation {p : Place} {cause : Cause}
    (h : Violation inputs c.clauses p cause) (hp : ∀ i, p ≠ .key i) (k : CompiledCondition) :
    c.compile base data ≠ .ok k := by
  intro hk
  cases h with
  | key hi hc => exact hp _ rfl
  | operator hi hc =>
    obtain ⟨r, hr⟩ := compileClause_of_compile hk hi
    obtain ⟨key, op, values, -, ho, -, hb⟩ := compileClause_eq_ok_iff.1 hr
    have hnone := operatorCause?_eq_none_iff.2 ⟨op, ho, Requirement.known_of_build hb⟩
    rw [hc] at hnone
    cases hnone
  | value hi hj hc =>
    obtain ⟨r, hr⟩ := compileClause_of_compile hk hi
    obtain ⟨key, op, values, -, -, hv, -⟩ := compileClause_eq_ok_iff.1 hr
    rw [hv, List.getElem?_map, Option.map_eq_some_iff] at hj
    obtain ⟨s, -, rfl⟩ := hj
    cases hc

theorem not_compiles_of_error {e : Error} {p : Place} (he : e ∈ errors job (some c) inputs w)
    (ht : e.path.text = (Path.mk (baseOf job) p).text) (hw : p ≠ .whole) (hp : ∀ i, p ≠ .key i)
    (k : CompiledCondition) : c.compile base data ≠ .ok k := by
  obtain ⟨hbase, hplace⟩ := mem_errors_iff.1 he
  obtain ⟨⟨_, p'⟩, cause⟩ := e
  subst hbase
  obtain ⟨-, hpp⟩ := text_inj ht
  simp only at hpp hplace
  subst hpp
  obtain hv | ⟨hwhole, -⟩ := hplace
  · exact not_compiles_of_violation hv hp k
  · exact absurd hwhole hw

theorem failure_of_no_errors {f : Failure} (hb : BindsStrings inputs data)
    (he : errors job (some c) inputs w = []) (h : c.compile (baseOf job) data = .error f) :
    (∃ n, f = .numeral n) ∨ ∃ i clause op ps,
      f = .refused ⟨baseOf job, .clause i⟩ (.requirement ps) ∧ c.clauses[i]? = some clause ∧
        clause.operator = .literal op ∧ op ∈ Operator.names := by
  cases f with
  | numeral n => exact .inl ⟨n, rfl⟩
  | refused path obstacle =>
    cases obstacle with
    | unbound v =>
      obtain ⟨i, cause, -, hmem⟩ := error_of_unbound w hb h
      rw [he] at hmem
      cases hmem
    | misplacedPlaceholder =>
      have hmem := error_of_misplaced inputs w h
      rw [he] at hmem
      cases hmem
    | requirement ps =>
      obtain ⟨i, clause, op, rfl, hi, ho, hmem⟩ := error_of_requirement inputs w h
      refine .inr ⟨i, clause, op, ps, rfl, hi, ho, ?_⟩
      by_contra hop
      have hmem := hmem hop
      rw [he] at hmem
      cases hmem

/-- An instantiation that is refused at an operator or a value has the report that validation gives
there; one refused for a requirement whose operator is not known, or for a key that is not bound
while the strings are, is reported at the same clause. A report at an operator or a value excludes
every instantiation. So a condition without errors is refused, with its strings bound, only for
the text of a requirement. -/
theorem validation_agrees_with_compile (job : String) (c : Condition) (inputs : Dictionary Input)
    (w : Workflow) (data : Bindings) :
    (∀ path, c.compile (baseOf job) data = .error (.refused path .misplacedPlaceholder) →
      ∃ e ∈ errors job (some c) inputs w,
        e.report = ⟨path.text, .variantUsage, Obstacle.misplacedPlaceholder.message⟩) ∧
    (∀ path ps, c.compile (baseOf job) data = .error (.refused path (.requirement ps)) →
      ∃ i clause op, path = ⟨baseOf job, .clause i⟩ ∧ c.clauses[i]? = some clause ∧
        clause.operator = .literal op ∧ (op ∉ Operator.names →
          ∃ e ∈ errors job (some c) inputs w,
            e.report.path = (Path.mk (baseOf job) (.operator i)).text ∧
            e.report.kind = .operator)) ∧
    (∀ path v, BindsStrings inputs data →
      c.compile (baseOf job) data = .error (.refused path (.unbound v)) →
      ∃ i, path = ⟨baseOf job, .key i⟩ ∧
        ∃ e ∈ errors job (some c) inputs w, e.report.path = path.text) ∧
    (∀ e ∈ errors job (some c) inputs w, ∀ i,
      (e.report.path = (Path.mk (baseOf job) (.operator i)).text ∨
        ∃ j, e.report.path = (Path.mk (baseOf job) (.value i j)).text) →
      ∀ base data k, c.compile base data ≠ .ok k) ∧
    (errors job (some c) inputs w = [] → BindsStrings inputs data →
      ∀ f, c.compile (baseOf job) data = .error f → (∃ n, f = .numeral n) ∨
        ∃ i clause op ps, f = .refused ⟨baseOf job, .clause i⟩ (.requirement ps) ∧
          c.clauses[i]? = some clause ∧ clause.operator = .literal op ∧ op ∈ Operator.names) := by
  refine ⟨?_, ?_, ?_, ?_, fun he hb f => failure_of_no_errors hb he⟩
  · intro path h
    exact ⟨_, error_of_misplaced inputs w h, rfl⟩
  · intro path ps h
    obtain ⟨i, clause, op, hp, hi, ho, hmem⟩ := error_of_requirement inputs w h
    exact ⟨i, clause, op, hp, hi, ho, fun hop => ⟨_, hmem hop, rfl, rfl⟩⟩
  · intro path v hb h
    obtain ⟨i, cause, hp, hmem⟩ := error_of_unbound w hb h
    exact ⟨i, hp, _, hmem, rfl⟩
  · intro e he i ht base data k
    obtain ht | ⟨j, ht⟩ := ht
    · exact not_compiles_of_error he ht (by simp) (by simp) k
    · exact not_compiles_of_error he ht (by simp) (by simp) k

/- A condition of one clause, in a workflow around which nothing is wrong. -/

def oneClause (key operator : Variant) (values : List Variant) : Condition :=
  ⟨"build", [⟨key, operator, values⟩]⟩

def buildAndTest : Workflow :=
  let build : Job := ⟨"build", none, [], none, [], none⟩
  let test : Job := ⟨"test", none, [], none, [⟨"build", .whole⟩], none⟩
  ⟨"", .empty, .ofList [("build", build), ("test", test)]⟩

theorem bindsStrings_empty (data : Bindings) : BindsStrings .empty data := by
  intro name input h
  cases h

theorem validation_agrees_with_compile_oneClause :
    (∃ e ∈ errors "test" (some (oneClause (.literal "k") (.literal "In") [.placeholder "v"]))
      .empty buildAndTest, e.report = ⟨"workflow.test.condition.resultmatch[0].value[0]",
        .variantUsage, "should not be variant"⟩) ∧
    (∃ e ∈ errors "test" (some (oneClause (.literal "k") (.literal "in") [])) .empty buildAndTest,
      e.report.path = "workflow.test.condition.resultmatch[0].operator" ∧
        e.report.kind = .operator) ∧
    (∃ e ∈ errors "test" (some (oneClause (.placeholder "n") (.literal "Exists") [])) .empty
      buildAndTest, e.report.path = "workflow.test.condition.resultmatch[0].key") ∧
    (∀ base data k,
      (oneClause (.placeholder "n") (.placeholder "op") []).compile base data ≠ .ok k) ∧
    ∃ i op ps, (oneClause (.literal "k") (.literal "In") []).compile (baseOf "test") .empty =
      .error (.refused ⟨baseOf "test", .clause i⟩ (.requirement ps)) ∧ op ∈ Operator.names := by
  refine ⟨?_, ?_, ?_, ?_, ?_⟩
  · have h : (oneClause (.literal "k") (.literal "In") [.placeholder "v"]).compile (baseOf "test")
        .empty = .error (.refused ⟨baseOf "test", .value 0 0⟩ .misplacedPlaceholder) := rfl
    exact (validation_agrees_with_compile _ _ _ _ _).1 _ h
  · have h : (oneClause (.literal "k") (.literal "in") []).compile (baseOf "test") .empty =
        .error (.refused ⟨baseOf "test", .clause 0⟩ (.requirement [.unknownOperator "in"])) := rfl
    obtain ⟨i, clause, op, hp, hi, ho, hmem⟩ :=
      (validation_agrees_with_compile "test" _ .empty buildAndTest _).2.1 _ _ h
    cases hp
    cases hi
    cases ho
    exact hmem (by decide)
  · have h : (oneClause (.placeholder "n") (.literal "Exists") []).compile (baseOf "test") .empty =
        .error (.refused ⟨baseOf "test", .key 0⟩ (.unbound (.placeholder "n"))) := rfl
    obtain ⟨i, -, hmem⟩ := (validation_agrees_with_compile "test" _ .empty buildAndTest _).2.2.1 _ _
      (bindsStrings_empty _) h
    exact hmem
  · have hmem : (⟨⟨baseOf "test", .operator 0⟩, .misplacedPlaceholder⟩ : Error) ∈ errors "test"
        (some (oneClause (.placeholder "n") (.placeholder "op") [])) .empty buildAndTest := by
      decide
    exact (validation_agrees_with_compile _ _ _ _ .empty).2.2.2.1 _ hmem 0 (.inl rfl)
  · have h : (oneClause (.literal "k") (.literal "In") []).compile (baseOf "test") .empty =
        .error (.refused ⟨baseOf "test", .clause 0⟩ (.requirement [.noValues .oneOf])) := rfl
    have he : errors "test" (some (oneClause (.literal "k") (.literal "In") [])) .empty
        buildAndTest = [] := by decide
    obtain ⟨n, hn⟩ | ⟨i, clause, op, ps, hf, -, -, hop⟩ :=
      (validation_agrees_with_compile _ _ _ _ .empty).2.2.2.2 he (bindsStrings_empty _) _ h
    · cases hn
    · exact ⟨i, op, ps, h.trans (congrArg _ hf), hop⟩

end JobGate.Condition
