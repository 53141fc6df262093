import JobGate.Proofs.Label.Expression
import JobGate.Proofs.Numeral.Denotation
import JobGate.Proofs.Requirement.Refusal
/-! The problems that are told of a clause, by relations that do not mention the checks that find
them: those of the key, of the number of values, and of each value as an integer and as a label.
Main statement: `build_tells_every_problem`. -/
namespace JobGate

namespace Label
variable {φ : Type} {limit : Nat} {grammar : Language Char} {empty tooLong malformed f : φ}
  {cs : List Char}

/-- Why a text is refused that has to be of a grammar and may not be too long, and the fault that
stands for it. -/
inductive Refuses (limit : Nat) (grammar : Language Char) (empty tooLong malformed : φ) :
    List Char → φ → Prop where
  | empty : Refuses limit grammar empty tooLong malformed [] empty
  | tooLong {cs : List Char} (h : limit < cs.length) :
      Refuses limit grammar empty tooLong malformed cs tooLong
  | malformed {cs : List Char} (hne : cs ≠ []) (hlength : cs.length ≤ limit) (h : cs ∉ grammar) :
      Refuses limit grammar empty tooLong malformed cs malformed

def IsNoName : List Char → NameFault → Prop := Refuses 63 word .empty .tooLong .malformed
def IsNoDomain : List Char → DomainFault → Prop := Refuses 253 hostName .empty .tooLong .malformed

theorem refuses_iff {ok : Bool} (hok : ok ↔ cs ∈ grammar) :
    Refuses limit grammar empty tooLong malformed cs f ↔
      (if cs = [] then some empty else if limit < cs.length then some tooLong
        else if ok then none else some malformed) = some f := by
  constructor
  · intro h
    cases h with
    | empty => rfl
    | tooLong hlong =>
      have hne : cs ≠ [] := List.ne_nil_of_length_pos (by omega)
      rw [if_neg hne, if_pos hlong]
    | malformed hne hlength hmem =>
      rw [if_neg hne, if_neg (Nat.not_lt.2 hlength), if_neg fun h => hmem (hok.1 h)]
  · intro h
    split at h
    · next hnil =>
      cases h
      exact hnil ▸ .empty
    · next hne =>
      split at h
      · next hlong =>
        cases h
        exact .tooLong hlong
      · next hlength =>
        split at h
        · cases h
        · next hnot =>
          cases h
          exact .malformed hne (Nat.le_of_not_lt hlength) fun hmem => hnot (hok.2 hmem)

theorem nameFault?_eq_some_iff {f : NameFault} : nameFault? cs = some f ↔ IsNoName cs f :=
  (refuses_iff isWord_iff_mem).symm

theorem domainFault?_eq_some_iff {f : DomainFault} : domainFault? cs = some f ↔ IsNoDomain cs f :=
  (refuses_iff isHostName_iff_mem).symm

end Label

namespace Requirement
variable {key : String} {op : Operator} {values : List String} {ps : List Problem}

/- Which problem a part of a clause has. -/

inductive DomainProblem (key : String) : Problem → Prop where
  | refused {domain name : List Char} {f : Label.DomainFault}
      (hkey : key.toList = domain ++ '/' :: name) (hslash : '/' ∉ domain)
      (hf : Label.IsNoDomain domain f) : DomainProblem key (.badKey key (.domain f))

inductive NameProblem (key : String) : Problem → Prop where
  | unqualified {f : Label.NameFault} (hslash : '/' ∉ key.toList)
      (hf : Label.IsNoName key.toList f) : NameProblem key (.badKey key (.name f))
  | qualified {domain name : List Char} {f : Label.NameFault}
      (hkey : key.toList = domain ++ '/' :: name) (hslash : '/' ∉ domain)
      (hf : Label.IsNoName name f) : NameProblem key (.badKey key (.name f))

inductive CountProblem (op : Operator) (count : Nat) : Problem → Prop where
  | none (ho : op = .oneOf ∨ op = .noneOf) (h : count = 0) : CountProblem op count (.noValues op)
  | some (ho : op = .present ∨ op = .absent) (h : count ≠ 0) :
      CountProblem op count (.unexpectedValues op)
  | notOne (ho : op.IsOrder) (h : count ≠ 1) : CountProblem op count (.notOneValue op)

inductive IntegerProblem (op : Operator) : String → Problem → Prop where
  | refused {v : String} (ho : op.IsOrder) (h : ¬ ∃ n, Numeral.Denotes v.toList n) :
      IntegerProblem op v (.notInteger op v)

inductive ValueProblem : String → Problem → Prop where
  | refused {v : String} {f : Label.NameFault} (hne : v ≠ "") (hf : Label.IsNoName v.toList f) :
      ValueProblem v (.badValue v f)

/-- The problems of a clause with a known operator, in no order. -/
def HasProblem (key : String) (op : Operator) (values : List String) (p : Problem) : Prop :=
  DomainProblem key p ∨ NameProblem key p ∨ CountProblem op values.length p ∨
    ∃ v ∈ values, IntegerProblem op v p ∨ ValueProblem v p

/- In which order they are told. -/

/-- What elements have, one after the other; an element that has nothing gives nothing. -/
inductive Collects {α β : Type} (R : α → β → Prop) : List α → List β → Prop where
  | nil : Collects R [] []
  | found {a : α} {b : β} {l : List α} {bs : List β} (h : R a b) (hl : Collects R l bs) :
      Collects R (a :: l) (b :: bs)
  | passed {a : α} {l : List α} {bs : List β} (h : ∀ b, ¬ R a b) (hl : Collects R l bs) :
      Collects R (a :: l) bs

def KeyTold (key : String) (ps : List Problem) : Prop :=
  ∃ domain name : Option Problem, ps = domain.toList ++ name.toList ∧
    (∀ p, domain = some p ↔ DomainProblem key p) ∧ ∀ p, name = some p ↔ NameProblem key p

def Told (key : String) (op : Operator) (values : List String) (ps : List Problem) : Prop :=
  ∃ (keyed : List Problem) (count : Option Problem) (integers labels : List Problem),
    ps = keyed ++ count.toList ++ integers ++ labels ∧ KeyTold key keyed ∧
    (∀ p, count = some p ↔ CountProblem op values.length p) ∧
    Collects (IntegerProblem op) values integers ∧ Collects ValueProblem values labels

theorem collects_filterMap {α β : Type} {R : α → β → Prop} {g : α → Option β}
    (h : ∀ a b, g a = some b ↔ R a b) (l : List α) : Collects R l (l.filterMap g) := by
  induction l with
  | nil => exact .nil
  | cons a l ih =>
    cases hg : g a with
    | none =>
      rw [List.filterMap_cons_none hg]
      exact .passed (fun b hb => by cases hg.symm.trans ((h a b).2 hb)) ih
    | some b =>
      rw [List.filterMap_cons_some hg]
      exact .found ((h a b).1 hg) ih

/- The checks find these problems. -/

def domainProblem? (key : String) : Option Problem :=
  ((Label.splitKey key.toList).1.bind Label.domainFault?).map (fun f => .badKey key (.domain f))

def nameProblem? (key : String) : Option Problem :=
  (Label.nameFault? (Label.splitKey key.toList).2).map (fun f => .badKey key (.name f))

theorem keyProblems_eq (key : String) :
    keyProblems key = (domainProblem? key).toList ++ (nameProblem? key).toList := by
  rw [keyProblems, Label.keyFaults, domainProblem?, nameProblem?, List.map_append]
  congr 1
  · cases (Label.splitKey key.toList).1.bind Label.domainFault? <;> rfl
  · cases Label.nameFault? (Label.splitKey key.toList).2 <;> rfl

theorem domainProblem?_eq_some_iff {p : Problem} :
    domainProblem? key = some p ↔ DomainProblem key p := by
  simp only [domainProblem?, Option.map_eq_some_iff, Option.bind_eq_some_iff,
    Label.domainFault?_eq_some_iff]
  constructor
  · intro h
    obtain ⟨f, ⟨domain, hdomain, hf⟩, rfl⟩ := h
    have hsplit : Label.splitKey key.toList = (some domain, (Label.splitKey key.toList).2) :=
      Prod.ext hdomain rfl
    obtain ⟨hkey, hslash⟩ := Label.splitKey_eq_some_iff.1 hsplit
    exact .refused hkey hslash hf
  · intro h
    cases h with
    | @refused domain name f hkey hslash hf =>
      rw [Label.splitKey_eq_some_iff.2 ⟨hkey, hslash⟩]
      exact ⟨f, ⟨domain, rfl, hf⟩, rfl⟩

theorem nameProblem?_eq_some_iff {p : Problem} : nameProblem? key = some p ↔ NameProblem key p := by
  simp only [nameProblem?, Option.map_eq_some_iff, Label.nameFault?_eq_some_iff]
  constructor
  · intro h
    obtain ⟨f, hf, rfl⟩ := h
    cases hsplit : Label.splitKey key.toList with
    | mk domain? name =>
      rw [hsplit] at hf
      cases domain? with
      | none =>
        obtain ⟨hslash, rfl⟩ := Label.splitKey_eq_none_iff.1 hsplit
        exact .unqualified hslash hf
      | some domain =>
        obtain ⟨hkey, hslash⟩ := Label.splitKey_eq_some_iff.1 hsplit
        exact .qualified hkey hslash hf
  · intro h
    cases h with
    | @unqualified f hslash hf =>
      rw [Label.splitKey_eq_none_iff.2 ⟨hslash, rfl⟩]
      exact ⟨f, hf, rfl⟩
    | @qualified domain name f hkey hslash hf =>
      rw [Label.splitKey_eq_some_iff.2 ⟨hkey, hslash⟩]
      exact ⟨f, hf, rfl⟩

theorem arityProblem?_eq_some_iff {p : Problem} :
    arityProblem? op values = some p ↔ CountProblem op values.length p := by
  cases op with
  | oneOf | noneOf =>
    rw [arityProblem?, Option.ite_none_right_eq_some, Option.some.injEq]
    constructor
    · intro h
      obtain ⟨hnil, rfl⟩ := h
      exact .none (by simp) (List.length_eq_zero_iff.2 hnil)
    · intro h
      cases h with
      | none _ hcount => exact ⟨List.length_eq_zero_iff.1 hcount, rfl⟩
      | some ho _ | notOne ho _ => simp [Operator.IsOrder] at ho
  | present | absent =>
    rw [arityProblem?, Option.ite_none_left_eq_some, Option.some.injEq]
    constructor
    · intro h
      obtain ⟨hne, rfl⟩ := h
      exact .some (by simp) fun hcount => hne (List.length_eq_zero_iff.1 hcount)
    · intro h
      cases h with
      | some _ hcount => exact ⟨fun hnil => hcount (List.length_eq_zero_iff.2 hnil), rfl⟩
      | none ho _ | notOne ho _ => simp [Operator.IsOrder] at ho
  | greater | less =>
    rw [arityProblem?, Option.ite_none_left_eq_some, Option.some.injEq]
    constructor
    · intro h
      obtain ⟨hcount, rfl⟩ := h
      exact .notOne (by simp [Operator.IsOrder]) hcount
    · intro h
      cases h with
      | notOne _ hcount => exact ⟨hcount, rfl⟩
      | none ho _ | some ho _ => simp at ho

theorem integerProblem?_eq_some_iff {v : String} {p : Problem} :
    integerProblem? op v = some p ↔ IntegerProblem op v p := by
  have hproblem : IntegerProblem op v p ↔
      op.IsOrder ∧ ¬ Numeral.IsStrict v.toList ∧ .notInteger op v = p := by
    rw [Numeral.isStrict_iff_exists_denotes]
    constructor
    · intro h
      obtain ⟨ho, h⟩ := h
      exact ⟨ho, h, rfl⟩
    · intro h
      obtain ⟨ho, h, rfl⟩ := h
      exact .refused ho h
  rw [hproblem]
  cases op with
  | oneOf | noneOf | present | absent => simp [integerProblem?, Operator.IsOrder]
  | greater | less => simp [integerProblem?, Operator.IsOrder]

theorem valueProblem?_eq_some_iff {v : String} {p : Problem} :
    valueProblem? v = some p ↔ ValueProblem v p := by
  simp only [valueProblem?, Label.valueFault?, Option.map_eq_some_iff,
    Option.ite_none_left_eq_some, Label.nameFault?_eq_some_iff, String.toList_eq_nil_iff]
  constructor
  · intro h
    obtain ⟨f, ⟨hne, hf⟩, rfl⟩ := h
    exact .refused hne hf
  · intro h
    cases h with
    | refused hne hf => exact ⟨_, ⟨hne, hf⟩, rfl⟩

/- What is told. -/

theorem keyTold_keyProblems (key : String) : KeyTold key (keyProblems key) :=
  ⟨domainProblem? key, nameProblem? key, keyProblems_eq key, fun _ => domainProblem?_eq_some_iff,
    fun _ => nameProblem?_eq_some_iff⟩

theorem told_readableProblems (key : String) (op : Operator) (values : List String) :
    Told key op values (readableProblems key op values) := by
  refine ⟨keyProblems key, arityProblem? op values, values.filterMap (integerProblem? op),
    valueProblems values, rfl, keyTold_keyProblems key, fun _ => arityProblem?_eq_some_iff, ?_, ?_⟩
  · exact collects_filterMap (fun _ _ => integerProblem?_eq_some_iff) values
  · exact collects_filterMap (fun _ _ => valueProblem?_eq_some_iff) values

theorem mem_readableProblems_iff {p : Problem} :
    p ∈ readableProblems key op values ↔ HasProblem key op values p := by
  simp only [readableProblems, keyProblems_eq, valueProblems, List.mem_append, Option.mem_toList,
    List.mem_filterMap, domainProblem?_eq_some_iff, nameProblem?_eq_some_iff,
    arityProblem?_eq_some_iff, integerProblem?_eq_some_iff, valueProblem?_eq_some_iff, HasProblem,
    and_or_left, exists_or, or_assoc]

theorem readableProblems_eq_nil_iff :
    readableProblems key op values = [] ↔ ¬ ∃ p, HasProblem key op values p := by
  rw [List.eq_nil_iff_forall_not_mem, not_exists]
  simp only [mem_readableProblems_iff]

/-- A clause with a known operator, of which no value that is compared has too many digits, is
built exactly if it has no problem, and otherwise all of its problems are told: at most one of the
domain of the key, at most one of its name, at most one of the number of values, then one for each
value that has to be an integer and is none, and then one for each that is no value of a label, as
often as it was given. With another operator a clause is never built; it is told the problems of the
key and the operator, and nothing of the values. -/
theorem build_tells_every_problem (key : String) (values : List String) :
    (∀ op : Operator, (op.IsOrder → ∀ v ∈ values, ¬ Numeral.IsOverlong v) →
      ((∃ refusal, build key op.name values = .error refusal) ↔
        ∃ p, HasProblem key op values p) ∧
      ∃ ps, Told key op values ps ∧ (∀ p, p ∈ ps ↔ HasProblem key op values p) ∧
        build key op.name values =
          if ps = [] then .ok ⟨key, op, values.mergeSort⟩ else .error (.problems ps)) ∧
    ∀ operator, operator ∉ Operator.names → ∃ ps, KeyTold key ps ∧
      build key operator values = .error (.problems (ps ++ [.unknownOperator operator])) := by
  refine ⟨?_, ?_⟩
  · intro op hv
    refine ⟨?_, _, told_readableProblems key op values, fun p => mem_readableProblems_iff,
      build_of_known (Operator.ofName?_name op) hv⟩
    rw [build_of_known (Operator.ofName?_name op) hv]
    split
    · next hnil => simp [readableProblems_eq_nil_iff.1 hnil]
    · next hne => simpa [readableProblems_eq_nil_iff] using hne
  · intro operator hop
    refine ⟨keyProblems key, keyTold_keyProblems key, ?_⟩
    rw [build, Operator.ofName?_eq_none_iff.2 hop]

/- A key without a name behind a domain that is none, too many values, and two that are no integers,
one of them twice. -/

theorem build_tells_every_problem_repeated :
    ∃ ps, Told "Tier/" .greater ["1_0", "-", "1_0"] ps ∧
      build "Tier/" "Gt" ["1_0", "-", "1_0"] = .error (.problems ps) ∧
      ps = [.badKey "Tier/" (.domain .malformed), .badKey "Tier/" (.name .empty),
        .notOneValue .greater, .notInteger .greater "1_0", .notInteger .greater "-",
        .notInteger .greater "1_0", .badValue "-" .malformed] := by
  have hshort : Operator.IsOrder .greater →
      ∀ v ∈ ["1_0", "-", "1_0"], ¬ Numeral.IsOverlong v := by
    intro _
    decide
  obtain ⟨-, ps, htold, -, hbuild⟩ :=
    (build_tells_every_problem "Tier/" ["1_0", "-", "1_0"]).1 .greater hshort
  have hrefused : build "Tier/" Operator.greater.name ["1_0", "-", "1_0"] = .error (.problems
      [.badKey "Tier/" (.domain .malformed), .badKey "Tier/" (.name .empty),
        .notOneValue .greater, .notInteger .greater "1_0", .notInteger .greater "-",
        .notInteger .greater "1_0", .badValue "-" .malformed]) := rfl
  rw [hrefused] at hbuild
  split at hbuild
  · cases hbuild
  · cases hbuild
    exact ⟨_, htold, hrefused, rfl⟩

end Requirement
end JobGate
