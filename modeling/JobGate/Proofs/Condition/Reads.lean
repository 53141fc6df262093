import JobGate.Condition.Instantiation
import JobGate.Proofs.Traversal
/-! What a gate reads: of the bindings the texts under the names of its keys, of the labels those
under the keys of its requirements. Runs that agree there end alike
(`compile?_and_holds_of_agree`). -/
namespace JobGate

/- Bindings. -/

/-- The name of a placeholder that stands for the key of a clause. -/
def Condition.HasKeyName (c : Condition) (name : String) : Prop :=
  ∃ clause ∈ c.clauses, clause.key = .placeholder name

/-- The text of what is bound to a name: nothing if the name is not bound. -/
def Bindings.text? (data : Bindings) (name : String) : Option (Except Numeral.Fault String) :=
  (data.get? name).map Value.written

namespace Variant
variable {data data' : Bindings} {v : Variant}

theorem resolve_placeholder (data : Bindings) (name : String) :
    (placeholder name).resolve data =
      (data.text? name).elim (.error (.unbound name)) (Except.mapError .numeral) := by
  rw [resolve, Bindings.text?]
  cases data.get? name <;> rfl

theorem resolve_congr
    (h : ∀ name, v = .placeholder name → data.text? name = data'.text? name) :
    v.resolve data = v.resolve data' := by
  cases v with
  | literal s => rfl
  | placeholder name => rw [resolve_placeholder, resolve_placeholder, h name rfl]

end Variant

namespace Condition
variable {base : String} {data data' : Bindings}

theorem compileClause_congr {clause : Clause} {i : Nat}
    (h : ∀ name, clause.key = .placeholder name →
      data.text? name = data'.text? name) :
    compileClause base data clause i = compileClause base data' clause i := by
  rw [compileClause, compileClause, Variant.resolve_congr h]

theorem compile_congr {c : Condition}
    (h : ∀ name, c.HasKeyName name → data.text? name = data'.text? name) :
    c.compile base data = c.compile base data' := by
  have hclause : ∀ clause ∈ c.clauses, ∀ i,
      compileClause base data clause i = compileClause base data' clause i := by
    intro clause hc i
    exact compileClause_congr fun name hkey => h name ⟨clause, hc, hkey⟩
  have hall : compileClauses base data c.clauses = compileClauses base data' c.clauses := by
    apply Traversal.mapM_congr
    intro p hp
    exact hclause p.1 (Traversal.forall_mem_zipIdx.2 (fun _ ha => ha) p hp) p.2
  rw [compile, compile, hall]

end Condition

/- Labels. -/

namespace Requirement
variable {r : Requirement} {labels labels' : Labels}

theorem isOneOf_congr (h : labels.get? r.key = labels'.get? r.key) :
    r.isOneOf labels = r.isOneOf labels' := by
  rw [isOneOf, isOneOf, h]

theorem compares_congr {holds : Int → Int → Bool} (h : labels.get? r.key = labels'.get? r.key) :
    r.compares holds labels = r.compares holds labels' := by
  rw [compares, compares, h]

theorem holds_congr (h : labels.get? r.key = labels'.get? r.key) :
    r.holds labels = r.holds labels' := by
  have hcontains : labels.contains r.key = labels'.contains r.key := by
    rw [Dictionary.contains, Dictionary.contains, h]
  unfold holds
  cases r.operator with
  | oneOf | noneOf => simp only [isOneOf_congr h]
  | present | absent => simp only [hcontains]
  | greater | less => exact compares_congr h

end Requirement

namespace CompiledCondition
variable {labels labels' : Labels}

theorem holdsAll_congr {rs : List Requirement}
    (h : ∀ r ∈ rs, labels.get? r.key = labels'.get? r.key) :
    holdsAll labels rs = holdsAll labels' rs := by
  induction rs with
  | nil => rfl
  | cons r rs ih =>
    have ⟨hr, hrest⟩ := List.forall_mem_cons.1 h
    rw [holdsAll, holdsAll, Requirement.holds_congr hr, ih hrest]

theorem holds_congr {k : CompiledCondition}
    (h : ∀ r ∈ k.requirements, labels.get? r.key = labels'.get? r.key) :
    k.holds labels = k.holds labels' :=
  holdsAll_congr h

end CompiledCondition

namespace Condition

/-- Bindings that have the same texts under the names of the keys of a condition, or none there,
instantiate it alike. What a condition compiles to is tried alike on labels that agree under the
keys of its requirements. -/
theorem compile?_and_holds_of_agree (base : String) (condition : Option Condition)
    {data data' : Bindings} (hdata : ∀ c ∈ condition, ∀ name, c.HasKeyName name →
      (data.get? name).map Value.written = (data'.get? name).map Value.written) :
    compile? base condition data = compile? base condition data' ∧
    ∀ (k : CompiledCondition) (labels labels' : Labels),
      (∀ r ∈ k.requirements, labels.get? r.key = labels'.get? r.key) →
        k.holds labels = k.holds labels' := by
  constructor
  · cases condition with
    | none => rfl
    | some c =>
      have hcompile : c.compile base data = c.compile base data' := compile_congr (hdata c rfl)
      rw [compile?, compile?, hcompile]
  · intro k labels labels' hlabels
    exact CompiledCondition.holds_congr hlabels

/- A key is bound to a number and to its text, among other names and among none. -/

def numberedKey : Condition :=
  ⟨"build", [⟨.placeholder "k", .literal "Gt", [.literal "5"]⟩,
    ⟨.literal "x", .literal "Exists", []⟩]⟩

def aboveFive : CompiledCondition := ⟨"build", [⟨"7", .greater, ["5"]⟩, ⟨"x", .present, []⟩]⟩

theorem compile?_and_holds_of_agree_numberedKey :
    compile? "p" (some numberedKey) (.ofList [("x", .null), ("k", .scalar (.int 7))]) =
      .ok (some aboveFive) ∧
    aboveFive.holds (.ofList [("x", .text ""), ("k", .text "1"), ("7", .text "6")]) = .ok true := by
  have hagree : ∀ c ∈ some numberedKey, ∀ name, c.HasKeyName name →
      ((Dictionary.ofList [("x", .null), ("k", .scalar (.int 7))]).get? name).map Value.written =
        ((Dictionary.ofList [("k", .text "7")]).get? name).map Value.written := by
    intro c hc name ⟨clause, hclause, hkey⟩
    cases hc
    have hwrite : Numeral.write 7 = .ok "7" := if_pos (by decide +kernel)
    simp only [numberedKey, List.mem_cons, List.not_mem_nil, or_false] at hclause
    obtain rfl | rfl := hclause
    · cases hkey
      exact congrArg some hwrite
    · cases hkey
  obtain ⟨hcompile, hholds⟩ := compile?_and_holds_of_agree "p" (some numberedKey) hagree
  have htext : compile? "p" (some numberedKey) (.ofList [("k", .text "7")]) = .ok (some
      ⟨"build", [⟨"7", .greater, ["5"].mergeSort⟩, ⟨"x", .present, [].mergeSort⟩]⟩) := rfl
  rw [List.mergeSort_singleton, List.mergeSort_nil] at htext
  refine ⟨hcompile.trans htext, ?_⟩
  rw [hholds aboveFive _ (.ofList [("7", .text "6"), ("x", .text "")])]
  · rfl
  · intro r hr
    simp only [aboveFive, List.mem_cons, List.not_mem_nil, or_false] at hr
    obtain rfl | rfl := hr
    · rfl
    · rfl

end Condition
end JobGate
