import JobGate.Proofs.Condition.Dependency
import JobGate.Proofs.Condition.Locality
import JobGate.Proofs.Dictionary
import JobGate.Proofs.Workflow.Blocks
import Mathlib.Data.List.Sort
/-! Removals from a workflow without errors. A removed job is missed by the conditions that depend
on it, a removed input by the clauses that have it for their key, and nothing else goes wrong: main
statement, `conditionErrors_of_removal`. -/
namespace JobGate

theorem flatMap_ite_singleton {α : Type u} {β : Type v} (p : α → Bool) (f : α → β) (l : List α) :
    l.flatMap (fun a => if p a then [f a] else []) = (l.filter p).map f := by
  induction l with
  | nil => rfl
  | cons a l ih =>
    rw [List.flatMap_cons, List.filter_cons, ih]
    cases p a <;> rfl

namespace Condition
variable {inputs : Dictionary Input} {clause : Clause} {clauses : List Clause} {i : Nat}
variable {w : Workflow} {base job dependency name : String}

/- What one clause and one dependency come to when a name is gone. -/

theorem keyCause?_erase {key : Variant} (h : keyCause? inputs key = none) :
    keyCause? (inputs.erase name) key =
      if key = .placeholder name then some (.undeclared (.placeholder name)) else none := by
  cases key with
  | literal s => rfl
  | placeholder x =>
    by_cases hx : x = name
    · subst hx
      simp [keyCause?, inputCause?]
    · have hsame : keyCause? (inputs.erase name) (.placeholder x) =
          keyCause? inputs (.placeholder x) := by
        apply keyCause?_congr
        rintro _ ⟨⟩
        rw [Dictionary.get?_erase_of_ne hx]
      have hne : Variant.placeholder x ≠ .placeholder name :=
        fun he => hx (Variant.placeholder.inj he)
      rw [hsame, h, if_neg hne]

theorem clauseCauses_erase (h : clauseCauses inputs clause i = []) :
    clauseCauses (inputs.erase name) clause i =
      if clause.key = .placeholder name then [(.key i, .undeclared (.placeholder name))]
      else [] := by
  unfold clauseCauses at h ⊢
  obtain ⟨hfields, hvalues⟩ := List.append_eq_nil_iff.1 h
  obtain ⟨hkey, hop⟩ := List.append_eq_nil_iff.1 hfields
  have hkey : keyCause? inputs clause.key = none := by simpa using hkey
  rw [hvalues, hop, keyCause?_erase hkey]
  split <;> rfl

def keyPlaces (name : String) (clauses : List Clause) : List Nat :=
  (clauses.zipIdx.filter (fun p => p.1.key = .placeholder name)).map Prod.snd

theorem mem_keyPlaces_iff :
    i ∈ keyPlaces name clauses ↔
      ∃ clause, clauses[i]? = some clause ∧ clause.key = .placeholder name := by
  simp [keyPlaces, List.mem_zipIdx_iff_getElem?]

theorem keyPlaces_sorted : (keyPlaces name clauses).Pairwise (· < ·) := by
  have hplaces : (clauses.zipIdx.map Prod.snd).Pairwise (· < ·) := by
    rw [List.zipIdx_map_snd]
    exact List.pairwise_lt_range'
  exact (List.pairwise_map.2 ((List.pairwise_map.1 hplaces).filter _))

def undeclaredKey (base name : String) (i : Nat) : Error :=
  ⟨⟨base, .key i⟩, .undeclared (.placeholder name)⟩

theorem clauseErrors_erase (h : clauseErrors base inputs clauses = []) :
    clauseErrors base (inputs.erase name) clauses =
      (keyPlaces name clauses).map (undeclaredKey base name) := by
  have hclauses : ∀ p ∈ clauses.zipIdx, clauseCauses inputs p.1 p.2 = [] := by
    intro p hp
    have hp := List.flatMap_eq_nil_iff.1 h p hp
    exact List.map_eq_nil_iff.1 hp
  have heach : clauseErrors base (inputs.erase name) clauses =
      clauses.zipIdx.flatMap (fun p =>
        if decide (p.1.key = .placeholder name) then [undeclaredKey base name p.2] else []) := by
    apply List.flatMap_congr
    intro p hp
    dsimp only
    rw [clauseCauses_erase (hclauses p hp)]
    by_cases hk : p.1.key = .placeholder name <;> simp [hk, undeclaredKey]
  rw [heach, flatMap_ite_singleton, keyPlaces, List.map_map]
  rfl

theorem dependencyCause?_eraseJob (hj : job ≠ name) (h : dependencyCause? w job dependency = none) :
    dependencyCause? { w with jobs := w.jobs.erase name } job dependency =
      if dependency = name then some (.missingDependency job name) else none := by
  -- its own job stays, so only the job depended on can be missing
  by_cases hd : dependency = name
  · subst hd
    simp [dependencyCause?]
  · have hsame : dependencyCause? { w with jobs := w.jobs.erase name } job dependency =
        dependencyCause? w job dependency :=
      dependencyCause?_congr (by rw [Dictionary.get?_erase_of_ne hd])
        (by rw [Dictionary.get?_erase_of_ne hj])
    rw [hsame, h, if_neg hd]

end Condition

namespace Workflow
open Condition
variable {w : Workflow} {name target : String} {c : Condition}

def conditionAt? (w : Workflow) (name : String) : Option Condition :=
  (w.jobs.get? name).bind Job.condition

theorem mem_conditionalNames_iff_conditionAt? :
    name ∈ w.conditionalNames ↔ ∃ c, w.conditionAt? name = some c := by
  rw [mem_conditionalNames_iff, conditionAt?]
  cases w.jobs.get? name <;> simp [Option.isSome_iff_exists]

/-- Jobs carry the names under which they stand. -/
def NamesJobs (w : Workflow) : Prop := ∀ name job, w.jobs.get? name = some job → job.name = name

theorem errorsAt_eq (hw : w.NamesJobs) :
    w.errorsAt name = Condition.errors name (w.conditionAt? name) w.inputs w := by
  unfold errorsAt conditionAt?
  cases hjob : w.jobs.get? name with
  | none => rfl
  | some job =>
    dsimp only [Option.bind_some]
    rw [hw name job hjob]

theorem errorsAt_of_conditionAt? (hw : w.NamesJobs) (hc : w.conditionAt? name = some c) :
    w.errorsAt name = clauseErrors (baseOf name) w.inputs c.clauses ++
      (dependencyError? (baseOf name) name c.dependency w).toList := by
  rw [errorsAt_eq hw, hc]
  rfl

theorem sound_of_conditionErrors_eq_nil (hw : w.NamesJobs) (hvalid : w.conditionErrors = [])
    (hc : w.conditionAt? name = some c) :
    clauseErrors (baseOf name) w.inputs c.clauses = [] ∧
      dependencyCause? w name c.dependency = none := by
  have hnone := conditionErrors_eq_nil_iff.1 hvalid name
  rw [errorsAt_of_conditionAt? hw hc, List.append_eq_nil_iff] at hnone
  refine ⟨hnone.1, ?_⟩
  simpa [dependencyError?] using hnone.2

/- A job is removed. -/

def withoutJob (w : Workflow) (name : String) : Workflow := { w with jobs := w.jobs.erase name }

theorem removeJob?_of_contains (h : w.jobs.contains name) :
    w.removeJob? name = some (w.withoutJob name) :=
  if_pos h

theorem conditionAt?_withoutJob :
    (w.withoutJob target).conditionAt? name =
      if name = target then none else w.conditionAt? name := by
  rw [conditionAt?, withoutJob, Dictionary.get?_erase]
  split <;> rfl

theorem namesJobs_withoutJob (hw : w.NamesJobs) : (w.withoutJob target).NamesJobs := by
  intro name job hjob
  rw [withoutJob, Dictionary.get?_erase] at hjob
  split at hjob
  · cases hjob
  · exact hw name job hjob

theorem conditionalNames_withoutJob :
    (w.withoutJob target).conditionalNames = w.conditionalNames.filter (· ≠ target) := by
  -- both lists ascend, so it is enough that they have the same names
  apply conditionalNames_sorted.eq_of_mem_iff (conditionalNames_sorted.filter _)
  intro name
  rw [List.mem_filter, mem_conditionalNames_iff_conditionAt?,
    mem_conditionalNames_iff_conditionAt?, conditionAt?_withoutJob]
  by_cases hn : name = target <;> simp [hn]

/-- The names of the other jobs whose condition depends on a job, in ascending order. -/
def dependants (w : Workflow) (target : String) : List String :=
  (w.conditionalNames.filter (· ≠ target)).filter
    (fun name => (w.conditionAt? name).any (fun c => c.dependency = target))

theorem dependants_sorted : (w.dependants target).Pairwise (· < ·) :=
  (conditionalNames_sorted.filter _).filter _

theorem mem_dependants_iff :
    name ∈ w.dependants target ↔
      name ≠ target ∧ ∃ c, w.conditionAt? name = some c ∧ c.dependency = target := by
  simp only [dependants, List.mem_filter, mem_conditionalNames_iff_conditionAt?]
  cases w.conditionAt? name <;> simp

theorem errorsAt_withoutJob (hw : w.NamesJobs) (hvalid : w.conditionErrors = [])
    (hname : name ≠ target) :
    (w.withoutJob target).errorsAt name =
      if (w.conditionAt? name).any (fun c => c.dependency = target) then
        [⟨⟨baseOf name, .whole⟩, .missingDependency name target⟩]
      else [] := by
  have hsame : (w.withoutJob target).conditionAt? name = w.conditionAt? name := by
    rw [conditionAt?_withoutJob, if_neg hname]
  cases hc : w.conditionAt? name with
  | none =>
    rw [errorsAt_eq (namesJobs_withoutJob hw), hsame, hc]
    rfl
  | some c =>
    -- the clauses see inputs only, and these are as they were
    obtain ⟨hclauses, hdependency⟩ := sound_of_conditionErrors_eq_nil hw hvalid hc
    rw [errorsAt_of_conditionAt? (namesJobs_withoutJob hw) (hsame.trans hc), dependencyError?]
    have hinputs : (w.withoutJob target).inputs = w.inputs := rfl
    rw [hinputs, hclauses, withoutJob, dependencyCause?_eraseJob hname hdependency]
    by_cases hd : c.dependency = target <;> simp [hd]

theorem conditionErrors_withoutJob (hw : w.NamesJobs) (hvalid : w.conditionErrors = []) :
    (w.withoutJob target).conditionErrors = (w.dependants target).map
      (fun name => ⟨⟨baseOf name, .whole⟩, .missingDependency name target⟩) := by
  rw [conditionErrors_eq_flatMap, conditionalNames_withoutJob, dependants, ← flatMap_ite_singleton]
  apply List.flatMap_congr
  intro name hname
  exact errorsAt_withoutJob hw hvalid (by simpa using (List.mem_filter.1 hname).2)

/- An input is removed. -/

def withoutInput (w : Workflow) (name : String) : Workflow :=
  { w with inputs := w.inputs.erase name }

theorem removeInput?_of_contains (h : w.inputs.contains name) :
    w.removeInput? name = some (w.withoutInput name) :=
  if_pos h

/-- The jobs and the clauses of their conditions that have an input for their key. -/
def keyUses (w : Workflow) (input : String) : List (String × Nat) :=
  w.conditionalNames.flatMap (fun name =>
    (keyPlaces input ((w.conditionAt? name).elim [] Condition.clauses)).map (name, ·))

theorem mem_keyUses_iff {input : String} {i : Nat} :
    (name, i) ∈ w.keyUses input ↔ ∃ c clause, w.conditionAt? name = some c ∧
      c.clauses[i]? = some clause ∧ clause.key = .placeholder input := by
  simp only [keyUses, List.mem_flatMap, List.mem_map, Prod.mk.injEq, mem_keyPlaces_iff,
    mem_conditionalNames_iff_conditionAt?]
  constructor
  · intro ⟨_, ⟨c, hc⟩, _, ⟨clause, hi, hk⟩, hname, hplace⟩
    subst hname hplace
    rw [hc] at hi
    exact ⟨c, clause, hc, hi, hk⟩
  · intro ⟨c, clause, hc, hi, hk⟩
    exact ⟨name, ⟨c, hc⟩, i, ⟨clause, by rw [hc]; exact hi, hk⟩, rfl, rfl⟩

theorem keyUses_sorted {input : String} :
    (w.keyUses input).Pairwise (fun p q => p.1 < q.1 ∨ p.1 = q.1 ∧ p.2 < q.2) := by
  rw [keyUses, List.pairwise_flatMap]
  constructor
  · intro name _
    exact List.pairwise_map.2 (keyPlaces_sorted.imp fun hlt => .inr ⟨rfl, hlt⟩)
  · refine conditionalNames_sorted.imp ?_
    intro name name' hlt p hp q hq
    obtain ⟨_, -, rfl⟩ := List.mem_map.1 hp
    obtain ⟨_, -, rfl⟩ := List.mem_map.1 hq
    exact .inl hlt

theorem errorsAt_withoutInput {input : String} (hw : w.NamesJobs) (hvalid : w.conditionErrors = [])
    (hc : w.conditionAt? name = some c) :
    (w.withoutInput input).errorsAt name =
      (keyPlaces input c.clauses).map (undeclaredKey (baseOf name) input) := by
  obtain ⟨hclauses, hdependency⟩ := sound_of_conditionErrors_eq_nil hw hvalid hc
  have hcause : dependencyCause? (w.withoutInput input) name c.dependency = none := hdependency
  have hinputs : (w.withoutInput input).inputs = w.inputs.erase input := rfl
  have hnames : (w.withoutInput input).NamesJobs := hw
  rw [errorsAt_of_conditionAt? hnames hc, dependencyError?, hcause, hinputs,
    clauseErrors_erase hclauses]
  exact List.append_nil _

theorem conditionErrors_withoutInput {input : String} (hw : w.NamesJobs)
    (hvalid : w.conditionErrors = []) :
    (w.withoutInput input).conditionErrors =
      (w.keyUses input).map (fun use => undeclaredKey (baseOf use.1) input use.2) := by
  have hnames : (w.withoutInput input).conditionalNames = w.conditionalNames := rfl
  rw [conditionErrors_eq_flatMap, hnames, keyUses, List.map_flatMap]
  apply List.flatMap_congr
  intro name hname
  obtain ⟨c, hc⟩ := mem_conditionalNames_iff_conditionAt?.1 hname
  rw [errorsAt_withoutInput hw hvalid hc, hc, List.map_map]
  rfl

/-- In a workflow without errors, whose jobs carry their names, the removal of a job leaves one
error for each other job whose condition depends on it, told in the order of their names: that the
dependency is missing. The removal of an input leaves one for each clause that has it for its key,
job by job and clause by clause: that the placeholder is not declared. -/
theorem conditionErrors_of_removal (hw : w.NamesJobs) (hvalid : w.conditionErrors = []) :
    (∀ k, w.jobs.contains k → ∃ (w' : Workflow) (names : List String),
      w.removeJob? k = some w' ∧
      names.Pairwise (· < ·) ∧
      (∀ name, name ∈ names ↔
        name ≠ k ∧ ∃ c, w.conditionAt? name = some c ∧ c.dependency = k) ∧
      w'.conditionErrors =
        names.map (fun name => ⟨⟨baseOf name, .whole⟩, .missingDependency name k⟩) ∧
      (∀ e ∈ w'.conditionErrors, e.cause.kind = .missingDependency) ∧
      (w'.conditionErrors = [] ↔
        ∀ name c, w.conditionAt? name = some c → name ≠ k → c.dependency ≠ k)) ∧
    (∀ n, w.inputs.contains n → ∃ (w' : Workflow) (uses : List (String × Nat)),
      w.removeInput? n = some w' ∧
      uses.Pairwise (fun p q => p.1 < q.1 ∨ p.1 = q.1 ∧ p.2 < q.2) ∧
      (∀ name i, (name, i) ∈ uses ↔ ∃ c clause, w.conditionAt? name = some c ∧
        c.clauses[i]? = some clause ∧ clause.key = .placeholder n) ∧
      w'.conditionErrors =
        uses.map (fun (name, i) => ⟨⟨baseOf name, .key i⟩, .undeclared (.placeholder n)⟩) ∧
      (∀ e ∈ w'.conditionErrors, e.cause.kind = .variantUsage) ∧
      (w'.conditionErrors = [] ↔ ∀ name c, w.conditionAt? name = some c →
        ∀ clause ∈ c.clauses, clause.key ≠ .placeholder n)) := by
  constructor
  · intro k hk
    have herrors : (w.withoutJob k).conditionErrors = _ := conditionErrors_withoutJob hw hvalid
    refine ⟨_, w.dependants k, removeJob?_of_contains hk, dependants_sorted,
      fun name => mem_dependants_iff, herrors, ?_, ?_⟩
    · rw [herrors]
      exact List.forall_mem_map.2 (fun _ _ => rfl)
    · rw [herrors, List.map_eq_nil_iff, List.eq_nil_iff_forall_not_mem]
      simp only [mem_dependants_iff, not_and, not_exists]
      exact ⟨fun h name c hc hn => h name hn c hc, fun h name hn c hc => h name c hc hn⟩
  · intro n hn
    have herrors : (w.withoutInput n).conditionErrors = _ := conditionErrors_withoutInput hw hvalid
    refine ⟨_, w.keyUses n, removeInput?_of_contains hn, keyUses_sorted,
      fun name i => mem_keyUses_iff, herrors, ?_, ?_⟩
    · rw [herrors]
      exact List.forall_mem_map.2 (fun _ _ => rfl)
    · rw [herrors, List.map_eq_nil_iff, List.eq_nil_iff_forall_not_mem]
      simp only [Prod.forall, mem_keyUses_iff, not_exists, not_and]
      constructor
      · intro h name c hc clause hclause
        obtain ⟨i, hi⟩ := List.mem_iff_getElem?.1 hclause
        exact h name i c clause hc hi
      · intro h name i c clause hc hi
        exact h name c hc clause (List.mem_of_getElem? hi)

/- Two jobs wait for a third one, and one of them has an input for a key. -/

def gatedJob (name : String) (key : Variant) : Job :=
  ⟨name, none, [], none, [⟨"build", .whole⟩], some ⟨"build", [⟨key, .literal "Exists", []⟩]⟩⟩

def gatedJobs : Workflow :=
  ⟨"", .ofList [("label", ⟨"label", .string, "", .null⟩)],
    .ofList [("test", gatedJob "test" (.placeholder "label")),
      ("build", ⟨"build", none, [], none, [], none⟩), ("audit", gatedJob "audit" (.literal "k"))]⟩

theorem namesJobs_gatedJobs : gatedJobs.NamesJobs := by
  intro name job hjob
  refine Dictionary.of_get?_ofList (P := fun name job => job.name = name) ?_ hjob
  decide

theorem conditionErrors_gatedJobs : gatedJobs.conditionErrors = [] := by
  rw [conditionErrors_eq_nil_iff]
  intro name
  unfold errorsAt
  split
  · rfl
  · next job hjob =>
    refine Dictionary.of_get?_ofList (P := fun _ job =>
      Condition.errors job.name job.condition gatedJobs.inputs gatedJobs = []) ?_ hjob
    decide

theorem conditionErrors_of_removal_gatedJobs :
    gatedJobs.NamesJobs ∧ gatedJobs.conditionErrors = [] ∧
    (∃ w', gatedJobs.removeJob? "build" = some w' ∧ ∀ name ∈ ["audit", "test"],
      ⟨⟨baseOf name, .whole⟩, .missingDependency name "build"⟩ ∈ w'.conditionErrors) ∧
    ∃ w', gatedJobs.removeInput? "label" = some w' ∧
      ⟨⟨baseOf "test", .key 0⟩, .undeclared (.placeholder "label")⟩ ∈ w'.conditionErrors := by
  obtain ⟨hjobs, hinputs⟩ :=
    conditionErrors_of_removal namesJobs_gatedJobs conditionErrors_gatedJobs
  refine ⟨namesJobs_gatedJobs, conditionErrors_gatedJobs, ?_, ?_⟩
  · obtain ⟨w', names, hremoved, -, hmem, herrors, -, -⟩ := hjobs "build" rfl
    refine ⟨w', hremoved, ?_⟩
    rw [herrors]
    have hdependants : ∀ name ∈ ["audit", "test"], name ∈ names := by
      simp only [hmem]
      decide
    exact fun name hname => List.mem_map_of_mem (hdependants name hname)
  · obtain ⟨w', uses, hremoved, -, hmem, herrors, -, -⟩ := hinputs "label" rfl
    refine ⟨w', hremoved, ?_⟩
    rw [herrors]
    have huse : ("test", 0) ∈ uses := (hmem "test" 0).2 ⟨_, _, rfl, rfl, rfl⟩
    exact List.mem_map_of_mem huse

end Workflow
end JobGate
