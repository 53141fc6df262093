import JobGate.Proofs.Condition.FirstFault
import JobGate.Proofs.Condition.PathText
import JobGate.Proofs.Requirement.Refusal
import JobGate.Proofs.Variant.Resolution
/-! What comes of a condition, clause by clause: it compiles if every clause builds, and else ends
as the first that does not (`compile_outcome`), with a refusal unless that clause breaks off
because of a number (`compile?_contract`). -/
namespace JobGate.Condition
open Traversal
variable {base : String} {data : Bindings} {clause : Clause} {i : Nat}

/-- A clause with a text for its key and literals for the rest, of which a requirement is made. -/
def Builds (data : Bindings) (clause : Clause) (r : Requirement) : Prop :=
  ∃ (key op : String) (values : List String), Variant.TextOf data clause.key key ∧
    clause.operator = .literal op ∧ clause.values = values.map .literal ∧
    Requirement.build key op values = .ok r

/-- Where a clause declines to be built and why. The fields are looked at in the order key,
operator, values, and a requirement is tried only if they are all there. -/
inductive Declines (base : String) (data : Bindings) (clause : Clause) (i : Nat) :
    Path → Obstacle → Prop where
  | unbound {name : String} (hk : clause.key = .placeholder name) (hn : data.get? name = none) :
      Declines base data clause i ⟨base, .key i⟩ (.unbound (.placeholder name))
  | operator {key name : String} (hk : Variant.TextOf data clause.key key)
      (ho : clause.operator = .placeholder name) :
      Declines base data clause i ⟨base, .operator i⟩ .misplacedPlaceholder
  | value {key op name : String} {j : Nat} (hk : Variant.TextOf data clause.key key)
      (ho : clause.operator = .literal op) (hv : clause.values[j]? = some (.placeholder name))
      (hbefore : ∀ v ∈ clause.values.take j, ∃ s, v = .literal s) :
      Declines base data clause i ⟨base, .value i j⟩ .misplacedPlaceholder
  | requirement {key op : String} {values : List String} {ps : List Problem}
      (hk : Variant.TextOf data clause.key key) (ho : clause.operator = .literal op)
      (hv : clause.values = values.map .literal)
      (hb : Requirement.build key op values = .error (.problems ps)) :
      Declines base data clause i ⟨base, .clause i⟩ (.requirement ps)

/-- How a clause breaks off: what is bound to its key has no text, or it compares integers and one
of its values has too many digits. -/
inductive Breaks (data : Bindings) (clause : Clause) : Numeral.Fault → Prop where
  | unwritten {name : String} {v : Value} {f : Numeral.Fault}
      (hk : clause.key = .placeholder name) (hn : data.get? name = some v)
      (hw : v.written = .error f) : Breaks data clause f
  | overlong {key op v : String} {values : List String} (hk : Variant.TextOf data clause.key key)
      (ho : clause.operator = .literal op) (hop : op = "Gt" ∨ op = "Lt")
      (hv : clause.values = values.map .literal)
      (hlong : Requirement.firstOverlong? values = some v) :
      Breaks data clause (.tooManyDigits (Numeral.digitCount v))

/-- The instantiation comes to a clause if all clauses before it build. -/
structure Reaches (data : Bindings) (c : Condition) (i : Nat) (clause : Clause) : Prop where
  get : c.clauses[i]? = some clause
  before : ∀ earlier ∈ c.clauses.take i, ∃ r, Builds data earlier r

theorem builds_iff {r : Requirement} :
    compileClause base data clause i = .ok r ↔ Builds data clause r := by
  simp only [compileClause_eq_ok_iff, Variant.resolve_eq_ok_iff, Builds]

theorem declines_iff {path : Path} {obstacle : Obstacle} :
    ClauseFault base data clause i (.refused path obstacle) ↔
      Declines base data clause i path obstacle := by
  constructor
  · intro h
    -- with a variable for the failure each way to fail says by itself which failure it is
    generalize hf : Failure.refused path obstacle = f at h
    cases h with
    | @key fault hk =>
      cases fault with
      | numeral f => cases hf
      | unbound name =>
        cases hf
        obtain ⟨hk, hn⟩ := Variant.resolve_eq_unbound_iff.1 hk
        exact .unbound hk hn
    | operator hk ho =>
      cases hf
      exact .operator (Variant.resolve_eq_ok_iff.1 hk) ho
    | value hk ho hv hbefore =>
      cases hf
      exact .value (Variant.resolve_eq_ok_iff.1 hk) ho hv (Traversal.forall_mem_take_iff.2 hbefore)
    | @requirement key op values refusal hk ho hv hb =>
      cases refusal with
      | numeral f => cases hf
      | problems ps =>
        cases hf
        exact .requirement (Variant.resolve_eq_ok_iff.1 hk) ho hv hb
  · intro h
    cases h with
    | unbound hk hn => exact .key (Variant.resolve_eq_unbound_iff.2 ⟨hk, hn⟩)
    | operator hk ho => exact .operator (Variant.resolve_eq_ok_iff.2 hk) ho
    | value hk ho hv hbefore =>
      exact .value (Variant.resolve_eq_ok_iff.2 hk) ho hv (Traversal.forall_mem_take_iff.1 hbefore)
    | requirement hk ho hv hb => exact .requirement (Variant.resolve_eq_ok_iff.2 hk) ho hv hb

theorem breaks_iff {f : Numeral.Fault} :
    ClauseFault base data clause i (.numeral f) ↔ Breaks data clause f := by
  constructor
  · intro h
    generalize hf : Failure.numeral f = failure at h
    cases h with
    | @key fault hk =>
      cases fault with
      | unbound name => cases hf
      | numeral f' =>
        cases hf
        obtain ⟨name, w, hk, hn, hw⟩ := Variant.resolve_eq_numeral_iff.1 hk
        exact .unwritten hk hn hw
    | operator hk ho => cases hf
    | value hk ho hv hbefore => cases hf
    | @requirement key op values refusal hk ho hv hb =>
      cases refusal with
      | problems ps => cases hf
      | numeral f' =>
        cases hf
        obtain ⟨hop, v, hlong, rfl⟩ := Requirement.build_eq_numeral_iff.1 hb
        exact .overlong (Variant.resolve_eq_ok_iff.1 hk) ho hop hv hlong
  · intro h
    cases h with
    | unwritten hk hn hw => exact .key (Variant.resolve_eq_numeral_iff.2 ⟨_, _, hk, hn, hw⟩)
    | overlong hk ho hop hv hlong =>
      exact .requirement (Variant.resolve_eq_ok_iff.2 hk) ho hv
        (Requirement.build_eq_numeral_iff.2 ⟨hop, _, hlong, rfl⟩)

variable {c : Condition}

theorem compile_eq_error_iff_reaches {f : Failure} :
    c.compile base data = .error f ↔
      ∃ i clause, Reaches data c i clause ∧ ClauseFault base data clause i f := by
  simp only [compile_eq_error_iff, builds_iff, ← forall_mem_take_iff (P := fun e => ∃ r, Builds data e r)]
  constructor
  · intro ⟨i, clause, hi, hf, hbefore⟩
    exact ⟨i, clause, ⟨hi, hbefore⟩, hf⟩
  · intro ⟨i, clause, hr, hf⟩
    exact ⟨i, clause, hr.get, hf, hr.before⟩

theorem compile_eq_ok_iff_builds {k : CompiledCondition} :
    c.compile base data = .ok k ↔
      k.dependency = c.dependency ∧ List.Forall₂ (Builds data) c.clauses k.requirements := by
  simp only [compile_eq_ok_iff, builds_iff]
  rw [forall₂_zipIdx_iff]

theorem exists_compile_iff :
    (∃ k, c.compile base data = .ok k) ↔ ∀ clause ∈ c.clauses, ∃ r, Builds data clause r := by
  simp only [compile_eq_ok_iff_builds]
  constructor
  · intro ⟨k, _, hall⟩ clause hc
    obtain ⟨r, -, hr⟩ := exists_of_mem_left hall clause hc
    exact ⟨r, hr⟩
  · intro h
    obtain ⟨rs, hall⟩ := exists_forall₂ h
    exact ⟨⟨c.dependency, rs⟩, rfl, hall⟩

theorem refused_iff {path : Path} {obstacle : Obstacle} :
    c.compile base data = .error (.refused path obstacle) ↔
      ∃ i clause, Reaches data c i clause ∧ Declines base data clause i path obstacle := by
  simp only [compile_eq_error_iff_reaches, declines_iff]

theorem broken_iff {f : Numeral.Fault} :
    c.compile base data = .error (.numeral f) ↔
      ∃ i clause, Reaches data c i clause ∧ Breaks data clause f := by
  simp only [compile_eq_error_iff_reaches, breaks_iff]

theorem not_builds_of_unbound {name : String} (hk : clause.key = .placeholder name)
    (hn : data.get? name = none) : ¬ ∃ r, Builds data clause r := by
  intro ⟨r, key, op, values, htext, _⟩
  rw [hk] at htext
  cases htext with
  | bound hn' hw => cases hn.symm.trans hn'

/-- The clause at which an instantiation has no text for a key is the first that does not build. -/
theorem compile_eq_unbound_iff {name : String} :
    c.compile base data = .error (.refused ⟨base, .key i⟩ (.unbound (.placeholder name))) ↔
      ∃ clause, Reaches data c i clause ∧ (¬ ∃ r, Builds data clause r) ∧
        clause.key = .placeholder name ∧ data.get? name = none := by
  rw [refused_iff]
  constructor
  · intro ⟨j, clause, hreaches, hdeclines⟩
    cases hdeclines with
    | unbound hk hn => exact ⟨clause, hreaches, not_builds_of_unbound hk hn, hk, hn⟩
  · intro ⟨clause, hreaches, _, hk, hn⟩
    exact ⟨i, clause, hreaches, .unbound hk hn⟩

/-- A condition compiles exactly if each of its clauses builds, and then to its dependency and the
requirements of its clauses, one for each in their order. Otherwise it fails as the first clause
does that does not build: it is refused where that clause declines, or breaks off with it. -/
theorem compile_outcome (base : String) (c : Condition) (data : Bindings) :
    ((∃ k, c.compile base data = .ok k) ↔ ∀ clause ∈ c.clauses, ∃ r, Builds data clause r) ∧
    (∀ k, c.compile base data = .ok k ↔
      k.dependency = c.dependency ∧ List.Forall₂ (Builds data) c.clauses k.requirements) ∧
    (∀ path obstacle, c.compile base data = .error (.refused path obstacle) ↔
      ∃ i clause, Reaches data c i clause ∧ Declines base data clause i path obstacle) ∧
    (∀ f, c.compile base data = .error (.numeral f) ↔
      ∃ i clause, Reaches data c i clause ∧ Breaks data clause f) ∧
    ∀ i j, let place := s!"{base}.resultmatch[{i}]"
      (Path.mk base (.clause i)).text = place ∧ (Path.mk base (.key i)).text = place ++ ".key" ∧
      (Path.mk base (.operator i)).text = place ++ ".operator" ∧
      (Path.mk base (.value i j)).text = place ++ s!".value[{j}]" :=
  ⟨exists_compile_iff, fun _ => compile_eq_ok_iff_builds, fun _ _ => refused_iff,
    fun _ => broken_iff, fun i _ => ⟨clause_text base i, field_text base i _, field_text base i _,
      field_text base i _⟩⟩

/-- With a result or a refusal ends every instantiation but the one that comes to a clause that
breaks off. That one ends with the fault of a number, which no path and no message goes with. -/
theorem compile?_contract (base : String) (condition : Option Condition) (data : Bindings) :
    ((∃ k, compile? base condition data = .ok k) ∨
        (∃ path obstacle, compile? base condition data = .error (.refused path obstacle)) ↔
      ¬ ∃ c i clause f, condition = some c ∧ Reaches data c i clause ∧ Breaks data clause f) ∧
    ∀ f, compile? base condition data = .error (.numeral f) ↔
      ∃ c i clause, condition = some c ∧ Reaches data c i clause ∧ Breaks data clause f := by
  have hbroken : ∀ f, compile? base condition data = .error (.numeral f) ↔
      ∃ c i clause, condition = some c ∧ Reaches data c i clause ∧ Breaks data clause f := by
    intro f
    cases condition with
    | none => simp [compile?]
    | some c =>
      have hmap : compile? base (some c) data = .error (.numeral f) ↔
          c.compile base data = .error (.numeral f) := by
        rw [compile?]
        cases c.compile base data <;> simp [Except.map]
      rw [hmap, broken_iff]
      simp
  refine ⟨?_, hbroken⟩
  -- an instantiation ends in one of three ways, and the third is the fault of a number
  have hends : (∃ k, compile? base condition data = .ok k) ∨
      (∃ path obstacle, compile? base condition data = .error (.refused path obstacle)) ↔
      ¬ ∃ f, compile? base condition data = .error (.numeral f) := by
    cases compile? base condition data with
    | ok k => simp
    | error failure => cases failure <;> simp
  rw [hends]
  simp only [hbroken]
  constructor
  · intro h ⟨c, i, clause, f, hc⟩
    exact h ⟨f, c, i, clause, hc⟩
  · intro h ⟨f, c, i, clause, hc⟩
    exact h ⟨c, i, clause, f, hc⟩

/- A bound with one digit too many. -/

def above (bound : String) : Condition :=
  ⟨"build", [⟨.literal "k", .literal "Gt", [.literal bound]⟩]⟩

theorem compile?_above_overlong {bound : String} (hlong : Numeral.IsOverlong bound) :
    compile? "p" (some (above bound)) .empty =
      .error (.numeral (.tooManyDigits (Numeral.digitCount bound))) := by
  have hvalues : [Variant.literal bound] = [bound].map .literal := rfl
  have hfirst : Requirement.firstOverlong? [bound] = some bound :=
    List.find?_cons_of_pos (by simpa using hlong)
  have hbreaks : Breaks .empty ⟨.literal "k", .literal "Gt", [.literal bound]⟩
      (.tooManyDigits (Numeral.digitCount bound)) :=
    .overlong (.literal "k") rfl (.inl rfl) hvalues hfirst
  have hbroken : (above bound).compile "p" .empty = .error (.numeral _) :=
    broken_iff.2 ⟨0, _, ⟨rfl, by simp⟩, hbreaks⟩
  rw [compile?, hbroken]
  rfl

theorem not_refused_longBound :
    compile? "p" (some (above (Numeral.repeated '1' 4301))) .empty =
      .error (.numeral (.tooManyDigits 4301)) := by
  have hcount : Numeral.digitCount (Numeral.repeated '1' 4301) = 4301 :=
    Numeral.digitCount_repeated (by decide)
  rw [compile?_above_overlong (Numeral.isOverlong_repeated (by decide) (by decide)), hcount]

end JobGate.Condition
