import JobGate.Proofs.Condition.Outcome
import JobGate.Proofs.Condition.Selector
import JobGate.Proofs.Requirement.Meaning
import Mathlib.Data.List.Perm.Basic
/-! A compiled condition is the conjunction of its clauses, and their order makes no difference on
labels that can be read: main statement, `holds_conjunction`. -/
namespace JobGate

namespace CompiledCondition
variable {labels : Labels} {rs ss : List Requirement}

/-- Every label that is compared can be read: none is an integer of too many digits. -/
def IsReadable (k : CompiledCondition) (labels : Labels) : Prop :=
  ∀ r ∈ k.requirements, r.operator.IsOrder → labels.IsReadable r.key

/- Going through the requirements. -/

theorem holdsAll_append : holdsAll labels (rs ++ ss) =
    do if ← holdsAll labels rs then holdsAll labels ss else return false := by
  induction rs with
  | nil => rfl
  | cons r rs ih =>
    rw [List.cons_append, holdsAll, holdsAll, ih]
    cases r.holds labels with
    | error f => rfl
    | ok b => cases b <;> rfl

theorem holdsAll_eq_true_iff :
    holdsAll labels rs = .ok true ↔ ∀ r ∈ rs, r.holds labels = .ok true := by
  induction rs with
  | nil => simp [holdsAll]
  | cons r rs ih =>
    rw [List.forall_mem_cons, ← ih, holdsAll]
    cases r.holds labels with
    | error f => simp [bind, Except.bind]
    | ok b => cases b <;> simp [bind, Except.bind, pure, Except.pure]

theorem exists_holdsAll (h : ∀ r ∈ rs, ∃ b, r.holds labels = .ok b) :
    ∃ b, holdsAll labels rs = .ok b := by
  induction rs with
  | nil => exact ⟨true, rfl⟩
  | cons r rs ih =>
    obtain ⟨⟨b, hb⟩, hrest⟩ := List.forall_mem_cons.1 h
    rw [holdsAll, hb]
    cases b with
    | false => exact ⟨false, rfl⟩
    | true => exact ih hrest

theorem holdsAll_eq_false_iff (h : ∀ r ∈ rs, ∃ b, r.holds labels = .ok b) :
    holdsAll labels rs = .ok false ↔ ∃ r ∈ rs, r.holds labels = .ok false := by
  obtain ⟨b, hb⟩ := exists_holdsAll h
  have hfalse : ∀ r ∈ rs, (r.holds labels = .ok false ↔ ¬ r.holds labels = .ok true) := by
    intro r hr
    obtain ⟨b, hb⟩ := h r hr
    cases b <;> simp [hb]
  have hall : holdsAll labels rs = .ok false ↔ ¬ holdsAll labels rs = .ok true := by
    cases b <;> simp [hb]
  rw [hall, holdsAll_eq_true_iff]
  simp only [not_forall, exists_prop]
  exact exists_congr fun r => and_congr_right fun hr => (hfalse r hr).symm

theorem holdsAll_of_perm (h : ∀ r ∈ rs, ∃ b, r.holds labels = .ok b) (hp : rs.Perm ss) :
    ∃ b, holdsAll labels rs = .ok b ∧ holdsAll labels ss = .ok b := by
  obtain ⟨b, hb⟩ := exists_holdsAll h
  obtain ⟨b', hb'⟩ := exists_holdsAll fun r hr => h r (hp.mem_iff.2 hr)
  refine ⟨b, hb, ?_⟩
  have htrue : holdsAll labels rs = .ok true ↔ holdsAll labels ss = .ok true := by
    simp only [holdsAll_eq_true_iff, hp.mem_iff]
  rw [hb, hb', Except.ok.injEq, Except.ok.injEq, ← Bool.eq_iff_iff] at htrue
  rw [hb', htrue]

end CompiledCondition

namespace Condition
variable {base dependency : String} {data : Bindings} {as bs : List Clause}
  {k ka kb : CompiledCondition} {labels : Labels}

theorem compile?_eq_some_iff {condition : Option Condition} :
    compile? base condition data = .ok (some k) ↔
      ∃ c, condition = some c ∧ c.compile base data = .ok k := by
  cases condition with
  | none => simp [compile?]
  | some c =>
    simp only [compile?, Option.some.injEq, exists_eq_left']
    cases c.compile base data <;> simp [Except.map]

theorem exists_holds_of_compile {c : Condition} (hk : c.compile base data = .ok k)
    (hl : k.IsReadable labels) : ∀ r ∈ k.requirements, ∃ b, r.holds labels = .ok b := by
  intro r hr
  obtain ⟨b, hb, -⟩ := Requirement.holds_of_wellFormed (wellFormed_of_compile hk r hr) (hl r hr)
  exact ⟨b, hb⟩

theorem compile_append (ha : compile base ⟨dependency, as⟩ data = .ok ka)
    (hb : compile base ⟨dependency, bs⟩ data = .ok kb) :
    compile base ⟨dependency, as ++ bs⟩ data =
      .ok ⟨dependency, ka.requirements ++ kb.requirements⟩ := by
  rw [compile_eq_ok_iff_builds] at ha hb ⊢
  exact ⟨rfl, List.rel_append ha.2 hb.2⟩

theorem compile_perm (hp : as.Perm bs) (hk : compile base ⟨dependency, as⟩ data = .ok k) :
    ∃ k', compile base ⟨dependency, bs⟩ data = .ok k' ∧
      k.requirements.Perm k'.requirements := by
  obtain ⟨-, hall⟩ := compile_eq_ok_iff_builds.1 hk
  obtain ⟨rs, hrs, hperm⟩ := List.perm_comp_forall₂ hp.symm hall
  exact ⟨⟨dependency, rs⟩, compile_eq_ok_iff_builds.2 ⟨rfl, hrs⟩, hperm.symm⟩

theorem exists_compile_append_iff :
    (∃ k, compile base ⟨dependency, as ++ bs⟩ data = .ok k) ↔
      (∃ k, compile base ⟨dependency, as⟩ data = .ok k) ∧
        ∃ k, compile base ⟨dependency, bs⟩ data = .ok k := by
  simp only [exists_compile_iff, List.forall_mem_append]

theorem exists_compile_perm_iff (hp : as.Perm bs) :
    (∃ k, compile base ⟨dependency, as⟩ data = .ok k) ↔
      ∃ k, compile base ⟨dependency, bs⟩ data = .ok k := by
  simp only [exists_compile_iff, hp.mem_iff]

theorem holds_append (hk : compile base ⟨dependency, as ++ bs⟩ data = .ok k)
    (ha : compile base ⟨dependency, as⟩ data = .ok ka)
    (hb : compile base ⟨dependency, bs⟩ data = .ok kb) (hl : k.IsReadable labels) :
    ∃ a b, ka.holds labels = .ok a ∧ kb.holds labels = .ok b ∧ k.holds labels = .ok (a && b) := by
  have hready := exists_holds_of_compile hk hl
  rw [compile_append ha hb, Except.ok.injEq] at hk
  subst hk
  obtain ⟨hreadya, hreadyb⟩ := List.forall_mem_append.1 hready
  obtain ⟨a, hka⟩ := CompiledCondition.exists_holdsAll hreadya
  obtain ⟨b, hkb⟩ := CompiledCondition.exists_holdsAll hreadyb
  refine ⟨a, b, hka, hkb, ?_⟩
  rw [CompiledCondition.holds, CompiledCondition.holdsAll_append, hka]
  cases a with
  | false => rfl
  | true => exact hkb

/-- What clauses compile to holds of labels exactly if each requirement does. Clauses put together
compile exactly if each part does, to the requirements of the one part and then of the other; they
hold of labels exactly if both parts hold, and where every label that is compared can be read they
come to the conjunction of what the parts come to. Rearranged clauses compile alike and come to the
same on such labels. No clauses always compile, and hold of all labels. -/
theorem holds_conjunction (base dependency : String) (data : Bindings) :
    (∀ (cs : List Clause) (k : CompiledCondition), compile base ⟨dependency, cs⟩ data = .ok k →
      ∀ labels : Labels,
        (k.holds labels = .ok true ↔ ∀ r ∈ k.requirements, r.holds labels = .ok true) ∧
        (k.IsReadable labels →
          (k.holds labels = .ok false ↔ ∃ r ∈ k.requirements, r.holds labels = .ok false))) ∧
    (∀ as bs : List Clause,
      ((∃ k, compile base ⟨dependency, as ++ bs⟩ data = .ok k) ↔
        (∃ k, compile base ⟨dependency, as⟩ data = .ok k) ∧
          ∃ k, compile base ⟨dependency, bs⟩ data = .ok k) ∧
      ∀ k ka kb, compile base ⟨dependency, as ++ bs⟩ data = .ok k →
        compile base ⟨dependency, as⟩ data = .ok ka →
        compile base ⟨dependency, bs⟩ data = .ok kb →
        k.requirements = ka.requirements ++ kb.requirements ∧
        ∀ labels : Labels,
          (k.holds labels = .ok true ↔ ka.holds labels = .ok true ∧ kb.holds labels = .ok true) ∧
          (k.IsReadable labels → ∃ a b, ka.holds labels = .ok a ∧ kb.holds labels = .ok b ∧
            k.holds labels = .ok (a && b))) ∧
    (∀ as bs : List Clause, as.Perm bs →
      ((∃ k, compile base ⟨dependency, as⟩ data = .ok k) ↔
        ∃ k, compile base ⟨dependency, bs⟩ data = .ok k) ∧
      ∀ k k', compile base ⟨dependency, as⟩ data = .ok k →
        compile base ⟨dependency, bs⟩ data = .ok k' →
        k.requirements.Perm k'.requirements ∧
        ∀ labels : Labels, (k.holds labels = .ok true ↔ k'.holds labels = .ok true) ∧
          (k.IsReadable labels → ∃ b, k.holds labels = .ok b ∧ k'.holds labels = .ok b)) ∧
    ∃ k, compile base ⟨dependency, []⟩ data = .ok k ∧ ∀ labels, k.holds labels = .ok true := by
  refine ⟨?_, ?_, ?_, ⟨⟨dependency, []⟩, rfl, fun _ => rfl⟩⟩
  · intro cs k hk labels
    exact ⟨CompiledCondition.holdsAll_eq_true_iff, fun hl =>
      CompiledCondition.holdsAll_eq_false_iff (exists_holds_of_compile hk hl)⟩
  · intro as bs
    refine ⟨exists_compile_append_iff, ?_⟩
    intro k ka kb hk ha hb
    have happend := hk
    rw [compile_append ha hb, Except.ok.injEq] at happend
    have hrequirements : k.requirements = ka.requirements ++ kb.requirements := by rw [← happend]
    refine ⟨hrequirements, fun labels => ⟨?_, holds_append hk ha hb⟩⟩
    simp only [CompiledCondition.holds, CompiledCondition.holdsAll_eq_true_iff, hrequirements,
      List.forall_mem_append]
  · intro as bs hp
    refine ⟨exists_compile_perm_iff hp, ?_⟩
    intro k k' hk hk'
    -- the rearranged clauses compile to some rearrangement, and they compile in one way only
    obtain ⟨k'', hk'', hperm⟩ := compile_perm hp hk
    cases hk'.symm.trans hk''
    refine ⟨hperm, fun labels => ⟨?_, fun hl =>
      CompiledCondition.holdsAll_of_perm (exists_holds_of_compile hk hl) hperm⟩⟩
    simp only [CompiledCondition.holds, CompiledCondition.holdsAll_eq_true_iff, hperm.mem_iff]

/- Two clauses in either order, on labels of which both hold and on labels of which one fails. -/

def fiveClause : Clause := ⟨.literal "n", .literal "Gt", [.literal "5"]⟩
def tierClause : Clause := ⟨.placeholder "k", .literal "Exists", []⟩
def tierBound : Bindings := .ofList [("k", .text "tier")]
def five : Requirement := ⟨"n", .greater, ["5"]⟩
def tier : Requirement := ⟨"tier", .present, []⟩
def gold (n : String) : Labels := .ofList [("n", .text n), ("tier", .text "gold")]

theorem isReadable_gold {n : String} (hn : ¬ Numeral.IsOverlong n) :
    CompiledCondition.IsReadable ⟨"build", [five, tier]⟩ (gold n) := by
  intro r hr ho v hv
  simp only [List.mem_cons, List.not_mem_nil, or_false] at hr
  obtain rfl | rfl := hr
  · cases hv
    exact ⟨n, rfl, hn⟩
  · obtain h | h := ho <;> cases h

theorem compile_five : compile "p" ⟨"build", [fiveClause]⟩ tierBound = .ok ⟨"build", [five]⟩ := by
  have h : compile "p" ⟨"build", [fiveClause]⟩ tierBound =
      .ok ⟨"build", [⟨"n", .greater, ["5"].mergeSort⟩]⟩ := rfl
  rwa [List.mergeSort_singleton] at h

theorem compile_tier : compile "p" ⟨"build", [tierClause]⟩ tierBound = .ok ⟨"build", [tier]⟩ := by
  have h : compile "p" ⟨"build", [tierClause]⟩ tierBound =
      .ok ⟨"build", [⟨"tier", .present, [].mergeSort⟩]⟩ := rfl
  rwa [List.mergeSort_nil] at h

theorem holds_conjunction_swapped :
    compile "p" ⟨"build", [fiveClause, tierClause]⟩ tierBound = .ok ⟨"build", [five, tier]⟩ ∧
    compile "p" ⟨"build", [tierClause, fiveClause]⟩ tierBound = .ok ⟨"build", [tier, five]⟩ ∧
    (CompiledCondition.mk "build" [five, tier]).holds (gold "7") = .ok true ∧
    (CompiledCondition.mk "build" [tier, five]).holds (gold "7") = .ok true ∧
    (CompiledCondition.mk "build" [five]).holds (gold "3") = .ok false ∧
    (CompiledCondition.mk "build" [tier]).holds (gold "3") = .ok true ∧
    (CompiledCondition.mk "build" [five, tier]).holds (gold "3") = .ok false ∧
    (CompiledCondition.mk "build" [tier, five]).holds (gold "3") = .ok false ∧
    ∃ r ∈ [five, tier], r.holds (gold "3") = .ok false := by
  obtain ⟨hall, happend, hperm, -⟩ := holds_conjunction "p" "build" tierBound
  have hk := compile_append compile_five compile_tier
  have hk' := compile_append compile_tier compile_five
  obtain ⟨-, hparts⟩ := happend [fiveClause] [tierClause]
  obtain ⟨-, hholds⟩ := hparts _ _ _ hk compile_five compile_tier
  obtain ⟨-, hsame⟩ := hperm [fiveClause, tierClause] [tierClause, fiveClause] (.swap _ _ [])
  obtain ⟨-, hswapped⟩ := hsame _ _ hk hk'
  have hthree : CompiledCondition.IsReadable ⟨"build", [five, tier]⟩ (gold "3") :=
    isReadable_gold (by decide)
  have hseven : (CompiledCondition.mk "build" [five, tier]).holds (gold "7") = .ok true := by
    refine (hall _ _ hk (gold "7")).1.2 ?_
    decide
  have hfive : (CompiledCondition.mk "build" [five]).holds (gold "3") = .ok false := rfl
  have htier : (CompiledCondition.mk "build" [tier]).holds (gold "3") = .ok true := rfl
  obtain ⟨a, b, ha, hb, hboth⟩ := (hholds (gold "3")).2 hthree
  cases hfive.symm.trans ha
  cases htier.symm.trans hb
  obtain ⟨b', hsame, hboth'⟩ := (hswapped (gold "3")).2 hthree
  cases hboth.symm.trans hsame
  exact ⟨hk, hk', hseven, (hswapped (gold "7")).1.1 hseven, hfive, htier, hboth, hboth',
    ((hall _ _ hk (gold "3")).2 hthree).1 hboth⟩

end Condition
end JobGate
