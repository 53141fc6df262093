import JobGate.Proofs.Condition.Conjunction
import JobGate.Proofs.Dictionary
import JobGate.Session
import Mathlib.Data.List.Induction
/-! Runs of a session. The workflow is what its edits made of it (`workflow_run_filter`), and what
is kept is what the last instantiation for its label came to (`get?_kept_run_iff`). -/
namespace JobGate.Session
variable {s t : Session} {a : Step} {steps : List Step} {label key name : String}
  {data : Bindings} {c : Option CompiledCondition} {w : Option Workflow} {f : Fault}

/-- Under its label an instantiation keeps what it comes to, or forgets what is there. -/
def Step.label? : Step → Option String
  | .instantiate _ label _ => some label
  | _ => none

def Step.isEdit : Step → Bool
  | .putJob .. | .removeJob .. | .putInput .. | .removeInput .. | .updateJob .. => true
  | _ => false

def Compiles (s : Session) (key : String) (data : Bindings) (c : Option CompiledCondition) : Prop :=
  ∃ job, s.workflow.jobs.get? key = some job ∧
    Condition.compile? (Condition.baseOf key) job.condition data = .ok c

/- One step. -/

theorem changeTo_kept : (s.changeTo name w).2.kept = s.kept := by
  cases w <;> rfl

theorem changeTo_workflow : (s.changeTo name w).2.workflow = w.getD s.workflow := by
  cases w <;> rfl

theorem changeTo_of_error (h : (s.changeTo name w).1 = .error f) : (s.changeTo name w).2 = s := by
  cases w with
  | none => rfl
  | some w => cases h

theorem get?_kept_instantiate :
    (s.instantiate key label data).2.kept.get? label = some c ↔ s.Compiles key data c := by
  rw [instantiate, Compiles]
  cases hjob : s.workflow.jobs.get? key with
  | none => simp
  | some job =>
    cases hc : Condition.compile? (Condition.baseOf key) job.condition data with
    | error f => simp [hc]
    | ok c' => simp [hc]

theorem get?_kept_instantiate_of_ne {other : String} (h : label ≠ other) :
    (s.instantiate key other data).2.kept.get? label = s.kept.get? label := by
  have hforget : (s.kept.erase other).get? label = s.kept.get? label :=
    Dictionary.get?_erase_of_ne h
  rw [instantiate]
  split
  · exact hforget
  · split
    · exact hforget
    · rw [Dictionary.get?_insert, if_neg h, hforget]

theorem get?_kept_step_of_ne (h : a.label? ≠ some label) :
    (s.step a).2.kept.get? label = s.kept.get? label := by
  cases a with
  | putJob | removeJob | putInput | removeInput | updateJob => rw [step, changeTo_kept]
  | instantiate key other data =>
    have hne : label ≠ other := fun he => h (by rw [he, Step.label?])
    exact get?_kept_instantiate_of_ne hne
  | _ => rfl

theorem instantiate_workflow : (s.instantiate key label data).2.workflow = s.workflow := by
  rw [instantiate]
  split
  · rfl
  · split <;> rfl

theorem workflow_step_of_not_edit (h : ¬ a.isEdit) : (s.step a).2.workflow = s.workflow := by
  cases a with
  | putJob | removeJob | putInput | removeInput | updateJob => exact absurd rfl h
  | instantiate => exact instantiate_workflow
  | _ => rfl

/-- What an edit makes of a workflow does not depend on what is kept. -/
theorem workflow_step_congr (h : s.workflow = t.workflow) :
    (s.step a).2.workflow = (t.step a).2.workflow := by
  cases a with
  | putJob | removeJob | putInput | removeInput | updateJob =>
    simp only [step, changeTo_workflow, h]
  | instantiate => rw [step, step, instantiate_workflow, instantiate_workflow, h]
  | _ => exact h

/-- Only an instantiation changes anything when it fails, and then not the workflow. -/
theorem step_of_error (h : (s.step a).1 = .error f) :
    (s.step a).2.workflow = s.workflow ∧ (a.label? = none → (s.step a).2 = s) := by
  cases a with
  | putJob | removeJob | putInput | removeInput | updateJob =>
    have hsame := changeTo_of_error h
    exact ⟨congrArg workflow hsame, fun _ => hsame⟩
  | instantiate => exact ⟨instantiate_workflow, nofun⟩
  | _ => exact ⟨rfl, fun _ => rfl⟩

/- Runs. -/

theorem workflow_run_filter (h : s.workflow = t.workflow) :
    (s.run steps).workflow = (t.run (steps.filter Step.isEdit)).workflow := by
  induction steps generalizing s t with
  | nil => exact h
  | cons a steps ih =>
    have hrun : s.run (a :: steps) = (s.step a).2.run steps := rfl
    rw [hrun]
    by_cases ha : a.isEdit
    · rw [List.filter_cons_of_pos ha]
      exact ih (workflow_step_congr h)
    · rw [List.filter_cons_of_neg ha]
      exact ih ((workflow_step_of_not_edit ha).trans h)

theorem run_append_singleton : s.run (steps ++ [a]) = ((s.run steps).step a).2 := by
  rw [run, List.foldl_append]
  rfl

/-- The step is the last one of the run that is about the label, after the steps `before`. -/
def IsLast (label : String) (before : List Step) (a : Step) (steps : List Step) : Prop :=
  ∃ after, steps = before ++ a :: after ∧ a.label? = some label ∧
    ∀ later ∈ after, later.label? ≠ some label

theorem isLast_append_singleton {b : Step} {before : List Step} :
    IsLast label before b (steps ++ [a]) ↔
      a.label? = some label ∧ before = steps ∧ b = a ∨
        a.label? ≠ some label ∧ IsLast label before b steps := by
  constructor
  · intro ⟨after, hsteps, hb, hafter⟩
    obtain rfl | ⟨after, last, rfl⟩ := after.eq_nil_or_concat
    · obtain ⟨rfl, hba⟩ := List.append_inj' hsteps rfl
      cases hba
      exact .inl ⟨hb, rfl, rfl⟩
    · rw [List.concat_eq_append] at hafter
      rw [List.concat_eq_append, ← List.cons_append, ← List.append_assoc] at hsteps
      obtain ⟨rfl, hlast⟩ := List.append_inj' hsteps rfl
      cases hlast
      obtain ⟨hafter, ha⟩ := List.forall_mem_append.1 hafter
      exact .inr ⟨ha a (List.mem_singleton_self a), after, rfl, hb, hafter⟩
  · intro h
    obtain ⟨ha, rfl, rfl⟩ | ⟨ha, after, rfl, hb, hafter⟩ := h
    · exact ⟨[], rfl, ha, nofun⟩
    · refine ⟨after ++ [a], by simp, hb, List.forall_mem_append.2 ⟨hafter, ?_⟩⟩
      intro later hlater
      rwa [List.mem_singleton.1 hlater]

/-- At the end of a run the last instantiation for a label says what is kept under it. -/
theorem get?_kept_run_iff (w : Workflow) : ((start w).run steps).kept.get? label = some c ↔
    ∃ before key data, IsLast label before (.instantiate key label data) steps ∧
      ((start w).run before).Compiles key data c := by
  -- on the last step: one that is about the label decides alone, any other leaves it as it was
  induction steps using List.reverseRecOn with
  | nil => simp [run, start, IsLast]
  | append_singleton steps a ih =>
    rw [run_append_singleton]
    simp only [isLast_append_singleton]
    by_cases ha : a.label? = some label
    · cases a with
      | instantiate key other data =>
        obtain rfl : other = label := by simpa [Step.label?] using ha
        rw [step, get?_kept_instantiate]
        constructor
        · intro h
          exact ⟨steps, key, data, .inl ⟨ha, rfl, rfl⟩, h⟩
        · intro ⟨before, key', data', hlast, h⟩
          obtain ⟨-, rfl, he⟩ | ⟨hne, -⟩ := hlast
          · cases he
            exact h
          · exact absurd ha hne
      | _ => cases ha
    · rw [get?_kept_step_of_ne ha, ih]
      simp only [ha, false_and, false_or, ne_eq, not_false_eq_true, true_and]

/-- Whatever happened since, a condition that is kept can be evaluated on labels that can be read,
and holds of them exactly if each of its requirements does. -/
theorem exists_holds_of_kept {w : Workflow} {k : CompiledCondition} {labels : Labels}
    (hk : ((start w).run steps).kept.get? label = some (some k)) (hl : k.IsReadable labels) :
    ∃ b, k.holds labels = .ok b ∧ (b ↔ ∀ r ∈ k.requirements, r.holds labels = .ok true) := by
  obtain ⟨before, key, data, -, job, -, hcompile⟩ := (get?_kept_run_iff w).1 hk
  obtain ⟨condition, -, hk⟩ := Condition.compile?_eq_some_iff.1 hcompile
  obtain ⟨b, hb⟩ := CompiledCondition.exists_holdsAll (Condition.exists_holds_of_compile hk hl)
  refine ⟨b, hb, ?_⟩
  rw [← CompiledCondition.holdsAll_eq_true_iff, hb, Except.ok.injEq]

end JobGate.Session
