import JobGate.CommandLine.Run
import JobGate.Proofs.Files.Loading
/-! What comes of a document. It gives a workflow or is refused with a message that ends the
program, as long as all names at its top are texts; any other name there is a fault that is told
nowhere (`ofValue_outcome`). -/
namespace JobGate.Loading
variable {path : FilePath} {v : Value} {fields : Schema.Fields}

def HasTextNames (v : Value) : Prop :=
  ∀ fields, topFields? v = some fields → ∀ f ∈ fields, isTextKey f.1

theorem ofValue_of_fields (h : topFields? v = some fields) :
    ofValue path v = ofFields path fields := by
  unfold topFields? at h
  unfold ofValue
  by_cases hblank : v.isBlank
  · rw [if_pos hblank] at h ⊢
    cases h
    rfl
  · rw [if_neg hblank] at h ⊢
    cases hv : v.unfold with
    | map entries =>
      rw [hv] at h
      cases h
      rfl
    | _ =>
      rw [hv] at h
      cases h

theorem ofValue_of_no_fields (h : topFields? v = none) : ofValue path v = refuse path .notMap := by
  unfold topFields? at h
  unfold ofValue
  by_cases hblank : v.isBlank
  · rw [if_pos hblank] at h
    cases h
  · rw [if_neg hblank] at h ⊢
    cases hv : v.unfold with
    | map entries =>
      rw [hv] at h
      cases h
    | _ => rfl

/-- What a document comes to, whatever it is. -/
inductive Yields (path : FilePath) (v : Value) : Except LoadFault Workflow → Prop where
  | workflow {w : Workflow} (h : Describes v w) : Yields path v (.ok w)
  | notMap (h : topFields? v = none) : Yields path v (refuse path .notMap)
  | violations {fields : Schema.Fields} {first : Schema.Violation} {rest : List Schema.Violation}
      (h : topFields? v = some fields) (hnames : ∀ f ∈ fields, isTextKey f.1)
      (hread : Schema.readWorkflow fields = .invalid first rest) :
      Yields path v (refuse path (.violations (first :: rest)))
  | nonTextName (h : ¬ HasTextNames v) : Yields path v (.error .nonTextName)

theorem yields_ofValue (path : FilePath) (v : Value) : Yields path v (ofValue path v) := by
  cases h : topFields? v with
  | none =>
    rw [ofValue_of_no_fields h]
    exact .notMap h
  | some fields =>
    rw [ofValue_of_fields h, ofFields]
    split
    · next hall =>
      have hnames : ∀ f ∈ fields, isTextKey f.1 := List.all_eq_true.1 hall
      cases hread : Schema.readWorkflow fields with
      | valid w => exact .workflow ⟨fields, h, hnames, hread⟩
      | invalid first rest => exact .violations h hnames hread
    · next hall =>
      exact .nonTextName fun htext => hall (List.all_eq_true.2 (htext fields h))

theorem hasTextNames_of_fields (h : topFields? v = some fields)
    (hnames : ∀ f ∈ fields, isTextKey f.1) : HasTextNames v := by
  intro fields' h'
  cases h.symm.trans h'
  exact hnames

theorem hasTextNames_of_no_fields (h : topFields? v = none) : HasTextNames v := by
  intro fields h'
  cases h.symm.trans h'

namespace Yields
variable {r : Except LoadFault Workflow}

theorem loads_or_refuses_iff (h : Yields path v r) :
    (∃ w, r = .ok w) ∨ (∃ e, r = .error (.refused e)) ↔ HasTextNames v := by
  cases h with
  | workflow h =>
    obtain ⟨fields, hfields, hnames, -⟩ := h
    exact iff_of_true (.inl ⟨_, rfl⟩) (hasTextNames_of_fields hfields hnames)
  | notMap h => exact iff_of_true (.inr ⟨_, rfl⟩) (hasTextNames_of_no_fields h)
  | violations h hnames => exact iff_of_true (.inr ⟨_, rfl⟩) (hasTextNames_of_fields h hnames)
  | nonTextName h => exact iff_of_false (by simp) h

theorem eq_nonTextName_iff (h : Yields path v r) :
    r = .error .nonTextName ↔ ¬ HasTextNames v := by
  rw [← h.loads_or_refuses_iff]
  cases h <;> simp [refuse]

end Yields

open CommandLine

theorem finish_refused {loaded : FilePath → Except LoadFault Workflow} {level : Nat}
    {file : FilePath} {task : Task} {e : LoadError} (h : loaded file = .error (.refused e)) :
    (Plan.load level file task).finish loaded =
      .ok ⟨⟨exitUnusable, [.styled .red ("Error: " ++ e.message)]⟩, none, level⟩ := by
  simp only [Plan.finish, h]

/-- A document whose names at the top are all texts gives a workflow or is refused, and a refusal
ends the program with its message. A document with any other name there always fails, and with no
load error. -/
theorem ofValue_outcome (path : FilePath) (v : Value) :
    ((∃ w, ofValue path v = .ok w) ∨ (∃ e, ofValue path v = .error (.refused e)) ↔
      HasTextNames v) ∧
    (ofValue path v = .error .nonTextName ↔ ¬ HasTextNames v) ∧
    ∀ e, ofValue path v = .error (.refused e) →
      ∀ (loaded : FilePath → Except LoadFault Workflow) (level : Nat) (file : FilePath)
        (task : Task), loaded file = ofValue path v →
        (Plan.load level file task).finish loaded =
          .ok ⟨⟨exitUnusable, [.styled .red ("Error: " ++ e.message)]⟩, none, level⟩ := by
  have hyields := yields_ofValue path v
  refine ⟨hyields.loads_or_refuses_iff, hyields.eq_nonTextName_iff, ?_⟩
  intro e he loaded level file task hl
  exact finish_refused (hl.trans he)

def numberedOne : Value := .map [(.int 1, .scalar (.int 2))]

/-- A document with a number for a name gives no workflow and is not refused. -/
theorem not_refused_numberedOne :
    ¬ ∀ (path : FilePath) (v : Value),
      (∃ w, ofValue path v = .ok w) ∨ ∃ e, ofValue path v = .error (.refused e) := by
  intro h
  have hfault : ofValue ⟨.here, ["wf.yaml"]⟩ numberedOne = .error .nonTextName := rfl
  have hend := h ⟨.here, ["wf.yaml"]⟩ numberedOne
  simp [hfault] at hend

end JobGate.Loading
