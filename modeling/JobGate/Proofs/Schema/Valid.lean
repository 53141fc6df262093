import JobGate.Proofs.Dictionary
import JobGate.Schema.Workflow
/-! Valid readings. What is put together of readings is valid if all of them are, and a map that
was read holds under each name what its reading made of that name. -/
namespace JobGate

/-- Jobs and inputs carry the names under which they stand. -/
structure Workflow.WellNamed (w : Workflow) : Prop where
  jobs : ∀ name job, w.jobs.get? name = some job → job.name = name
  inputs : ∀ name input, w.inputs.get? name = some input → input.name = name

namespace Schema

namespace Checked
variable {α : Type u} {β : Type v} {γ : Type w}

theorem map_eq_valid_iff {f : α → β} {c : Checked α} {b : β} :
    c.map f = .valid b ↔ ∃ a, c = .valid a ∧ b = f a := by
  cases c <;> simp [map, eq_comm]

theorem under_eq_valid_iff {s : Segment} {c : Checked α} {a : α} :
    c.under s = .valid a ↔ c = .valid a := by
  cases c <;> simp [under]

theorem and_eq_valid_iff {f : α → β → γ} {c : Checked α} {d : Checked β} {x : γ} :
    c.and f d = .valid x ↔ ∃ a b, c = .valid a ∧ d = .valid b ∧ x = f a b := by
  cases c <;> cases d <;> simp [Checked.and, eq_comm]

theorem ensure_eq_valid_iff {p : α → Bool} {cause : Cause} {c : Checked α} {a : α} :
    c.ensure p cause = .valid a ↔ c = .valid a ∧ p a := by
  cases c with
  | valid b =>
    simp only [ensure, valid.injEq]
    split
    · next hp =>
      constructor
      · intro h
        cases h
        exact ⟨rfl, hp⟩
      · intro ⟨h, _⟩
        rw [h]
    · next hp =>
      constructor
      · intro h
        cases h
      · intro ⟨h, ha⟩
        exact absurd (h ▸ ha) hp
  | invalid first rest => simp [ensure]

end Checked

open Checked

theorem readKey_eq_valid_iff {k : Scalar} {name : String} :
    readKey k = .valid name ↔ k = .text name := by
  cases k <;> simp [readKey, under_eq_valid_iff, fail]

theorem of_readEntries {read : String → Value → Checked α} {entries : List (Scalar × Value)}
    {l : List (String × α)} (h : readEntries read entries = .valid l) :
    ∀ e ∈ l, ∃ v, read e.1 v = .valid e.2 := by
  induction entries generalizing l with
  | nil =>
    cases h
    simp
  | cons entry entries ih =>
    obtain ⟨k, v⟩ := entry
    simp only [readEntries, and_eq_valid_iff] at h
    obtain ⟨_, rest, ⟨name, a, hk, ha, rfl⟩, hrest, rfl⟩ := h
    rw [readKey_eq_valid_iff] at hk
    subst hk
    intro e he
    obtain rfl | he := List.mem_cons.1 he
    · exact ⟨v, under_eq_valid_iff.1 ha⟩
    · exact ih hrest e he

theorem of_readMap {read : String → Value → Checked α} {v : Value} {d : Dictionary α}
    (h : readMap read v = .valid d) {name : String} {a : α} (ha : d.get? name = some a) :
    ∃ v, read name v = .valid a := by
  unfold readMap at h
  split at h
  · obtain ⟨l, hl, rfl⟩ := map_eq_valid_iff.1 h
    exact Dictionary.of_get?_ofList (P := fun n a => ∃ v, read n v = .valid a)
      (of_readEntries hl) ha
  · cases h

theorem name_of_readJob {name : String} {v : Value} {job : Job}
    (h : readJob name v = .valid job) : job.name = name := by
  unfold readJob readRecord at h
  split at h
  · simp only [and_eq_valid_iff] at h
    obtain ⟨_, _, -, -, rfl⟩ := h
    rfl
  · cases h

theorem name_of_readInput {name : String} {v : Value} {input : Input}
    (h : readInput name v = .valid input) : input.name = name := by
  unfold readInput readRecord at h
  split at h
  · simp only [and_eq_valid_iff] at h
    obtain ⟨_, _, -, -, rfl⟩ := h
    rfl
  · cases h

theorem of_optional {fields : Fields} {name : String} {default : α} {read : Value → Checked α}
    {P : α → Prop} (hd : P default) (hr : ∀ v a, read v = .valid a → P a) {a : α}
    (h : fields.optional name default read = .valid a) : P a := by
  unfold Fields.optional at h
  split at h
  · exact hr _ _ (under_eq_valid_iff.1 h)
  · cases h
    exact hd

theorem wellNamed_of_readWorkflow {fields : Fields} {w : Workflow}
    (h : readWorkflow fields = .valid w) : w.WellNamed := by
  rw [readWorkflow, ensure_eq_valid_iff] at h
  simp only [and_eq_valid_iff] at h
  obtain ⟨⟨_, jobs, ⟨_, inputs, -, hinputs, rfl⟩, hjobs, rfl⟩, -⟩ := h
  constructor
  · refine of_optional (P := fun jobs => ∀ name job, jobs.get? name = some job → job.name = name)
      (by simp) ?_ hjobs
    intro v d hd name job hj
    obtain ⟨_, hr⟩ := of_readMap hd hj
    exact name_of_readJob hr
  · refine of_optional (P := fun inputs => ∀ name input, inputs.get? name = some input →
      input.name = name) (by simp) ?_ hinputs
    intro v d hd name input hi
    obtain ⟨_, hr⟩ := of_readMap hd hi
    exact name_of_readInput hr

end Schema
end JobGate
