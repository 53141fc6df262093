import JobGate.Files.Loading
import Mathlib.Data.List.Basic
/-! Where paths lead. A resolved path is not changed when it is resolved again (`resolve_resolve`),
and what is found by a path is under it once it is resolved (`get?_of_find?`). -/
namespace JobGate

namespace FilePath
variable {p : FilePath} {start : Start} {before parts : List String}

/-- Parts up come first, and only where the path starts here. -/
def IsResolved (p : FilePath) : Prop :=
  ∃ ups downs, p.parts = ups ++ downs ∧ (∀ part ∈ ups, isUp part ∧ p.start = .here) ∧
    ∀ part ∈ downs, ¬ isUp part

theorem IsResolved.step (h : p.IsResolved) (part : String) : (p.step part).IsResolved := by
  obtain ⟨ups, downs, hparts, hups, hdowns⟩ := h
  unfold FilePath.step
  split
  · next hpart =>
    split
    · next hall =>
      split
      · next hhere =>
        -- all parts lead up, so one more only goes to their end
        refine ⟨p.parts ++ [part], [], by simp, ?_, by simp⟩
        intro q hq
        obtain hq | hq := List.mem_append.1 hq
        · exact ⟨List.all_eq_true.1 hall q hq, rfl⟩
        · rw [List.mem_singleton.1 hq]
          exact ⟨hpart, rfl⟩
      · exact ⟨ups, downs, hparts, hups, hdowns⟩
    · next hall =>
      -- some part does not lead up, so the last one does not, and this is what goes
      have hne : downs ≠ [] := by
        rintro rfl
        rw [List.append_nil] at hparts
        exact hall (List.all_eq_true.2 fun q hq => (hups q (hparts ▸ hq)).1)
      refine ⟨ups, downs.dropLast, ?_, hups, fun q hq => hdowns q (List.dropLast_subset downs hq)⟩
      show p.parts.dropLast = ups ++ downs.dropLast
      rw [hparts, List.dropLast_append_of_ne_nil hne]
  · next hpart =>
    refine ⟨ups, downs ++ [part], ?_, hups, ?_⟩
    · show p.parts ++ [part] = ups ++ (downs ++ [part])
      rw [hparts, List.append_assoc]
    · intro q hq
      obtain hq | hq := List.mem_append.1 hq
      · exact hdowns q hq
      · rw [List.mem_singleton.1 hq]
        exact hpart

theorem IsResolved.foldl_step (h : p.IsResolved) (parts : List String) :
    (parts.foldl FilePath.step p).IsResolved := by
  induction parts generalizing p with
  | nil => exact h
  | cons part rest ih => exact ih (h.step part)

theorem isResolved_resolve (p : FilePath) : p.resolve.IsResolved :=
  IsResolved.foldl_step ⟨[], [], rfl, by simp, by simp⟩ p.parts

theorem foldl_step_ups (hb : before.all isUp) (hp : ∀ part ∈ parts, isUp part ∧ start = .here) :
    parts.foldl step ⟨start, before⟩ = ⟨start, before ++ parts⟩ := by
  induction parts generalizing before with
  | nil => simp
  | cons part rest ih =>
    obtain ⟨⟨hpart, rfl⟩, hrest⟩ := List.forall_mem_cons.1 hp
    have hstep : step ⟨.here, before⟩ part = ⟨.here, before ++ [part]⟩ := by
      simp [step, hpart, hb]
    rw [List.foldl_cons, hstep, ih (by simp [hb, hpart]) hrest, List.append_assoc]
    rfl

theorem foldl_step_downs (hp : ∀ part ∈ parts, ¬ isUp part) :
    parts.foldl step ⟨start, before⟩ = ⟨start, before ++ parts⟩ := by
  induction parts generalizing before with
  | nil => simp
  | cons part rest ih =>
    obtain ⟨hpart, hrest⟩ := List.forall_mem_cons.1 hp
    have hstep : step ⟨start, before⟩ part = ⟨start, before ++ [part]⟩ := by
      simp [step, hpart]
    rw [List.foldl_cons, hstep, ih hrest, List.append_assoc]
    rfl

theorem IsResolved.resolve_eq (h : p.IsResolved) : p.resolve = p := by
  obtain ⟨ups, downs, hparts, hups, hdowns⟩ := h
  obtain ⟨start, parts⟩ := p
  subst hparts
  rw [resolve, base, List.foldl_append, foldl_step_ups rfl hups, foldl_step_downs hdowns]
  rfl

theorem resolve_resolve (p : FilePath) : p.resolve.resolve = p.resolve :=
  (isResolved_resolve p).resolve_eq

end FilePath

namespace FileTree
variable {t : FileTree} {path p : FilePath} {e : Entry}

theorem get?_of_walk {parts : List String} (h : t.walk path p parts = .ok (some e)) :
    t.get? (parts.foldl FilePath.step p) = some e := by
  induction parts generalizing p with
  | nil => simpa [walk] using h
  | cons part rest ih =>
    rw [walk] at h
    split at h
    · cases h
    · cases h
    · split at h
      · cases h
      · exact ih h

theorem get?_of_find? (h : t.find? path = .ok (some e)) : t.get? path.resolve = some e := by
  unfold find? at h
  split at h
  · cases h
  · split at h
    · cases h
    · exact get?_of_walk h

theorem get?_of_entry (h : Loading.entry t path = .ok e) : t.get? path.resolve = some e := by
  unfold Loading.entry at h
  split at h
  · next hf =>
    cases h
    exact get?_of_find? hf
  · cases h
  · cases h

end FileTree
end JobGate
