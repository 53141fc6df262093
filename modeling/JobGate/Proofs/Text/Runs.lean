import Mathlib.Data.List.Basic
/-! Runs of characters of one class. A run ends where the text ends or a character of another class
stands, so a text has one run at its start (`run_unique`). -/
namespace JobGate.Text

theorem mem_intercalate {sep c : Char} {parts : List (List Char)}
    (h : c ∈ [sep].intercalate parts) : c = sep ∨ ∃ p ∈ parts, c ∈ p := by
  induction parts with
  | nil => simp at h
  | cons p parts ih =>
    cases parts with
    | nil => exact .inr ⟨p, by simp, by simpa using h⟩
    | cons q parts =>
      rw [List.intercalate_cons_cons, List.mem_append, List.mem_append, List.mem_singleton] at h
      obtain (hp | hs) | hrest := h
      · exact .inr ⟨p, by simp, hp⟩
      · exact .inl hs
      · obtain hs | ⟨p', hp', hc⟩ := ih hrest
        · exact .inl hs
        · exact .inr ⟨p', List.mem_cons_of_mem p hp', hc⟩

variable {run : Char → Bool} {xs ys us vs : List Char}

def Stops (run : Char → Bool) (cs : List Char) : Prop := ∀ c ∈ cs.head?, ¬ run c

@[simp] theorem stops_nil : Stops run [] := by simp [Stops]

@[simp] theorem stops_cons {c : Char} : Stops run (c :: us) ↔ ¬ run c := by simp [Stops]

theorem run_unique (hx : ∀ c ∈ xs, run c) (hy : ∀ c ∈ ys, run c) (hu : Stops run us)
    (hv : Stops run vs) (h : xs ++ us = ys ++ vs) : xs = ys ∧ us = vs := by
  induction xs generalizing ys with
  | nil =>
    cases ys with
    | nil => exact ⟨rfl, h⟩
    | cons y ys =>
      have hrun : run y := hy y (by simp)
      rw [List.nil_append] at h
      rw [h] at hu
      exact absurd hrun (stops_cons.1 hu)
  | cons x xs ih =>
    cases ys with
    | nil =>
      have hrun : run x := hx x (by simp)
      rw [List.nil_append] at h
      rw [← h] at hv
      exact absurd hrun (stops_cons.1 hv)
    | cons y ys =>
      rw [List.cons_append, List.cons_append, List.cons.injEq] at h
      obtain ⟨rfl, h⟩ := h
      have htail := ih (fun c hc => hx c (by simp [hc])) (fun c hc => hy c (by simp [hc])) h
      exact ⟨congrArg (x :: ·) htail.1, htail.2⟩

end JobGate.Text
