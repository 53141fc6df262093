import JobGate.Proofs.Files.Transparency
/-! What is remembered of a file is what the last load that read it made of it, with the time of
change that the file had then, and nothing if all was forgotten since (`find?_run`). A load that
takes what is remembered does not read, and one that fails leaves everything as it was. -/
namespace JobGate

namespace Cache
variable {c : Cache} {p : FilePath} {e : Entry} {r : Remembered} {f : LoadFault}

/-- A file is read if it is not remembered with the time that it has now, and there is a workflow
in it. The workflow gets the next number. -/
inductive Reads (c : Cache) (p : FilePath) : Entry → Remembered → Prop where
  | file {bytes : ByteArray} {mtime : Int} {w : Workflow}
      (hnew : ∀ l, c.find? p ≠ some ⟨l, mtime⟩) (hw : Loading.ofBytes p bytes = .ok w) :
      Reads c p (.file bytes mtime) ⟨⟨w, c.loads⟩, mtime⟩

theorem current?_eq_none_iff {mtime : Int} :
    c.current? p mtime = none ↔ ∀ l, c.find? p ≠ some ⟨l, mtime⟩ := by
  simp only [Option.eq_none_iff_forall_ne_some, ne_eq, current?_eq_some_iff]

theorem take_of_reads (h : c.Reads p e r) :
    c.take p e = (.ok r.loaded, c.remember p r.loaded.workflow r.mtime) := by
  obtain ⟨hnew, hw⟩ := h
  rw [take, current?_eq_none_iff.2 hnew, hw]

theorem take_of_not_reads (h : ∀ r, ¬ c.Reads p e r) : (c.take p e).2 = c := by
  cases hcurrent : e.mtime?.bind (c.current? p) with
  | some l => rw [take_of_current hcurrent]
  | none =>
    obtain ⟨-, hsame | ⟨bytes, mtime, w, rfl, hw, -⟩⟩ := take_of_not_current hcurrent
    · exact hsame
    · exact absurd (.file (current?_eq_none_iff.1 hcurrent) hw) (h _)

theorem find?_of_reads {q : FilePath} (h : c.Reads q e r) (hq : p.text = q.text) :
    (c.take q e).2.find? p = some r := by
  rw [take_of_reads h, find?_remember, if_pos hq]
  cases h
  rfl

theorem find?_take_of_ne {q : FilePath} (hq : p.text ≠ q.text) :
    (c.take q e).2.find? p = c.find? p := by
  by_cases h : ∃ r, c.Reads q e r
  · obtain ⟨r, h⟩ := h
    rw [take_of_reads h, find?_remember, if_neg hq]
  · rw [take_of_not_reads (not_exists.1 h)]

theorem take_of_error (h : (c.take p e).1 = .error f) : (c.take p e).2 = c := by
  apply take_of_not_reads
  intro r hr
  rw [take_of_reads hr] at h
  cases h

end Cache

namespace Workspace
variable {w : Workspace} {p q path : FilePath} {e : Entry} {r : Remembered} {a : Action}
variable {m : Option Remembered} {t : FileTree}

inductive Finds (t : FileTree) : Action → FilePath → Entry → Prop where
  | load {path : FilePath} {e : Entry} (h : Loading.entry t path = .ok e) :
      Finds t (.load path) path.resolve e
  | fetch {path : FilePath} {e : Entry} (h : t.find? path.resolve = .ok (some e)) :
      Finds t (.fetch path) path.resolve e

/-- How an action changes what is remembered of the file at a path. Paths are the same if their
texts are. -/
inductive Makes (w : Workspace) (p : FilePath) : Action → Option Remembered → Prop where
  | read {a : Action} {q : FilePath} {e : Entry} {r : Remembered} (hf : Finds w.tree a q e)
      (hq : p.text = q.text) (hr : w.cache.Reads q e r) : Makes w p a (some r)
  | clear : Makes w p .clear none
  | gone {path : FilePath} (h : w.tree.find? path.resolve = .ok none)
      (hp : p.text = path.resolve.text) : Makes w p (.fetch path) none

theorem step_of_finds (h : Finds w.tree a q e) :
    (w.step a).1 = (w.cache.take q e).1.map (.loaded ∘ some) ∧
      (w.step a).2 = { w with cache := (w.cache.take q e).2 } := by
  cases h with
  | load h =>
    simp only [step, Cache.load, h]
    exact ⟨trivial, trivial⟩
  | fetch h =>
    simp only [step, Cache.fetch, h]
    refine ⟨?_, trivial⟩
    cases (w.cache.take _ e).1 <;> rfl

theorem find?_step_of_makes (h : Makes w p a m) : (w.step a).2.cache.find? p = m := by
  cases h with
  | read hf hq hr =>
    rw [(step_of_finds hf).2]
    exact Cache.find?_of_reads hr hq
  | clear => rfl
  | gone h hp =>
    simp only [step, Cache.fetch, h]
    rw [Cache.find?_forget, if_pos hp]

theorem find?_step_of_finds (hf : Finds w.tree a q e) (h : ∀ m, ¬ Makes w p a m) :
    (w.step a).2.cache.find? p = w.cache.find? p := by
  rw [(step_of_finds hf).2]
  by_cases hq : p.text = q.text
  · have hnot : ∀ r, ¬ w.cache.Reads q e r := fun r hr => h _ (.read hf hq hr)
    exact congrArg (Cache.find? · p) (Cache.take_of_not_reads hnot)
  · exact Cache.find?_take_of_ne hq

theorem find?_step_of_not_makes (h : ∀ m, ¬ Makes w p a m) :
    (w.step a).2.cache.find? p = w.cache.find? p := by
  cases a with
  | write | makeDirectory | delete | touch | rename => rfl
  | clear => exact absurd .clear (h none)
  | load path =>
    cases he : Loading.entry w.tree path with
    | ok e => exact find?_step_of_finds (.load he) h
    | error f => simp only [step, Cache.load, he]
  | fetch path =>
    cases he : w.tree.find? path.resolve with
    | error f => simp only [step, Cache.fetch, he]
    | ok found =>
      cases found with
      | some e => exact find?_step_of_finds (.fetch he) h
      | none =>
        have hp : p.text ≠ path.resolve.text := fun hp => h none (.gone he hp)
        simp only [step, Cache.fetch, he]
        rw [Cache.find?_forget, if_neg hp]

theorem step_of_error {f : LoadFault} (h : (w.step a).1 = .error f) : (w.step a).2 = w := by
  -- a load and a fetch that find an entry both end as the cache does when it takes the entry
  have hfound : ∀ {q e}, Finds w.tree a q e → (w.step a).2 = w := by
    intro q e hf
    obtain ⟨hanswer, hstep⟩ := step_of_finds hf
    rw [hanswer] at h
    rw [hstep]
    cases ht : (w.cache.take q e).1 with
    | ok l =>
      rw [ht] at h
      cases h
    | error f' => rw [Cache.take_of_error ht]
  cases a with
  | write | makeDirectory | delete | touch | rename | clear => cases h
  | load path =>
    cases he : Loading.entry w.tree path with
    | ok e => exact hfound (.load he)
    | error f => simp only [step, Cache.load, he]
  | fetch path =>
    cases he : w.tree.find? path.resolve with
    | error f => simp only [step, Cache.fetch, he]
    | ok found =>
      cases found with
      | some e => exact hfound (.fetch he)
      | none =>
        simp only [step, Cache.fetch, he] at h
        cases h

/- Runs. -/

/-- No action of a run changes what is remembered of the file at a path. -/
def Quiet (p : FilePath) (w : Workspace) : List Action → Prop
  | [] => True
  | a :: rest => (∀ m, ¬ Makes w p a m) ∧ Quiet p (w.step a).2 rest

/-- The last action of a run that changes what is remembered of the file at a path. -/
def LastMakes (p : FilePath) (w : Workspace) (actions : List Action) (m : Option Remembered) :
    Prop :=
  ∃ before a after, actions = before ++ a :: after ∧ Makes (w.run before) p a m ∧
    Quiet p (w.run (before ++ [a])) after

theorem lastMakes_cons_iff {rest : List Action} :
    LastMakes p w (a :: rest) m ↔
      Makes w p a m ∧ Quiet p (w.step a).2 rest ∨ LastMakes p (w.step a).2 rest m := by
  constructor
  · intro ⟨before, b, after, hsplit, hm, hquiet⟩
    cases before with
    | nil =>
      cases hsplit
      exact .inl ⟨hm, hquiet⟩
    | cons x before =>
      cases hsplit
      exact .inr ⟨before, b, after, rfl, hm, hquiet⟩
  · intro h
    obtain ⟨hm, hquiet⟩ | ⟨before, b, after, rfl, hm, hquiet⟩ := h
    · exact ⟨[], a, rest, rfl, hm, hquiet⟩
    · exact ⟨a :: before, b, after, rfl, hm, hquiet⟩

theorem find?_run_iff {actions : List Action} :
    (w.run actions).cache.find? p = m ↔
      LastMakes p w actions m ∨ Quiet p w actions ∧ w.cache.find? p = m := by
  induction actions generalizing w with
  | nil =>
    have hnone : ¬ LastMakes p w [] m := by
      intro ⟨before, a, after, hsplit, _⟩
      cases before <;> cases hsplit
    simp [run, Quiet, hnone]
  | cons a rest ih =>
    have hrun : w.run (a :: rest) = (w.step a).2.run rest := rfl
    rw [hrun, ih, lastMakes_cons_iff]
    -- a step that changes what is remembered is the last such step if the rest is quiet; any other
    -- step leaves the question to the rest
    by_cases h : ∃ m', Makes w p a m'
    · obtain ⟨m', hm'⟩ := h
      have hnot : ¬ Quiet p w (a :: rest) := fun hquiet => hquiet.1 m' hm'
      constructor
      · intro h
        obtain hlast | ⟨hquiet, hm⟩ := h
        · exact .inl (.inr hlast)
        · rw [find?_step_of_makes hm'] at hm
          exact .inl (.inl ⟨hm ▸ hm', hquiet⟩)
      · intro h
        obtain (⟨hm, hquiet⟩ | hlast) | ⟨hquiet, -⟩ := h
        · exact .inr ⟨hquiet, find?_step_of_makes hm⟩
        · exact .inl hlast
        · exact absurd hquiet hnot
    · have hnot := not_exists.1 h
      rw [find?_step_of_not_makes hnot]
      simp only [hnot, false_and, false_or, Quiet, not_false_eq_true, implies_true, true_and]

/- A file that cannot be read any more is remembered as it was when it could. -/
example :
    let actions := [.write workflowFile (workflowBytes "a") 1, .load workflowFile,
      .write workflowFile "[".toUTF8 2, .load workflowFile]
    (((start .empty).run actions).cache.find? workflowFile).map
      (fun r => (r.loaded.workflow.jobs.names, r.mtime)) = some (["a"], 1) := by
  decide +kernel

end Workspace
end JobGate
