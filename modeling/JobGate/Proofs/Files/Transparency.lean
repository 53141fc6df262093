import JobGate.Files.Workspace
import JobGate.Proofs.Dictionary
import JobGate.Proofs.Files.Loading
import JobGate.Proofs.Files.Resolved
/-! What is remembered does not show. Where a path never has two contents at one time of change,
each load answers as one that always reads the file (`answers_eq_freshAnswers`). The times may go
back, and a path may be told in several ways. -/
namespace JobGate

def Entry.mtime? : Entry → Option Int
  | .directory mtime => mtime
  | .file _ mtime => some mtime

namespace FileTree
variable {t : FileTree} {p : FilePath} {e : Entry} {mtime : Int}

theorem get?_eq_entries (he : t.get? p = some e) (hm : e.mtime? = some mtime) (s : FileTree) :
    s.get? p = s.entries.get? p.text := by
  -- where all parts lead up is a directory that is always there and has no time of change
  have hp : ¬ p.parts.all FilePath.isUp := by
    intro hp
    rw [get?, if_pos hp] at he
    cases he
    cases hm
  rw [get?, if_neg hp]

end FileTree

/-- What has one time of change at one path, whenever that is, has the same content. -/
def Steady (states : List FileTree) : Prop :=
  ∀ s ∈ states, ∀ t ∈ states, ∀ (path : FilePath) (e e' : Entry) (mtime : Int),
    s.get? path.resolve = some e → t.get? path.resolve = some e' →
    e.mtime? = some mtime → e'.mtime? = some mtime → e.bytes? = e'.bytes?

def FileTree.Concurs (s t : FileTree) : Prop :=
  ∀ x ∈ s.entries.entries, ∀ y ∈ t.entries.entries,
    x.1 = y.1 → x.2.mtime?.isSome → x.2.mtime? = y.2.mtime? → x.2.bytes? = y.2.bytes?

instance : DecidableRel FileTree.Concurs := fun s t =>
  inferInstanceAs (Decidable (∀ x ∈ s.entries.entries, ∀ y ∈ t.entries.entries, _))

theorem steady_of_concurs {states : List FileTree} (h : ∀ s ∈ states, ∀ t ∈ states, s.Concurs t) :
    Steady states := by
  intro s hs t ht path e e' mtime he he' hm hm'
  rw [FileTree.get?_eq_entries he hm] at he
  rw [FileTree.get?_eq_entries he' hm'] at he'
  exact h s hs t ht _ (Dictionary.mem_entries_of_get? he) _ (Dictionary.mem_entries_of_get? he') rfl
    (by rw [hm]; rfl) (hm.trans hm'.symm)

namespace Cache
variable {c : Cache} {p path : FilePath} {e : Entry} {l : Loaded} {t : FileTree}
variable {states : List FileTree}

theorem take_of_current (h : e.mtime?.bind (c.current? p) = some l) :
    c.take p e = (.ok l, c) := by
  cases e with
  | directory mtime =>
    rw [Entry.mtime?] at h
    rw [take, h]
  | file bytes mtime =>
    rw [Entry.mtime?, Option.bind_some] at h
    rw [take, h]

theorem take_of_not_current (h : e.mtime?.bind (c.current? p) = none) :
    (c.take p e).1.map Loaded.workflow = Loading.ofEntry p e ∧
      ((c.take p e).2 = c ∨ ∃ bytes mtime w, e = .file bytes mtime ∧
        Loading.ofBytes p bytes = .ok w ∧ (c.take p e).2 = c.remember p w mtime) := by
  cases e with
  | directory mtime =>
    rw [Entry.mtime?] at h
    rw [take, h]
    exact ⟨rfl, .inl rfl⟩
  | file bytes mtime =>
    rw [Entry.mtime?, Option.bind_some] at h
    rw [take, h, Loading.ofEntry]
    cases hread : Loading.ofBytes p bytes with
    | ok w => exact ⟨rfl, .inr ⟨bytes, mtime, w, rfl, hread, rfl⟩⟩
    | error f => exact ⟨rfl, .inl rfl⟩

/-- Each remembered workflow is that of a file as it was, with its time of change, in a state. A run
keeps this for all of its states, since the one that was read may be far back. -/
def IsBacked (c : Cache) (states : List FileTree) : Prop :=
  ∀ p r, c.find? p = some r → ∃ s ∈ states, ∃ bytes,
    s.entries.get? p.text = some (.file bytes r.mtime) ∧
      ∀ path, Loading.ofBytes path bytes = .ok r.loaded.workflow

theorem isBacked_of_find?_none (h : ∀ p, c.find? p = none) : c.IsBacked states := by
  intro p r hr
  rw [h p] at hr
  cases hr

theorem IsBacked.forget (hc : c.IsBacked states) (p : FilePath) :
    (c.forget p).IsBacked states := by
  intro q r hr
  rw [find?_forget] at hr
  split at hr
  · cases hr
  · exact hc q r hr

theorem IsBacked.remember {bytes : ByteArray} {mtime : Int} {w : Workflow}
    (hc : c.IsBacked states) (ht : t ∈ states) (he : t.get? p = some (.file bytes mtime))
    (hw : Loading.ofBytes p bytes = .ok w) : (c.remember p w mtime).IsBacked states := by
  intro q r hr
  rw [find?_remember] at hr
  split at hr
  · next hq =>
    cases hr
    have hentry : t.entries.get? q.text = some (.file bytes mtime) := by
      rw [hq, ← FileTree.get?_eq_entries he rfl t, he]
    exact ⟨t, ht, bytes, hentry, fun path =>
      Loading.ofBytes_eq_ok_iff.2 (Loading.ofBytes_eq_ok_iff.1 hw)⟩
  · exact hc q r hr

theorem IsBacked.take (hc : c.IsBacked states) (ht : t ∈ states) (he : t.get? p = some e) :
    (c.take p e).2.IsBacked states := by
  cases h : e.mtime?.bind (c.current? p) with
  | some l =>
    rw [take_of_current h]
    exact hc
  | none =>
    obtain ⟨-, hsame | ⟨bytes, mtime, w, rfl, hw, hnew⟩⟩ := take_of_not_current h
    · rw [hsame]
      exact hc
    · rw [hnew]
      exact hc.remember ht he hw

theorem IsBacked.load (hc : c.IsBacked states) (ht : t ∈ states) (path : FilePath) :
    (c.load t path).2.IsBacked states := by
  unfold Cache.load
  split
  · exact hc
  · next he => exact hc.take ht (FileTree.get?_of_entry he)

theorem IsBacked.fetch (hc : c.IsBacked states) (ht : t ∈ states) (path : FilePath) :
    (c.fetch t path.resolve).2.IsBacked states := by
  unfold Cache.fetch
  split
  · exact hc
  · exact hc.forget path.resolve
  · next he =>
    have hget := FileTree.get?_of_find? he
    rw [FilePath.resolve_resolve] at hget
    exact hc.take ht hget

theorem IsBacked.ofEntry_eq (hc : c.IsBacked states) (hsteady : Steady states) (ht : t ∈ states)
    (he : t.get? path.resolve = some e) (hl : e.mtime?.bind (c.current? path.resolve) = some l) :
    Loading.ofEntry path.resolve e = .ok l.workflow := by
  obtain ⟨mtime, hm, hcurrent⟩ := Option.bind_eq_some_iff.1 hl
  obtain ⟨s, hs, bytes, hfile, hread⟩ := hc _ _ (current?_eq_some_iff.1 hcurrent)
  rw [← FileTree.get?_eq_entries he hm s] at hfile
  -- the entry may have been written anew since, but it has the time of the one that was read
  have hbytes : some bytes = e.bytes? := hsteady s hs t ht path _ e mtime hfile he rfl hm
  cases e with
  | directory _ => cases hbytes
  | file bytes' _ =>
    cases hbytes
    exact hread path.resolve

theorem IsBacked.take_eq (hc : c.IsBacked states) (hsteady : Steady states) (ht : t ∈ states)
    (he : t.get? path.resolve = some e) :
    (c.take path.resolve e).1.map Loaded.workflow = Loading.ofEntry path.resolve e := by
  cases h : e.mtime?.bind (c.current? path.resolve) with
  | some l =>
    rw [take_of_current h, hc.ofEntry_eq hsteady ht he h]
    rfl
  | none => exact (take_of_not_current h).1

theorem IsBacked.load_eq (hc : c.IsBacked states) (hsteady : Steady states) (ht : t ∈ states)
    (path : FilePath) : (c.load t path).1.map Loaded.workflow = t.load path := by
  rw [Cache.load, FileTree.load]
  cases he : Loading.entry t path with
  | error f => rfl
  | ok e => exact hc.take_eq hsteady ht (FileTree.get?_of_entry he)

end Cache

namespace Workspace
variable {w : Workspace} {states : List FileTree}

def Action.change (t : FileTree) : Action → FileTree
  | .write path bytes mtime => t.put path.resolve (.file bytes mtime)
  | .makeDirectory path mtime => t.makeDirectory path.resolve mtime
  | .delete path => t.delete path.resolve
  | .touch path mtime => t.touch path.resolve mtime
  | .rename path target => t.rename path.resolve target.resolve
  | .clear | .load _ | .fetch _ => t

theorem step_tree (w : Workspace) (a : Action) : (w.step a).2.tree = a.change w.tree := by
  cases a <;> rfl

theorem step_isBacked (hc : w.cache.IsBacked states) (ht : w.tree ∈ states) (a : Action) :
    (w.step a).2.cache.IsBacked states := by
  cases a with
  | write | makeDirectory | delete | touch | rename => exact hc
  | clear => exact Cache.isBacked_of_find?_none (Cache.find?_clear w.cache)
  | load path => exact hc.load ht path
  | fetch path => exact hc.fetch ht path

def history (t : FileTree) : List Action → List FileTree
  | [] => [t]
  | a :: rest => t :: history (a.change t) rest

theorem mem_history (t : FileTree) (actions : List Action) : t ∈ history t actions := by
  cases actions <;> exact List.mem_cons_self

def Reply.workflow? : Reply → Option Workflow
  | .loaded l => l.map Loaded.workflow
  | .remembered _ => none

/-- What the loads of a run answer, in order. -/
def answers (w : Workspace) : List Action → List (Except LoadFault (Option Workflow))
  | [] => []
  | .load path :: rest =>
    (w.step (.load path)).1.map Reply.workflow? :: answers (w.step (.load path)).2 rest
  | a :: rest => answers (w.step a).2 rest

/-- What the loads of a run answer if each of them reads the file. -/
def freshAnswers (t : FileTree) : List Action → List (Except LoadFault (Option Workflow))
  | [] => []
  | .load path :: rest => (t.load path).map some :: freshAnswers t rest
  | a :: rest => freshAnswers (a.change t) rest

theorem step_load_eq (hsteady : Steady states) (hc : w.cache.IsBacked states)
    (ht : w.tree ∈ states) (path : FilePath) :
    (w.step (.load path)).1.map Reply.workflow? = (w.tree.load path).map some := by
  rw [← hc.load_eq hsteady ht path]
  show ((w.cache.load w.tree path).1.map _).map _ = _
  cases (w.cache.load w.tree path).1 <;> rfl

theorem answers_eq_of_isBacked (hsteady : Steady states) (actions : List Action)
    (hc : w.cache.IsBacked states) (hstates : history w.tree actions ⊆ states) :
    answers w actions = freshAnswers w.tree actions := by
  -- On the actions, with the states of the whole run held fast: the cache is backed by them at each
  -- step, and the files of what is left of the run are among them.
  induction actions generalizing w with
  | nil => rfl
  | cons a rest ih =>
    have ht : w.tree ∈ states := hstates (mem_history w.tree (a :: rest))
    have hrest : answers (w.step a).2 rest = freshAnswers (a.change w.tree) rest := by
      rw [← step_tree]
      apply ih (step_isBacked hc ht a)
      rw [step_tree]
      exact fun s hs => hstates (List.mem_cons_of_mem _ hs)
    cases a with
    | load path =>
      rw [answers, freshAnswers, step_load_eq hsteady hc ht path, hrest]
      rfl
    | _ => exact hrest

def workflowFile : FilePath := ⟨.here, ["wf.yaml"]⟩
def workflowFileAround : FilePath := ⟨.here, ["sub", "..", "wf.yaml"]⟩
def workflowBytes (job : String) : ByteArray := ("jobs: \x7b" ++ job ++ ": \x7b\x7d\x7d").toUTF8

def relapse : List Action :=
  [.makeDirectory ⟨.here, ["sub"]⟩ 0,
    .write workflowFile (workflowBytes "a") 1, .load workflowFile, .load workflowFileAround,
    .write workflowFile (workflowBytes "b") 2, .load workflowFile,
    .delete workflowFile, .load workflowFile,
    .write workflowFileAround (workflowBytes "a") 1, .load workflowFile,
    .clear, .touch workflowFile 3, .load workflowFile]

def jobNames (answers : List (Except LoadFault (Option Workflow))) : List (Option (List String)) :=
  answers.map (fun r => r.toOption.join.map (fun w => w.jobs.names))

/- Two contents at one time of change do show. -/
example :
    let actions := [.write workflowFile (workflowBytes "a") 1, .load workflowFile,
      .write workflowFile (workflowBytes "b") 1, .load workflowFile]
    jobNames (answers (start .empty) actions) = [some ["a"], some ["a"]] ∧
      jobNames (freshAnswers .empty actions) = [some ["a"], some ["b"]] := by
  decide +kernel

end Workspace
end JobGate
