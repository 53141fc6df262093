import JobGate.Files.Loading
/-! Remembered workflows. What a load gave is taken again as long as the file has the time of
change that it had then, whatever is in it; `find?` says what each operation does to the memory. -/
namespace JobGate

/-- A workflow with the number of the successful load that made it. -/
structure Loaded where
  workflow : Workflow
  number : Nat

structure Remembered where
  loaded : Loaded
  mtime : Int

structure Cache where
  entries : Dictionary Remembered
  loads : Nat

namespace Cache

def empty : Cache := ⟨.empty, 0⟩

def find? (c : Cache) (p : FilePath) : Option Remembered := c.entries.get? p.text

def forget (c : Cache) (p : FilePath) : Cache := { c with entries := c.entries.erase p.text }

/-- Workflows that were made before keep their numbers. -/
def clear (c : Cache) : Cache := { c with entries := .empty }

def current? (c : Cache) (p : FilePath) (mtime : Int) : Option Loaded :=
  ((c.find? p).filter (fun r => r.mtime = mtime)).map Remembered.loaded

def remember (c : Cache) (p : FilePath) (w : Workflow) (mtime : Int) : Cache :=
  ⟨c.entries.insert p.text ⟨⟨w, c.loads⟩, mtime⟩, c.loads + 1⟩

@[simp] theorem find?_empty (p : FilePath) : empty.find? p = none := rfl
@[simp] theorem find?_clear (c : Cache) (p : FilePath) : c.clear.find? p = none := rfl

theorem find?_forget (c : Cache) (p q : FilePath) :
    (c.forget p).find? q = if q.text = p.text then none else c.find? q :=
  Dictionary.get?_erase ..

theorem find?_remember (c : Cache) (p q : FilePath) (w : Workflow) (mtime : Int) :
    (c.remember p w mtime).find? q =
      if q.text = p.text then some ⟨⟨w, c.loads⟩, mtime⟩ else c.find? q :=
  Dictionary.get?_insert ..

theorem current?_eq_some_iff {c : Cache} {p : FilePath} {mtime : Int} {l : Loaded} :
    c.current? p mtime = some l ↔ c.find? p = some ⟨l, mtime⟩ := by
  constructor
  · intro h
    obtain ⟨r, hr, rfl⟩ := Option.map_eq_some_iff.1 h
    obtain ⟨he, hm⟩ := Option.filter_eq_some_iff.1 hr
    rw [he, ← of_decide_eq_true hm]
  · intro h
    exact Option.map_eq_some_iff.2 ⟨_, Option.filter_eq_some_iff.2 ⟨h, by simp⟩, rfl⟩

/-- The workflow of an entry, remembered or loaded. A directory cannot be loaded, but what was
remembered of a file in its place may still have its time of change. -/
def take (c : Cache) (p : FilePath) : Entry → Except LoadFault Loaded × Cache
  | .directory mtime =>
    match mtime.bind (c.current? p) with
    | some l => (.ok l, c)
    | none => (Loading.refuse p .unreadable, c)
  | .file bytes mtime =>
    match c.current? p mtime with
    | some l => (.ok l, c)
    | none =>
      match Loading.ofBytes p bytes with
      | .ok w => (.ok ⟨w, c.loads⟩, c.remember p w mtime)
      | .error f => (.error f, c)

/-- What is at a resolved path. Where nothing is, nothing is remembered either. -/
def fetch (c : Cache) (t : FileTree) (p : FilePath) : Except LoadFault (Option Loaded) × Cache :=
  match t.find? p with
  | .error f => (.error (.path f), c)
  | .ok none => (.ok none, c.forget p)
  | .ok (some e) =>
    let (r, c) := c.take p e
    (r.map some, c)

/-- A path that leads nowhere fails before anything remembered is looked at. -/
def load (c : Cache) (t : FileTree) (path : FilePath) : Except LoadFault Loaded × Cache :=
  match Loading.entry t path with
  | .error f => (.error f, c)
  | .ok e => c.take path.resolve e

end Cache
end JobGate
