import JobGate.Files.Cache
/-! Files that change while workflows are loaded from them. -/
namespace JobGate

structure Workspace where
  tree : FileTree
  cache : Cache

namespace Workspace

def start (t : FileTree) : Workspace := ⟨t, .empty⟩

inductive Action where
  | write (path : FilePath) (bytes : ByteArray) (mtime : Int)
  | makeDirectory (path : FilePath) (mtime : Int)
  | delete (path : FilePath)
  | touch (path : FilePath) (mtime : Int)
  | rename (path target : FilePath)
  | clear
  | load (path : FilePath)
  /-- Like a load, but to find nothing is no error. -/
  | fetch (path : FilePath)

inductive Reply where
  | remembered (paths : List String)
  | loaded (l : Option Loaded)

def remembered (w : Workspace) : Reply := .remembered w.cache.entries.names.mergeSort

def withTree (w : Workspace) (t : FileTree) : Except LoadFault Reply × Workspace :=
  let w := { w with tree := t }
  (.ok w.remembered, w)

def step (w : Workspace) : Action → Except LoadFault Reply × Workspace
  | .write path bytes mtime => w.withTree (w.tree.put path.resolve (.file bytes mtime))
  | .makeDirectory path mtime => w.withTree (w.tree.makeDirectory path.resolve mtime)
  | .delete path => w.withTree (w.tree.delete path.resolve)
  | .touch path mtime => w.withTree (w.tree.touch path.resolve mtime)
  | .rename path target => w.withTree (w.tree.rename path.resolve target.resolve)
  | .clear =>
    let w := { w with cache := w.cache.clear }
    (.ok w.remembered, w)
  | .load path =>
    let (r, c) := w.cache.load w.tree path
    (r.map (.loaded ∘ some), { w with cache := c })
  | .fetch path =>
    let (r, c) := w.cache.fetch w.tree path.resolve
    (r.map .loaded, { w with cache := c })

def run (w : Workspace) (actions : List Action) : Workspace :=
  actions.foldl (fun w a => (w.step a).2) w

end Workspace
end JobGate
