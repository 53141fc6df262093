import JobGate.Yaml.Node
/-! Mappings that are put into others, before their own entries; of a list of mappings the first
has the last word. The nodes are changed, so a mapping may find itself done already. -/
namespace JobGate.Yaml

abbrev Nodes := Array Node

namespace Nodes

def tag? (ns : Nodes) (id : Nat) : Option Tag := ns[id]?.map Node.tag
def content? (ns : Nodes) (id : Nat) : Option Content := ns[id]?.map Node.content

def entries? (ns : Nodes) (id : Nat) : Option (List (Nat × Nat)) :=
  match ns.content? id with
  | some (.mapping entries) => some entries
  | _ => none

def entries (ns : Nodes) (id : Nat) : List (Nat × Nat) := (ns.entries? id).getD []

def setEntries (ns : Nodes) (id : Nat) (entries : List (Nat × Nat)) : Nodes :=
  ns.modify id (fun n => { n with content := .mapping entries })

def setTag (ns : Nodes) (id : Nat) (tag : Tag) : Nodes :=
  ns.modify id (fun n => { n with tag := tag })

def found (replace : Nat → Nodes → Except Fault Nodes) (id : Nat) (ns : Nodes) :
    Except Fault (List (Nat × Nat) × Nodes) := do
  if (ns.entries? id).isNone then .error .malformed
  else
    let ns ← replace id ns
    return (ns.entries id, ns)

def foundAll (replace : Nat → Nodes → Except Fault Nodes) :
    List Nat → Nodes → Except Fault (List (Nat × Nat) × Nodes)
  | [], ns => .ok ([], ns)
  | id :: rest, ns => do
    let (entries, ns) ← found replace id ns
    let (more, ns) ← foundAll replace rest ns
    return (more ++ entries, ns)

/-- What is to be put into the mapping `id`: `kept` are the entries that have been looked at, in
reverse, and `merged` what was found under the keys so far. As a key the sign for a default is from
then on a text like another. -/
def mergeEntries (replace : Nat → Nodes → Except Fault Nodes) (id : Nat)
    (kept merged : List (Nat × Nat)) (ns : Nodes) : List (Nat × Nat) → Except Fault Nodes
  | [] => .ok (if merged = [] then ns else ns.setEntries id (merged ++ ns.entries id))
  | (k, v) :: rest =>
    match ns.tag? k with
    | some .merge => do
      let left := kept.reverse ++ rest
      let ns := ns.setEntries id left
      let (entries, ns) ← match ns.content? v with
        | some (.sequence items) => foundAll replace items ns
        | _ => found replace v ns
      let merged := merged ++ entries
      if ns.entries id = left then mergeEntries replace id kept merged ns rest
      else return ns.setEntries id (merged ++ ns.entries id)
    | some .default => mergeEntries replace id ((k, v) :: kept) merged (ns.setTag k .text) rest
    | _ => mergeEntries replace id ((k, v) :: kept) merged ns rest

def mergeWithin : Nat → Nat → Nodes → Except Fault Nodes
  | 0, _, _ => .error .malformed
  | n + 1, id, ns => mergeEntries (mergeWithin n) id [] [] ns (ns.entries id)

/-- Each step deeper takes a key away, and there are no more of them than nodes. -/
def merge (id : Nat) (ns : Nodes) : Except Fault Nodes := mergeWithin (ns.size + 1) id ns

end Nodes
end JobGate.Yaml
