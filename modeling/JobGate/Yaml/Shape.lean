import JobGate.Yaml.Merge
/-! What the nodes of a document become. Collections are completed depth by depth, so of several
faults the one told is that of the least depth, and at one depth the first. -/
namespace JobGate.Yaml

/-- A scalar; one that is no number equals itself only, so it has the number of its node. -/
structure Key where
  scalar : Scalar
  own : Option Nat

def Key.same (a b : Key) : Bool := a.own = b.own && a.scalar.sameKey b.scalar

/-- The parts of a collection are told by the numbers of their nodes. -/
inductive Shape where
  | scalar (k : Key)
  | list (items : List Nat)
  | map (entries : List (Key × Nat))

/-- A new key goes to the end; a key that is there already keeps its place and its spelling. -/
def Shape.put : List (Key × Nat) → Key → Nat → List (Key × Nat)
  | [], k, v => [(k, v)]
  | e :: rest, k, v => if e.1.same k then (e.1, v) :: rest else e :: put rest k v

structure Shapes where
  nodes : Nodes
  shapes : Array (Option Shape)
  pending : List Nat

abbrev Shaping := StateT Shapes (Except Fault)

/-- The text that a tag for scalars reads; a mapping offers the one under its default key. -/
def scalarText (ns : Nodes) : Nat → Nat → Except Fault String
  | 0, _ => .error (.scalar .endless)
  | n + 1, id =>
    match ns.content? id with
    | some (.scalar s) => .ok s
    | some (.mapping entries) =>
      match entries.find? (fun e => ns.tag? e.1 = some .default) with
      | some e => scalarText ns n e.2
      | none => .error .malformed
    | _ => .error .malformed

def Key.ofNode (ns : Nodes) (id : Nat) (tag : Tag) : Except Fault Key := do
  let s ← scalarText ns (ns.size + 1) id
  let scalar ← readScalar tag s
  return ⟨scalar, if scalar = .float .nan && !isNanWord s then some id else none⟩

namespace Shaping

def keep (id : Nat) (s : Shape) : Shaping Unit :=
  modify fun st => { st with shapes := st.shapes.set! id (some s) }

def begin (id : Nat) (s : Shape) : Shaping Shape := do
  keep id s
  modify fun st => { st with pending := id :: st.pending }
  return s

/-- What a node is; each node becomes something only once. -/
def shape (id : Nat) : Shaping Shape := do
  match (← get).shapes[id]?.join with
  | some s => return s
  | none =>
    match (← get).nodes.tag? id with
    | none => throw .malformed
    | some .sequence => begin id (.list [])
    | some .mapping => begin id (.map [])
    | some tag =>
      let k ← Key.ofNode (← get).nodes id tag
      keep id (.scalar k)
      return .scalar k

def readEntries (done : List (Key × Nat)) : List (Nat × Nat) → Shaping (List (Key × Nat))
  | [] => return done
  | (k, v) :: rest => do
    match ← shape k with
    | .scalar key =>
      let _ ← shape v
      readEntries (Shape.put done key v) rest
    | _ => throw .malformed

def complete (id : Nat) : Shaping Unit := do
  let ns := (← get).nodes
  match ns.tag? id, ns.content? id with
  | some .sequence, some (.sequence items) =>
    items.forM (fun item => do let _ ← shape item)
    keep id (.list items)
  | some .mapping, some (.mapping _) =>
    let ns ← ns.merge id
    modify fun st => { st with nodes := ns }
    keep id (.map (← readEntries [] (ns.entries id)))
  | _, _ => throw .malformed

/-- Completes collections depth by depth, until none is pending. -/
def completeAll : Nat → Shaping Unit
  | 0 => return
  | n + 1 => do
    let ids ← modifyGet fun st => (st.pending.reverse, { st with pending := [] })
    if ids ≠ [] then
      ids.forM complete
      completeAll n

end Shaping

def Graph.shapes (g : Graph) (root : Nat) : Except Fault Shapes := do
  let start : Shapes := ⟨g.nodes, .replicate g.nodes.size none, []⟩
  let (_, st) ← (do
    let _ ← Shaping.shape root
    Shaping.completeAll (g.nodes.size + 1) : Shaping Unit).run start
  return st

end JobGate.Yaml
