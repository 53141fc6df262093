import JobGate.Text.Pieces
import JobGate.Yaml.Shape
/-! The value of a document. Nodes are valued in the order in which they were read to their ends. A
collection that is a part of itself becomes a knot, whose label is the number of its node. -/
namespace JobGate.Yaml

namespace Shape

def parts : Shape → List Nat
  | .scalar _ => []
  | .list items => items
  | .map entries => entries.map Prod.snd

def value? (s : Shape) (part? : Nat → Option Value) : Option Value :=
  match s with
  | .scalar k => some (.scalar k.scalar)
  | .list items => (items.mapM part?).map .list
  | .map entries =>
    (entries.mapM (fun e => (part? e.2).map (fun v => (e.1.scalar, v)))).map .map

end Shape

namespace Shapes

def get? (st : Shapes) (id : Nat) : Option Shape := st.shapes[id]?.join

def parts (st : Shapes) (id : Nat) : List Nat := ((st.get? id).map Shape.parts).getD []

/-- The nodes that are reached in one step or more, beside those that have been seen. -/
def reachedBy (st : Shapes) (seen : List Nat) : Nat → List Nat → List Nat
  | 0, _ => seen
  | n + 1, ids =>
    let new := ((ids.flatMap st.parts).filter (fun id => !seen.contains id)).eraseDups
    if new = [] then seen else reachedBy st (new ++ seen) n new

def reached (st : Shapes) (id : Nat) : List Nat := st.reachedBy [] (st.shapes.size + 1) [id]

def valueWithin (st : Shapes) (known : Array (Option Value)) : Nat → List Nat → Nat → Value
  | 0, _, _ => .null
  | n + 1, around, id =>
    match known[id]?.join with
    | some v => v
    | none =>
      if around.contains id then .again id
      else
        let knotted := (st.reached id).contains id
        let around := if knotted then id :: around else around
        let part? (part : Nat) : Option Value := some (valueWithin st known n around part)
        let v := ((st.get? id).bind (·.value? part?)).getD .null
        if knotted then .knot id v else v

def value (st : Shapes) (known : Array (Option Value)) (id : Nat) : Value :=
  st.valueWithin known (st.shapes.size + 1) [] id

/-- The value of a node by those of its parts, or else if it leads to nothing that is not `done`. -/
def value? (st : Shapes) (known : Array (Option Value)) (done : Array Bool) (id : Nat) :
    Option Value :=
  match (st.get? id).bind (·.value? (fun part => known[part]?.join)) with
  | some v => some v
  | none =>
    if (st.reached id).all (fun part => done[part]?.getD false) then some (st.value known id)
    else none

def values (st : Shapes) (ids : List Nat) : Array (Option Value) :=
  let size := st.shapes.size
  let (known, _) := ids.foldl (fun (known, done) id =>
      let done := done.set! id true
      (known.set! id (st.value? known done id), done))
    (Array.replicate size none, Array.replicate size false)
  known

end Shapes

def Graph.value (g : Graph) (root : Nat) : Except Fault Value := do
  let st ← g.shapes root
  return st.value (st.values g.finished.reverse) root

def isAllowed (c : Char) : Bool :=
  ['\t', '\n', '\r', '\u0085'].contains c || (' ' ≤ c && c ≤ '~') ||
    ('\u00a0' ≤ c && c ≠ '\ufffe' && c ≠ '\uffff')

/-- The value of the document in some tokens; no document at all is the value for nothing. -/
def Tokens.value (ts : Tokens) : Except Fault Value := do
  let (root, s) ← document.run ⟨ts, [], [], .empty⟩
  match root with
  | none => return .null
  | some id => s.graph.value id

/-- The value of the document in a text, or in as much of one as there is before it is cut off. What
is not allowed is a fault of the piece in which it stands. -/
def read (cs : List Char) (cutOff : Option Fault) : Except Fault Value :=
  let good := (cs.takeWhile isAllowed).length
  let tokens :=
    if good = cs.length then Tokens.ofText cs cutOff
    else .ofText (cs.take (Text.pieceStart good)) (some .malformed)
  tokens.value

end JobGate.Yaml
