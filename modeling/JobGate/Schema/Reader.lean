import JobGate.Dictionary
import JobGate.Schema.Checked
/-! Readings of texts, choices, lists, maps and fields. No value is taken for another sort. A list
or a map is unfolded to be read, and its parts are left as they are. -/
namespace JobGate.Schema

def readText : Value → Checked String
  | .text s => .valid s
  | _ => .fail .notText

def readAny (v : Value) : Checked Value := .valid v

def readNullable (read : Value → Checked α) : Value → Checked (Option α)
  | .null => .valid none
  | v => (read v).map some

def readChoice (ofName? : String → Option α) (choices : List String) : Value → Checked α
  | .text s =>
    match ofName? s with
    | some a => .valid a
    | none => .fail (.notOneOf choices)
  | _ => .fail (.notOneOf choices)

def readItems (read : Value → Checked α) (i : Nat) : List Value → Checked (List α)
  | [] => .valid []
  | v :: rest => ((read v).under (.index i)).and List.cons (readItems read (i + 1) rest)

def readList (read : Value → Checked α) (v : Value) : Checked (List α) :=
  match v.unfold with
  | .list items => readItems read 0 items
  | _ => .fail .notList

/-- Indices are machine words of 64 bits; a key outside them is told as a text. -/
def indexBound : Nat := Nat.pow 2 63

def keySegment : Scalar → Segment
  | .text s => .name s
  | .bool b => .index (if b then 1 else 0)
  | .int n =>
    if -(indexBound : Int) ≤ n && n < indexBound then .index n
    else .name ((Numeral.write n).toOption.getD "<unprintable int object>")
  | k => .name (k.inner.toOption.getD "")

def readKey : Scalar → Checked String
  | .text s => .valid s
  | k => (Checked.fail .notText).under (.name "[key]") |>.under (keySegment k)

def readEntries (read : String → Value → Checked α) :
    List (Scalar × Value) → Checked (List (String × α))
  | [] => .valid []
  | (k, v) :: rest =>
    let name := k.written.toOption.getD ""
    let entry := (readKey k).and Prod.mk ((read name v).under (keySegment k))
    entry.and List.cons (readEntries read rest)

/-- What is read may know the name under which it stands. -/
def readMap (read : String → Value → Checked α) (v : Value) : Checked (Dictionary α) :=
  match v.unfold with
  | .map entries => (readEntries read entries).map Dictionary.ofList
  | _ => .fail .notMap

abbrev Fields := List (Scalar × Value)

def readRecord (r : Record) (read : Fields → Checked α) (v : Value) : Checked α :=
  match v.unfold with
  | .map fields => read fields
  | _ => .fail (.notRecord r)

namespace Fields

def required (fields : Fields) (name : String) (read : Value → Checked α) : Checked α :=
  match Value.field? name fields with
  | some v => (read v).under (.name name)
  | none => (Checked.fail .missing).under (.name name)

def optional (fields : Fields) (name : String) (default : α) (read : Value → Checked α) :
    Checked α :=
  match Value.field? name fields with
  | some v => (read v).under (.name name)
  | none => .valid default

end Fields
end JobGate.Schema
