import JobGate.Binary64.Shortest
import JobGate.Numeral
import JobGate.Value.Calendar
/-! Authored values: what a workflow file holds before anything is known of its form. A list or a
map may have itself as a part; it is written down once, with a label. -/
namespace JobGate

/-- A value without parts, as every key is one. There are no bytes: `!!binary` is not read. -/
inductive Scalar where
  | null
  | bool (b : Bool)
  | int (n : Int)
  | float (x : Binary64)
  | text (s : String)
  | date (d : Value.Date)
  | moment (m : Value.Moment)
  deriving DecidableEq, Repr

/-- There are no sets and no pairs: `!!set`, `!!omap` and `!!pairs` are not read. -/
inductive Value where
  | scalar (s : Scalar)
  | list (items : List Value)
  | map (entries : List (Scalar × Value))
  /-- A list or a map with itself as a part, which is `again` with the same label. -/
  | knot (label : Nat) (v : Value)
  | again (label : Nat)
  deriving Repr

namespace Scalar

/-- The number that a scalar stands for as a key, as an integer over a natural number. -/
def ratio? : Scalar → Option (Int × Nat)
  | .bool b => some (if b then 1 else 0, 1)
  | .int n => some (n, 1)
  | .float x => x.ratio?
  | _ => none

/-- Keys are the same if they are equal as numbers, as instants or as they stand. -/
def sameKey (a b : Scalar) : Bool :=
  match a.ratio?, b.ratio? with
  | some (n, d), some (m, e) => n * e = m * d
  | none, none =>
    match a, b with
    | .moment x, .moment y => x.offset.isSome = y.offset.isSome && x.instant = y.instant
    | _, _ => a = b
  | _, _ => false

end Scalar

namespace Value

@[match_pattern] abbrev null : Value := .scalar .null
@[match_pattern] abbrev text (s : String) : Value := .scalar (.text s)

instance : Inhabited Value := ⟨null⟩

/-- The value under a text key; of several the last. -/
def field? (name : String) (entries : List (Scalar × Value)) : Option Value :=
  entries.reverse.lookup (.text name)

/- Knots. -/

mutual
def fill (label : Nat) (w : Value) : Value → Value
  | .scalar s => .scalar s
  | .list items => .list (fillItems label w items)
  | .map entries => .map (fillEntries label w entries)
  | .knot l v => if l = label then .knot l v else .knot l (fill label w v)
  | .again l => if l = label then w else .again l
def fillItems (label : Nat) (w : Value) : List Value → List Value
  | [] => []
  | v :: rest => fill label w v :: fillItems label w rest
def fillEntries (label : Nat) (w : Value) : List (Scalar × Value) → List (Scalar × Value)
  | [] => []
  | (k, v) :: rest => (k, fill label w v) :: fillEntries label w rest
end

/-- The same value, which shows its parts: a knot is opened once. -/
def unfold : Value → Value
  | .knot l v => fill l (.knot l v) v
  | v => v

/-- Nothing, zero and whatever is empty count as no document at all. -/
def isBlank : Value → Bool
  | .scalar .null => true
  | .scalar (.bool b) => !b
  | .scalar (.int n) => n = 0
  | .scalar (.float x) => x.isZero
  | .scalar (.text s) => s = ""
  | .scalar _ => false
  | .list items => items.isEmpty
  | .map entries => entries.isEmpty
  | .knot .. | .again _ => false

end Value
end JobGate
