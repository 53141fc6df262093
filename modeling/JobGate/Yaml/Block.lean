import JobGate.Yaml.Plain
/-! Block scalars: indented lines, as they stand or folded. The header may say by how much they are
indented, and whether the line breaks at the end are all kept, all dropped or cut to one. -/
namespace JobGate.Yaml

inductive Chomping where
  | clip | keep | strip
  deriving DecidableEq

structure BlockHeader where
  chomping : Chomping
  increment : Option Nat

def chomping? (c : Cursor) : Option Chomping × Cursor :=
  match c.peek with
  | some '+' => (some .keep, c.next)
  | some '-' => (some .strip, c.next)
  | _ => (none, c)

/-- A digit other than zero; zero is an error, and any other character no increment. -/
def increment? (c : Cursor) : Option (Option Nat × Cursor) :=
  match c.peek with
  | some d =>
    if d = '0' then none
    else if '1' ≤ d && d ≤ '9' then some (some (d.toNat - 0x30), c.next)
    else some (none, c)
  | none => some (none, c)

def blockHeader? (c : Cursor) : Option (BlockHeader × Cursor) := do
  let (before, c) := chomping? c
  let (increment, c) ← increment? c
  let (after, c) := if before.isNone && increment.isSome then chomping? c else (none, c)
  if orEnd (fun ch => ch = ' ' || isBreak ch) c.peek then
    return (⟨(before.or after).getD .clip, increment⟩, ← c.skipLineRest?)
  else none

def blockBreaks (indent : Nat) : Nat → Cursor → List Char × Cursor
  | 0, c => ([], c)
  | n + 1, c =>
    let spaces := (c.rest.takeWhile (· = ' ')).length
    let c := c.skip (min spaces (indent - c.column))
    match c.lineBreak? with
    | none => ([], c)
    | some (b, c) =>
      let (breaks, c) := blockBreaks indent n c
      (b :: breaks, c)

def leadingBreaks : Nat → Cursor → List Char × Nat × Cursor
  | 0, c => ([], 0, c)
  | n + 1, c =>
    let c := c.skipWhile (· = ' ')
    match c.lineBreak? with
    | none => ([], c.column, c)
    | some (b, d) =>
      let (breaks, widest, d) := leadingBreaks n d
      (b :: breaks, max c.column widest, d)

/-- What comes between two lines; lines that begin with a blank are not folded. -/
def between (fold : Bool) (b : Char) (breaks : List Char) (blankBefore blankAfter : Bool) :
    List Char :=
  if fold && b = '\n' && !blankBefore && !blankAfter then
    (if breaks = [] then [' '] else []) ++ breaks
  else b :: breaks

def blockEnd (chomping : Chomping) (last : Option Char) (breaks : List Char) : List Char :=
  match chomping with
  | .clip => last.toList
  | .keep => last.toList ++ breaks
  | .strip => []

def blockLines (fold : Bool) (chomping : Chomping) (indent : Nat) :
    Nat → Cursor → List Char × Cursor
  | 0, c => ([], c)
  | n + 1, c =>
    let blankBefore := c.peek.any isSpaceOrTab
    let (line, c) := c.run (fun ch => !isBreak ch)
    match c.lineBreak? with
    | none => (line ++ blockEnd chomping none [], c)
    | some (b, c) =>
      let (breaks, c) := blockBreaks indent (c.rest.length + 1) c
      if c.column = indent && c.peek.isSome then
        let gap := between fold b breaks blankBefore (c.peek.any isSpaceOrTab)
        let (more, c) := blockLines fold chomping indent n c
        (line ++ gap ++ more, c)
      else (line ++ blockEnd chomping (some b) breaks, c)

def blockScalar? (fold : Bool) (parent : Int) (c : Cursor) : Option (List Char × Cursor) := do
  let (header, c) ← blockHeader? c.next
  let least := (max (parent + 1) 1).toNat
  let (breaks, indent, c) := match header.increment with
    | none =>
      let (breaks, widest, c) := leadingBreaks (c.rest.length + 1) c
      (breaks, max least widest, c)
    | some increment =>
      let indent := least + increment - 1
      let (breaks, c) := blockBreaks indent (c.rest.length + 1) c
      (breaks, indent, c)
  if c.column = indent && c.peek.isSome then
    let (lines, c) := blockLines fold header.chomping indent (c.rest.length + 1) c
    return (breaks ++ lines, c)
  else return (blockEnd header.chomping none breaks, c)

end JobGate.Yaml
