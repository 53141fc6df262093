import JobGate.Yaml.Cursor
/-! Plain scalars. Over lines a plain scalar goes on while they are indented; a single line break
becomes a space, and of several the first is dropped. -/
namespace JobGate.Yaml

def isFlowMark (c : Char) : Bool := c = ',' || c = '[' || c = ']' || c = '\x7b' || c = '\x7d'

def plainRun (inFlow : Bool) : List Char → List Char
  | [] => []
  | c :: rest =>
    let closes := fun d => isBlankOrBreak d || (inFlow && isFlowMark d)
    if isBlankOrBreak c || (c = ':' && orEnd closes rest.head?) ||
        (inFlow && (isFlowMark c || c = '?')) then []
    else c :: plainRun inFlow rest

/-- What several line breaks leave; `first` is the break that ended the line. -/
def folded (first : Char) (breaks : List Char) : List Char :=
  if first ≠ '\n' then first :: breaks
  else if breaks = [] then [' ']
  else breaks

def plainBreaks : Nat → Cursor → Option (List Char) × Cursor
  | 0, c => (some [], c)
  | n + 1, c =>
    if c.atSeparator && c.column = 0 then (none, c)
    else
      let c := c.skipWhile (· = ' ')
      match c.lineBreak? with
      | none => (some [], c)
      | some (b, c) =>
        let (breaks, c) := plainBreaks n c
        (breaks.map (b :: ·), c)

structure Gap where
  text : List Char
  newLine : Bool
  after : Cursor

def plainGap (c : Cursor) : Gap :=
  let (spaces, c) := c.run (· = ' ')
  match c.lineBreak? with
  | none => ⟨spaces, false, c⟩
  | some (b, c) =>
    match plainBreaks (c.rest.length + 1) c with
    | (none, c) => ⟨[], true, c⟩
    | (some breaks, c) => ⟨folded b breaks, true, c⟩

structure PlainScalar where
  text : List Char
  newLine : Bool
  after : Cursor

def plainParts (inFlow : Bool) (indent : Int) :
    Nat → Cursor → List Char → Bool → PlainScalar
  | 0, c, _, newLine => ⟨[], newLine, c⟩
  | n + 1, c, gap, newLine =>
    let part := if c.peek = some '#' then [] else plainRun inFlow c.rest
    if part = [] then ⟨[], newLine, c⟩
    else
      let g := plainGap (c.skip part.length)
      if g.text = [] || g.after.peek = some '#' || (!inFlow && g.after.column < indent) then
        ⟨gap ++ part, g.newLine, g.after⟩
      else
        let more := plainParts inFlow indent n g.after g.text g.newLine
        ⟨gap ++ part ++ more.text, more.newLine, more.after⟩

def plainScalar (inFlow : Bool) (indent : Int) (c : Cursor) : PlainScalar :=
  plainParts inFlow indent (c.rest.length + 1) c [] false

end JobGate.Yaml
