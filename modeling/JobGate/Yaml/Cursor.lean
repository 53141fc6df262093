import JobGate.Text.Decoded
import JobGate.Yaml.Fault
/-! Positions in a YAML text: what is left of it, and the index, the line and the column where that
begins. The end of the text closes a line too. A mark of the byte order takes no column. -/
namespace JobGate.Yaml

def isBreak (c : Char) : Bool :=
  c = '\n' || c = '\u0085' || c = '\u2028' || c = '\u2029'

def isSpaceOrTab (c : Char) : Bool := c = ' ' || c = '\t'
def isBlankOrBreak (c : Char) : Bool := isSpaceOrTab c || isBreak c

def orEnd (p : Char → Bool) : Option Char → Bool
  | none => true
  | some c => p c

structure Cursor where
  rest : List Char
  index : Nat
  line : Nat
  column : Nat
  cutOff : Option Fault

namespace Cursor

def start (cs : List Char) (cutOff : Option Fault) : Cursor := ⟨cs, 0, 0, 0, cutOff⟩

def ending (c : Cursor) : Fault := c.cutOff.getD .malformed

def peek (c : Cursor) : Option Char := c.rest.head?
def peekAt (c : Cursor) (n : Nat) : Option Char := c.rest[n]?

def next (c : Cursor) : Cursor :=
  match c.rest with
  | [] => c
  | ch :: rest =>
    if isBreak ch then ⟨rest, c.index + 1, c.line + 1, 0, c.cutOff⟩
    else
      let column := if ch = Text.byteOrderMark then c.column else c.column + 1
      ⟨rest, c.index + 1, c.line, column, c.cutOff⟩

def skip : Nat → Cursor → Cursor
  | 0, c => c
  | n + 1, c => skip n c.next

def run (p : Char → Bool) (c : Cursor) : List Char × Cursor :=
  let taken := c.rest.takeWhile p
  (taken, c.skip taken.length)

def skipWhile (p : Char → Bool) (c : Cursor) : Cursor := (c.run p).2

/-- The line break that stands here; the one of the control characters is read as a line feed. -/
def lineBreak? (c : Cursor) : Option (Char × Cursor) :=
  match c.rest with
  | ch :: _ =>
    if ch = '\n' || ch = '\u0085' then some ('\n', c.next)
    else if isBreak ch then some (ch, c.next)
    else none
  | [] => none

def atSeparator (c : Cursor) : Bool :=
  match c.rest with
  | '-' :: '-' :: '-' :: rest => orEnd isBlankOrBreak rest.head?
  | '.' :: '.' :: '.' :: rest => orEnd isBlankOrBreak rest.head?
  | _ => false

def skipLineRest? (c : Cursor) : Option Cursor :=
  let c := c.skipWhile (· = ' ')
  let c := if c.peek = some '#' then c.skipWhile (fun ch => !isBreak ch) else c
  if orEnd isBreak c.peek then some ((c.lineBreak?.map Prod.snd).getD c) else none

end Cursor
end JobGate.Yaml
