import JobGate.Yaml.Block
import JobGate.Yaml.Token
/-! From characters to tokens. A key on one line is known for one only at the colon after it; until
then its place among the tokens is kept as a candidate, one for each level of brackets. -/
namespace JobGate.Yaml

/-- A place where a key may have begun. A required one has to be followed by a colon. -/
structure Candidate where
  position : Nat
  required : Bool
  index : Nat
  line : Nat
  column : Nat

/-- A key and the space up to its colon have at most so many characters. -/
def keyLimit : Nat := 1024

structure Lexer where
  cursor : Cursor
  /-- The tokens so far, the last one first. -/
  tokens : List Token
  count : Nat
  indent : Int
  indents : List Int
  keyAllowed : Bool
  candidate : Option Candidate
  outer : List (Option Candidate)

namespace Lexer

def start (c : Cursor) : Lexer := ⟨c, [], 0, -1, [], true, none, []⟩

def inFlow (l : Lexer) : Bool := !l.outer.isEmpty

def push (l : Lexer) (t : Token) : Lexer := { l with tokens := t :: l.tokens, count := l.count + 1 }

def insertAt (l : Lexer) (position : Nat) (ts : List Token) : Lexer :=
  let since := l.count - position
  { l with
    tokens := l.tokens.take since ++ ts.reverse ++ l.tokens.drop since
    count := l.count + ts.length }

/- Candidates. -/

def isStale (c : Cursor) (k : Candidate) : Bool :=
  k.line ≠ c.line || keyLimit < c.index - k.index

/-- The candidate, if it is still one; a required one must not get stale. -/
def refresh (c : Cursor) : Option Candidate → Except Fault (Option Candidate)
  | none => .ok none
  | some k =>
    if !isStale c k then .ok (some k) else if k.required then .error .malformed else .ok none

def dropStale (l : Lexer) : Except Fault Lexer := do
  return { l with
    candidate := ← refresh l.cursor l.candidate
    outer := ← l.outer.mapM (refresh l.cursor) }

def dropCandidate (l : Lexer) : Except Fault Lexer :=
  if l.candidate.any Candidate.required then .error .malformed
  else .ok { l with candidate := none }

def saveCandidate (l : Lexer) : Except Fault Lexer :=
  if l.keyAllowed then do
    let l ← l.dropCandidate
    let c := l.cursor
    return { l with
      candidate := some ⟨l.count, !l.inFlow && l.indent = c.column, c.index, c.line, c.column⟩ }
  else .ok l

/-- The tokens that nothing to come can change: those before the first place of a key. -/
def told (l : Lexer) : List Token :=
  let candidates := (l.candidate :: l.outer).filterMap (·.filter (fun k => !isStale l.cursor k))
  l.tokens.reverse.take (candidates.foldl (fun n k => min n k.position) l.count)

/- Indentation. -/

def closeTo (column : Int) : Nat → Lexer → Lexer
  | 0, l => l
  | n + 1, l =>
    if l.indent ≤ column then l
    else
      closeTo column n
        ({ l with indent := l.indents.headD (-1), indents := l.indents.tail }.push .blockEnd)

def unwind (l : Lexer) (column : Int) : Lexer :=
  if l.inFlow then l else l.closeTo column (l.indents.length + 1)

def openAt (l : Lexer) (column : Int) : Lexer :=
  { l with indent := column, indents := l.indent :: l.indents }

def openBlock (l : Lexer) (t : Token) : Lexer :=
  if l.indent < l.cursor.column then (l.openAt l.cursor.column).push t else l

/- Tokens. -/

def take (l : Lexer) (t : Token) (size : Nat) : Lexer :=
  { l.push t with cursor := l.cursor.skip size }

def directiveToken (l : Lexer) : Except Fault Lexer := do
  let l ← (l.unwind (-1)).dropCandidate
  let (d, c) ← directive l.cursor
  return { l.push (.directive d) with cursor := c, keyAllowed := false }

def separatorToken (l : Lexer) (t : Token) : Except Fault Lexer := do
  let l ← (l.unwind (-1)).dropCandidate
  return { l.take t 3 with keyAllowed := false }

def flowStart (l : Lexer) (t : Token) : Except Fault Lexer := do
  let l ← l.saveCandidate
  return { l.take t 1 with
    outer := l.candidate :: l.outer, candidate := none, keyAllowed := true }

def flowEnd (l : Lexer) (t : Token) : Except Fault Lexer := do
  let l ← l.dropCandidate
  match l.outer with
  | [] => .error .malformed
  | k :: outer => return { l.take t 1 with outer := outer, candidate := k, keyAllowed := false }

def flowEntry (l : Lexer) : Except Fault Lexer := do
  let l ← l.dropCandidate
  return { l.take .flowEntry 1 with keyAllowed := true }

def blockEntry (l : Lexer) : Except Fault Lexer := do
  if !l.inFlow && !l.keyAllowed then .error .malformed
  else
    let l := if l.inFlow then l else l.openBlock .blockSequenceStart
    let l ← l.dropCandidate
    return { l.take .blockEntry 1 with keyAllowed := true }

def explicitKey (l : Lexer) : Except Fault Lexer := do
  if !l.inFlow && !l.keyAllowed then .error .malformed
  else
    let l := if l.inFlow then l else l.openBlock .blockMappingStart
    let l ← l.dropCandidate
    return { l.take .key 1 with keyAllowed := !l.inFlow }

def valueToken (l : Lexer) : Except Fault Lexer := do
  match l.candidate with
  | some k =>
    let opens : Bool := !l.inFlow && l.indent < k.column
    let l := l.insertAt k.position (if opens then [.blockMappingStart, .key] else [.key])
    let l := if opens then l.openAt k.column else l
    return { l.take .value 1 with candidate := none, keyAllowed := false }
  | none =>
    if !l.inFlow && !l.keyAllowed then .error .malformed
    else
      let l := if l.inFlow then l else l.openBlock .blockMappingStart
      return { l.take .value 1 with keyAllowed := !l.inFlow }

def property (l : Lexer) (read : Cursor → Except Fault (α × Cursor)) (token : α → Token) :
    Except Fault Lexer := do
  let l ← l.saveCandidate
  let (a, c) ← read l.cursor
  return { l.push (token a) with cursor := c, keyAllowed := false }

def quotedToken (l : Lexer) (style : QuoteStyle) : Except Fault Lexer :=
  l.property (quotedScalar style) (fun cs => .scalar ⟨String.ofList cs, false⟩)

def blockToken (l : Lexer) (fold : Bool) : Except Fault Lexer := do
  let l ← l.dropCandidate
  let (cs, c) ← orMalformed (blockScalar? fold l.indent l.cursor)
  return { l.push (.scalar ⟨String.ofList cs, false⟩) with cursor := c, keyAllowed := true }

def plainToken (l : Lexer) : Except Fault Lexer := do
  let l ← l.saveCandidate
  let p := plainScalar l.inFlow (l.indent + 1) l.cursor
  return { l.push (.scalar ⟨String.ofList p.text, true⟩) with
    cursor := p.after, keyAllowed := p.newLine }

/- What comes next. -/

/-- Past spaces, comments and line breaks. Outside of brackets a key may begin on a new line. -/
def skipGap : Nat → Lexer → Lexer
  | 0, l => l
  | n + 1, l =>
    let c := l.cursor.skipWhile (· = ' ')
    let c := if c.peek = some '#' then c.skipWhile (fun ch => !isBreak ch) else c
    match c.lineBreak? with
    | none => { l with cursor := c }
    | some (_, c) => skipGap n { l with cursor := c, keyAllowed := !l.inFlow || l.keyAllowed }

def startsPlain (inFlow : Bool) (ch : Char) (after : Option Char) : Bool :=
  !(isBlankOrBreak ch || "-?:,[]\x7b\x7d#&*!|>\x27\x22%@\x60".toList.contains ch) ||
    (!orEnd isBlankOrBreak after && (ch = '-' || (!inFlow && (ch = '?' || ch = ':'))))

def token (l : Lexer) (ch : Char) : Except Fault Lexer :=
  let blankAfter := orEnd isBlankOrBreak (l.cursor.peekAt 1)
  let lineStart : Bool := l.cursor.column = 0
  if ch = '%' && lineStart then l.directiveToken
  else if lineStart && l.cursor.atSeparator then
    l.separatorToken (if ch = '-' then .documentStart else .documentEnd)
  else if ch = '[' then l.flowStart .flowSequenceStart
  else if ch = '\x7b' then l.flowStart .flowMappingStart
  else if ch = ']' then l.flowEnd .flowSequenceEnd
  else if ch = '\x7d' then l.flowEnd .flowMappingEnd
  else if ch = ',' then l.flowEntry
  else if ch = '-' && blankAfter then l.blockEntry
  else if ch = '?' && (l.inFlow || blankAfter) then l.explicitKey
  else if ch = ':' && (l.inFlow || blankAfter) then l.valueToken
  else if ch = '*' then l.property (orMalformed ∘ anchorName?) .alias
  else if ch = '&' then l.property (orMalformed ∘ anchorName?) .anchor
  else if ch = '!' then l.property (orMalformed ∘ tagProperty?) .tag
  else if ch = '|' && !l.inFlow then l.blockToken false
  else if ch = '>' && !l.inFlow then l.blockToken true
  else if ch = QuoteStyle.single.mark then l.quotedToken .single
  else if ch = QuoteStyle.double.mark then l.quotedToken .double
  else if startsPlain l.inFlow ch (l.cursor.peekAt 1) then l.plainToken
  else .error .malformed

def finish (l : Lexer) : Except Fault Lexer := (l.unwind (-1)).dropCandidate

end Lexer

/-- The tokens of a text, as far as they can be told, and the fault that comes after them. -/
structure Tokens where
  list : List Token
  fault : Option Fault

namespace Lexer

def cutOff? (c : Cursor) : Option Fault :=
  match c.rest with
  | [] | [_] => c.cutOff
  | _ => none

inductive Progress where
  | more (l : Lexer)
  | complete (tokens : List Token)

def step (n : Nat) (l : Lexer) : Except Fault Progress := do
  let l ← (l.skipGap n).dropStale
  let l := l.unwind l.cursor.column
  match cutOff? l.cursor, l.cursor.peek with
  | some f, _ => .error f
  | none, none => return .complete (← l.finish).tokens.reverse
  | none, some ch =>
    let l ← l.token ch
    match cutOff? l.cursor with
    | some f => .error f
    | none => return .more l

def run : Nat → Lexer → Tokens
  | 0, l => ⟨l.told, some .malformed⟩
  | n + 1, l =>
    match l.step (n + 1) with
    | .error f => ⟨l.told, some f⟩
    | .ok (.complete tokens) => ⟨tokens, none⟩
    | .ok (.more l) => run n l

end Lexer

def Tokens.ofText (cs : List Char) (cutOff : Option Fault) : Tokens :=
  let c := Cursor.start cs cutOff
  let c := if c.peek = some Text.byteOrderMark then c.next else c
  (Lexer.start c).run (cs.length + 1)

end JobGate.Yaml
