import JobGate.Yaml.Plain
/-! Scalars in quotes. Between single quotes two of them stand for one; between double quotes a
backslash opens an escape. Line breaks fold as in plain scalars. -/
namespace JobGate.Yaml

inductive QuoteStyle where
  | single | double
  deriving DecidableEq

def QuoteStyle.mark : QuoteStyle → Char
  | .single => '\x27'
  | .double => '\x22'

def namedEscape? (c : Char) : Option Char :=
  [('0', '\x00'), ('a', '\x07'), ('b', '\x08'), ('t', '\t'), ('\t', '\t'), ('n', '\n'),
   ('v', '\x0b'), ('f', '\x0c'), ('r', '\r'), ('e', '\x1b'), (' ', ' '), ('\x22', '\x22'),
   ('\x5c', '\x5c'), ('/', '/'), ('N', '\u0085'), ('_', '\u00a0'), ('L', '\u2028'),
   ('P', '\u2029')].lookup c

def escapeWidth? (c : Char) : Option Nat :=
  [('x', 2), ('u', 4), ('U', 8)].lookup c

def hexValue? (c : Char) : Option Nat :=
  if '0' ≤ c && c ≤ '9' then some (c.toNat - 0x30)
  else if 'a' ≤ c && c ≤ 'f' then some (c.toNat - 0x57)
  else if 'A' ≤ c && c ≤ 'F' then some (c.toNat - 0x37)
  else none

def hexNumber? (cs : List Char) : Option Nat :=
  cs.foldlM (fun n c => (hexValue? c).map (16 * n + ·)) 0

/-- The character with a number. A half of a surrogate pair is none by itself, so the sign for what
cannot be shown stands in its place. -/
def charOf (n : Nat) : Except Fault Char :=
  if 0x7fffffff < n then .error (.scalar .notWord)
  else if 0x10ffff < n then .error (.scalar .notCharacter)
  else .ok (if n.isValidChar then Char.ofNat n else '\ufffd')

def numberedEscape (width : Nat) (c : Cursor) : Except Fault (Char × Cursor) := do
  let digits := c.rest.take width
  let n ← orMalformed (hexNumber? digits)
  if digits.length < width then .error c.ending else return (← charOf n, c.skip width)

def quotedBreaks? : Nat → Cursor → Option (List Char × Cursor)
  | 0, _ => none
  | n + 1, c =>
    if c.atSeparator then none
    else
      let c := c.skipWhile isSpaceOrTab
      match c.lineBreak? with
      | none => some ([], c)
      | some (b, c) => do
        let (breaks, c) ← quotedBreaks? n c
        return (b :: breaks, c)

def quotedGap? (c : Cursor) : Option (List Char × Cursor) :=
  let (blanks, c) := c.run isSpaceOrTab
  match c.lineBreak? with
  | none => some (blanks, c)
  | some (b, c) => do
    let (breaks, c) ← quotedBreaks? (c.rest.length + 1) c
    return (folded b breaks, c)

def escape (c : Cursor) : Except Fault (List Char × Cursor) :=
  match c.rest with
  | [] => .error c.ending
  | ch :: _ =>
    match namedEscape? ch, escapeWidth? ch, c.lineBreak? with
    | some e, _, _ => .ok ([e], c.next)
    | _, some width, _ => do
      let (e, c) ← numberedEscape width c.next
      return ([e], c)
    | _, _, some (_, c) => orMalformed (quotedBreaks? (c.rest.length + 1) c)
    | _, _, _ => .error .malformed

def quotedParts (style : QuoteStyle) : Nat → Cursor → Except Fault (List Char × Cursor)
  | 0, _ => .error .malformed
  | n + 1, c =>
    match c.rest with
    | [] => .error c.ending
    | ch :: rest =>
      let goOn (part : List Char) (c : Cursor) : Except Fault (List Char × Cursor) := do
        let (more, c) ← quotedParts style n c
        return (part ++ more, c)
      if ch = style.mark then
        if style = .single && rest.head? = some style.mark then goOn [ch] (c.skip 2)
        else .ok ([], c.next)
      else if isBlankOrBreak ch then do
        let (gap, c) ← orMalformed (quotedGap? c)
        goOn gap c
      else if style = .double && ch = '\x5c' then do
        let (part, c) ← escape c.next
        goOn part c
      else goOn [ch] c.next

def quotedScalar (style : QuoteStyle) (c : Cursor) : Except Fault (List Char × Cursor) :=
  quotedParts style (c.rest.length + 1) c.next

end JobGate.Yaml
