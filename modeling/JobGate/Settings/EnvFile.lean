import JobGate.Text.Blank
import JobGate.Text.Decoded
/-! Files of variables. A line gives a name and after an equals sign its value, which may stand in
quotes, and may end with a comment. A line that is not of this form is passed over. -/
namespace JobGate.EnvFile

/-- A name alone has no value. -/
structure Binding where
  name : String
  value : Option String
  deriving DecidableEq, Repr

def isLineEnd (c : Char) : Bool := c = '\n' || c = '\r'
def isSpace (c : Char) : Bool := Text.isBlank c && !isLineEnd c

def skipSpace (cs : List Char) : List Char := cs.dropWhile isSpace

/- Values in quotes. -/

inductive QuoteMark where
  | single | double
  deriving DecidableEq, Repr

namespace QuoteMark

def char : QuoteMark → Char
  | .single => '\x27'
  | .double => '\x22'

def ofChar? (c : Char) : Option QuoteMark := [single, double].find? (fun q => q.char = c)

def escapes : QuoteMark → List (Char × Char)
  | .single => [('\x5c', '\x5c'), ('\x27', '\x27')]
  | .double =>
    [('\x5c', '\x5c'), ('\x27', '\x27'), ('\x22', '\x22'), ('a', '\x07'), ('b', '\x08'),
     ('f', '\x0c'), ('n', '\n'), ('r', '\r'), ('t', '\t'), ('v', '\x0b')]

end QuoteMark

def escapeMark : Char := '\x5c'

def quoted? (quote : Char) : List Char → Option (List Char × List Char)
  | [] => none
  | [c] => if c = quote then some ([], []) else none
  | c :: d :: rest =>
    if c = quote then some ([], d :: rest)
    else if c = escapeMark then (quoted? quote rest).map (fun r => (c :: d :: r.1, r.2))
    else (quoted? quote (d :: rest)).map (fun r => (c :: r.1, r.2))

/-- A backslash that escapes nothing stays. -/
def unescape (escapes : List (Char × Char)) : List Char → List Char
  | [] => []
  | [c] => [c]
  | c :: d :: rest =>
    if c = escapeMark then
      match escapes.lookup d with
      | some e => e :: unescape escapes rest
      | none => c :: unescape escapes (d :: rest)
    else c :: unescape escapes (d :: rest)

def beforeComment : List Char → List Char
  | [] => []
  | c :: rest =>
    if Text.isBlank c && rest.head? = some '#' then [] else c :: beforeComment rest

def trimEnd (cs : List Char) : List Char := (cs.reverse.dropWhile Text.isBlank).reverse

def dropLine (cs : List Char) : List Char := (cs.dropWhile (fun c => !isLineEnd c)).tail

def dropExport (cs : List Char) : List Char :=
  let word := "export".toList
  let rest := cs.drop word.length
  if word.isPrefixOf cs && rest.head?.any isSpace then skipSpace rest else cs

/- Each reading gives what is left, or the place where it had to stop. -/

def readName (cs : List Char) : Except (List Char) (Option String × List Char) :=
  match cs with
  | [] => .error cs
  | c :: rest =>
    if c = '#' then .ok (none, cs)
    else
      let quote := QuoteMark.single.char
      let inQuotes : Bool := c = quote
      let isEnd (d : Char) : Bool :=
        if inQuotes then d = quote else d = '=' || d = '#' || Text.isBlank d
      let (name, after) := (if inQuotes then rest else cs).span (fun d => !isEnd d)
      if name = [] || (inQuotes && after = []) then .error cs
      else .ok (some (String.ofList name), if inQuotes then after.tail else after)

/-- The value after an equals sign. The blanks after the sign may already part a comment from it. -/
def readValue (cs : List Char) : Except (List Char) (String × List Char) :=
  let start := skipSpace cs
  match start.head?.bind QuoteMark.ofChar? with
  | some quote =>
    match quoted? quote.char start.tail with
    | some (text, after) => .ok (String.ofList (unescape quote.escapes text), after)
    | none => .error start
  | none =>
    let (line, after) := cs.span (fun d => !isLineEnd d)
    .ok (String.ofList (trimEnd (skipSpace (beforeComment line))), after)

def endLine (cs : List Char) : Except (List Char) (List Char) :=
  let after := skipSpace cs
  let after := if after.head? = some '#' then after.dropWhile (fun c => !isLineEnd c) else after
  if after.head?.all isLineEnd then .ok after.tail else .error after

def readLine (cs : List Char) : Except (List Char) (Option Binding × List Char) := do
  let (name, cs) ← readName (dropExport cs)
  let cs := skipSpace cs
  let (value, cs) ←
    if cs.head? = some '=' then
      (readValue cs.tail).map (fun r => (some r.1, r.2))
    else .ok (none, cs)
  let cs ← endLine cs
  return (name.map (fun n => ⟨n, value⟩), cs)

def readLines : Nat → List Char → List Binding
  | 0, _ => []
  | n + 1, cs =>
    match cs.dropWhile Text.isBlank with
    | [] => []
    | cs =>
      match readLine cs with
      | .ok (b, rest) => b.toList ++ readLines n rest
      | .error rest => readLines n (dropLine rest)

/-- A mark of the byte order before the first line is passed over. -/
def bindings (cs : List Char) : List Binding :=
  readLines (cs.length + 1) (if cs.head? = some Text.byteOrderMark then cs.tail else cs)

def ofBytes (bytes : ByteArray) : Except Text.DecodeFault (List Binding) :=
  match Text.decode? bytes with
  | some cs => .ok (bindings cs)
  | none => .error (Text.decodeFault 0 bytes.toList)

end JobGate.EnvFile
