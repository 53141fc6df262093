import JobGate.Yaml.Quoted
/-! Properties of nodes and directives: anchors and the aliases of them, tags with their handles,
and the lines that begin with a percent sign. -/
namespace JobGate.Yaml

def isWordChar (c : Char) : Bool :=
  ('0' ≤ c && c ≤ '9') || ('a' ≤ c && c ≤ 'z') || ('A' ≤ c && c ≤ 'Z') || c = '-' || c = '_'

def isAnchorEnd (c : Char) : Bool := isBlankOrBreak c || "?:,]\x7d%@\x60".toList.contains c

def anchorName? (c : Cursor) : Option (String × Cursor) :=
  let (name, c) := c.next.run isWordChar
  if name ≠ [] && orEnd isAnchorEnd c.peek then some (String.ofList name, c) else none

/- Tags. -/

def isUriChar (c : Char) : Bool :=
  isWordChar c || ";/?:@&=+$,.!~*\x27()[]".toList.contains c

def percentByte? (cs : List Char) : Option UInt8 :=
  match cs with
  | '%' :: a :: b :: _ => do return UInt8.ofNat (16 * (← hexValue? a) + (← hexValue? b))
  | _ => none

def percentBytes? : Nat → Cursor → Option (List UInt8 × Cursor)
  | 0, _ => none
  | n + 1, c =>
    if c.peek = some '%' then do
      let b ← percentByte? c.rest
      let (bytes, c) ← percentBytes? n (c.skip 3)
      return (b :: bytes, c)
    else some ([], c)

def uriParts? : Nat → Cursor → Option (List Char × Cursor)
  | 0, _ => none
  | n + 1, c =>
    let (part, c) := c.run isUriChar
    if c.peek = some '%' then do
      let (bytes, c) ← percentBytes? (c.rest.length + 1) c
      let escaped ← String.fromUTF8? ⟨bytes.toArray⟩
      let (more, c) ← uriParts? n c
      return (part ++ escaped.toList ++ more, c)
    else some (part, c)

def uri? (c : Cursor) : Option (String × Cursor) := do
  let (cs, d) ← uriParts? (c.rest.length + 1) c
  if d.index = c.index then none else return (String.ofList cs, d)

def handle? (c : Cursor) : Option (String × Cursor) :=
  if c.peek ≠ some '!' then none
  else
    let (word, d) := c.next.run isWordChar
    if c.peekAt 1 = some ' ' then some ("!", c.next)
    else if d.peek = some '!' then some ("!" ++ String.ofList word ++ "!", d.next)
    else none

structure TagProperty where
  handle : Option String
  suffix : String
  deriving DecidableEq

def isSpaceOrBreak (c : Char) : Bool := c = ' ' || isBreak c

def tagParts? (c : Cursor) : Option (TagProperty × Cursor) :=
  match c.peekAt 1 with
  | some '<' => do
    let (suffix, c) ← uri? (c.skip 2)
    if c.peek = some '>' then return (⟨none, suffix⟩, c.next) else none
  | ch =>
    if orEnd isBlankOrBreak ch then some (⟨none, "!"⟩, c.next)
    else
      let word := c.next.rest.takeWhile (fun d => !isSpaceOrBreak d)
      if word.contains '!' then do
        let (handle, c) ← handle? c
        let (suffix, c) ← uri? c
        return (⟨some handle, suffix⟩, c)
      else do
        let (suffix, c) ← uri? c.next
        return (⟨some "!", suffix⟩, c)

def tagProperty? (c : Cursor) : Option (TagProperty × Cursor) := do
  let (tag, c) ← tagParts? c
  if orEnd isSpaceOrBreak c.peek then return (tag, c) else none

/- Directives. -/

inductive Directive where
  | version (major : Nat)
  | tag (handle content : String)
  | other
  deriving DecidableEq

/-- A part of a version; there must not be too many digits even if they are zeros. -/
def versionPart (c : Cursor) : Except Fault (Nat × Cursor) := do
  let (digits, c) := c.run Numeral.isDigit
  if digits = [] then .error .malformed
  else
    let n := Numeral.limited digits.length (Numeral.decimal digits)
    return ((← n.mapError (.scalar ∘ .number ∘ .integer)).toNat, c)

def versionDirective (c : Cursor) : Except Fault (Directive × Cursor) := do
  let (major, c) ← versionPart (c.skipWhile (· = ' '))
  if c.peek ≠ some '.' then .error .malformed
  else
    let (_, c) ← versionPart c.next
    if orEnd isSpaceOrBreak c.peek then return (.version major, c) else .error .malformed

def tagDirective? (c : Cursor) : Option (Directive × Cursor) := do
  let (handle, c) ← handle? (c.skipWhile (· = ' '))
  if c.peek ≠ some ' ' then none
  else
    let (content, c) ← uri? (c.skipWhile (· = ' '))
    if orEnd isSpaceOrBreak c.peek then return (.tag handle content, c) else none

def directive (c : Cursor) : Except Fault (Directive × Cursor) := do
  let (name, c) := c.next.run isWordChar
  if name = [] || !orEnd isSpaceOrBreak c.peek then .error .malformed
  else
    let (d, c) ←
      if name = "YAML".toList then versionDirective c
      else if name = "TAG".toList then orMalformed (tagDirective? c)
      else .ok (.other, c.skipWhile (fun ch => !isBreak ch))
    return (d, ← orMalformed c.skipLineRest?)

end JobGate.Yaml
