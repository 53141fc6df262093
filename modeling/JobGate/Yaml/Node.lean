import JobGate.Yaml.Scalar
import JobGate.Yaml.Lexer
/-! The nodes of a document, read from its tokens. A collection names its parts by their numbers,
and an alias is the number of its anchor, so a collection may be a part of itself. -/
namespace JobGate.Yaml

inductive Content where
  | scalar (text : String)
  | sequence (items : List Nat)
  | mapping (entries : List (Nat × Nat))

structure Node where
  tag : Tag
  content : Content

structure Graph where
  nodes : Array Node
  /-- The numbers of the nodes that have been read to their ends, the last one first. -/
  finished : List Nat

namespace Graph

def empty : Graph := ⟨#[], []⟩

def begin (g : Graph) (n : Node) : Graph := { g with nodes := g.nodes.push n }

def finish (g : Graph) (id : Nat) (content : Content) : Graph :=
  ⟨g.nodes.modify id (fun n => { n with content := content }), id :: g.finished⟩

end Graph

/- Tags. -/

def commonHandles : List (String × String) := [("!", "!"), ("!!", "tag:yaml.org,2002:")]

/-- What is said of a tag in front of a node. The lonely mark asks to go by the form. -/
inductive TagChoice where
  | absent
  | byForm
  | named (t : Tag)

def TagChoice.ofName (name : String) : TagChoice :=
  if name = "!" then .byForm
  else
    let known := Tag.names.map (fun k => ("tag:yaml.org,2002:" ++ k.1, k.2))
    .named ((known.lookup name).getD .unknown)

def TagChoice.ofProperty? (handles : List (String × String)) (t : TagProperty) :
    Option TagChoice :=
  match t.handle with
  | none => some (.ofName t.suffix)
  | some handle => (handles.lookup handle).map (fun start => .ofName (start ++ t.suffix))

structure Properties where
  anchor : Option String
  tag : TagChoice

namespace Properties

def isEmpty (p : Properties) : Bool :=
  match p.anchor, p.tag with
  | none, .absent => true
  | _, _ => false

def scalarTag (p : Properties) (s : ScalarText) : Tag :=
  match p.tag with
  | .absent => if s.plain then .ofForm s.text else .text
  | .byForm => .ofForm s.text
  | .named t => t

def collectionTag (p : Properties) (usual : Tag) : Tag :=
  match p.tag with
  | .named t => t
  | _ => usual

end Properties

/- What is left to read. -/

structure Source where
  tokens : Tokens
  handles : List (String × String)
  anchors : List (String × Nat)
  graph : Graph

abbrev Reading := StateT Source (Except Fault)

namespace Reading

def fail : Reading α := throw .malformed

/-- The next token, or none at the end. To look past the last token is the fault that is there. -/
def peek : Reading (Option Token) := do
  let s ← get
  match s.tokens.list, s.tokens.fault with
  | t :: _, _ => return some t
  | [], none => return none
  | [], some f => throw f

def skip : Reading Unit :=
  modify fun s => { s with tokens := { s.tokens with list := s.tokens.list.tail } }

def isAtAny (ts : List Token) : Reading Bool := do return (← peek).any ts.contains
def isAt (t : Token) : Reading Bool := isAtAny [t]

def expect (t : Token) : Reading Unit := do if ← isAt t then skip else fail

/- Nodes. -/

def setAnchor (name : Option String) (id : Nat) : Reading Unit :=
  match name with
  | none => return
  | some a => modify fun s => { s with anchors := (a, id) :: s.anchors }

/-- An anchor is free to be used once. -/
def checkAnchor (name : Option String) : Reading Unit := do
  match name with
  | none => return
  | some a => if ((← get).anchors.lookup a).isSome then fail

def begin (p : Properties) (tag : Tag) (content : Content) : Reading Nat := do
  checkAnchor p.anchor
  let id ← modifyGet fun s =>
    (s.graph.nodes.size, { s with graph := s.graph.begin ⟨tag, content⟩ })
  setAnchor p.anchor id
  return id

def finish (id : Nat) (content : Content) : Reading Nat := do
  modify fun s => { s with graph := s.graph.finish id content }
  return id

def scalar (p : Properties) (s : ScalarText) : Reading Nat := do
  finish (← begin p (p.scalarTag s) (.scalar s.text)) (.scalar s.text)

def emptyScalar (p : Properties) : Reading Nat := scalar p ⟨"", true⟩

def nothing : Reading Nat := emptyScalar ⟨none, .absent⟩

def sequence (p : Properties) (items : Reading (List Nat)) : Reading Nat := do
  let id ← begin p (p.collectionTag .sequence) (.sequence [])
  finish id (.sequence (← items))

def mapping (p : Properties) (entries : Reading (List (Nat × Nat))) : Reading Nat := do
  let id ← begin p (p.collectionTag .mapping) (.mapping [])
  finish id (.mapping (← entries))

/- Properties. -/

def takeAnchor : Reading (Option String) := do
  match ← peek with
  | some (.anchor name) => skip; return some name
  | _ => return none

def takeTag : Reading (Option TagProperty) := do
  match ← peek with
  | some (.tag t) => skip; return some t
  | _ => return none

def properties : Reading Properties := do
  let before ← takeAnchor
  let tag ← takeTag
  let after ← if before.isNone && tag.isSome then takeAnchor else pure none
  match tag with
  | none => return ⟨before.or after, .absent⟩
  | some t =>
    match TagChoice.ofProperty? (← get).handles t with
    | some choice => return ⟨before.or after, choice⟩
    | none => fail

end Reading

open Reading

/-- Where a node stands. Right under a key the items of a block sequence need no indent. -/
inductive Place where
  | flow | block | underKey
  deriving DecidableEq

mutual
def node (place : Place) : Nat → Reading Nat
  | 0 => fail
  | n + 1 => do
    match ← peek with
    | some (.alias name) =>
      skip
      match (← get).anchors.lookup name with
      | some id => return id
      | none => fail
    | _ => content place (← properties) n

def content (place : Place) (p : Properties) : Nat → Reading Nat
  | 0 => fail
  | n + 1 => do
    let inBlock := place ≠ .flow
    match ← peek with
    | some (.scalar t) => skip; scalar p t
    | some .flowSequenceStart => skip; sequence p (flowItems true n)
    | some .flowMappingStart => skip; mapping p (flowEntries true n)
    | t =>
      if t = some .blockEntry && place = .underKey then sequence p (blockItems false n)
      else if t = some .blockSequenceStart && inBlock then skip; sequence p (blockItems true n)
      else if t = some .blockMappingStart && inBlock then skip; mapping p (blockEntries n)
      else if p.isEmpty then fail
      else emptyScalar p

def nodeUnless (place : Place) (stops : List Token) : Nat → Reading Nat
  | 0 => fail
  | n + 1 => do if ← isAtAny stops then nothing else node place n

def pair (place : Place) (stops : List Token) : Nat → Reading (Nat × Nat)
  | 0 => fail
  | n + 1 => do
    let k ← nodeUnless place (.value :: stops) n
    if ← isAt .value then
      skip
      return (k, ← nodeUnless place stops n)
    else return (k, ← nothing)

/-- Items between brackets; a key makes a mapping of one entry. -/
def flowItems (first : Bool) : Nat → Reading (List Nat)
  | 0 => fail
  | n + 1 => do
    if ← isAt .flowSequenceEnd then skip; return []
    unless first do expect .flowEntry
    if ← isAt .flowSequenceEnd then skip; return []
    let item ←
      if ← isAt .key then
        mapping ⟨none, .absent⟩ do
          skip
          return [← pair .flow [.flowEntry, .flowSequenceEnd] n]
      else node .flow n
    return item :: (← flowItems false n)

/-- Entries between braces; a node that is not marked as a key has no value. -/
def flowEntries (first : Bool) : Nat → Reading (List (Nat × Nat))
  | 0 => fail
  | n + 1 => do
    if ← isAt .flowMappingEnd then skip; return []
    unless first do expect .flowEntry
    if ← isAt .flowMappingEnd then skip; return []
    let entry ←
      if ← isAt .key then
        skip
        pair .flow [.flowEntry, .flowMappingEnd] n
      else
        let k ← node .flow n
        pure (k, ← nothing)
    return entry :: (← flowEntries false n)

def blockItems (indented : Bool) : Nat → Reading (List Nat)
  | 0 => fail
  | n + 1 => do
    if ← isAt .blockEntry then
      skip
      let stops : List Token :=
        [.blockEntry, .blockEnd] ++ if indented then [] else [.key, .value]
      let item ← nodeUnless .block stops n
      return item :: (← blockItems indented n)
    else
      if indented then expect .blockEnd
      return []

def blockEntries : Nat → Reading (List (Nat × Nat))
  | 0 => fail
  | n + 1 => do
    if ← isAt .key then
      skip
      let entry ← pair .underKey [.key, .blockEnd] n
      return entry :: (← blockEntries n)
    else
      expect .blockEnd
      return []
end

/- Documents. -/

def directives (versioned : Bool) : Nat → Reading Unit
  | 0 => fail
  | n + 1 => do
    match ← peek with
    | some (.directive (.version major)) =>
      skip
      if versioned || major ≠ 1 then fail else directives true n
    | some (.directive (.tag handle start)) =>
      skip
      if ((← get).handles.lookup handle).isSome then fail
      modify fun s => { s with handles := s.handles ++ [(handle, start)] }
      directives versioned n
    | some (.directive .other) => skip; directives versioned n
    | _ => return

def startsDocument : Token → Bool
  | .directive _ | .documentStart => true
  | _ => false

def skipEnds : Nat → Reading Unit
  | 0 => return
  | n + 1 => do
    if ← isAt .documentEnd then
      skip
      skipEnds n

def root (n : Nat) : Reading Nat := do
  modify fun s => { s with handles := s.handles ++ commonHandles }
  let id ← match ← peek with
    | none => nothing
    | some t =>
      if startsDocument t || t = .documentEnd then nothing else node .block (4 * n + 8)
  skipEnds n
  if (← peek).isNone then return id else fail

def document : Reading (Option Nat) := do
  let n := (← get).tokens.list.length
  match ← peek with
  | none => return none
  | some t =>
    if startsDocument t then
      directives false (n + 1)
      expect .documentStart
      return some (← root n)
    else if t = .documentEnd then fail
    else return some (← root n)

end JobGate.Yaml
