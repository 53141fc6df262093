import JobGate.Text.Quoted
/-! Paths of files. A path is kept without parts that say nothing: those for the directory itself,
and what is between two slashes in a row. A part that leads up stays until the path is resolved. -/
namespace JobGate

/-- Where a path begins: here, at the root, or at what two slashes stand for. -/
inductive FilePath.Start where
  | here | root | doubleRoot
  deriving DecidableEq, Repr

structure FilePath where
  start : FilePath.Start
  parts : List String
  deriving DecidableEq, Repr

namespace FilePath

def Start.text : Start → String
  | .here => ""
  | .root => "/"
  | .doubleRoot => "//"

/-- Two slashes are something of their own; three and more are one. -/
def Start.ofSlashes : Nat → Start
  | 0 => .here
  | 2 => .doubleRoot
  | _ => .root

def ofText (s : String) : FilePath :=
  let cs := s.toList
  ⟨.ofSlashes (cs.takeWhile (· = '/')).length,
    ((cs.splitOn '/').map String.ofList).filter (fun part => part ≠ "" && part ≠ ".")⟩

def text (p : FilePath) : String :=
  if p.start = .here && p.parts = [] then "." else p.start.text ++ "/".intercalate p.parts

def isUp (part : String) : Bool := part = ".."

/-- One part further, where `p` has no part up but at its beginning. Nothing is above the root. -/
def step (p : FilePath) (part : String) : FilePath :=
  if isUp part then
    if p.parts.all isUp then if p.start = .here then ⟨.here, p.parts ++ [part]⟩ else p
    else { p with parts := p.parts.dropLast }
  else { p with parts := p.parts ++ [part] }

def base (p : FilePath) : FilePath := ⟨p.start, []⟩

def resolve (p : FilePath) : FilePath := p.parts.foldl step p.base

def parent (p : FilePath) : FilePath := { p with parts := p.parts.dropLast }

def ancestors (p : FilePath) : List FilePath :=
  (List.range p.parts.length).map (fun n => { p with parts := p.parts.take n })

/- Paths that cannot be followed, whatever files there are. -/

def hasNull (p : FilePath) : Bool := p.parts.any (fun part => part.toList.contains '\x00')

/-- The greatest number of bytes of one part. -/
def partLimit : Nat := 255

def pathLimit : Nat := 4095

end FilePath

inductive PathFault where
  | nullCharacter
  | nameTooLong (path : FilePath)
  | notDirectory (path : FilePath)
  deriving DecidableEq, Repr

def PathFault.message : PathFault → String
  | .nullCharacter => "embedded null byte"
  | .nameTooLong path => "[Errno 36] File name too long: " ++ Text.quoted path.text
  | .notDirectory path => "[Errno 20] Not a directory: " ++ Text.quoted path.text

end JobGate
