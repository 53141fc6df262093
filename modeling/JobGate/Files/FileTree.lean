import JobGate.Dictionary
import JobGate.Files.FilePath
/-! Files and directories under their resolved paths. The directory that paths start from and those
above it are always there. A path names something only if all it goes through are directories. -/
namespace JobGate

/-- An entry has the time of its last change. That of a directory may be a moment of its own, which
is the same as no given time. -/
inductive Entry where
  | directory (mtime : Option Int)
  | file (bytes : ByteArray) (mtime : Int)

namespace Entry

def bytes? : Entry → Option ByteArray
  | .directory _ => none
  | .file bytes _ => some bytes

def withTime (mtime : Int) : Entry → Entry
  | .directory _ => .directory mtime
  | .file bytes _ => .file bytes mtime

end Entry

structure FileTree where
  entries : Dictionary Entry

namespace FileTree

def empty : FileTree := ⟨.empty⟩

def get? (t : FileTree) (p : FilePath) : Option Entry :=
  if p.parts.all FilePath.isUp then some (.directory none) else t.entries.get? p.text

def walk (t : FileTree) (path p : FilePath) : List String → Except PathFault (Option Entry)
  | [] => .ok (t.get? p)
  | part :: rest =>
    match t.get? p with
    | none => .ok none
    | some (.file ..) => .error (.notDirectory path)
    | some (.directory _) =>
      if FilePath.partLimit < part.utf8ByteSize then .error (.nameTooLong path)
      else walk t path (p.step part) rest

def find? (t : FileTree) (path : FilePath) : Except PathFault (Option Entry) :=
  if path.hasNull then .error .nullCharacter
  else if FilePath.pathLimit < path.text.utf8ByteSize then .error (.nameTooLong path)
  else t.walk path path.base path.parts

/- Changes. Each of them is at a resolved path. -/

def stir (t : FileTree) (p : FilePath) : FileTree :=
  match t.entries.get? p.parent.text with
  | some (.directory _) => ⟨t.entries.insert p.parent.text (.directory none)⟩
  | _ => t

/-- A new entry stirs the directory that it comes into; a file that is there is written anew. -/
def set (t : FileTree) (p : FilePath) (e : Entry) : FileTree :=
  let stirred := if (t.get? p).isSome then t else t.stir p
  ⟨stirred.entries.insert p.text e⟩

def addDirectory (t : FileTree) (p : FilePath) : FileTree :=
  if (t.get? p).isSome then t else t.set p (.directory none)

def put (t : FileTree) (p : FilePath) (e : Entry) : FileTree :=
  (p.ancestors.foldl addDirectory t).set p e

def makeDirectory (t : FileTree) (p : FilePath) (mtime : Int) : FileTree :=
  match t.get? p with
  | some (.file ..) => t
  | _ => t.put p (.directory mtime)

def isWithin (p : FilePath) (key : String) : Bool :=
  key = p.text || key.startsWith (p.text ++ "/")

def prune (t : FileTree) (p : FilePath) : FileTree :=
  ⟨(t.entries.names.filter (isWithin p)).foldl Dictionary.erase t.entries⟩

def delete (t : FileTree) (p : FilePath) : FileTree :=
  if (t.get? p).isSome then (t.prune p).stir p else t

/-- Touching what is not there changes nothing. -/
def touch (t : FileTree) (p : FilePath) (mtime : Int) : FileTree :=
  match t.entries.get? p.text with
  | some e => ⟨t.entries.insert p.text (e.withTime mtime)⟩
  | none => t

/-- An entry goes to another path with all that is below it and with all times of change; what was
at that path is gone. -/
def rename (t : FileTree) (p q : FilePath) : FileTree :=
  match t.get? p with
  | none => t
  | some e =>
    if p = q then t
    else
      let below := t.entries.entries.filter (fun (key, _) => isWithin p key && key ≠ p.text)
      let moved := ((t.delete p).delete q).put q e
      below.foldl (fun t (key, e) =>
        ⟨t.entries.insert (q.text ++ String.ofList (key.toList.drop p.text.length)) e⟩) moved

end FileTree
end JobGate
