import JobGate.Settings.EnvFile
/-! References in a file of variables: a name in braces after a dollar sign stands for what is
bound further up or in the environment, or for the default after a colon and a dash. -/
namespace JobGate.EnvFile

structure Reference where
  name : String
  default : Option String
  deriving DecidableEq, Repr

def closing : Char := '\x7d'

def reference? (cs : List Char) : Option (Reference × List Char) :=
  let (name, rest) := cs.span (fun c => c ≠ closing && c ≠ ':')
  match rest with
  | ':' :: '-' :: rest =>
    let (default, rest) := rest.span (· ≠ closing)
    match rest with
    | _ :: rest => some (⟨String.ofList name, some (String.ofList default)⟩, rest)
    | [] => none
  | c :: rest => if c = closing then some (⟨String.ofList name, none⟩, rest) else none
  | [] => none

/-- A value with its references replaced; what is no reference stays. -/
def replace (value : Reference → String) : Nat → List Char → List Char
  | 0, cs => cs
  | _, [] => []
  | n + 1, c :: rest =>
    let found := if c = '$' && rest.head? = some '\x7b' then reference? rest.tail else none
    match found with
    | some (r, after) => (value r).toList ++ replace value n after
    | none => c :: replace value n rest

/-- The value of a reference; a name that was given without a value stands for nothing. -/
def lookUp (environment : List (String × String)) (above : List Binding) (r : Reference) : String :=
  match above.reverse.find? (fun b => b.name = r.name) with
  | some b => b.value.getD ""
  | none => ((environment.reverse.lookup r.name).or r.default).getD ""

def expandValue (environment : List (String × String)) (above : List Binding) (s : String) :
    String :=
  String.ofList (replace (lookUp environment above) (s.toList.length + 1) s.toList)

def expand (environment : List (String × String)) (bs : List Binding) : List Binding :=
  bs.foldl (fun above b =>
    above ++ [{ b with value := b.value.map (expandValue environment above) }]) []

end JobGate.EnvFile
