import JobGate.Variant.Basic
/-! Tokens inside free text. A text falls into pieces, found from left to right: tokens, and the
characters at which no token starts. Substitution writes the value of each bound token in its place
and leaves all else; what it writes is not looked at again. -/
namespace JobGate

inductive Piece where
  | plain (c : Char)
  | token (t : Token)
  deriving DecidableEq, Repr

namespace Piece

def text : Piece → List Char
  | .plain c => [c]
  | .token t => t.text

end Piece

def pieces (s : List Char) : List Piece :=
  match s with
  | [] => []
  | c :: rest =>
    match _h : token? (c :: rest) with
    | some (t, after) => .token t :: pieces after
    | none => .plain c :: pieces rest
termination_by s.length
decreasing_by
  · exact length_of_token? _h
  · simp

theorem flatMap_text_pieces (s : List Char) : (pieces s).flatMap Piece.text = s := by
  fun_induction pieces s with
  | case1 => rfl
  | case2 c rest t after h ih =>
    rw [List.flatMap_cons, ih]
    exact (eq_of_token? h).1.symm
  | case3 c rest h ih => rw [List.flatMap_cons, ih]; rfl

namespace Piece

def substituted (data : Bindings) : Piece → Except Numeral.Fault (List Char)
  | .plain c => .ok [c]
  | .token t =>
    match data.get? (String.ofList t.name) with
    | none => .ok t.text
    | some v => do return (← v.written).toList

def substitutedAll (data : Bindings) : List Piece → Except Numeral.Fault (List Char)
  | [] => .ok []
  | p :: rest => do return (← p.substituted data) ++ (← substitutedAll data rest)

end Piece

def substitute (data : Bindings) (s : String) : Except Numeral.Fault String := do
  return String.ofList (← Piece.substitutedAll data (pieces s.toList))

end JobGate
