import JobGate.Text.Quoted
/-! The characters of a text file: UTF-8, with every way to end a line read as a line feed. The
fault is the first sequence that is cut short, or that begins or goes on wrongly. -/
namespace JobGate.Text

def byteOrderMark : Char := '\ufeff'

def unifyLineEnds : List Char → List Char
  | [] => []
  | '\r' :: '\n' :: rest => '\n' :: unifyLineEnds rest
  | c :: rest => (if c = '\r' then '\n' else c) :: unifyLineEnds rest

def decode? (bytes : ByteArray) : Option (List Char) :=
  (String.fromUTF8? bytes).map (fun s => unifyLineEnds s.toList)

/- Faults. -/

inductive DecodeFault.Reason where
  | start | continuation | ending
  deriving DecidableEq, Repr

structure DecodeFault where
  position : Nat
  size : Nat
  first : UInt8
  reason : DecodeFault.Reason
  deriving DecidableEq, Repr

def continuations? (first : UInt8) : Option (List (UInt8 × UInt8)) :=
  let any := (0x80, 0xbf)
  if first < 0x80 then some []
  else if first < 0xc2 then none
  else if first < 0xe0 then some [any]
  else if first < 0xf0 then
    some [if first = 0xe0 then (0xa0, 0xbf) else if first = 0xed then (0x80, 0x9f) else any, any]
  else if first < 0xf5 then
    some [if first = 0xf0 then (0x90, 0xbf) else if first = 0xf4 then (0x80, 0x8f) else any, any,
      any]
  else none

def inRanges : List (UInt8 × UInt8) → List UInt8 → Nat
  | r :: rs, b :: bs => if r.1 ≤ b && b ≤ r.2 then inRanges rs bs + 1 else 0
  | _, _ => 0

def decodeFault (position : Nat) (bytes : List UInt8) : DecodeFault :=
  match bytes with
  | [] => ⟨position, 0, 0, .ending⟩
  | first :: rest =>
    match continuations? first with
    | none => ⟨position, 1, first, .start⟩
    | some ranges =>
      let size := inRanges ranges rest
      if size = ranges.length then decodeFault (position + size + 1) (rest.drop size)
      else ⟨position, size + 1, first, if size = rest.length then .ending else .continuation⟩
termination_by bytes.length
decreasing_by rw [List.length_drop, List.length_cons]; omega

namespace DecodeFault

def Reason.text : Reason → String
  | .start => "invalid start byte"
  | .continuation => "invalid continuation byte"
  | .ending => "unexpected end of data"

def message (f : DecodeFault) : String :=
  let what :=
    if f.size = 1 then s!"byte 0x{String.ofList (hexDigits 2 f.first.toNat)} in position " ++
      s!"{f.position}"
    else s!"bytes in position {f.position}-{f.position + f.size - 1}"
  "'utf-8' codec can't decode " ++ what ++ ": " ++ f.reason.text

end DecodeFault

end JobGate.Text
