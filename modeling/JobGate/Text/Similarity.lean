/-! How close two texts are: the characters that they share in common blocks. The longest block is
taken first, and then what is before it and what is after it are compared in the same way. Texts
are close if at least three characters in five are shared. -/
namespace JobGate.Text

def commonStart : List Char → List Char → Nat
  | a :: as, b :: bs => if a = b then commonStart as bs + 1 else 0
  | _, _ => 0

structure Block where
  left : Nat
  right : Nat
  size : Nat

/-- The longer block, and of two that are equally long the first. -/
def Block.max (a b : Block) : Block := if a.size < b.size then b else a

def longestAt (left : Nat) (as : List Char) (bs : List Char) : Block :=
  (List.range bs.length).foldl
    (fun best right => best.max ⟨left, right, commonStart as (bs.drop right)⟩) ⟨left, 0, 0⟩

def longestBlock (as bs : List Char) : Block :=
  (List.range as.length).foldl
    (fun best left => best.max (longestAt left (as.drop left) bs)) ⟨0, 0, 0⟩

/-- The number of characters in common blocks; `n` bounds how often the texts are cut. -/
def sharedWithin : Nat → List Char → List Char → Nat
  | 0, _, _ => 0
  | n + 1, as, bs =>
    let block := longestBlock as bs
    if block.size = 0 then 0
    else
      sharedWithin n (as.take block.left) (bs.take block.right) + block.size +
        sharedWithin n (as.drop (block.left + block.size)) (bs.drop (block.right + block.size))

def shared (as bs : List Char) : Nat := sharedWithin (as.length + 1) as bs

def isClose (s t : String) : Bool :=
  3 * (s.length + t.length) ≤ 10 * shared s.toList t.toList

def closeNames (names : List String) (s : String) : List String :=
  (names.filter (isClose · s)).mergeSort

end JobGate.Text
