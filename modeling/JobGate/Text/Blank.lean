/-! White space, as the Unicode standard counts it, with the four information separators. -/
namespace JobGate.Text

/-- The ranges of blank characters, both ends included. -/
def blankRanges : List (Nat × Nat) :=
  [(0x9, 0xd), (0x1c, 0x20), (0x85, 0x85), (0xa0, 0xa0), (0x1680, 0x1680), (0x2000, 0x200a),
   (0x2028, 0x2029), (0x202f, 0x202f), (0x205f, 0x205f), (0x3000, 0x3000)]

def isBlank (c : Char) : Bool :=
  blankRanges.any (fun r => r.1 ≤ c.toNat && c.toNat ≤ r.2)

/-- The blanks that may stand around a number: inside ASCII the separators do not count. -/
def isNumeralBlank (c : Char) : Bool :=
  isBlank c && !(0x1c ≤ c.toNat && c.toNat ≤ 0x1f)

def trimBy (p : Char → Bool) (cs : List Char) : List Char :=
  ((cs.dropWhile p).reverse.dropWhile p).reverse

theorem isBlank_of_isNumeralBlank {c : Char} (h : isNumeralBlank c) : isBlank c := by
  simp only [isNumeralBlank, Bool.and_eq_true] at h
  exact h.1

end JobGate.Text
