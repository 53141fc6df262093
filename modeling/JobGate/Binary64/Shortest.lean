import JobGate.Binary64.Basic
/-! The decimal text of a binary64 number: the fewest digits that read back as the number and, of
those, the nearest to it. Its neighbours on the grid of one digit, of two digits and so on are
tried in turn, in exact arithmetic. -/
namespace JobGate.Binary64

/-- The decimals that read back as a number lie between `low / den` and `high / den`, ends included
if `closed`; the number itself is `mid / den`. -/
structure Window where
  low : Nat
  mid : Nat
  high : Nat
  den : Nat
  closed : Bool

/-- Half a unit to each side; below a power of two the units are half as wide. -/
def window (m : Nat) (e : Int) : Window :=
  let unit := Nat.pow 2 (e - 2).toNat
  let below := if m = Nat.pow 2 52 && leastExponent < e then 1 else 2
  { low := (4 * m - below) * unit, mid := 4 * m * unit, high := (4 * m + 2) * unit,
    den := Nat.pow 2 (2 - e).toNat, closed := m % 2 = 0 }

def Window.contains (w : Window) (x : Nat) : Bool :=
  (w.low < x && x < w.high) || (w.closed && (x = w.low || x = w.high))

def Window.scale (w : Window) (power : Int) : Window :=
  let up := Nat.pow 10 (-power).toNat
  { w with
    low := w.low * up, mid := w.mid * up, high := w.high * up
    den := w.den * Nat.pow 10 power.toNat }

def Window.nearest? (w : Window) (power : Int) : Option Nat :=
  let w := w.scale power
  let c := w.mid / w.den
  match w.contains (c * w.den), w.contains ((c + 1) * w.den) with
  | true, true => some (roundDiv w.mid w.den)
  | true, false => some c
  | false, true => some (c + 1)
  | false, false => none

/-- How many digits a ratio has before its point; minus the zeros after it, if it is below one. -/
def magnitude (num den : Nat) : Int :=
  if den ≤ num then (toString (num / den)).length
  else 1 - (((List.range 400).find? (fun j => den ≤ num * Nat.pow 10 j)).getD 0 : Nat)

/-- Seventeen digits are enough for every number. -/
def mostDigits : Nat := 17

def shortest (m : Nat) (e : Int) : Nat × Int :=
  let w := window m e
  let size := magnitude w.mid w.den
  ((List.range mostDigits).findSome? (fun i =>
    let power := size - (i + 1 : Nat)
    (w.nearest? power).map (fun c => (c, power)))).getD (0, 0)

/-- How a number is laid out: positionally while the power of ten of its first digit lies between
the two bounds, the upper one excluded, and else with an exponent of at least two digits. -/
structure Layout where
  positionalFrom : Int
  positionalBelow : Int
  exponentMark : Char
  exponentWidth : Nat

def layout : Layout := ⟨-4, 16, 'e', 2⟩

def Layout.exponent (l : Layout) (e : Int) : List Char :=
  let digits := (toString e.natAbs).toList
  l.exponentMark :: (if e < 0 then '-' else '+') ::
    List.replicate (l.exponentWidth - digits.length) '0' ++ digits

def pointed (digits : List Char) (point : Int) : List Char :=
  if point ≤ 0 then '0' :: '.' :: List.replicate (-point).toNat '0' ++ digits
  else
    let whole := digits.take point.toNat
    let part := digits.drop point.toNat
    whole ++ List.replicate (point.toNat - whole.length) '0' ++
      '.' :: (if part = [] then ['0'] else part)

def Layout.lay (l : Layout) (digits : List Char) (point : Int) : List Char :=
  if l.positionalFrom ≤ point - 1 && point - 1 < l.positionalBelow then pointed digits point
  else
    match digits with
    | d :: rest => d :: (if rest = [] then [] else '.' :: rest) ++ l.exponent (point - 1)
    | [] => l.exponent (point - 1)

def dropTrailingZeros (cs : List Char) : List Char := (cs.reverse.dropWhile (· = '0')).reverse

def unsignedText (m : Nat) (e : Int) : List Char :=
  if m = 0 then pointed ['0'] 1
  else
    let (c, power) := shortest m e
    let digits := (toString c).toList
    layout.lay (dropTrailingZeros digits) (power + digits.length)

def text : Binary64 → String
  | .nan => "nan"
  | .infinite negative => if negative then "-inf" else "inf"
  | .finite negative m e =>
    String.ofList (if negative then '-' :: unsignedText m e else unsignedText m e)

end JobGate.Binary64
