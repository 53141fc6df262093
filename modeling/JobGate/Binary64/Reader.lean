import JobGate.Binary64.Basic
import JobGate.Numeral
/-! Decimal texts of binary64 numbers: an optional sign, digits with or without a point, an
optional power of ten; or the words for infinity and for no number, in any case of letters. -/
namespace JobGate.Binary64
open JobGate.Numeral

/-- A decimal with so many digits before the point is infinite, with so many zeros after it zero. -/
def decimalRange : Int := 400

def ofDecimal (negative : Bool) (digits : List Nat) (power : Int) : Binary64 :=
  let digits := digits.dropWhile (· = 0)
  let size : Int := digits.length + power
  if digits = [] || size < -decimalRange then zero negative
  else if decimalRange < size then .infinite negative
  else ofRatio negative (ofDigits 10 digits * Nat.pow 10 power.toNat) (Nat.pow 10 (-power).toNat)

def run? (cs : List Char) : Option (List Nat) :=
  if cs = [] then some [] else grouped? anyDigit? cs

def inRun (c : Char) : Bool := c = '_' || (anyDigit? c).isSome

def exponent? : List Char → Option Int
  | [] => some 0
  | c :: rest =>
    if c = 'e' || c = 'E' then
      let (negative, digits) := splitSign rest
      (grouped? anyDigit? digits).map (fun ds => signed negative (ofDigits 10 ds))
    else none

def unsigned? (negative : Bool) (cs : List Char) : Option Binary64 :=
  let (whole, rest) := cs.span inRun
  let (part, rest) := match rest with
    | '.' :: rest => rest.span inRun
    | _ => ([], rest)
  match run? whole, run? part, exponent? rest with
  | some ws, some ps, some e =>
    if ws ++ ps = [] then none else some (ofDecimal negative (ws ++ ps) (e - ps.length))
  | _, _, _ => none

def word? (negative : Bool) (cs : List Char) : Option Binary64 :=
  let word := String.ofList (cs.map Char.toLower)
  if word = "inf" || word = "infinity" then some (.infinite negative)
  else if word = "nan" then some .nan
  else none

def read? (s : String) : Option Binary64 :=
  let (negative, cs) := splitSign (Text.trimBy Text.isNumeralBlank s.toList)
  (word? negative cs).or (unsigned? negative cs)

end JobGate.Binary64
