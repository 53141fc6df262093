/-! Numbers in binary64: a sign, a mantissa below 2^53 and a power of two, two infinities and one
value that is no number. A ratio is rounded to the nearest one, a half to the even one. -/
namespace JobGate

/-- The finite number is `mantissa * 2 ^ exponent`. -/
inductive Binary64 where
  | nan
  | infinite (negative : Bool)
  | finite (negative : Bool) (mantissa : Nat) (exponent : Int)
  deriving DecidableEq, Repr

namespace Binary64

def leastExponent : Int := -1074
def greatestExponent : Int := 971

def zero (negative : Bool) : Binary64 := .finite negative 0 leastExponent

/-- The nearest integer to `num / den`; of two equally near ones the even one. -/
def roundDiv (num den : Nat) : Nat :=
  if 2 * (num % den) < den then num / den
  else if den < 2 * (num % den) then num / den + 1
  else num / den + num / den % 2

def scaleDown (num den : Nat) (e : Int) : Nat × Nat :=
  (num * Nat.pow 2 (-e).toNat, den * Nat.pow 2 e.toNat)

/-- The power of two that leaves 53 binary digits before the point, within the format's range. -/
def unitExponent (num den : Nat) : Int :=
  let guess : Int := (num.log2 : Int) - den.log2 - 52
  let (n, d) := scaleDown num den guess
  max (if n < Nat.pow 2 52 * d then guess - 1 else guess) leastExponent

def ofMantissa (negative : Bool) (m : Nat) (e : Int) : Binary64 :=
  if greatestExponent < e then .infinite negative else .finite negative m e

def ofRatio (negative : Bool) (num den : Nat) : Binary64 :=
  if num = 0 then zero negative
  else
    let e := unitExponent num den
    let (n, d) := scaleDown num den e
    let m := roundDiv n d
    if m = Nat.pow 2 53 then ofMantissa negative (Nat.pow 2 52) (e + 1) else ofMantissa negative m e

def ofNat (n : Nat) : Binary64 := ofRatio false n 1

def negate : Binary64 → Binary64
  | .nan => .nan
  | .infinite negative => .infinite !negative
  | .finite negative m e => .finite (!negative) m e

def ratio? : Binary64 → Option (Int × Nat)
  | .finite negative m e =>
    let n := m * Nat.pow 2 e.toNat
    some (if negative then -(n : Int) else n, Nat.pow 2 (-e).toNat)
  | _ => none

def isZero : Binary64 → Bool
  | .finite _ m _ => m = 0
  | _ => false

def isNegative : Binary64 → Bool
  | .nan => false
  | .infinite negative | .finite negative _ _ => negative

/- Sum and product, each rounded once. -/

def ofScaled (negative : Bool) (n : Nat) (e : Int) : Binary64 :=
  ofRatio negative (n * Nat.pow 2 e.toNat) (Nat.pow 2 (-e).toNat)

def inUnits (negative : Bool) (m : Nat) (e unit : Int) : Int :=
  let n := m * Nat.pow 2 (e - unit).toNat
  if negative then -(n : Int) else n

/-- A sum of zero has a sign only if both numbers have it. -/
def add : Binary64 → Binary64 → Binary64
  | .nan, _ | _, .nan => .nan
  | .infinite a, .infinite b => if a = b then .infinite a else .nan
  | .infinite a, .finite .. | .finite .., .infinite a => .infinite a
  | .finite a m d, .finite b n e =>
    let unit := min d e
    let sum := inUnits a m d unit + inUnits b n e unit
    if sum = 0 then zero (a && b) else ofScaled (sum < 0) sum.natAbs unit

def mul : Binary64 → Binary64 → Binary64
  | .nan, _ | _, .nan => .nan
  | .finite a m d, .finite b n e => ofScaled (a != b) (m * n) (d + e)
  | x, y => if x.isZero || y.isZero then .nan else .infinite (x.isNegative != y.isNegative)

end Binary64
end JobGate
