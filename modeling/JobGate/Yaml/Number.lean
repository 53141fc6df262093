import JobGate.Binary64.Reader
import JobGate.Text.Lower
/-! Numbers in YAML files. A plain scalar is a number by its form alone, and a tag can ask for the
reading of any text. Underscores are left out; colons part digits of base sixty. -/
namespace JobGate.Yaml
open JobGate.Numeral

inductive NumberFault where
  | integer (f : Numeral.Fault)
  | notFloat (text : String)
  | empty
  | powerTooLarge
  deriving DecidableEq, Repr

def NumberFault.message : NumberFault → String
  | .integer f => f.message
  | .notFloat text => "could not convert string to float: " ++ Text.quoted text
  | .empty => "string index out of range"
  | .powerTooLarge => "int too large to convert to float"

/- The forms. -/

def isRun (first rest : Char → Bool) : List Char → Bool
  | [] => false
  | c :: cs => first c && cs.all rest

def orUnderscore (p : Char → Bool) (c : Char) : Bool := c = '_' || p c
def isBinaryDigit (c : Char) : Bool := c = '0' || c = '1'
def isOctalDigit (c : Char) : Bool := '0' ≤ c && c ≤ '7'
def isHexDigit (c : Char) : Bool :=
  isDigit c || ('a' ≤ c && c ≤ 'f') || ('A' ≤ c && c ≤ 'F')

def isPositiveRun : List Char → Bool := isRun (fun c => isDigit c && c ≠ '0') (orUnderscore isDigit)
def isDigitRun : List Char → Bool := isRun isDigit (orUnderscore isDigit)

def isMinutes : List Char → Bool
  | [a] => isDigit a
  | [a, b] => '0' ≤ a && a ≤ '5' && isDigit b
  | _ => false

def isSexagesimal (isHead : List Char → Bool) (cs : List Char) : Bool :=
  match cs.splitOn ':' with
  | first :: second :: rest => isHead first && (second :: rest).all isMinutes
  | _ => false

def isInteger (cs : List Char) : Bool :=
  let digits := (splitSign cs).2
  match digits with
  | '0' :: 'b' :: rest => isRun (orUnderscore isBinaryDigit) (orUnderscore isBinaryDigit) rest
  | '0' :: 'x' :: rest => isRun (orUnderscore isHexDigit) (orUnderscore isHexDigit) rest
  | '0' :: rest => rest.all (orUnderscore isOctalDigit)
  | _ => isPositiveRun digits || isSexagesimal isPositiveRun digits

def isScale : List Char → Bool
  | [] => true
  | e :: sign :: rest =>
    (e = 'e' || e = 'E') && (sign = '+' || sign = '-') && isRun isDigit isDigit rest
  | _ => false

def isFraction (cs : List Char) : Bool := isScale (cs.dropWhile (orUnderscore isDigit))

def isFloat (cs : List Char) : Bool :=
  let unsigned := (splitSign cs).2
  match unsigned.span (· ≠ '.') with
  | ([], '.' :: rest) =>
    rest = "inf".toList || rest = "Inf".toList || rest = "INF".toList ||
      (unsigned = cs && (rest = "nan".toList || rest = "NaN".toList || rest = "NAN".toList ||
        (rest.head?.any isDigit && isFraction rest)))
  | (whole, '.' :: rest) =>
    (isDigitRun whole && isFraction rest) ||
      (isSexagesimal isDigitRun whole && rest.all (orUnderscore isDigit))
  | _ => false

/- The readings. -/

def baseDigit? (base : Nat) (c : Char) : Option Nat :=
  let letter := c.toLower
  let value := (anyDigit? c).or
    (if 'a' ≤ letter && letter ≤ 'z' then some (letter.toNat - 0x57) else none)
  value.filter (· < base)

/-- Past the mark of a base, which is a zero of any script and a letter. -/
def dropMark (mark : Char) : List Char → List Char
  | zero :: c :: rest =>
    if anyDigit? zero = some 0 && c.toLower = mark then rest else zero :: c :: rest
  | cs => cs

def readBase (base : Nat) (mark : Char) (s : String) : Except Numeral.Fault Int :=
  let (negative, digits) := splitSign (Text.trimBy Text.isNumeralBlank s.toList)
  match grouped? (baseDigit? base) (dropMark mark digits) with
  | none => .error (.malformed base s)
  | some ds => .ok (signed negative (ofDigits base ds))

def withoutUnderscores (s : String) : List Char := s.toList.filter (· ≠ '_')

def readSexagesimal (cs : List Char) : Except Numeral.Fault Int := do
  let digits ← (cs.splitOn ':').mapM (fun d => readLenient (String.ofList d))
  return digits.foldl (fun n d => 60 * n + d) 0

def readMagnitude (cs : List Char) : Except Numeral.Fault Int :=
  match cs with
  | '0' :: 'b' :: rest => readBase 2 'b' (String.ofList rest)
  | '0' :: 'x' :: rest => readBase 16 'x' (String.ofList rest)
  | ['0'] => .ok 0
  | '0' :: _ => readBase 8 'o' (String.ofList cs)
  | _ => if cs.contains ':' then readSexagesimal cs else readLenient (String.ofList cs)

def readSigned (s : List Char) (magnitude : List Char → Except NumberFault α) :
    Except NumberFault (Bool × α) :=
  if s = [] then .error .empty
  else do
    let (negative, cs) := splitSign s
    return (negative, ← magnitude cs)

def readInteger (s : String) : Except NumberFault Int := do
  let (negative, n) ← readSigned (withoutUnderscores s) (fun cs =>
    if cs = [] then .error .empty else (readMagnitude cs).mapError .integer)
  return if negative then -n else n

def readPoint (cs : List Char) : Except NumberFault Binary64 :=
  let s := String.ofList cs
  match Binary64.read? s with
  | some x => .ok x
  | none => .error (.notFloat s)

/-- The sum of the digits by their powers of sixty, from the last digit on. Each power has to be a
finite number, whatever the digit is. -/
def sumSexagesimal (power : Nat) (sum : Binary64) : List Binary64 → Except NumberFault Binary64
  | [] => .ok sum
  | d :: rest =>
    match Binary64.ofNat power with
    | .finite negative m e =>
      sumSexagesimal (60 * power) (sum.add (d.mul (.finite negative m e))) rest
    | _ => .error .powerTooLarge

def nanWord : List Char := ".nan".toList

def readUnsignedFloat (cs : List Char) : Except NumberFault Binary64 :=
  if cs = ".inf".toList then .ok (.infinite false)
  else if cs = nanWord then .ok .nan
  else if cs.contains ':' then do
    let digits ← (cs.splitOn ':').mapM readPoint
    sumSexagesimal 1 (.zero false) digits.reverse
  else readPoint cs

def floatText (s : String) : List Char :=
  (Text.lower (String.ofList (withoutUnderscores s))).toList

def isNanWord (s : String) : Bool := (splitSign (floatText s)).2 = nanWord

def readFloat (s : String) : Except NumberFault Binary64 := do
  let (negative, x) ← readSigned (floatText s) readUnsignedFloat
  return if negative then x.negate else x

end JobGate.Yaml
