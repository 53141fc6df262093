import JobGate.Text.Blank
import JobGate.Text.Quoted
/-! Integers in decimal digits. The strict reader takes a minus and ASCII digits only, the lenient
one also blanks around, a plus, single underscores and the digits of every script. More digits than
the limit are neither read nor written. -/
namespace JobGate.Numeral

def digitLimit : Nat := 4300

inductive Fault where
  | malformed (base : Nat) (text : String)
  | tooManyDigits (count : Nat)
  | tooLongToWrite
  deriving DecidableEq, Repr

def excerpt (s : String) : String := String.ofList ((Text.quoted s).toList.take 200)

def Fault.message : Fault → String
  | .malformed base text =>
    s!"invalid literal for int() with base {base}: " ++ excerpt text
  | .tooManyDigits count =>
    s!"Exceeds the limit ({digitLimit} digits) for integer string conversion: value has {count} " ++
      "digits; use sys.set_int_max_str_digits() to increase the limit"
  | .tooLongToWrite =>
    s!"Exceeds the limit ({digitLimit} digits) for integer string conversion; " ++
      "use sys.set_int_max_str_digits() to increase the limit"

/- Digits and what they denote. -/

def isDigit (c : Char) : Bool := '0' ≤ c && c ≤ '9'
def digitValue (c : Char) : Nat := c.toNat - 0x30

def ofDigits (base : Nat) (ds : List Nat) : Nat := ds.foldl (fun n d => base * n + d) 0

def decimal (cs : List Char) : Nat := ofDigits 10 (cs.map digitValue)

theorem foldl_ofDigits (base n : Nat) (ds : List Nat) :
    ds.foldl (fun n d => base * n + d) n = n * Nat.pow base ds.length + ofDigits base ds := by
  induction ds generalizing n with
  | nil => simp [ofDigits]
  | cons d rest ih =>
    have h := ih (base * 0 + d)
    simp only [ofDigits, List.foldl_cons] at ih h ⊢
    rw [ih, h]
    simp [Nat.pow_succ, Nat.add_mul, Nat.mul_comm, Nat.mul_left_comm, Nat.mul_assoc, Nat.add_assoc]

theorem ofDigits_cons (base d : Nat) (ds : List Nat) :
    ofDigits base (d :: ds) = d * Nat.pow base ds.length + ofDigits base ds := by
  rw [ofDigits, List.foldl_cons, foldl_ofDigits]
  simp

def signed (negative : Bool) (n : Nat) : Int := if negative then -(n : Int) else n

def splitMinus : List Char → Bool × List Char
  | '-' :: rest => (true, rest)
  | cs => (false, cs)

def splitSign : List Char → Bool × List Char
  | '-' :: rest => (true, rest)
  | '+' :: rest => (false, rest)
  | cs => (false, cs)

def limited (count : Nat) (n : Int) : Except Fault Int :=
  if count ≤ digitLimit then .ok n else .error (.tooManyDigits count)

/- The strict reader. -/

def IsStrict (cs : List Char) : Prop :=
  (splitMinus cs).2 ≠ [] ∧ (splitMinus cs).2.all isDigit

instance (cs : List Char) : Decidable (IsStrict cs) := inferInstanceAs (Decidable (_ ∧ _))

/-- A text of another form is not a fault: it is just no integer. -/
def readStrict (s : String) : Except Fault (Option Int) :=
  if IsStrict s.toList then
    let (negative, digits) := splitMinus s.toList
    (limited digits.length (signed negative (decimal digits))).map some
  else .ok none

/- The lenient reader. -/

/-- The zeros of the decimal digits of Unicode 14; each is followed by its nine other digits. -/
def zeros : List Nat :=
  [0x30, 0x660, 0x6f0, 0x7c0, 0x966, 0x9e6, 0xa66, 0xae6, 0xb66, 0xbe6, 0xc66, 0xce6, 0xd66, 0xde6,
   0xe50, 0xed0, 0xf20, 0x1040, 0x1090, 0x17e0, 0x1810, 0x1946, 0x19d0, 0x1a80, 0x1a90, 0x1b50,
   0x1bb0, 0x1c40, 0x1c50, 0xa620, 0xa8d0, 0xa900, 0xa9d0, 0xa9f0, 0xaa50, 0xabf0, 0xff10, 0x104a0,
   0x10d30, 0x11066, 0x110f0, 0x11136, 0x111d0, 0x112f0, 0x11450, 0x114d0, 0x11650, 0x116c0,
   0x11730, 0x118e0, 0x11950, 0x11c50, 0x11d50, 0x11da0, 0x16a60, 0x16ac0, 0x16b50, 0x1d7ce,
   0x1d7d8, 0x1d7e2, 0x1d7ec, 0x1d7f6, 0x1e140, 0x1e2f0, 0x1e950, 0x1fbf0]

def anyDigit? (c : Char) : Option Nat :=
  (zeros.find? (fun z => z ≤ c.toNat && c.toNat ≤ z + 9)).map (c.toNat - ·)

/-- Digits, with single underscores between them where there are any. -/
def grouped? (digit? : Char → Option Nat) : List Char → Option (List Nat)
  | [] => none
  | [c] => (digit? c).map ([·])
  | c :: '_' :: rest => do return (← digit? c) :: (← grouped? digit? rest)
  | c :: rest => do return (← digit? c) :: (← grouped? digit? rest)

def inNumeral (c : Char) : Bool := c = '_' || (anyDigit? c).isSome

/-- A number goes as far as there are digits and underscores. That they are too many is told before
what follows them is looked at. -/
def readLenient (s : String) : Except Fault Int := do
  let (negative, unsigned) := splitSign (s.toList.dropWhile Text.isNumeralBlank)
  let (run, rest) := unsigned.span inNumeral
  match grouped? anyDigit? run with
  | none => .error (.malformed 10 s)
  | some ds =>
    let n ← limited ds.length (signed negative (ofDigits 10 ds))
    if rest.all Text.isNumeralBlank then return n else .error (.malformed 10 s)

/- Writing. -/

def write (n : Int) : Except Fault String :=
  if n.natAbs < Nat.pow 10 digitLimit then .ok (toString n) else .error .tooLongToWrite

theorem write_of_lt {n : Int} (h : n.natAbs < Nat.pow 10 digitLimit) :
    write n = .ok (toString n) := by
  rw [write, if_pos h]

end JobGate.Numeral
