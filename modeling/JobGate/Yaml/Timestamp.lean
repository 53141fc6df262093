import JobGate.Numeral
import JobGate.Value.Calendar
/-! Days and moments in YAML files. A day has all its digits, unless a tag says that it is one; a
moment may leave out leading zeros, and ends with an optional offset. -/
namespace JobGate.Yaml
open JobGate.Numeral
open JobGate.Value (Date Moment)

def shortNumber? : List Char → Option (Nat × List Char)
  | a :: b :: rest =>
    if !isDigit a then none
    else if isDigit b then some (decimal [a, b], rest)
    else some (digitValue a, b :: rest)
  | [a] => if isDigit a then some (digitValue a, []) else none
  | [] => none

def fixedNumber? (size : Nat) (cs : List Char) : Option (Nat × List Char) :=
  let digits := cs.take size
  if digits.length = size && digits.all isDigit then some (decimal digits, cs.drop size) else none

def expect? (c : Char) : List Char → Option (List Char)
  | d :: rest => if d = c then some rest else none
  | [] => none

def date? (cs : List Char) : Option Date := do
  let (year, cs) ← fixedNumber? 4 cs
  let (month, cs) ← fixedNumber? 2 (← expect? '-' cs)
  let (day, cs) ← fixedNumber? 2 (← expect? '-' cs)
  if cs = [] then return ⟨year, month, day⟩ else none

def looseDate? (cs : List Char) : Option Date := do
  let (year, cs) ← fixedNumber? 4 cs
  let (month, cs) ← shortNumber? (← expect? '-' cs)
  let (day, cs) ← shortNumber? (← expect? '-' cs)
  if cs = [] then return ⟨year, month, day⟩ else none

def timeGap? : List Char → Option (List Char)
  | [] => none
  | c :: rest =>
    if c = 'T' || c = 't' then some rest
    else if c = ' ' || c = '\t' then some (rest.dropWhile (fun d => d = ' ' || d = '\t'))
    else none

/-- Six digits of what follows the point; more are cut off and missing ones are zeros. -/
def microseconds (digits : List Char) : Nat :=
  decimal (digits.take 6 ++ List.replicate (6 - digits.length) '0')

def fraction (cs : List Char) : Nat × List Char :=
  match cs with
  | '.' :: rest => (microseconds (rest.takeWhile isDigit), rest.dropWhile isDigit)
  | _ => (0, cs)

/-- The offset in minutes; the letter stands for none. -/
def offset? (cs : List Char) : Option (Option Int) :=
  match cs with
  | [] => some none
  | _ =>
    match cs.dropWhile (fun c => c = ' ' || c = '\t') with
    | ['Z'] => some (some 0)
    | sign :: rest =>
      if sign = '+' || sign = '-' then do
        let (hours, rest) ← shortNumber? rest
        let (minutes, rest) ←
          if rest = [] then some (0, []) else fixedNumber? 2 (← expect? ':' rest)
        if rest = [] then return some (signed (sign = '-') (60 * hours + minutes)) else none
      else none
    | [] => none

def moment? (cs : List Char) : Option Moment := do
  let (year, cs) ← fixedNumber? 4 cs
  let (month, cs) ← shortNumber? (← expect? '-' cs)
  let (day, cs) ← shortNumber? (← expect? '-' cs)
  let (hour, cs) ← shortNumber? (← timeGap? cs)
  let (minute, cs) ← fixedNumber? 2 (← expect? ':' cs)
  let (second, cs) ← fixedNumber? 2 (← expect? ':' cs)
  let (microsecond, cs) := fraction cs
  let offset ← offset? cs
  return ⟨⟨year, month, day⟩, hour, minute, second, microsecond, offset⟩

end JobGate.Yaml
