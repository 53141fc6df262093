import JobGate.Text.Quoted
/-! Days of the calendar and moments of a day, with or without an offset from universal time. The
first part that does not lie in its range is the fault. -/
namespace JobGate.Value

structure Date where
  year : Nat
  month : Nat
  day : Nat
  deriving DecidableEq, Repr

/-- The offset is in minutes. -/
structure Moment where
  date : Date
  hour : Nat
  minute : Nat
  second : Nat
  microsecond : Nat
  offset : Option Int
  deriving DecidableEq, Repr

namespace Date

def isLeap (year : Nat) : Bool :=
  year % 4 = 0 && (year % 100 ≠ 0 || year % 400 = 0)

def daysInMonth (year month : Nat) : Nat :=
  if month = 2 then (if isLeap year then 29 else 28)
  else if month = 4 || month = 6 || month = 9 || month = 11 then 30
  else 31

def ordinal (d : Date) : Nat :=
  let years := d.year - 1
  let months := (List.range (d.month - 1)).foldl (fun n m => n + daysInMonth d.year (m + 1)) 0
  365 * years + years / 4 - years / 100 + years / 400 + months + d.day

end Date

def spanText (minutes : Int) : String :=
  let days := Int.fdiv minutes 1440
  let seconds := Int.fmod minutes 1440 * 60
  let parts := (if days = 0 then [] else [s!"days={days}"]) ++
    (if seconds = 0 then [] else [s!"seconds={seconds}"])
  "datetime.timedelta(" ++ (if parts = [] then "0" else ", ".intercalate parts) ++ ")"

inductive CalendarFault where
  | year (n : Nat)
  | month
  | day
  | hour
  | minute
  | second
  | offset (minutes : Int)
  deriving DecidableEq, Repr

def CalendarFault.message : CalendarFault → String
  | .year y => s!"year {y} is out of range"
  | .month => "month must be in 1..12"
  | .day => "day is out of range for month"
  | .hour => "hour must be in 0..23"
  | .minute => "minute must be in 0..59"
  | .second => "second must be in 0..59"
  | .offset minutes =>
    "offset must be a timedelta strictly between -timedelta(hours=24) and timedelta(hours=24), " ++
      "not " ++ spanText minutes ++ "."

def Date.fault? (d : Date) : Option CalendarFault :=
  if d.year < 1 || 9999 < d.year then some (.year d.year)
  else if d.month < 1 || 12 < d.month then some .month
  else if d.day < 1 || Date.daysInMonth d.year d.month < d.day then some .day
  else none

def offsetFault? : Option Int → Option CalendarFault
  | some minutes => if minutes.natAbs < 1440 then none else some (.offset minutes)
  | none => none

/-- The offset is looked at before the date and the date before the time. -/
def Moment.fault? (m : Moment) : Option CalendarFault :=
  (offsetFault? m.offset).or <| m.date.fault?.or <|
    if 23 < m.hour then some .hour
    else if 59 < m.minute then some .minute
    else if 59 < m.second then some .second
    else none

def padded (width n : Nat) : String :=
  let digits := (toString n).toList
  String.ofList (List.replicate (width - digits.length) '0' ++ digits)

def Date.text (d : Date) : String :=
  padded 4 d.year ++ "-" ++ padded 2 d.month ++ "-" ++ padded 2 d.day

def offsetText (minutes : Int) : String :=
  (if minutes < 0 then "-" else "+") ++ padded 2 (minutes.natAbs / 60) ++ ":" ++
    padded 2 (minutes.natAbs % 60)

def Moment.text (m : Moment) : String :=
  m.date.text ++ " " ++ padded 2 m.hour ++ ":" ++ padded 2 m.minute ++ ":" ++ padded 2 m.second ++
    (if m.microsecond = 0 then "" else "." ++ padded 6 m.microsecond) ++
    (m.offset.map offsetText).getD ""

/- Inside a list or a map a date is written as the expression that makes it. -/

def Date.expression (d : Date) : String :=
  s!"datetime.date({d.year}, {d.month}, {d.day})"

def zoneExpression (minutes : Int) : String :=
  if minutes = 0 then "datetime.timezone.utc"
  else "datetime.timezone(" ++ spanText minutes ++ ")"

def Moment.expression (m : Moment) : String :=
  let parts := [m.date.year, m.date.month, m.date.day, m.hour, m.minute] ++
    (if m.second = 0 && m.microsecond = 0 then [] else [m.second]) ++
    (if m.microsecond = 0 then [] else [m.microsecond])
  let zone := (m.offset.map (fun o => ["tzinfo=" ++ zoneExpression o])).getD []
  "datetime.datetime(" ++ ", ".intercalate (parts.map toString ++ zone) ++ ")"

/-- Microseconds since the first day, in universal time if the offset is known. -/
def Moment.instant (m : Moment) : Int :=
  let minutes : Int := (m.date.ordinal * 24 + m.hour) * 60 + m.minute - m.offset.getD 0
  (minutes * 60 + m.second) * 1000000 + m.microsecond

end JobGate.Value
