import AccessFix.Double.Shortest

/-! Dates and times of day in the proleptic Gregorian calendar, years 1 to 9999. Written forms are those of ISO 8601,
with microseconds left out where they are zero. -/
namespace AccessFix

structure Date where
  year : Nat
  month : Nat
  day : Nat
  deriving DecidableEq, Repr, Inhabited

structure DateTime where
  date : Date
  hour : Nat
  minute : Nat
  second : Nat
  microsecond : Nat
  offset : Option Int
  deriving DecidableEq, Repr, Inhabited

inductive CalendarFault where
  | year (year : Nat)
  | month
  | day
  | hour
  | minute
  | second
  | offset (minutes : Int)
  deriving DecidableEq, Repr

def isLeapYear (year : Nat) : Bool := year % 4 = 0 && (year % 100 ≠ 0 || year % 400 = 0)

def daysIn (year month : Nat) : Nat :=
  if month = 2 then (if isLeapYear year then 29 else 28)
  else if month = 4 ∨ month = 6 ∨ month = 9 ∨ month = 11 then 30
  else 31

namespace Date

def new (year month day : Nat) : Except CalendarFault Date :=
  if year = 0 ∨ 9999 < year then .error (.year year)
  else if month = 0 ∨ 12 < month then .error .month
  else if day = 0 ∨ daysIn year month < day then .error .day
  else .ok ⟨year, month, day⟩

/-- The date that lies a number of days after the first of January 1970. Years are counted from March on, so that a leap
day is the last day of its year, in cycles of 400 years. -/
def ofDays (days : Nat) : Date :=
  let shifted := days + 719468
  let inCycle := shifted % 146097
  let yearInCycle := (inCycle - inCycle / 1460 + inCycle / 36524 - inCycle / 146096) / 365
  let inYear := inCycle - (365 * yearInCycle + yearInCycle / 4 - yearInCycle / 100)
  let fromMarch := (5 * inYear + 2) / 153
  let month := if fromMarch < 10 then fromMarch + 3 else fromMarch - 9
  ⟨shifted / 146097 * 400 + yearInCycle + (if month ≤ 2 then 1 else 0), month,
    inYear - (153 * fromMarch + 2) / 5 + 1⟩

def daysBefore (d : Date) : Nat :=
  let years := d.year - 1
  years * 365 + years / 4 - years / 100 + years / 400
    + ((List.range d.month).drop 1 |>.foldl (fun n m => n + daysIn d.year m) 0) + (d.day - 1)

def text (d : Date) : String :=
  Double.padded 4 d.year ++ "-" ++ Double.padded 2 d.month ++ "-" ++ Double.padded 2 d.day

end Date

def daysAndSeconds (minutes : Int) : Int × Int :=
  (Int.fdiv minutes 1440, Int.fmod minutes 1440 * 60)

def durationText (minutes : Int) : String :=
  let (days, seconds) := daysAndSeconds minutes
  let parts := (if days = 0 then [] else ["days=" ++ toString days])
    ++ (if seconds = 0 then [] else ["seconds=" ++ toString seconds])
  "datetime.timedelta(" ++ (if parts.isEmpty then "0" else ", ".intercalate parts) ++ ")"

def CalendarFault.message : CalendarFault → String
  | .year y => "year " ++ toString y ++ " is out of range"
  | .month => "month must be in 1..12"
  | .day => "day is out of range for month"
  | .hour => "hour must be in 0..23"
  | .minute => "minute must be in 0..59"
  | .second => "second must be in 0..59"
  | .offset m =>
    "offset must be a timedelta strictly between -timedelta(hours=24) and timedelta(hours=24), not "
      ++ durationText m ++ "."

namespace DateTime

def new (year month day hour minute second microsecond : Nat) (offset : Option Int) :
    Except CalendarFault DateTime := do
  match offset with
  | some m => if m ≤ -1440 ∨ 1440 ≤ m then throw (.offset m)
  | none => pure ()
  let date ← Date.new year month day
  if 23 < hour then throw .hour
  if 59 < minute then throw .minute
  if 59 < second then throw .second
  return ⟨date, hour, minute, second, microsecond, offset⟩

def ofSeconds (seconds microseconds : Nat) : DateTime :=
  let time := seconds % 86400
  ⟨Date.ofDays (seconds / 86400), time / 3600, time / 60 % 60, time % 60, microseconds, some 0⟩

def instant? (t : DateTime) : Option Int :=
  t.offset.map fun m =>
    (((t.date.daysBefore : Int) * 1440 + t.hour * 60 + t.minute - m) * 60 + t.second) * 1000000 + t.microsecond

def same (a b : DateTime) : Bool :=
  match a.instant?, b.instant? with
  | some x, some y => x = y
  | none, none => a = b
  | _, _ => false

def offsetText : Option Int → String
  | none => ""
  | some m =>
    (if m < 0 then "-" else "+") ++ Double.padded 2 (m.natAbs / 60) ++ ":" ++ Double.padded 2 (m.natAbs % 60)

def text (between : String) (t : DateTime) : String :=
  t.date.text ++ between ++ Double.padded 2 t.hour ++ ":" ++ Double.padded 2 t.minute ++ ":"
    ++ Double.padded 2 t.second
    ++ (if t.microsecond = 0 then "" else "." ++ Double.padded 6 t.microsecond)
    ++ offsetText t.offset

def parts (t : DateTime) : List Nat :=
  [t.date.year, t.date.month, t.date.day, t.hour, t.minute]
    ++ (if t.second = 0 ∧ t.microsecond = 0 then [] else [t.second])
    ++ (if t.microsecond = 0 then [] else [t.microsecond])

end DateTime

end AccessFix
