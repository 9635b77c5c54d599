set_option autoImplicit false

namespace Notebook

inductive CalendarFault where
  | year (n : Nat)
  | month
  | day
  | hour
  | minute
  | second
  /-- A zone a day or more away, by its distance in seconds. -/
  | zone (offset : Int)
deriving DecidableEq, Repr

structure Date where
  year : Nat
  month : Nat
  day : Nat
deriving DecidableEq, Repr

structure Moment where
  date : Date
  hour : Nat
  minute : Nat
  second : Nat
  micro : Nat := 0
  /-- How many seconds the zone is ahead of universal time. -/
  zone : Option Int := none
deriving DecidableEq, Repr

/-- A year has a leap day when four divides it, unless it ends a century that four does not divide.
-/
def isLeap (year : Nat) : Bool := year % 4 == 0 && (year % 100 != 0 || year % 400 == 0)

def daysIn (year month : Nat) : Nat :=
  if month == 2 then (if isLeap year then 29 else 28)
  else if [4, 6, 9, 11].contains month then 30
  else 31

def secondsInDay : Int := 86400

def Date.of (year month day : Nat) : Except CalendarFault Date :=
  if year < 1 || 9999 < year then .error (.year year)
  else if month < 1 || 12 < month then .error .month
  else if day < 1 || daysIn year month < day then .error .day
  else .ok { year, month, day }

def Moment.of (year month day hour minute second micro : Nat) (zone : Option Int) :
    Except CalendarFault Moment := do
  match zone with
  | some z => if z ≤ -secondsInDay || secondsInDay ≤ z then throw (.zone z)
  | none => pure ()
  let date ← Date.of year month day
  if 23 < hour then throw .hour
  if 59 < minute then throw .minute
  if 59 < second then throw .second
  return { date, hour, minute, second, micro, zone }

def numberArgs (ns : List Nat) : String := ", ".intercalate (ns.map toString)

def spanText (seconds : Int) : String :=
  let days := seconds.fdiv secondsInDay
  let rest := seconds.fmod secondsInDay
  let parts := (if days == 0 then [] else [s!"days={days}"])
    ++ (if rest == 0 then [] else [s!"seconds={rest}"])
  "datetime.timedelta(" ++ (if parts.isEmpty then "0" else ", ".intercalate parts) ++ ")"

def zoneText (offset : Int) : String :=
  if offset == 0 then "datetime.timezone.utc" else "datetime.timezone(" ++ spanText offset ++ ")"

def Date.numbers (d : Date) : List Nat := [d.year, d.month, d.day]

def Date.text (d : Date) : String := "datetime.date(" ++ numberArgs d.numbers ++ ")"

/-- The parts of a day's time that are written: seconds and parts of them only if they count. -/
def Moment.clock (m : Moment) : List Nat :=
  if m.micro != 0 then [m.hour, m.minute, m.second, m.micro]
  else if m.second != 0 then [m.hour, m.minute, m.second]
  else [m.hour, m.minute]

def Moment.text (m : Moment) : String :=
  "datetime.datetime(" ++ numberArgs (m.date.numbers ++ m.clock)
    ++ (match m.zone with | some z => ", tzinfo=" ++ zoneText z | none => "") ++ ")"

def CalendarFault.message : CalendarFault → String
  | .year n => s!"year {n} is out of range"
  | .month => "month must be in 1..12"
  | .day => "day is out of range for month"
  | .hour => "hour must be in 0..23"
  | .minute => "minute must be in 0..59"
  | .second => "second must be in 0..59"
  | .zone z =>
    "offset must be a timedelta strictly between -timedelta(hours=24) and timedelta(hours=24), not "
      ++ spanText z ++ "."

end Notebook
