/-! Dates and moments of the calendar, their order and their texts. -/

namespace PageServer

/-- A number with at least so many digits. -/
def padded (width n : Nat) : String :=
  let digits := Nat.toDigits 10 n
  String.ofList (List.replicate (width - digits.length) '0' ++ digits)

/-- A day of the calendar. -/
structure Date where
  year : Nat
  month : Nat
  day : Nat
  deriving DecidableEq, Repr

namespace Date

/-- Whether a year has a day more. -/
def isLeap (year : Nat) : Bool := year % 4 = 0 && (year % 100 ≠ 0 || year % 400 = 0)

/-- How many days a month has. -/
def daysIn (year month : Nat) : Nat :=
  if month = 2 then if isLeap year then 29 else 28
  else if month = 4 || month = 6 || month = 9 || month = 11 then 30
  else 31

/-- How many days there are before a year. -/
def daysBefore (year : Nat) : Nat :=
  let past := year - 1
  past * 365 + past / 4 - past / 100 + past / 400

/-- Which day of the calendar a date is, the first of all being one. -/
def number (date : Date) : Nat :=
  let months := (List.range (date.month - 1)).foldl
    (fun sum month => sum + daysIn date.year (month + 1)) 0
  daysBefore date.year + months + date.day

/-- A date as a text: year, month and day. -/
def text (date : Date) : String :=
  padded 4 date.year ++ "-" ++ padded 2 date.month ++ "-" ++ padded 2 date.day

end Date

/-- A time of a day, perhaps in a zone. -/
structure Moment where
  date : Date
  hour : Nat
  minute : Nat
  second : Nat
  micros : Nat
  /-- Minutes ahead of the prime meridian, if a zone is given. -/
  zone : Option Int
  deriving DecidableEq, Repr

namespace Moment

/-- A zone as it is written after a time. -/
def zoneText (minutes : Int) : String :=
  (if minutes < 0 then "-" else "+") ++ padded 2 (minutes.natAbs / 60) ++ ":" ++
    padded 2 (minutes.natAbs % 60)

/-- A moment as a text: a fraction of a second and a zone only if there is one. -/
def text (moment : Moment) : String :=
  moment.date.text ++ " " ++ padded 2 moment.hour ++ ":" ++ padded 2 moment.minute ++ ":" ++
    padded 2 moment.second ++
    (if moment.micros = 0 then "" else "." ++ padded 6 moment.micros) ++
    (moment.zone.map zoneText).getD ""

/-- The microseconds that have passed at a moment, on the prime meridian if it has a zone. -/
def instant (moment : Moment) : Int :=
  let minutes : Int := (moment.date.number * 24 + moment.hour) * 60 + moment.minute
  -- Ahead of the prime meridian the same time of day comes earlier.
  ((minutes - moment.zone.getD 0) * 60 + moment.second) * 1000000 + moment.micros

/-- Whether two moments are comparable: both have a zone, or neither has. -/
def comparable (a b : Moment) : Bool := a.zone.isSome == b.zone.isSome

end Moment

end PageServer
