import PageServer.Datum
import PageServer.Yaml.Fault
import PageServer.Yaml.Tag

/-! Points in time that the calendar has. -/

namespace PageServer.Yaml

/-- A length of time in days and seconds. -/
def durationText (seconds : Int) : String :=
  let parts :=
    (if seconds / 86400 = 0 then [] else ["days=" ++ Text.decimal (seconds / 86400)]) ++
      (if seconds % 86400 = 0 then [] else ["seconds=" ++ Text.decimal (seconds % 86400)])
  "datetime.timedelta(" ++ (if parts.isEmpty then "0" else ", ".intercalate parts) ++ ")"

/-- What is wrong with a zone: it is a day or more away. -/
def zoneFault? (minutes : Int) : Option String :=
  if minutes.natAbs < 1440 then none
  else some ("offset must be a timedelta strictly between -timedelta(hours=24) and " ++
    "timedelta(hours=24), not " ++ durationText (minutes * 60) ++ ".")

/-- What is wrong with a date: the year is looked at first, then the month, then the day. -/
def dateFault? (date : Date) : Option String :=
  if date.year = 0 then some "year 0 is out of range"
  else if date.month = 0 || date.month > 12 then some "month must be in 1..12"
  else if date.day = 0 || date.day > Date.daysIn date.year date.month then
    some "day is out of range for month"
  else none

/-- What is wrong with a time of day. -/
def timeFault? (hour minute second : Nat) : Option String :=
  if hour > 23 then some "hour must be in 0..23"
  else if minute > 59 then some "minute must be in 0..59"
  else if second > 59 then some "second must be in 0..59"
  else none

/-- A point in time as a datum; a line feed may follow it. -/
def timestamp (text : String) : Except Fault Datum := do
  let some found := Tag.written? (Tag.withoutFeed text) | throw .time
  let date : Date := { year := found.year, month := found.month, day := found.day }
  if let some message := found.zone.bind zoneFault? then throw (.calendar message)
  if let some message := dateFault? date then throw (.calendar message)
  match found.time with
  | none => return .date date
  | some (hour, minute, second, fraction) =>
    -- The date is looked at before the time of day is.
    if let some message := timeFault? hour minute second then throw (.calendar message)
    let micros := Text.ofDigits ((fraction ++ List.replicate 6 0).take 6)
    return .moment { date, hour, minute, second, micros, zone := found.zone }

end PageServer.Yaml
