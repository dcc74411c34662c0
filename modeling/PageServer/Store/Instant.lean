import PageServer.Store.Keyword
import PageServer.Store.Template

/-!
Dates and times in the store.

A point in time is a number of milliseconds from noon of the first of all days that are counted. It
is read from a text or a number, moved by modifiers, and written in parts.
-/

namespace PageServer.Store

open Decimal (Binary)

/-- A day of the calendar and a time of day. -/
structure Clock where
  year : Int := 2000
  month : Int := 1
  day : Int := 1
  hour : Int := 0
  minute : Int := 0
  second : Binary := .ofInt 0
  deriving DecidableEq, Repr

namespace Clock

/-- How many milliseconds a day has. -/
def dayLength : Int := 86400000

/-- How many milliseconds after the last point in time are out of range. -/
def greatest : Int := 464269060799999

/-- The milliseconds of a time of day. -/
def timeLength (clock : Clock) : Int :=
  -- What is less than a millisecond is dropped.
  let millis := (clock.second.mul (.ofInt 1000)).truncate?.getD 0
  clock.hour * 3600000 + clock.minute * 60000 + millis

/-- The milliseconds at a clock, if its year is in range; a month may have any number of days. -/
def instant? (clock : Clock) : Option Int :=
  if clock.year < -4713 || clock.year > 9999 then none
  else
    -- January and February count as the last months of the year before, after its leap day.
    let (year, month) :=
      if clock.month ≤ 2 then (clock.year - 1, clock.month + 12) else (clock.year, clock.month)
    let century := Int.tdiv year 100
    let leap := 2 - century + Int.tdiv century 4
    let years := Int.tdiv (36525 * (year + 4716)) 100
    let months := Int.tdiv (306001 * (month + 1)) 10000
    some ((years + months + clock.day + leap - 1525) * dayLength + dayLength / 2 +
      clock.timeLength)

/-- The clock at a point in time. -/
def ofInstant (instant : Int) : Clock :=
  let days := (instant + dayLength / 2) / dayLength
  -- Centuries that have no leap day are given one, so that four years have the same length.
  let century := Int.tdiv (days * 100 - 186721625) 3652425
  let shifted := days + 1 + century - Int.tdiv century 4 + 1524
  let years := Int.tdiv (shifted * 100 - 12210) 36525
  let before := Int.tdiv (36525 * years) 100
  let months := Int.tdiv ((shifted - before) * 10000) 306001
  let month := if months < 14 then months - 1 else months - 13
  -- Points in time are counted from a noon, and days start at midnight.
  let millis := (instant + dayLength / 2) % dayLength
  let seconds := millis / 1000
  { year := if month > 2 then years - 4716 else years - 4715
    month
    day := shifted - before - Int.tdiv (306001 * months) 10000
    hour := seconds / 3600
    minute := seconds % 3600 / 60
    second := .ofRatio false (millis % 60000).toNat 1000 }

end Clock

/-- A point in time while it is read and moved. -/
structure Reading where
  /-- The milliseconds, if they are known. -/
  instant : Option Int := none
  /-- The parts, if they are known. -/
  clock : Option Clock := none
  /-- A number of which it is open what it counts. -/
  raw : Option Binary := none
  deriving DecidableEq, Repr

namespace Reading

/-- The milliseconds of a reading, if it is in range. -/
def instant? (reading : Reading) : Option Int :=
  match reading.instant with
  | some found => some found
  -- A number that is not known to count days gives no point in time by itself.
  | none => if reading.raw.isSome then none else (reading.clock.getD {}).instant?

/-- The parts of a reading, if it is in range. -/
def clock? (reading : Reading) : Option Clock :=
  match reading.clock, reading.instant with
  | some clock, _ => some clock
  | none, some found => if found ≤ Clock.greatest then some (.ofInstant found) else none
  | none, none => if reading.raw.isSome then none else some {}

/-- A reading of milliseconds. -/
def ofInstant (instant : Int) : Reading := { instant := some instant }

/-- Two digits within bounds, and what follows. -/
def twoDigits? (least greatest : Nat) (text : List Char) : Option (Nat × List Char) :=
  match text with
  | a :: b :: rest =>
    if a.isDigit && b.isDigit then
      let n := digitValue a * 10 + digitValue b
      if least ≤ n && n ≤ greatest then some (n, rest) else none
    else none
  | _ => none

/-- Passes over one character. -/
def after? (mark : Char) : List Char → Option (List Char)
  | c :: rest => if c = mark then some rest else none
  | [] => none

/-- The zone after a time, in minutes: none, the prime meridian, or hours and minutes away. -/
def zone? (text : List Char) : Option Int :=
  match text.dropWhile isSpace with
  | [] => some 0
  | c :: rest =>
    if c = 'Z' || c = 'z' then if (rest.dropWhile isSpace).isEmpty then some 0 else none
    else if c = '+' || c = '-' then do
      let (hours, rest) ← twoDigits? 0 14 rest
      let (minutes, rest) ← twoDigits? 0 59 (← after? ':' rest)
      -- Only blanks may follow a zone.
      if !(rest.dropWhile isSpace).isEmpty then none
      let size : Int := hours * 60 + minutes
      return if c = '-' then -size else size
    else none

/-- A fraction of a second, and what follows. -/
def fraction (text : List Char) : Binary × List Char :=
  match text with
  | '.' :: c :: rest =>
    if c.isDigit then
      let digits := c :: rest.takeWhile Char.isDigit
      let ten : Binary := .ofInt 10
      -- The digits and the power of ten are gathered as doubles, with their rounding.
      let (value, scale) := digits.foldl (fun (value, scale) d =>
        ((value.mul ten).add (.ofInt (digitValue d)), scale.mul ten))
        (Binary.ofInt 0, Binary.ofInt 1)
      (value.div scale, rest.dropWhile Char.isDigit)
    else (.ofInt 0, text)
  | _ => (.ofInt 0, text)

/-- The time of day that a text is, with its zone. -/
def time? (text : List Char) : Option (Int × Int × Binary × Int) := do
  let (hour, rest) ← twoDigits? 0 24 text
  let (minute, rest) ← twoDigits? 0 59 (← after? ':' rest)
  match rest with
  | ':' :: rest => do
    -- Seconds may be left out, and only after them a fraction may follow.
    let (second, rest) ← twoDigits? 0 59 rest
    let (part, rest) := fraction rest
    let zone ← zone? rest
    return (hour, minute, (Binary.ofInt second).add part, zone)
  | _ => do
    let zone ← zone? rest
    return (hour, minute, .ofInt 0, zone)

/-- A reading of a day and a time of day, in a zone. -/
def ofTime (clock : Clock) (time : Int × Int × Binary × Int) : Reading :=
  let (hour, minute, second, zone) := time
  let clock := { clock with hour, minute, second }
  -- Without a zone to take off, the parts stay as they are written.
  if zone = 0 then { clock := some clock }
  else { instant := clock.instant?.map (· - zone * 60000) }

/-- The day that a text starts with, and what follows. -/
def day? (text : List Char) : Option (Clock × List Char) := do
  let (negative, text) := match text with
    | '-' :: rest => (true, rest)
    | _ => (false, text)
  let digits := text.take 4
  -- A year has exactly four digits, whatever its sign.
  if digits.length < 4 || !digits.all Char.isDigit then none
  let year : Int := Text.ofDigits (digits.map digitValue)
  let (month, rest) ← twoDigits? 1 12 (← after? '-' (text.drop 4))
  let (day, rest) ← twoDigits? 1 31 (← after? '-' rest)
  return ({ year := if negative then -year else year, month, day }, rest)

/-- The moment at which the engine for trials always is; others are asked for the present time. -/
def now : Reading := { clock := some { year := 2026 } }

/-- A reading of a number: a count of days, unless a modifier says something else. -/
def ofNumber (value : Binary) : Reading :=
  let inRange := !isNegative value &&
    (value.mul (.ofInt 2)).compare (.ofInt 10746969) = .lt
  let instant := (value.mul (.ofInt Clock.dayLength)).add (.ofRatio false 1 2)
  -- A number that is no day in range may still count seconds.
  { raw := some value, instant := if inRange then instant.truncate? else none }

/-- The reading of a text: a day, a time, both, the present, or a number. -/
def ofText? (text : String) : Option Reading :=
  let chars := text.toList.takeWhile (· != '\x00')
  match dated? chars with
  | some found => some found
  | none =>
    match time? chars with
    | some time => some (ofTime {} time)
    | none =>
      if fold text == "now" then some now
      else
        let numeral := Numeral.read chars
        if numeral.isWhole then some (ofNumber numeral.value) else none
where
  /-- The reading of a day and perhaps a time. -/
  dated? (chars : List Char) : Option Reading := do
    let (clock, rest) ← day? chars
    let rest := rest.dropWhile fun c => isSpace c || c = 'T'
    match time? rest with
    | some time => return ofTime clock time
    -- A day alone is its first moment.
    | none => if rest.isEmpty then return { clock := some clock } else none

/-- A reading moved by milliseconds. -/
def moved (reading : Reading) (by_ : Int) : Option Reading := do
  return ofInstant ((← reading.instant?) + by_)

/-- The units in which a reading is moved: their limit, and their length in seconds. -/
def units : List (String × Binary × Nat) :=
  [("second", .ofDecimal false 46427 10, 1), ("minute", .ofDecimal false 77379 8, 60),
   ("hour", .ofDecimal false 12897 7, 3600), ("day", .ofInt 5373485, 86400),
   ("month", .ofInt 176546, 2592000), ("year", .ofInt 14713, 31536000)]

/-- A reading moved by whole months; a day beyond the end of the month runs over. -/
def byMonths (reading : Reading) (months : Int) : Option Reading := do
  let clock ← reading.clock?
  let month := clock.month + months
  -- The months are brought back into one year, also from before its start.
  let years := if month > 0 then Int.tdiv (month - 1) 12 else Int.tdiv (month - 12) 12
  return { clock := some { clock with year := clock.year + years, month := month - years * 12 } }

/-- A reading moved by a number of units. -/
def byUnits (reading : Reading) (amount : Binary) (name : List Char) : Option Reading := do
  if name.length > 10 || name.length < 3 then none
  let name := (String.ofList name).toList.map Char.toLower
  -- A unit may stand in the plural.
  let name := if name.getLast? = some 's' then name.dropLast else name
  let (unit, limit, seconds) ← units.find? fun entry => entry.1.toList = name
  let size := if isNegative amount then amount.neg else amount
  if size.compare limit ≠ .lt then none
  let instant ← reading.instant?
  -- Half a millisecond, away from zero, makes a rounding of the cut at the end.
  let half : Binary := .ofSignedRatio false (if isNegative amount then -1 else 1) 2
  let whole := amount.truncate?.getD 0
  let (reading, amount) ←
    -- Whole months and years go by the calendar, and what is left of them by their mean length.
    if unit = "month" then pure (← reading.byMonths whole, amount.sub (.ofInt whole))
    else if unit = "year" then pure (← reading.byMonths (12 * whole), amount.sub (.ofInt whole))
    else pure (ofInstant instant, amount)
  let millis := ((amount.mul (.ofInt 1000)).mul (.ofInt seconds)).add half
  reading.moved (millis.truncate?.getD 0)

/-- A reading moved by hours and minutes. -/
def byTime (reading : Reading) (text : List Char) : Option Reading := do
  -- The sign is none of the time's own.
  let digits := if text.head?.any Char.isDigit then text else text.drop 1
  let (hour, minute, second, zone) ← time? digits
  let span := ({ hour, minute, second } : Clock).timeLength - zone * 60000
  -- Of a span only the part within a day counts.
  let span := Int.tmod span Clock.dayLength
  reading.moved (if text.head? = some '-' then -span else span)

/-- The reading at the start of a month, a year or a day. -/
def startOf (reading : Reading) (unit : String) : Option Reading := do
  if reading.instant.isNone && reading.clock.isNone then none
  let clock ← reading.clock?
  let clock := { clock with hour := 0, minute := 0, second := .ofInt 0 }
  match unit with
  | "month" => return { clock := some { clock with day := 1 } }
  | "year" => return { clock := some { clock with month := 1, day := 1 } }
  | "day" => return { clock := some clock }
  | _ => none

/-- The next reading on a day of the week, Sunday being zero; perhaps the same one. -/
def weekday (reading : Reading) (text : List Char) : Option Reading := do
  let numeral := Numeral.read text
  if !numeral.isWhole then none
  let wanted ← numeral.value.toInt?
  if wanted < 0 || wanted > 6 then none
  let clock ← reading.clock?
  let instant ← clock.instant?
  -- The first of all days was a Monday.
  let day := (instant + 129600000) / Clock.dayLength % 7
  return ofInstant (instant + (wanted - (if day > wanted then day - 7 else day)) * Clock.dayLength)

/-- A number read as seconds from the start of the year 1970. -/
def ofSeconds (value : Binary) : Option Reading :=
  let millis := (value.mul (.ofInt 1000)).add (.ofInt 210866760000000)
  if isNegative millis || (millis.compare (.ofInt 464269060800000)) ≠ .lt then none
  else some { instant := (millis.add (.ofRatio false 1 2)).truncate? }

/-- Applies a modifier, which is the first one or a later one. -/
def modify (reading : Reading) (isFirst : Bool) (text : String) : Option Reading :=
  let chars := text.toList.takeWhile (· != '\x00')
  let word := String.ofList (chars.map Char.toLower)
  match word with
  | "auto" =>
    if !isFirst then none
    else
      match reading.raw, reading.instant with
      -- Only a number leaves open what it counts.
      | none, _ => some reading
      | some _, some found => some (ofInstant found)
      | some value, none => ofSeconds value
  | "julianday" =>
    match reading.raw, reading.instant with
    | some _, some found => if isFirst then some (ofInstant found) else none
    | _, _ => none
  | "unixepoch" =>
    match reading.raw with
    | some value => if isFirst then ofSeconds value else none
    | none => none
  -- The store is at the prime meridian, so there is no way to go.
  | "localtime" | "utc" => do return ofInstant (← reading.instant?)
  | _ =>
    if "weekday ".toList.isPrefixOf word.toList then reading.weekday (chars.drop 8)
    else if "start of ".toList.isPrefixOf word.toList then
      reading.startOf (String.ofList (word.toList.drop 9))
    -- An amount, and then either a unit or the rest of a time of day.
    else if chars.head?.any fun c => c = '+' || c = '-' || c.isDigit then
      let amount := chars.take 1 ++ (chars.drop 1).takeWhile fun c => c ≠ ':' && !isSpace c
      let rest := chars.drop amount.length
      let numeral := Numeral.read amount
      if !numeral.isWhole then none
      else if rest.head? = some ':' then reading.byTime chars
      else reading.byUnits numeral.value (rest.dropWhile isSpace)
    else none

/-- Applies modifiers in order. -/
def modifyAll (reading : Reading) (isFirst : Bool) : List Cell → Option Reading
  | [] => some reading
  | first :: rest => do
    let reading ← reading.modify isFirst (← first.text?)
    reading.modifyAll false rest

/-- The point in time that cells describe: a first one, and modifiers. -/
def ofCells : List Cell → Option Reading
  | [] => some now
  | first :: modifiers => do
    let start ← match first with
      | .int n => pure (ofNumber (.ofInt n))
      | .real value => pure (ofNumber value)
      | other => ofText? (← other.text?)
    start.modifyAll true modifiers

/-- The point in time that cells describe as milliseconds, with its parts, if it is in range. -/
def resolve (cells : List Cell) : Option (Int × Clock) := do
  let reading ← ofCells cells
  let instant ← reading.instant?
  if instant < 0 || instant > Clock.greatest then none
  -- Parts that are known are kept, even a day beyond the end of its month.
  let clock := match reading.clock with
    | some clock => clock
    | none => .ofInstant instant
  return (instant, clock)

end Reading

/-! Writing -/

namespace Clock

/-- A number with at least so many digits. -/
def digits (width : Nat) (n : Int) : List Char :=
  let found := Nat.toDigits 10 n.natAbs
  (if n < 0 then ['-'] else []) ++ List.replicate (width - found.length) '0' ++ found

/-- The whole seconds. -/
def seconds (clock : Clock) : Int := clock.second.truncate?.getD 0

/-- Year, month and day. -/
def dateChars (clock : Clock) : List Char :=
  digits 4 clock.year ++ '-' :: digits 2 clock.month ++ '-' :: digits 2 clock.day

/-- Hour, minute and second. -/
def timeChars (clock : Clock) : List Char :=
  digits 2 clock.hour ++ ':' :: digits 2 clock.minute ++ ':' :: digits 2 clock.seconds

/-- Whole seconds from the start of the year 1970. -/
def epoch (instant : Int) : Int := instant / 1000 - 210866760000

/-- Days as a double. -/
def julian (instant : Int) : Binary := .ofSignedRatio false instant 86400000

/-- A part of a point in time by its letter. -/
def part (instant : Int) (clock : Clock) (letter : Char) : Option (List Char) :=
  let dayOfYear : Int :=
    let start := ({ clock with month := 1, day := 1 } : Clock).instant?.getD 0
    (instant - start + dayLength / 2) / dayLength
  match letter with
  | 'd' => some (digits 2 clock.day)
  | 'f' =>
    -- Seconds are not rounded up to the next minute.
    let most : Binary := .ofDecimal false 59999 (-3)
    let second := if clock.second.compare most = .gt then most else clock.second
    let body := ({ form := .fixed, precision := 3 } : Layout).chars second
    some (List.replicate (6 - body.length) '0' ++ body)
  | 'H' => some (digits 2 clock.hour)
  | 'j' => some (digits 3 (dayOfYear + 1))
  | 'J' => some ({ form := .general, precision := 16 : Layout }.chars (julian instant))
  | 'm' => some (digits 2 clock.month)
  | 'M' => some (digits 2 clock.minute)
  | 's' => some (digits 1 (epoch instant))
  | 'S' => some (digits 2 clock.seconds)
  | 'w' => some (digits 1 ((instant + 129600000) / dayLength % 7))
  | 'W' =>
    -- Weeks start on Mondays, and the days before the first one are in week zero.
    let weekday := (instant + dayLength / 2) / dayLength % 7
    some (digits 2 (Int.tdiv (dayOfYear + 7 - weekday) 7))
  | 'Y' => some (digits 4 clock.year)
  | '%' => some ['%']
  | _ => none

/-- A point in time in a form: letters after percent signs are its parts. -/
def written (instant : Int) (clock : Clock) : List Char → Option (List Char)
  | [] => some []
  | '%' :: letter :: rest => do
    return (← part instant clock letter) ++ (← written instant clock rest)
  -- A letter that is missing or unknown leaves nothing of the whole text.
  | '%' :: [] => none
  | c :: rest => do return c :: (← written instant clock rest)

end Clock

/-- A text of a point in time that cells describe. -/
def instantText (write : Clock → List Char) (cells : List Cell) : Cell :=
  match Reading.resolve cells with
  | some (_, clock) => .text (String.ofList (write clock))
  | none => .null

/-- The date or time function of a name, if there is one. -/
def instantFunction? (name : String) : Option (List Cell → Cell) :=
  match name with
  | "date" | "current_date" => some (instantText Clock.dateChars)
  | "time" | "current_time" => some (instantText Clock.timeChars)
  | "datetime" | "current_timestamp" =>
    some (instantText fun clock => clock.dateChars ++ ' ' :: clock.timeChars)
  | "julianday" => some fun cells =>
    match Reading.resolve cells with
    | some (instant, _) => .ofDouble (Clock.julian instant)
    | none => .null
  | "unixepoch" => some fun cells =>
    match Reading.resolve cells with
    | some (instant, _) => .int (Clock.epoch instant)
    | none => .null
  | "strftime" => some fun cells =>
    match cells with
    | [] => .null
    | form :: rest =>
      match form.chars?, Reading.resolve rest with
      | some chars, some (instant, clock) =>
        match Clock.written instant clock chars with
        | some found => .text (String.ofList found)
        | none => .null
      | _, _ => .null
  | _ => none

end PageServer.Store
