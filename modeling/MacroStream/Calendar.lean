/-!
# Dates

Points in time as seconds since the start of 1970, and their dates in the proleptic Gregorian
calendar. There is one time zone, and it has no summer time. Dates are written by the letters that
are usual for this, with English names.
-/

namespace MacroStream.Calendar

/-- A date with a time of day. -/
structure Date where
  year : Int
  /-- From 1 to 12. -/
  month : Int
  /-- From 1 to 31. -/
  day : Int
  hour : Int
  minute : Int
  second : Int
  deriving Repr

/-- How many days lie between the start of 1970 and a day; months and days may be out of their
ranges. -/
def dayNumber (year month day : Int) : Int :=
  let year := year + (month - 1).fdiv 12
  let month := (month - 1).fmod 12 + 1
  -- The year is taken to begin in March, so that the extra day comes last.
  let y := if month ≤ 2 then year - 1 else year
  let era := y.fdiv 400
  let yearOfEra := y - era * 400
  let shifted := if month ≤ 2 then month + 9 else month - 3
  let dayOfYear := (153 * shifted + 2).fdiv 5 + day - 1
  era * 146097 + yearOfEra * 365 + yearOfEra.fdiv 4 - yearOfEra.fdiv 100 + dayOfYear - 719468

/-- The seconds of a date; its parts may be out of their ranges. -/
def seconds (d : Date) : Int :=
  dayNumber d.year d.month d.day * 86400 + d.hour * 3600 + d.minute * 60 + d.second

/-- The date of a number of seconds. -/
def ofSeconds (t : Int) : Date :=
  let days := t.fdiv 86400
  let rest := t.fmod 86400
  let z := days + 719468
  let era := z.fdiv 146097
  let dayOfEra := z - era * 146097
  let yearOfEra := (dayOfEra - dayOfEra.fdiv 1460 + dayOfEra.fdiv 36524 -
    dayOfEra.fdiv 146096).fdiv 365
  let dayOfYear := dayOfEra - (365 * yearOfEra + yearOfEra.fdiv 4 - yearOfEra.fdiv 100)
  let shifted := (5 * dayOfYear + 2).fdiv 153
  let day := dayOfYear - (153 * shifted + 2).fdiv 5 + 1
  let month := if shifted < 10 then shifted + 3 else shifted - 9
  let year := yearOfEra + era * 400 + (if month ≤ 2 then 1 else 0)
  ⟨year, month, day, rest.fdiv 3600, (rest.fmod 3600).fdiv 60, rest.fmod 60⟩

/-- The day of the week, counted from Sunday. -/
def weekday (d : Date) : Int := (dayNumber d.year d.month d.day + 4).fmod 7

/-- The day of the year, counted from 0. -/
def yearday (d : Date) : Int := dayNumber d.year d.month d.day - dayNumber d.year 1 1

/-- The names of the days of the week. -/
def dayNames : List String :=
  ["Sunday", "Monday", "Tuesday", "Wednesday", "Thursday", "Friday", "Saturday"]

/-- The names of the months. -/
def monthNames : List String :=
  ["January", "February", "March", "April", "May", "June", "July", "August", "September",
    "October", "November", "December"]

/-- A number with at least `n` digits. -/
def digits (n : Nat) (fill : Char) (v : Int) : String :=
  let cs := (Int.repr v).toList
  String.ofList (List.replicate (n - cs.length) fill ++ cs)

/-- The year and the number of the week that the international standard counts. -/
def standardWeek (d : Date) : Int × Int :=
  let wday := (weekday d + 6).fmod 7
  let week := (yearday d - wday + 10).fdiv 7
  let weeksIn (y : Int) : Int :=
    let p (y : Int) := (y + y.fdiv 4 - y.fdiv 100 + y.fdiv 400).fmod 7
    if p y = 4 || p (y - 1) = 3 then 53 else 52
  if week < 1 then (d.year - 1, weeksIn (d.year - 1))
  else if weeksIn d.year < week then (d.year + 1, 1)
  else (d.year, week)

/-- The hour on a clock of twelve hours. -/
def hour12 (d : Date) : Int :=
  let h := d.hour.fmod 12
  if h = 0 then 12 else h

/-- What a letter writes of a date. -/
def write (d : Date) (letter : Char) : String :=
  let two := digits 2 '0'
  let dayName := dayNames.getD (weekday d).toNat ""
  let monthName := monthNames.getD (d.month - 1).toNat ""
  let clock := two d.hour ++ ":" ++ two d.minute ++ ":" ++ two d.second
  let short := two d.month ++ "/" ++ two d.day ++ "/" ++ two (d.year.fmod 100)
  match letter with
  | 'a' => (dayName.take 3).toString
  | 'A' => dayName
  | 'b' | 'h' => (monthName.take 3).toString
  | 'B' => monthName
  | 'c' =>
    (dayName.take 3).toString ++ " " ++ (monthName.take 3).toString ++ " " ++ digits 2 ' ' d.day ++
      " " ++ clock ++ " " ++ Int.repr d.year
  | 'C' => two (d.year.fdiv 100)
  | 'd' => two d.day
  | 'D' | 'x' => short
  | 'e' => digits 2 ' ' d.day
  | 'F' => Int.repr d.year ++ "-" ++ two d.month ++ "-" ++ two d.day
  | 'g' => two ((standardWeek d).1.fmod 100)
  | 'G' => Int.repr (standardWeek d).1
  | 'H' => two d.hour
  | 'I' => two (hour12 d)
  | 'j' => digits 3 '0' (yearday d + 1)
  | 'm' => two d.month
  | 'M' => two d.minute
  | 'n' => "\n"
  | 'p' => if d.hour < 12 then "AM" else "PM"
  | 'r' =>
    two (hour12 d) ++ ":" ++ two d.minute ++ ":" ++ two d.second ++
      (if d.hour < 12 then " AM" else " PM")
  | 'R' => two d.hour ++ ":" ++ two d.minute
  | 's' => Int.repr (seconds d)
  | 'S' => two d.second
  | 't' => "\t"
  | 'T' | 'X' => clock
  | 'u' => Int.repr (if weekday d = 0 then 7 else weekday d)
  | 'U' => two ((yearday d + 7 - weekday d).fdiv 7)
  | 'V' => two (standardWeek d).2
  | 'w' => Int.repr (weekday d)
  | 'W' => two ((yearday d + 7 - (weekday d + 6).fmod 7).fdiv 7)
  | 'y' => two (d.year.fmod 100)
  | 'Y' => Int.repr d.year
  | 'z' => "+0000"
  | 'Z' => "GMT"
  | _ => "%"

end MacroStream.Calendar
