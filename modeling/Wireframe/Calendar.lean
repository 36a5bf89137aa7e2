import Wireframe.Number.Read
import Wireframe.Number.Text
import Wireframe.Text.Digit

/-! # Dates and times

Dates of the years 1 to 9999 in the Gregorian calendar, times of day to the microsecond,
and both together with or without an offset from universal time. Every value has two
texts: the one in which a document shows it, and the one that names its parts, in which
a message quotes it.
-/

namespace Wireframe.Calendar

/-- Why numbers are no date, no time or no offset. -/
inductive Fault where
  | year (n : Nat)
  | month
  | day
  | hour
  | minute
  | second
  | offset (seconds : Int)
deriving DecidableEq, Repr

/-- A day of the calendar. -/
structure Date where
  year : Nat
  month : Nat
  day : Nat
deriving DecidableEq, Repr

/-- A time of day. -/
structure Time where
  hour : Nat
  minute : Nat
  second : Nat
  microsecond : Nat
deriving DecidableEq, Repr

/-- A day and a time of day; the offset from universal time is in seconds. -/
structure DateTime where
  date : Date
  time : Time
  offset : Option Int
deriving DecidableEq, Repr

/-- A year with a twenty-ninth of February. -/
def isLeap (year : Nat) : Bool := year % 4 == 0 && (year % 100 != 0 || year % 400 == 0)

/-- The number of days of a month. -/
def daysInMonth (year month : Nat) : Nat :=
  if month == 2 then (if isLeap year then 29 else 28)
  else if month == 4 || month == 6 || month == 9 || month == 11 then 30
  else 31

/-- A date, if the numbers make one. The year is examined first and the day last. -/
def Date.of (year month day : Nat) : Except Fault Date :=
  if year < 1 || 9999 < year then .error (.year year)
  else if month < 1 || 12 < month then .error .month
  else if day < 1 || daysInMonth year month < day then .error .day
  else .ok ⟨year, month, day⟩

/-- A time of day, if the numbers make one. -/
def Time.of (hour minute second microsecond : Nat) : Except Fault Time :=
  if 23 < hour then .error .hour
  else if 59 < minute then .error .minute
  else if 59 < second then .error .second
  else .ok ⟨hour, minute, second, microsecond⟩

/-- An offset must be shorter than a day. -/
def checkOffset (seconds : Int) : Except Fault Int :=
  if seconds.natAbs < 86400 then .ok seconds else .error (.offset seconds)

/-- A number of seconds as whole days and the seconds of the last day. -/
def daysAndSeconds (seconds : Int) : Int × Int := (Int.fdiv seconds 86400, Int.fmod seconds 86400)

/-- A length of time with its parts named. -/
def durationLiteral (seconds : Int) : String :=
  let (days, rest) := daysAndSeconds seconds
  let parts :=
    (if days == 0 then [] else ["days=" ++ Number.intText days]) ++
      (if rest == 0 then [] else ["seconds=" ++ Number.intText rest])
  "datetime.timedelta(" ++ (if parts.isEmpty then "0" else ", ".intercalate parts) ++ ")"

/-- What is wrong with the numbers, in words. -/
def Fault.message : Fault → String
  | .year n => "year " ++ Nat.repr n ++ " is out of range"
  | .month => "month must be in 1..12"
  | .day => "day is out of range for month"
  | .hour => "hour must be in 0..23"
  | .minute => "minute must be in 0..59"
  | .second => "second must be in 0..59"
  | .offset seconds =>
    "offset must be a timedelta strictly between -timedelta(hours=24) and timedelta(hours=24), not " ++
      durationLiteral seconds ++ "."

/-- A number with at least so many digits, as a string. -/
def digits (width n : Nat) : String := String.ofList (Text.paddedNumber width n)

/-- A date with its parts separated by hyphens. -/
def Date.text (d : Date) : String :=
  digits 4 d.year ++ "-" ++ digits 2 d.month ++ "-" ++ digits 2 d.day

/-- A time with its parts separated by colons; microseconds appear only when there are some. -/
def Time.text (t : Time) : String :=
  digits 2 t.hour ++ ":" ++ digits 2 t.minute ++ ":" ++ digits 2 t.second ++
    (if t.microsecond == 0 then "" else "." ++ digits 6 t.microsecond)

/-- An offset as hours and minutes, and seconds if it has some. -/
def offsetText (seconds : Int) : String :=
  let n := seconds.natAbs
  (if seconds < 0 then "-" else "+") ++ digits 2 (n / 3600) ++ ":" ++ digits 2 (n / 60 % 60) ++
    (if n % 60 == 0 then "" else ":" ++ digits 2 (n % 60))

/-- A date and a time with `separator` between them, and the offset if there is one. -/
def DateTime.textWith (separator : String) (t : DateTime) : String :=
  t.date.text ++ separator ++ t.time.text ++
    (match t.offset with
      | some seconds => offsetText seconds
      | none => "")

/-- The text in which a document shows a date and time. -/
def DateTime.text (t : DateTime) : String := t.textWith " "

/-- A date with its parts named. -/
def Date.literal (d : Date) : String :=
  "datetime.date(" ++ ", ".intercalate [Nat.repr d.year, Nat.repr d.month, Nat.repr d.day] ++ ")"

/-- The parts of a time; seconds and microseconds are left out when they and what follows are
zero. -/
def Time.parts (t : Time) : List String :=
  [Nat.repr t.hour, Nat.repr t.minute] ++
    (if t.microsecond != 0 then [Nat.repr t.second, Nat.repr t.microsecond]
      else if t.second != 0 then [Nat.repr t.second]
      else [])

/-- A time with its parts named. -/
def Time.literal (t : Time) : String := "datetime.time(" ++ ", ".intercalate t.parts ++ ")"

/-- An offset with its parts named. -/
def offsetLiteral (seconds : Int) : String :=
  if seconds == 0 then "datetime.timezone.utc"
  else "datetime.timezone(" ++ durationLiteral seconds ++ ")"

/-- A date and time with its parts named. -/
def DateTime.literal (t : DateTime) : String :=
  let offset :=
    match t.offset with
    | some seconds => ["tzinfo=" ++ offsetLiteral seconds]
    | none => []
  "datetime.datetime(" ++
    ", ".intercalate
      ([Nat.repr t.date.year, Nat.repr t.date.month, Nat.repr t.date.day] ++ t.time.parts ++
        offset) ++ ")"

/-- The number of days from the first of January of the year 1 to a date. -/
def Date.dayNumber (d : Date) : Nat :=
  let y := d.year - 1
  let months := (List.range (d.month - 1)).map fun m => daysInMonth d.year (m + 1)
  y * 365 + y / 4 - y / 100 + y / 400 + months.foldl (· + ·) 0 + (d.day - 1)

/-- The instant of a date and time with an offset, in microseconds of universal time. -/
def DateTime.instant (t : DateTime) (offset : Int) : Int :=
  let seconds : Int :=
    t.date.dayNumber * 86400 + t.time.hour * 3600 + t.time.minute * 60 + t.time.second
  (seconds - offset) * 1000000 + t.time.microsecond

/-- Two dates and times that denote the same moment. One with and one without an offset never
do. -/
def DateTime.same (a b : DateTime) : Bool :=
  match a.offset, b.offset with
  | none, none => a == b
  | some p, some q => a.instant p == b.instant q
  | _, _ => false

/-- The month and the day of a day counted from the first of January. -/
def monthAndDay (year : Nat) : (fuel month day : Nat) → Nat × Nat
  | 0, month, day => (month, day + 1)
  | fuel + 1, month, day =>
    let length := daysInMonth year month
    if day < length then (month, day + 1) else monthAndDay year fuel (month + 1) (day - length)

/-- The date that lies a number of days after the first of January of the year 1. -/
def Date.ofDayNumber (n : Nat) : Date :=
  let guess := n / 366 + 1
  let year :=
    ((List.range (n / 366 / 365 + 3)).map (guess + ·)).foldl
      (fun best y => if Date.dayNumber ⟨y, 1, 1⟩ ≤ n then y else best) guess
  let (month, day) := monthAndDay year 12 1 (n - Date.dayNumber ⟨year, 1, 1⟩)
  ⟨year, month, day⟩

/-- The day of the first of January 1970. -/
def epochDay : Nat := Date.dayNumber ⟨1970, 1, 1⟩

/-- The universal time that lies a number of microseconds after the start of 1970. -/
def DateTime.ofMicroseconds (n : Int) : DateTime :=
  let seconds := Int.fdiv n 1000000
  let (days, rest) := daysAndSeconds seconds
  let second := rest.toNat
  { date := Date.ofDayNumber (days + epochDay).toNat
    time := ⟨second / 3600, second / 60 % 60, second % 60, (Int.fmod n 1000000).toNat⟩
    offset := some 0 }

/-- The whole number of microseconds that is nearest to a number of seconds; one in the middle goes to
the even number. -/
def microsecondsOfSeconds (seconds : Float) : Int :=
  let whole := if seconds < 0 then seconds.ceil else seconds.floor
  let rest := (seconds - whole) * 1000000
  let near := rest.round
  let rounded := if (rest - near).abs == 0.5 then 2 * (rest / 2).round else near
  (Number.wholeOfFloat? whole).getD 0 * 1000000 + (Number.wholeOfFloat? rounded).getD 0

end Wireframe.Calendar
