import TableGraph.Number.Binary

/-!
# Calendar dates and times of day

Dates of the proleptic Gregorian calendar between the years 1 and 9999,
times of day to the microsecond, and their combination. A time may carry a
fixed offset from UTC, held in microseconds; a zero offset is UTC itself.

* `Date.isValid`, `TimeOfDay.isValid` and `validOffset` are the ranges a value
  must lie in; the readers refuse anything outside them.
* `Date.ordinal` counts days from 0001-01-01 (day 1), `Date.ofOrdinal` goes
  back; ISO week dates are converted through them.
* `isoText` writes `YYYY-MM-DD`, `HH:MM:SS[.ffffff][±HH:MM[:SS[.ffffff]]]`
  and the two joined by `T`: microseconds only when not zero.
* `literal` writes the constructor form used in diagnostics, such as
  `datetime.date(2024, 1, 1)`.
-/

namespace TableGraph.Time

/-- A calendar date. -/
structure Date where
  year : Nat
  month : Nat
  day : Nat
  deriving Repr, BEq, DecidableEq, Inhabited

/-- A time of day with an optional UTC offset in microseconds. -/
structure TimeOfDay where
  hour : Nat
  minute : Nat
  second : Nat
  micro : Nat
  offset : Option Int := none
  deriving Repr, BEq, DecidableEq, Inhabited

/-- A date with a time of day. -/
structure DateTime where
  date : Date
  time : TimeOfDay
  deriving Repr, BEq, DecidableEq, Inhabited

/-- Leap years of the Gregorian calendar. -/
def isLeap (y : Nat) : Bool := y % 4 == 0 && (y % 100 != 0 || y % 400 == 0)

/-- Days of a month (0 for a month outside 1–12). -/
def daysInMonth (y m : Nat) : Nat :=
  match m with
  | 1 | 3 | 5 | 7 | 8 | 10 | 12 => 31
  | 4 | 6 | 9 | 11 => 30
  | 2 => if isLeap y then 29 else 28
  | _ => 0

/-- Days of the year before the first of a month. -/
def daysBeforeMonth (y m : Nat) : Nat :=
  ((List.range (m - 1)).map (fun i => daysInMonth y (i + 1))).foldl (· + ·) 0

/-- Days of all years before a year. -/
def daysBeforeYear (y : Nat) : Nat :=
  let p := y - 1
  p * 365 + p / 4 - p / 100 + p / 400

namespace Date

/-- A date in the supported range. -/
def isValid (d : Date) : Bool :=
  1 ≤ d.year && d.year ≤ 9999 && 1 ≤ d.month && d.month ≤ 12 &&
  1 ≤ d.day && d.day ≤ daysInMonth d.year d.month

/-- Day number counted from 0001-01-01, which is day 1. -/
def ordinal (d : Date) : Nat :=
  daysBeforeYear d.year + daysBeforeMonth d.year d.month + d.day

/-- The year holding a day number: the last year whose first day is not
after it. -/
def yearOfOrdinal (n : Nat) : Nat :=
  let guess := (n * 400) / 146097 + 1
  -- the guess is at most one year off in either direction
  if daysBeforeYear (guess + 1) < n then guess + 1
  else if daysBeforeYear guess < n then guess
  else guess - 1

/-- The date of a day number. -/
def ofOrdinal (n : Nat) : Date :=
  let y := yearOfOrdinal n
  let dayOfYear := n - daysBeforeYear y
  let m := ((List.range 12).map (· + 1)).filter (fun m => daysBeforeMonth y m < dayOfYear) |>.getLast? |>.getD 1
  ⟨y, m, dayOfYear - daysBeforeMonth y m⟩

/-- Day of the week, Monday being 0. -/
def weekday (d : Date) : Nat := (d.ordinal + 6) % 7

end Date

/-- The day number of the Monday of the first ISO week of a year. -/
def isoWeekOneMonday (y : Nat) : Nat :=
  let first := (Date.mk y 1 1).ordinal
  let wd := (first + 6) % 7
  let monday := first - wd
  if wd > 3 then monday + 7 else monday

/-- The date of an ISO week date: the year must be at least one (every week
of year zero falls before the first day of the calendar), the week must lie
in the year (week 53 only in years that have one) and the day in 1–7. -/
def ofIsoWeek? (y week day : Nat) : Option Date :=
  let weekOk :=
    if week == 0 || week ≥ 53 then
      week == 53 &&
        (let firstWeekday := (Date.mk y 1 1).weekday
         firstWeekday == 3 || (firstWeekday == 2 && isLeap y))
    else true
  if y == 0 || !weekOk then none
  else if day == 0 || day ≥ 8 then none
  else some (Date.ofOrdinal (isoWeekOneMonday y + (week - 1) * 7 + day - 1))

/-- An offset strictly between minus and plus one day. -/
def validOffset (micros : Int) : Bool := -86400000000 < micros && micros < 86400000000

namespace TimeOfDay

/-- A time of day in range, with a valid offset. -/
def isValid (t : TimeOfDay) : Bool :=
  t.hour ≤ 23 && t.minute ≤ 59 && t.second ≤ 59 && t.micro ≤ 999999 &&
  (match t.offset with | some o => validOffset o | none => true)

/-- The same clock time without its offset. -/
def naive (t : TimeOfDay) : TimeOfDay := { t with offset := none }

end TimeOfDay

/-- Two digits, zero-padded. -/
def two (n : Nat) : String := Number.padDigits n 2

/-- `±HH:MM`, then `:SS` and `.ffffff` when they are not zero. -/
def offsetText (micros : Int) : String :=
  let sign := if micros < 0 then "-" else "+"
  let a := micros.natAbs
  let us := a % 1000000
  let secs := a / 1000000
  let h := secs / 3600
  let m := secs / 60 % 60
  let s := secs % 60
  let tail := if us != 0 then ":" ++ two s ++ "." ++ Number.padDigits us 6
    else if s != 0 then ":" ++ two s else ""
  sign ++ two h ++ ":" ++ two m ++ tail

namespace Date

/-- `YYYY-MM-DD`. -/
def isoText (d : Date) : String :=
  Number.padDigits d.year 4 ++ "-" ++ two d.month ++ "-" ++ two d.day

/-- `datetime.date(Y, M, D)`. -/
def literal (d : Date) : String :=
  "datetime.date(" ++ toString d.year ++ ", " ++ toString d.month ++ ", " ++ toString d.day ++ ")"

end Date

/-- The constructor form of an offset: `datetime.timezone.utc` for zero,
otherwise a `timedelta` of whole days, seconds and microseconds, the days
carrying the sign. -/
def offsetLiteral (micros : Int) : String :=
  if micros == 0 then "datetime.timezone.utc"
  else
    let days := micros.fdiv 86400000000
    let rest := micros - days * 86400000000
    let secs := rest / 1000000
    let us := rest % 1000000
    let parts := (if days != 0 then ["days=" ++ toString days] else []) ++
      (if secs != 0 then ["seconds=" ++ toString secs] else []) ++
      (if us != 0 then ["microseconds=" ++ toString us] else [])
    "datetime.timezone(datetime.timedelta(" ++ ", ".intercalate parts ++ "))"

namespace TimeOfDay

/-- `HH:MM:SS`, `.ffffff` when the microseconds are not zero, then the
offset. -/
def isoText (t : TimeOfDay) : String :=
  two t.hour ++ ":" ++ two t.minute ++ ":" ++ two t.second ++
    (if t.micro != 0 then "." ++ Number.padDigits t.micro 6 else "") ++
    (match t.offset with | some o => offsetText o | none => "")

/-- The numbers of the constructor form: trailing zero seconds and
microseconds are left out, hours and minutes always written. -/
def literalFields (t : TimeOfDay) : List Nat :=
  if t.micro != 0 then [t.hour, t.minute, t.second, t.micro]
  else if t.second != 0 then [t.hour, t.minute, t.second]
  else [t.hour, t.minute]

/-- The offset argument of the constructor form. -/
def zoneArgument (t : TimeOfDay) : String :=
  match t.offset with
  | some o => ", tzinfo=" ++ offsetLiteral o
  | none => ""

/-- `datetime.time(H, M[, S[, US]][, tzinfo=…])`. -/
def literal (t : TimeOfDay) : String :=
  "datetime.time(" ++ ", ".intercalate (t.literalFields.map toString) ++ t.zoneArgument ++ ")"

end TimeOfDay

namespace DateTime

/-- The date, `T`, and the time. -/
def isoText (d : DateTime) : String := d.date.isoText ++ "T" ++ d.time.isoText

/-- `datetime.datetime(Y, M, D, H, M[, S[, US]][, tzinfo=…])`. -/
def literal (d : DateTime) : String :=
  "datetime.datetime(" ++ ", ".intercalate
    (([d.date.year, d.date.month, d.date.day] ++ d.time.literalFields).map toString) ++
    d.time.zoneArgument ++ ")"

/-- Midnight at the start of a date, without offset. -/
def ofDate (d : Date) : DateTime := ⟨d, ⟨0, 0, 0, 0, none⟩⟩

end DateTime

end TableGraph.Time
