/-!
Days and times of day in the Gregorian calendar, which is taken to hold for all years; year 0 is
the year before year 1.
-/

set_option autoImplicit false
set_option relaxedAutoImplicit false

namespace RowStamp

/-- A day: its year, its month from 1 to 12, and its place in the month from 1 on. -/
structure Date where
  year : Int
  month : Nat
  day : Nat
  deriving DecidableEq, Repr

namespace Date

/-- Every fourth year is a leap year, but of the years that end a century only every fourth. -/
def isLeap (year : Int) : Bool :=
  year % 4 = 0 && (year % 100 ≠ 0 || year % 400 = 0)

def monthLength (year : Int) (month : Nat) : Nat :=
  match month with
  | 2 => if isLeap year then 29 else 28
  | 4 | 6 | 9 | 11 => 30
  | 1 | 3 | 5 | 7 | 8 | 10 | 12 => 31
  | _ => 0

def firstYear : Int := -262143

def lastYear : Int := 262142

def isValid (date : Date) : Bool :=
  firstYear ≤ date.year && date.year ≤ lastYear &&
    1 ≤ date.day && date.day ≤ monthLength date.year date.month

def daysBeforeYear (year : Int) : Int :=
  365 * year + (year + 3) / 4 - (year + 99) / 100 + (year + 399) / 400

def daysBeforeMonth (year : Int) (month : Nat) : Nat :=
  ((List.range' 1 (month - 1)).map (monthLength year)).foldl (· + ·) 0

def dayNumber (date : Date) : Int :=
  daysBeforeYear date.year + daysBeforeMonth date.year date.month + (date.day : Int) - 1 - 719528

def ofMarchDay (year : Int) (place : Nat) : Date :=
  let month := (5 * place + 2) / 153
  let day := place - (153 * month + 2) / 5 + 1
  if month < 10 then ⟨year, month + 3, day⟩ else ⟨year + 1, month - 9, day⟩

/-- The day that is so many days from the first day of 1970.  Years start with March here, so that
a leap day ends a year; years go by fours, by hundreds and by four hundreds. -/
def ofDayNumber (n : Int) : Date :=
  let days := n + 719468
  let inCycle := (days % 146097).toNat
  let century := min (inCycle / 36524) 3
  let inCentury := inCycle - century * 36524
  let inFour := inCentury % 1461
  let year := min (inFour / 365) 3
  ofMarchDay (400 * (days / 146097) + 100 * century + 4 * (inCentury / 1461 : Nat) + year)
    (inFour - year * 365)

end Date

/-- A time as a clock on the wall shows it.  In the last second of a minute the nanoseconds may go
on for another second, a leap second. -/
structure WallTime where
  date : Date
  hour : Nat
  minute : Nat
  second : Nat
  nanos : Nat
  deriving DecidableEq, Repr

namespace WallTime

def nanosPerSecond : Nat := 1000000000

def nanosFit (second : Int) (nanos : Nat) : Bool :=
  nanos < nanosPerSecond || nanos < 2 * nanosPerSecond && second % 60 = 59

def isValid (time : WallTime) : Bool :=
  time.date.isValid && time.hour < 24 && time.minute < 60 && time.second < 60 &&
    nanosFit time.second time.nanos

def ofSeconds (date : Date) (seconds nanos : Nat) : WallTime :=
  ⟨date, seconds / 3600, seconds / 60 % 60, seconds % 60, nanos⟩

/-- The time shown where clocks are `offset` seconds ahead, so many seconds and nanoseconds after
the start of 1970 where they are not. -/
def ofUnix? (seconds : Int) (nanos : Nat) (offset : Int) : Option WallTime :=
  let here := seconds + offset
  let time := ofSeconds (Date.ofDayNumber (here / 86400)) (here % 86400).toNat nanos
  let utcDate := Date.ofDayNumber (seconds / 86400)
  if nanosFit seconds nanos && utcDate.isValid && time.date.isValid then some time else none

/-- The digits of a number, with zeros in front up to a width. -/
def padded (width n : Nat) : List Char :=
  let digits := Nat.toDigits 10 n
  List.replicate (width - digits.length) '0' ++ digits

/-- A year in at least four digits, with a sign where it is not between 0 and 9999. -/
def yearText (year : Int) : List Char :=
  if 0 ≤ year ∧ year ≤ 9999 then padded 4 year.natAbs
  else (if year < 0 then '-' else '+') :: padded 4 year.natAbs

/-- The written form: year, month, day, hour, minute, second and milliseconds.  What is below a
millisecond is dropped, and a leap second is written as second 60. -/
def text (time : WallTime) : String :=
  String.ofList <|
    yearText time.date.year ++ '-' :: padded 2 time.date.month ++ '-' :: padded 2 time.date.day ++
    ' ' :: padded 2 time.hour ++ ':' :: padded 2 time.minute ++
    ':' :: padded 2 (time.second + time.nanos / nanosPerSecond) ++
    '.' :: padded 3 (time.nanos % nanosPerSecond / 1000000)

end WallTime

end RowStamp
