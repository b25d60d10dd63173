import RouteCatalog.Number.Decimal

/-!
# Dates and times

`Moment.read?` reads a date, or a date and a time, and `Moment.isReal` says whether there is such a
date and time. Two moments are the same if they are the same date, the same time of an unnamed clock,
or the same instant on clocks whose distance from universal time is known.
-/

namespace RouteCatalog

namespace Yaml

/-- A time of day. -/
structure TimeOfDay where
  hour : Nat
  minute : Nat
  second : Nat
  microsecond : Nat := 0
  /-- How many minutes the clock is ahead of universal time, if that is known. -/
  offset? : Option Int := none
  deriving DecidableEq, Repr

/-- A date, or a date with a time of day. -/
structure Moment where
  year : Nat
  month : Nat
  day : Nat
  time? : Option TimeOfDay := none
  deriving DecidableEq, Repr

/-- The number that the digits at the beginning of a text denote, at most `most` of them and no
fewer than `least`, and what follows them. -/
def shortNumber? (least most : Nat) (text : Text) : Option (Nat × Text) :=
  let digits := (text.take most).takeWhile Char.isDigit
  if digits.length < least then none
  else some (digitsValue (leadingDigits digits), text.drop digits.length)

/-- A space or a tab. -/
def isWhite (character : Char) : Bool :=
  character == ' ' || character == '\t'

/-- What follows the mark between a date and a time: the letter T, or spaces and tabs. -/
def afterDate? : Text → Option Text
  | [] => none
  | first :: rest =>
    if first = 'T' ∨ first = 't' then some rest
    else if isWhite first then some (rest.dropWhile isWhite)
    else none

/-- The microseconds of a fraction of a second, if there is one, and what follows it. Digits after
the sixth do not count. -/
def readSecondFraction : Text → Nat × Text
  | '.' :: rest =>
    let digits := rest.takeWhile Char.isDigit
    let counted := (leadingDigits digits).take 6
    (digitsValue (counted ++ List.replicate (6 - counted.length) 0), rest.drop digits.length)
  | text => (0, text)

/-- Read the offset that ends a time, in minutes; the answer within is nothing if none is written. -/
def readOffset? (text : Text) : Option (Option Int) := do
  if text.isEmpty then return none
  match text.dropWhile isWhite with
  | ['Z'] => return some 0
  | sign :: rest =>
    if sign ≠ '+' ∧ sign ≠ '-' then none
    let (hours, rest) ← shortNumber? 1 2 rest
    let minutes ← if rest.isEmpty then some 0 else do
      let (minutes, rest) ← shortNumber? 2 2 (← Text.after? [':'] rest)
      if rest.isEmpty then some minutes else none
    return some (signedInt (sign == '-') (60 * hours + minutes))
  | [] => none

/-- Read a time of day. -/
def TimeOfDay.read? (text : Text) : Option TimeOfDay := do
  let (hour, rest) ← shortNumber? 1 2 text
  let (minute, rest) ← shortNumber? 2 2 (← Text.after? [':'] rest)
  let (second, rest) ← shortNumber? 2 2 (← Text.after? [':'] rest)
  let (microsecond, rest) := readSecondFraction rest
  return { hour, minute, second, microsecond, offset? := ← readOffset? rest }

namespace Moment

/-- Read a date, or a date and a time. -/
def read? (text : Text) : Option Moment := do
  let (year, rest) ← shortNumber? 4 4 text
  let (month, rest) ← shortNumber? 1 2 (← Text.after? ['-'] rest)
  let (day, rest) ← shortNumber? 1 2 (← Text.after? ['-'] rest)
  let time? ← if rest.isEmpty then some none else (TimeOfDay.read? (← afterDate? rest)).map some
  return { year, month, day, time? }

/-- Has the year a 29th of February? -/
def isLeapYear (year : Nat) : Bool :=
  (year % 4 == 0 && year % 100 != 0) || year % 400 == 0

/-- The number of days of a month. -/
def daysInMonth (year month : Nat) : Nat :=
  if month = 2 then (if isLeapYear year then 29 else 28)
  else if month = 4 ∨ month = 6 ∨ month = 9 ∨ month = 11 then 30
  else 31

/-- The minutes in a day. -/
def minutesInDay : Nat := 24 * 60

/-- Is there such a time of day? Clocks are less than a day away from universal time. -/
def isRealTime (time : TimeOfDay) : Bool :=
  time.hour < 24 && time.minute < 60 && time.second < 60 &&
    time.offset?.all fun offset => offset.natAbs < minutesInDay

/-- Is there such a date and time? There is no year zero. -/
def isReal (moment : Moment) : Bool :=
  1 ≤ moment.year && 1 ≤ moment.month && moment.month ≤ 12 && 1 ≤ moment.day &&
    moment.day ≤ daysInMonth moment.year moment.month && moment.time?.all isRealTime

/-- The number of days before the date. -/
def dayNumber (moment : Moment) : Nat :=
  let past := moment.year - 1
  let days := (List.range (moment.month - 1)).foldl
    (fun total index => total + daysInMonth moment.year (index + 1)) 0
  365 * past + past / 4 - past / 100 + past / 400 + days + moment.day

/-- The microseconds up to the moment on its own clock. -/
def clockTime (moment : Moment) (time : TimeOfDay) : Int :=
  let minutes := (moment.dayNumber * 24 + time.hour) * 60 + time.minute
  (minutes * 60 + time.second) * 1000000 + time.microsecond

/-- The microseconds up to the moment in universal time, if the distance of its clock is known. -/
def instant? (moment : Moment) : Option Int := do
  let time ← moment.time?
  let offset ← time.offset?
  return moment.clockTime time - offset * 60000000

/-- Are two moments the same? -/
def isSame (first second : Moment) : Bool :=
  match first.instant?, second.instant? with
  | some first, some second => first == second
  | none, none => first == second
  | _, _ => false

/-- Every moment is the same as itself. -/
theorem isSame_self (moment : Moment) : moment.isSame moment = true := by
  unfold isSame
  cases moment.instant? <;> simp

end Moment

end Yaml

end RouteCatalog
