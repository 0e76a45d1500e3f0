import CertRegistry.Text.Basic

/-!
# Calendar

Days of the Gregorian calendar, extended backwards to the year 1, and times of day. A day is
counted from 1 January of the year 1, which is day 0; a time of day in microseconds.
-/

namespace CertRegistry

/-- A day by its year, month and day of the month. -/
structure Date where
  year : Nat
  month : Nat
  day : Nat
deriving DecidableEq, Repr

namespace Date

/-- A leap year: every fourth, except centuries that are no multiple of 400. -/
def isLeap (year : Nat) : Bool := year % 4 = 0 && (year % 100 ≠ 0 || year % 400 = 0)

/-- The number of days of a month. -/
def monthLength (year month : Nat) : Nat :=
  if month = 2 then if isLeap year then 29 else 28
  else if month = 4 ∨ month = 6 ∨ month = 9 ∨ month = 11 then 30
  else 31

/-- The number of days before a year, counted from the year 1. -/
def daysBeforeYear (year : Nat) : Nat :=
  let y := year - 1
  365 * y + y / 4 - y / 100 + y / 400

/-- The number of days of a year before a month. -/
def daysBeforeMonth (year : Nat) : Nat → Nat
  | 0 => 0
  | 1 => 0
  | month + 1 => daysBeforeMonth year month + monthLength year month

/-- The days of the years 1 to 9999, and the only ones there are. -/
def dayCount : Nat := 3652059

/-- A date of the years 1 to 9999. -/
def isValid (d : Date) : Bool :=
  1 ≤ d.year && d.year ≤ 9999 && 1 ≤ d.month && d.month ≤ 12
    && 1 ≤ d.day && d.day ≤ monthLength d.year d.month

/-- The number of a day. -/
def toNumber (d : Date) : Nat :=
  daysBeforeYear d.year + daysBeforeMonth d.year d.month + (d.day - 1)

/-- The year of a day: the number of 400-year cycles gives it up to one. -/
def yearOf (n : Nat) : Nat :=
  let y := n * 400 / 146097
  if daysBeforeYear (y + 2) ≤ n then y + 2
  else if daysBeforeYear (y + 1) ≤ n then y + 1
  else y

/-- The month with a given day of a year, searched downwards. -/
def monthOf (year rest : Nat) : Nat → Nat
  | 0 => 1
  | month + 1 =>
    if daysBeforeMonth year (month + 1) ≤ rest then month + 1 else monthOf year rest month

/-- The day of a number. -/
def ofNumber (n : Nat) : Date :=
  let year := yearOf n
  let rest := n - daysBeforeYear year
  let month := monthOf year rest 12
  { year, month, day := rest - daysBeforeMonth year month + 1 }

/-- The day of the week, Monday being 0. -/
def weekday (n : Nat) : Nat := n % 7

/-- The first day of week 1 of a year: the Monday of the week with its first Thursday. -/
def firstWeek (year : Nat) : Int :=
  let first := daysBeforeYear year
  let monday : Int := first - weekday first
  if weekday first > 3 then monday + 7 else monday

/-- The number of a day given by week and day of the week. A year has a week 53 only if it begins
on a Thursday, or on a Wednesday in a leap year. -/
def ofWeek? (year week day : Nat) : Option Nat :=
  let first := weekday (daysBeforeYear year)
  let long := first = 3 || (first = 2 && isLeap year)
  if 1 ≤ year ∧ year ≤ 9999 ∧ 1 ≤ week ∧ (week ≤ 52 ∨ (week = 53 ∧ long)) ∧ 1 ≤ day ∧ day ≤ 7 then
    let n : Int := firstWeek year + (week - 1) * 7 + (day - 1)
    if 0 ≤ n ∧ n < dayCount then some n.toNat else none
  else none

/-- The date as year, month and day of the month. -/
def text (d : Date) : Text :=
  Text.padded 4 d.year ++ "-" ++ Text.padded 2 d.month ++ "-" ++ Text.padded 2 d.day

end Date

/-- The microseconds of a second. -/
def second : Int := 1000000

/-- The microseconds of a minute. -/
def minute : Int := 60 * second

/-- The microseconds of an hour. -/
def hour : Int := 60 * minute

/-- The microseconds of a day. -/
def day : Int := 24 * hour

/-- The hours, minutes and seconds of a span below a day, with microseconds where there are any. -/
def clockText (microseconds : Nat) : Text :=
  let s := microseconds / 1000000
  let rest := microseconds % 1000000
  let fraction : Text := if rest = 0 then [] else "." ++ Text.padded 6 rest
  Text.padded 2 (s / 3600) ++ ":" ++ Text.padded 2 (s / 60 % 60) ++ ":" ++ Text.padded 2 (s % 60)
    ++ fraction

end CertRegistry
