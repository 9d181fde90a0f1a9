/-
Dates of the proleptic Gregorian calendar, and the text of a moment in time.

Days are counted from 1970-01-01.  Years are reckoned from the first of March, so that the
leap day is the last day of a year and month lengths follow one formula.
-/
import Lookout.Decimal.Layout

namespace Lookout

/-- A day of the calendar. -/
structure CalendarDate where
  year : Nat
  month : Nat
  day : Nat
deriving DecidableEq, Repr

namespace CalendarDate

/-- The date that many days after 1970-01-01. -/
def ofDays (days : Nat) : CalendarDate :=
  let shifted := days + 719468
  let era := shifted / 146097
  let dayOfEra := shifted % 146097
  let yearOfEra := (dayOfEra - dayOfEra / 1460 + dayOfEra / 36524 - dayOfEra / 146096) / 365
  let dayOfYear := dayOfEra - (365 * yearOfEra + yearOfEra / 4 - yearOfEra / 100)
  let shiftedMonth := (5 * dayOfYear + 2) / 153
  let day := dayOfYear - (153 * shiftedMonth + 2) / 5 + 1
  let month := if shiftedMonth < 10 then shiftedMonth + 3 else shiftedMonth - 9
  let year := yearOfEra + era * 400 + (if month ≤ 2 then 1 else 0)
  ⟨year, month, day⟩

end CalendarDate

/-- The decimal digits of a number, with zeros in front up to a width. -/
def paddedDigits (width n : Nat) : List Char :=
  let digits := digitsOf n
  List.replicate (width - digits.length) '0' ++ digits

/-- The moment so many seconds after 1970-01-01T00:00:00Z, in universal time and to the
second.  A year of more than four digits has a plus sign in front. -/
def utcText (seconds : Nat) : String :=
  let date := CalendarDate.ofDays (seconds / 86400)
  let ofDay := seconds % 86400
  let year := (if 9999 < date.year then ['+'] else []) ++ paddedDigits 4 date.year
  String.ofList <|
    year ++ '-' :: paddedDigits 2 date.month ++ '-' :: paddedDigits 2 date.day
      ++ 'T' :: paddedDigits 2 (ofDay / 3600)
      ++ ':' :: paddedDigits 2 (ofDay / 60 % 60)
      ++ ':' :: paddedDigits 2 (ofDay % 60) ++ ['Z']

end Lookout
