import Bayeux.Text.Integer
import Bayeux.Text.Split

namespace Bayeux

/-!
# Dates in headers

Headers write dates in several ways, all of them in the calendar of Greenwich.  Days,
hours, minutes and seconds have two digits each; the day of the week is not compared
with the date.
-/

namespace HttpDate

def months : List String :=
  ["Jan", "Feb", "Mar", "Apr", "May", "Jun", "Jul", "Aug", "Sep", "Oct", "Nov", "Dec"]

def weekdays : List String :=
  ["Monday", "Tuesday", "Wednesday", "Thursday", "Friday", "Saturday", "Sunday"]

def isWeekday (word : List Char) : Bool :=
  weekdays.any fun name => name.toList == word

def isShortWeekday (word : List Char) : Bool :=
  weekdays.any fun name => name.toList.take 3 == word

/-! ## The calendar -/

def isLeap (year : Nat) : Bool :=
  year % 4 == 0 && (year % 100 != 0 || year % 400 == 0)

def daysInMonth (year month : Nat) : Nat :=
  if month = 2 then if isLeap year then 29 else 28
  else if month ∈ [4, 6, 9, 11] then 30 else 31

/-- The days from the epoch to a day; a year begins in March here, so that the leap
day is its last. -/
def days (year month day : Nat) : Int :=
  let y : Int := if month ≤ 2 then year - 1 else year
  let m : Int := if month ≤ 2 then month + 9 else month - 3
  365 * y + y / 4 - y / 100 + y / 400 + (153 * m + 2) / 5 + day - 719469

/-- The year that a number stands for: below 100 it is one of the years from 1970 on. -/
def fullYear (year : Nat) : Nat :=
  if year < 70 then 2000 + year else if year < 100 then 1900 + year else year

/-! ## Parts of a date -/

def twoDigits? (word : List Char) : Option Nat :=
  if word.length = 2 then Text.digits? word else none

def year? (word : List Char) : Option Nat :=
  if word.length ≤ 4 then (Text.digits? word).map fullYear else none

/-- The milliseconds since midnight. -/
def time? (word : List Char) : Option Int := do
  let [hour, minute, second] ← (Text.splitAll ':' word).mapM twoDigits? | none
  if 24 ≤ hour ∨ 60 ≤ minute ∨ 60 ≤ second then none
  return (((hour * 60 + minute) * 60 + second) * 1000 : Nat)

/-- The milliseconds since the epoch. -/
def point? (year month day time : List Char) : Option Int := do
  let year ← year? year
  let month := (← months.findIdx? (·.toList == month)) + 1
  let day ← Text.digits? day
  if day = 0 ∨ daysInMonth year month < day then none
  return days year month day * 86400000 + (← time? time)

/-- A date with its parts between hyphens; with a long weekday it has a short year. -/
def hyphenated? (weekday date time : List Char) : Option Int :=
  match Text.splitAll '-' date with
  | [day, month, year] =>
    if day.length = 2 ∧ (isShortWeekday weekday ∨ isWeekday weekday ∧ year.length = 2) then
      point? year month day time
    else none
  | _ => none

/-- A date with its parts between blanks. -/
def spaced? (day month year time : List Char) : Option Int :=
  if day.length = 2 then point? year month day time else none

/-! ## Reading -/

/-- A word without the comma at its end. -/
def beforeComma? (word : List Char) : Option (List Char) :=
  if word.getLast? = some ',' then some word.dropLast else none

def zone : List Char := "GMT".toList

/-- The milliseconds since the epoch of a date as headers write it. -/
def ofText? (text : String) : Option Int :=
  match Text.splitAll ' ' text.toList with
  | [weekday, date, time, greenwich] => do
    if greenwich = zone then hyphenated? (← beforeComma? weekday) date time else none
  | [first, second, third, fourth, fifth] =>
    if fifth = zone then spaced? first second third fourth
    else if isShortWeekday first then
      if third.length = 2 then point? fifth second third fourth else none
    else none
  | [weekday, second, third, fourth, fifth, sixth] =>
    if isShortWeekday weekday ∧ third = [] ∧ fourth.length = 1 then
      point? sixth second fourth fifth
    else do
      if isShortWeekday (← beforeComma? weekday) ∧ sixth = zone then
        spaced? second third fourth fifth
      else none
  | _ => none

end HttpDate

end Bayeux
