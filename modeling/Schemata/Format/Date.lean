import Schemata.Text.Split

/-!
# Dates and times

* `Date.daysIn` : the days of a month in the calendar of today, carried back to the year 0;
* `Date.isDate` : `YYYY-MM-DD`;
* `Date.isDateTime` : a date, a time of day with seconds, and the distance from universal time.
-/

namespace Schemata.Date

open Schemata.Text (digitsValue)

/-! ## Calendar -/

def isLeapYear (year : Nat) : Bool := year % 4 == 0 && (year % 100 != 0 || year % 400 == 0)

/-- The number of days of a month, 0 for what is no month. -/
def daysIn (year month : Nat) : Nat :=
  if month = 2 then if isLeapYear year then 29 else 28
  else if [4, 6, 9, 11].contains month then 30
  else if 1 ≤ month ∧ month ≤ 12 then 31
  else 0

/-! ## Reading -/

/-- The value of as many digits as asked for, and what follows them. -/
def digits? (count : Nat) (text : List Char) : Option (Nat × List Char) :=
  let digits := text.take count
  if digits.length = count ∧ digits.all Char.isDigit then
    some (digitsValue digits, text.drop count)
  else none

/-- What follows a character, if it comes first and is one of these. -/
def oneOf? (chars : List Char) : List Char → Option (List Char)
  | c :: rest => if chars.contains c then some rest else none
  | [] => none

def afterDate? (text : List Char) : Option (List Char) := do
  let (year, text) ← digits? 4 text
  let text ← oneOf? ['-'] text
  let (month, text) ← digits? 2 text
  let text ← oneOf? ['-'] text
  let (day, text) ← digits? 2 text
  if 1 ≤ day ∧ day ≤ daysIn year month then some text else none

/-- What follows a time of day; the second 60 is a leap second, and a fraction has any length. -/
def afterTime? (text : List Char) : Option (List Char) := do
  let (hour, text) ← digits? 2 text
  let text ← oneOf? [':'] text
  let (minute, text) ← digits? 2 text
  let text ← oneOf? [':'] text
  let (second, text) ← digits? 2 text
  if 23 < hour ∨ 59 < minute ∨ 60 < second then none
  else
    match text with
    | '.' :: fraction =>
      let digits := fraction.takeWhile Char.isDigit
      if digits.isEmpty then none else some (fraction.drop digits.length)
    | text => some text

/-- The distance from universal time: `Z`, or hours and minutes below a day behind a sign. -/
def isOffset (text : List Char) : Bool :=
  text == ['Z'] || text == ['z'] ||
    (do
      let text ← oneOf? ['+', '-', '\u2212'] text
      let (hours, text) ← digits? 2 text
      let text ← oneOf? [':'] text
      let (minutes, text) ← digits? 2 text
      some (text.isEmpty && hours ≤ 23 && minutes ≤ 59)).getD false

/-! ## Whole texts -/

def isDate (text : List Char) : Bool := afterDate? text == some []

/-- A date and a time of day stand apart by `T` or a blank. -/
def isDateTime (text : List Char) : Bool :=
  (do
    let text ← afterDate? text
    let text ← oneOf? ['T', 't', ' '] text
    let text ← afterTime? text
    some (isOffset text)).getD false

end Schemata.Date
