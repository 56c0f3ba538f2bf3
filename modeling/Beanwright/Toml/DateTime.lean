import Beanwright.Json.Basic
import Beanwright.Text.Basic

/-!
# Dates and times

A date, a time, or both, perhaps with an offset. The written form is normal: a capital `T` between
date and time, a capital `Z`, seconds always, and no zeros at the end of a fraction.
-/

namespace Beanwright.Toml

/-- A text that has exactly a given number of digits at its start: their value and the rest. -/
def readDigits? (count : Nat) (text : Text) : Option (Nat × Text) :=
  let digits := text.take count
  if digits.length = count && digits.all Char.isDigit then
    some (Text.decimalValue digits, text.drop count)
  else none

/-- The rest of a text after a character. -/
def skip? (character : Char) : Text → Option Text
  | [] => none
  | first :: rest => if first = character then some rest else none

/-- The digits of a number, filled up with zeros to a width. -/
def padded (width number : Nat) : Text :=
  let digits := Text.ofNat number
  List.replicate (width - digits.length) '0' ++ digits

/-- Whether a year has a 29th of February. -/
def isLeapYear (year : Nat) : Bool := year % 4 == 0 && (year % 100 != 0 || year % 400 == 0)

/-- The number of days of a month. -/
def daysInMonth (year month : Nat) : Nat :=
  if month = 2 then (if isLeapYear year then 29 else 28)
  else if month = 4 || month = 6 || month = 9 || month = 11 then 30
  else 31

/-- Reads a date. -/
def readDate? (text : Text) : Option (Text × Text) := do
  let (year, rest) ← readDigits? 4 text
  let rest ← skip? '-' rest
  let (month, rest) ← readDigits? 2 rest
  let rest ← skip? '-' rest
  let (day, rest) ← readDigits? 2 rest
  if 1 ≤ month && month ≤ 12 && 1 ≤ day && day ≤ daysInMonth year month then
    return (padded 4 year ++ '-' :: padded 2 month ++ '-' :: padded 2 day, rest)
  else none

/-- Reads the fraction of a second. Nine digits count. -/
def readFraction? : Text → Option (Text × Text)
  | '.' :: rest =>
    let (digits, rest) := Text.takeDigits rest
    if digits.isEmpty then none
    else
      let kept := ((digits.take 9).reverse.dropWhile fun digit => digit == '0').reverse
      some (if kept.isEmpty then [] else '.' :: kept, rest)
  | rest => some ([], rest)

/-- Reads seconds with their fraction, which a time may lack. -/
def readSeconds? : Text → Option (Text × Text)
  | ':' :: rest => do
    let (second, rest) ← readDigits? 2 rest
    let (fraction, rest) ← readFraction? rest
    if second ≤ 60 then return (padded 2 second ++ fraction, rest) else none
  | rest => some (['0', '0'], rest)

/-- Reads a time. -/
def readTime? (text : Text) : Option (Text × Text) := do
  let (hour, rest) ← readDigits? 2 text
  let rest ← skip? ':' rest
  let (minute, rest) ← readDigits? 2 rest
  let (seconds, rest) ← readSeconds? rest
  if hour ≤ 23 && minute ≤ 59 then
    return (padded 2 hour ++ ':' :: padded 2 minute ++ ':' :: seconds, rest)
  else none

/-- Reads an offset, which a time may lack. An offset of zero has a plus sign. -/
def readOffset? : Text → Option (Text × Text)
  | [] => some ([], [])
  | sign :: rest =>
    if sign = 'Z' || sign = 'z' then some (['Z'], rest)
    else if sign = '+' || sign = '-' then do
      let (hour, rest) ← readDigits? 2 rest
      let rest ← skip? ':' rest
      let (minute, rest) ← readDigits? 2 rest
      let shown := if hour = 0 && minute = 0 then '+' else sign
      if hour ≤ 23 && minute ≤ 59 then
        return (shown :: padded 2 hour ++ ':' :: padded 2 minute, rest)
      else none
    else none

/-- Whether a character stands between a date and a time. -/
def isDateSeparator (character : Char) : Bool :=
  character == 'T' || character == 't' || character == ' '

/-- The normal form of a text that is a date, a time, or both. -/
def dateTime? (text : Text) : Option Text :=
  match readDate? text with
  | some (date, []) => some date
  | some (date, separator :: rest) => do
    if !isDateSeparator separator then none
    let (time, rest) ← readTime? rest
    let (offset, rest) ← readOffset? rest
    if rest.isEmpty then return date ++ 'T' :: time ++ offset else none
  | none =>
    match readTime? text with
    | some (time, []) => some time
    | _ => none

/-- Whether a text is a date alone. -/
def isDate (text : Text) : Bool :=
  match readDate? text with
  | some (_, []) => true
  | _ => false

/-- The key under which a date or a time appears as a JSON object. -/
def dateTimeKey : Text := "$__toml_private_datetime".toList

/-- The JSON value of a date or a time. -/
def dateTimeJson (text : Text) : Json := .object [(dateTimeKey, .string text)]

end Beanwright.Toml
