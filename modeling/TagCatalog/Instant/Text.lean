import TagCatalog.Instant
import TagCatalog.Text.Character
import TagCatalog.Text.Decimal

/-!
Instants as text, after RFC 3339.

`text` writes an instant in universal time with no, three, six or nine digits
of the fraction, as few as it needs.  `ofText?` reads a date, a time and the
difference of the clock; it also takes blanks between the parts, numbers with
fewer digits, a blank in place of the `T`, and `UTC` in place of the `Z`.
-/

namespace TagCatalog

open Text

namespace Date

/-- Four digits, and a sign for the years that need more or lie before year
zero. -/
def yearText (year : Int) : List Char :=
  let digits := Decimal.padded 4 year.natAbs
  if year < 0 then '-' :: digits else if 9999 < year then '+' :: digits else digits

def text (date : Date) : List Char :=
  yearText date.year ++ '-' :: Decimal.padded 2 date.month ++
    '-' :: Decimal.padded 2 date.day

end Date

namespace Instant

def minuteText (instant : Instant) : List Char :=
  Decimal.padded 2 (instant.second / 3600) ++
    ':' :: Decimal.padded 2 (instant.second / 60 % 60)

/-- The second of the minute as it is shown: a leap second is the sixtieth. -/
def shownSecond (instant : Instant) : Nat :=
  instant.second % 60 + instant.nanosecond / nanosecondsPerSecond

def shownNanosecond (instant : Instant) : Nat :=
  instant.nanosecond % nanosecondsPerSecond

/-- A fraction of a second in as few groups of three digits as it needs. -/
def fractionText (nanosecond : Nat) : List Char :=
  if nanosecond = 0 then
    []
  else if nanosecond % 1000000 = 0 then
    '.' :: Decimal.padded 3 (nanosecond / 1000000)
  else if nanosecond % 1000 = 0 then
    '.' :: Decimal.padded 6 (nanosecond / 1000)
  else
    '.' :: Decimal.padded 9 nanosecond

def secondText (instant : Instant) : List Char :=
  instant.date.text ++ 'T' :: instant.minuteText ++
    ':' :: Decimal.padded 2 instant.shownSecond

def text (instant : Instant) : List Char :=
  instant.secondText ++ fractionText instant.shownNanosecond ++ ['Z']

/-- The form in which log lines give the time: always six digits of the
fraction. -/
def microsecondText (instant : Instant) : List Char :=
  instant.secondText ++ '.' :: Decimal.padded 6 (instant.shownNanosecond / 1000) ++ ['Z']

/-- The form in which listings give the time: date, hour and minute. -/
def listingText (instant : Instant) : List Char :=
  instant.date.text ++ ' ' :: instant.minuteText

namespace Reading

def mark (character : Char) (text : List Char) : Option (List Char) :=
  match trimStart text with
  | first :: rest => if first = character then some rest else none
  | [] => none

/-- Reads a number of at least one and at most `most` digits. -/
def digits (most : Nat) (text : List Char) : Option (Nat × List Char) :=
  let run := (text.take most).takeWhile Char.isDigit
  if run.isEmpty then none else some (Decimal.value run, text.drop run.length)

def twoDigits (text : List Char) : Option (Nat × List Char) :=
  digits 2 (trimStart text)

/-- Reads a year: up to four digits, or a sign and any number of digits. -/
def year (text : List Char) : Option (Int × List Char) :=
  match trimStart text with
  | '-' :: rest => (digits rest.length rest).map fun (number, rest) => (-(number : Int), rest)
  | '+' :: rest => (digits rest.length rest).map fun (number, rest) => ((number : Int), rest)
  | unsigned => (digits 4 unsigned).map fun (number, rest) => ((number : Int), rest)

def date (text : List Char) : Option (Date × List Char) := do
  let (year, rest) ← year text
  let rest ← mark '-' rest
  let (month, rest) ← twoDigits rest
  let rest ← mark '-' rest
  let (day, rest) ← twoDigits rest
  let date ← Date.of? year month day
  return (date, rest)

def separator : List Char → Option (List Char)
  | first :: rest => if first = 'T' || first = 't' || first = ' ' then some rest else none
  | [] => none

/-- Reads the digits after a decimal point as nanoseconds; those behind the
ninth do not count, and missing ones count as zeros. -/
def fraction : List Char → Option (Nat × List Char)
  | '.' :: rest =>
      let run := rest.takeWhile Char.isDigit
      let filled := run.take 9 ++ List.replicate (9 - run.length) '0'
      if run.isEmpty then none else some (Decimal.value filled, rest.drop run.length)
  | rest => some (0, rest)

/-- Reads a time of day as its second and its nanoseconds; the sixtieth second
of a minute is a leap second. -/
def time (text : List Char) : Option ((Nat × Nat) × List Char) := do
  let (hour, rest) ← twoDigits text
  let rest ← mark ':' rest
  let (minute, rest) ← twoDigits rest
  let rest ← mark ':' rest
  let (second, rest) ← twoDigits rest
  let (nanosecond, rest) ← fraction rest
  if hour < 24 ∧ minute < 60 ∧ second ≤ 60 then
    let start := 3600 * hour + 60 * minute
    if second = 60 then
      return ((start + 59, nanosecondsPerSecond + nanosecond), rest)
    else
      return ((start + second, nanosecond), rest)
  else
    none

def pair (text : List Char) : Option (Nat × List Char) :=
  match text with
  | first :: second :: rest =>
      if first.isDigit && second.isDigit then
        some (Decimal.value [first, second], rest)
      else
        none
  | _ => none

/-- Reads the hours and minutes by which a clock is ahead, in seconds; colons
and blanks may stand between them. -/
def hoursAndMinutes (text : List Char) : Option (Nat × List Char) := do
  let (hours, rest) ← pair text
  let (minutes, rest) ← pair (rest.dropWhile fun character => character = ':' || isBlank character)
  if minutes < 60 then
    return (3600 * hours + 60 * minutes, rest)
  else
    none

def direction? (sign : Char) : Option Int :=
  if sign = '+' then
    some 1
  else if sign = '-' || sign = '\u2212' then
    some (-1)
  else
    none

/-- Reads the difference of the clock, which is less than a day. -/
def offset (text : List Char) : Option (Int × List Char) :=
  let start := trimStart text
  if (start.take 3).map Char.toUpper = ['U', 'T', 'C'] then
    some (0, start.drop 3)
  else
    match start with
    | [] => none
    | sign :: rest =>
        if sign = 'Z' || sign = 'z' then
          some (0, rest)
        else do
          let direction ← direction? sign
          let (seconds, rest) ← hoursAndMinutes rest
          if seconds < secondsPerDay then some (direction * seconds, rest) else none

end Reading

def ofText? (text : List Char) : Option Instant := do
  let (date, rest) ← Reading.date text
  let rest ← Reading.separator rest
  let ((second, nanosecond), rest) ← Reading.time rest
  let (offset, rest) ← Reading.offset rest
  if (trimStart rest).isEmpty then
    ofOffset? date second nanosecond offset
  else
    none

end Instant

end TagCatalog
