import TagCatalog.Json.Magnitude
import TagCatalog.Json.Reader

/-!
Numbers in JSON text.

A `Numeral` is a number as it is written: a sign, the digits before and behind
the point, and an exponent.  `numeral` reads one.  `number` also refuses the
numbers that are too large for a double, and `integer?` gives the 64-bit integer
of a numeral without fraction and exponent.
-/

namespace TagCatalog.Json

open Text

structure Numeral where
  negative : Bool
  whole : List Char
  fraction : Option (List Char)
  /-- The sign and the digits of the exponent. -/
  exponent : Option (Bool × List Char)

namespace Numeral

/-- Reads at least one digit.  The fault says what it means that the text ends
in front of it. -/
def digits (atEnd : Fault) (text : List Char) : Except Fault (List Char × List Char) :=
  let run := text.takeWhile Char.isDigit
  if run.isEmpty then
    .error (if text.isEmpty then atEnd else .malformed)
  else
    .ok (run, text.drop run.length)

def hasLeadingZero : List Char → Bool
  | first :: _ :: _ => first = '0'
  | _ => false

/-- Reads the digits before the point, of which the first is a zero only if it
is the only one. -/
def wholeDigits (atEnd : Fault) (text : List Char) : Except Fault (List Char × List Char) := do
  let (run, rest) ← digits atEnd text
  if hasLeadingZero run then throw .malformed else return (run, rest)

def fractionDigits (atEnd : Fault) :
    List Char → Except Fault (Option (List Char) × List Char)
  | '.' :: rest => (digits atEnd rest).map fun (run, rest) => (some run, rest)
  | text => .ok (none, text)

def signedDigits (atEnd : Fault) (text : List Char) :
    Except Fault ((Bool × List Char) × List Char) :=
  match text with
  | '-' :: rest => (digits atEnd rest).map fun (run, rest) => ((true, run), rest)
  | '+' :: rest => (digits atEnd rest).map fun (run, rest) => ((false, run), rest)
  | unsigned => (digits atEnd unsigned).map fun (run, rest) => ((false, run), rest)

def exponentDigits (atEnd : Fault) (text : List Char) :
    Except Fault (Option (Bool × List Char) × List Char) :=
  match text with
  | first :: rest =>
      if first = 'e' || first = 'E' then
        (signedDigits atEnd rest).map fun (exponent, rest) => (some exponent, rest)
      else
        .ok (none, text)
  | [] => .ok (none, text)

def unsigned (atEnd : Fault) (negative : Bool) (text : List Char) :
    Except Fault (Numeral × List Char) := do
  let (whole, rest) ← wholeDigits atEnd text
  let (fraction, rest) ← fractionDigits atEnd rest
  let (exponent, rest) ← exponentDigits atEnd rest
  return (⟨negative, whole, fraction, exponent⟩, rest)

def read (atEnd : Fault) (text : List Char) : Except Fault (Numeral × List Char) :=
  match text with
  | '-' :: rest => unsigned atEnd true rest
  | _ => unsigned atEnd false text

def power (numeral : Numeral) : Int :=
  match numeral.exponent with
  | some (true, digits) => -(Decimal.value digits : Int)
  | some (false, digits) => Decimal.value digits
  | none => 0

def isTooLarge (numeral : Numeral) : Bool :=
  (Magnitude.ofDigits numeral.whole (numeral.fraction.getD []) numeral.power).isTooLarge

/-- The 64-bit integer that a numeral is written as.  Zero has no sign. -/
def integer? (numeral : Numeral) : Option Int64 :=
  if numeral.fraction.isNone && numeral.exponent.isNone then
    if numeral.negative && Decimal.value numeral.whole == 0 then
      none
    else
      Decimal.signed? numeral.negative numeral.whole
  else
    none

end Numeral

def number (text : List Char) : Except Fault (Numeral × List Char) := do
  let (numeral, rest) ← Numeral.read .ended text
  if numeral.isTooLarge then throw .malformed else return (numeral, rest)

end TagCatalog.Json
