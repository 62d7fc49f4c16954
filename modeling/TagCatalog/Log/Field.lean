import TagCatalog.Pattern
import TagCatalog.Text.Decimal

/-!
What a directive demands of the fields of an event.

A demand is the name of a field, as in `file`, or a name and a value, as in
`file=a.*`.  The value is a number or a pattern, and a pattern has to be one that
can be used.  `FieldDemand.ofText` reads a demand.
-/

namespace TagCatalog.Log

open Text

structure FieldDemand where
  name : String
  /-- Whether the field has to have a value of some kind. -/
  valued : Bool

namespace FieldDemand

/-- Whether a text is empty or an exponent. -/
def isExponent : List Char → Bool
  | [] => true
  | mark :: rest =>
      (mark = 'e' || mark = 'E') &&
        match rest with
        | '+' :: digits => Decimal.isNumeral digits
        | '-' :: digits => Decimal.isNumeral digits
        | digits => Decimal.isNumeral digits

def isDecimal (text : List Char) : Bool :=
  let whole := text.takeWhile Char.isDigit
  match text.drop whole.length with
  | '.' :: rest =>
      let fraction := rest.takeWhile Char.isDigit
      !(whole ++ fraction).isEmpty && isExponent (rest.drop fraction.length)
  | rest => !whole.isEmpty && isExponent rest

/-- The names of what is no number in the proper sense; case does not count. -/
def specialNumbers : List String := ["inf", "infinity", "nan"]

def isNumber (text : List Char) : Bool :=
  let unsigned :=
    match text with
    | '+' :: rest => rest
    | '-' :: rest => rest
    | _ => text
  isDecimal unsigned || specialNumbers.contains (String.ofList (unsigned.map Char.toLower))

def valueFault? (value : List Char) : Option Pattern.Fault :=
  if isNumber value then none else Pattern.fault? value

/-- Reads a demand.  The value ends in front of a further equals sign. -/
def ofText (text : List Char) : Except Pattern.Fault FieldDemand :=
  let name := text.takeWhile fun character => character ≠ '='
  match text.drop name.length with
  | [] => .ok ⟨String.ofList name, false⟩
  | _ :: rest =>
      match valueFault? (rest.takeWhile fun character => character ≠ '=') with
      | some fault => .error fault
      | none => .ok ⟨String.ofList name, true⟩

end FieldDemand

end TagCatalog.Log
