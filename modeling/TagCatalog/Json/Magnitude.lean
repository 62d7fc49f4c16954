import TagCatalog.Text.Decimal

/-!
How large a number is, as a double sees it.

Of the digits of a number only so many count as fit into 64 bits.  They make the
significand, which is rounded to a double, and so is the power of ten by which it
is scaled; the number is too large if the product of the two is rounded to
something beyond the greatest double.  So a number that is close to the greatest
double may be too large although a double could hold it, and the other way round.
-/

namespace TagCatalog.Json

open Text

/-- A significand that fits into 64 bits, to be scaled by a power of ten. -/
structure Magnitude where
  significand : Nat
  scale : Int

namespace Magnitude

def push? (significand : Nat) (digit : Char) : Option Nat :=
  let longer := 10 * significand + Decimal.digitValue digit
  if longer < 1 <<< 64 then some longer else none

/-- Takes the digits before the point.  From the first on that does not fit, they
only count for the scale. -/
def takeWhole (significand : Nat) : List Char → Magnitude
  | [] => ⟨significand, 0⟩
  | digit :: rest =>
      match push? significand digit with
      | some longer => takeWhole longer rest
      | none => ⟨significand, rest.length + 1⟩

/-- Takes the digits behind the point.  From the first on that does not fit, they
do not count. -/
def takeFraction (magnitude : Magnitude) : List Char → Magnitude
  | [] => magnitude
  | digit :: rest =>
      match push? magnitude.significand digit with
      | some longer => takeFraction ⟨longer, magnitude.scale - 1⟩ rest
      | none => magnitude

def ofDigits (whole fraction : List Char) (exponent : Int) : Magnitude :=
  let magnitude := (takeWhole 0 whole).takeFraction fraction
  { magnitude with scale := magnitude.scale + exponent }

/-- A natural number rounded to 53 binary digits, halves to the even neighbour. -/
def round (number : Nat) : Nat :=
  let dropped := Nat.log2 number + 1 - 53
  let kept := number >>> dropped
  let rest := number - kept <<< dropped
  let unit := 1 <<< dropped
  if unit < 2 * rest || (unit = 2 * rest && kept % 2 = 1) then
    (kept + 1) <<< dropped
  else
    kept <<< dropped

/-- The least number that is rounded beyond the greatest double. -/
def firstTooLarge : Nat :=
  (1 <<< 54 - 1) <<< 970

def greatestPower : Nat := 308

/-- Whether a magnitude is too large for a double.  One that is scaled down never
is. -/
def isTooLarge (magnitude : Magnitude) : Bool :=
  if magnitude.significand = 0 || magnitude.scale < 0 then
    false
  else if (greatestPower : Int) < magnitude.scale then
    true
  else
    firstTooLarge ≤
      round magnitude.significand * round (Nat.pow 10 magnitude.scale.toNat)

end Magnitude

end TagCatalog.Json
