/-!
Decimal integers.

`value` is the number that a run of ASCII digits stands for and `natural` is
its shortest text; `value_natural` says that reading undoes writing.  Tag
values are 64-bit integers: `signed?` reads one from a sign and digits, unless
it lies outside their range, and `integer` writes one.
-/

namespace TagCatalog.Text.Decimal

def digitValue (digit : Char) : Nat :=
  digit.toNat - '0'.toNat

def digit (number : Nat) : Char :=
  Char.ofNat ('0'.toNat + number)

def value (digits : List Char) : Nat :=
  digits.foldl (fun total character => 10 * total + digitValue character) 0

/-- A nonempty run of ASCII digits. -/
def isNumeral (text : List Char) : Bool :=
  !text.isEmpty && text.all Char.isDigit

def natural (number : Nat) : List Char :=
  if number < 10 then
    [digit number]
  else
    natural (number / 10) ++ [digit (number % 10)]
termination_by number

theorem digitValue_digit {number : Nat} (small : number < 10) :
    digitValue (digit number) = number := by
  match number, small with
  | 0, _ | 1, _ | 2, _ | 3, _ | 4, _ | 5, _ | 6, _ | 7, _ | 8, _ | 9, _ => rfl

theorem isDigit_digit {number : Nat} (small : number < 10) :
    (digit number).isDigit = true := by
  match number, small with
  | 0, _ | 1, _ | 2, _ | 3, _ | 4, _ | 5, _ | 6, _ | 7, _ | 8, _ | 9, _ => rfl

theorem value_append_digit (digits : List Char) (last : Char) :
    value (digits ++ [last]) = 10 * value digits + digitValue last := by
  simp [value, List.foldl_append]

theorem value_natural (number : Nat) : value (natural number) = number := by
  induction number using natural.induct with
  | case1 number small =>
      rw [natural, if_pos small]
      simp [value, digitValue_digit small]
  | case2 number large inductionHypothesis =>
      rw [natural, if_neg large, value_append_digit, inductionHypothesis,
        digitValue_digit (Nat.mod_lt _ (by decide))]
      omega

theorem isNumeral_natural (number : Nat) : isNumeral (natural number) = true := by
  induction number using natural.induct with
  | case1 number small =>
      rw [natural, if_pos small]
      simp [isNumeral, isDigit_digit small]
  | case2 number large inductionHypothesis =>
      rw [natural, if_neg large]
      simp only [isNumeral, Bool.and_eq_true] at inductionHypothesis
      simp [isNumeral, inductionHypothesis.2,
        isDigit_digit (Nat.mod_lt number (by decide : 0 < 10))]

def inRange? (number : Int) : Option Int64 :=
  if Int64.minValue.toInt ≤ number ∧ number ≤ Int64.maxValue.toInt then
    some (Int64.ofInt number)
  else
    none

theorem inRange?_toInt (number : Int64) : inRange? number.toInt = some number := by
  have lower : Int64.minValue.toInt ≤ number.toInt := Int64.le_toInt number
  have upper : number.toInt ≤ Int64.maxValue.toInt := Int64.toInt_le number
  rw [inRange?, if_pos ⟨lower, upper⟩, Int64.ofInt_toInt]

def signed? (negative : Bool) (digits : List Char) : Option Int64 :=
  inRange? (if negative then -(value digits : Int) else value digits)

def integer (number : Int64) : List Char :=
  if number.toInt < 0 then
    '-' :: natural number.toInt.natAbs
  else
    natural number.toInt.natAbs

def padded (width number : Nat) : List Char :=
  let digits := natural number
  List.replicate (width - digits.length) '0' ++ digits

end TagCatalog.Text.Decimal
