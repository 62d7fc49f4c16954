/-!
Hexadecimal digits.

`value` is the number that a run of digits in either case stands for, and
`lower` writes a number with a fixed count of lower-case digits.
`value_lower` says that reading undoes writing below the `capacity` of the
digits, and `value_lt` bounds what a run of digits can stand for.
-/

namespace TagCatalog.Text.Hexadecimal

def digits : List Char :=
  ['0', '1', '2', '3', '4', '5', '6', '7', '8', '9', 'a', 'b', 'c', 'd', 'e', 'f']

def digitValue? (character : Char) : Option Nat :=
  digits.idxOf? character.toLower

def digit (number : Nat) : Char :=
  digits.getD number '0'

def isDigit (character : Char) : Bool :=
  (digitValue? character).isSome

def value (text : List Char) : Nat :=
  text.foldl (fun total character => 16 * total + (digitValue? character).getD 0) 0

/-- How many numbers can be told apart by some count of digits. -/
def capacity : (count : Nat) → Nat
  | 0 => 1
  | count + 1 => 16 * capacity count

def lower : (count number : Nat) → List Char
  | 0, _ => []
  | count + 1, number => lower count (number / 16) ++ [digit (number % 16)]

def shortest (number : Nat) : List Char :=
  if number < 16 then
    [digit number]
  else
    shortest (number / 16) ++ [digit (number % 16)]
termination_by number

theorem digitValue?_digit {number : Nat} (small : number < 16) :
    digitValue? (digit number) = some number := by
  have all : ∀ candidate < 16, digitValue? (digit candidate) = some candidate := by decide
  exact all number small

theorem digitValue?_lt {character : Char} {number : Nat}
    (found : digitValue? character = some number) : number < 16 := by
  obtain ⟨bound, _⟩ := List.findIdx?_eq_some_iff_getElem.mp found
  exact bound

theorem value_append_digit (text : List Char) (last : Char) :
    value (text ++ [last]) = 16 * value text + (digitValue? last).getD 0 := by
  simp [value, List.foldl_append]

theorem isDigit_digit {number : Nat} (small : number < 16) :
    isDigit (digit number) = true := by
  simp [isDigit, digitValue?_digit small]

theorem isDigit_of_mem_lower {count number : Nat} {character : Char}
    (membership : character ∈ lower count number) : isDigit character = true := by
  induction count generalizing number with
  | zero => simp [lower] at membership
  | succ count inductionHypothesis =>
      simp only [lower, List.mem_append, List.mem_singleton] at membership
      rcases membership with front | last
      · exact inductionHypothesis front
      · rw [last]
        exact isDigit_digit (Nat.mod_lt _ (by decide))

@[simp]
theorem length_lower (count number : Nat) : (lower count number).length = count := by
  induction count generalizing number with
  | zero => rfl
  | succ count inductionHypothesis => simp [lower, inductionHypothesis]

theorem value_lower {count number : Nat} (small : number < capacity count) :
    value (lower count number) = number := by
  induction count generalizing number with
  | zero =>
      simp only [capacity, Nat.lt_one_iff] at small
      simp [lower, value, small]
  | succ count inductionHypothesis =>
      have quotient : number / 16 < capacity count := Nat.div_lt_of_lt_mul small
      rw [lower, value_append_digit, inductionHypothesis quotient,
        digitValue?_digit (Nat.mod_lt _ (by decide))]
      simp only [Option.getD_some]
      omega

theorem foldl_value_lt (text : List Char) (total : Nat) :
    text.foldl (fun total character => 16 * total + (digitValue? character).getD 0) total <
      (total + 1) * capacity text.length := by
  induction text generalizing total with
  | nil => simp [capacity]
  | cons first rest inductionHypothesis =>
      have digitBound : (digitValue? first).getD 0 < 16 := by
        cases found : digitValue? first with
        | none => simp
        | some number => simpa using digitValue?_lt found
      refine Nat.lt_of_lt_of_le (inductionHypothesis _) ?_
      rw [List.length_cons, capacity, ← Nat.mul_assoc]
      refine Nat.mul_le_mul_right _ ?_
      show 16 * total + (digitValue? first).getD 0 + 1 ≤ (total + 1) * 16
      omega

theorem value_lt (text : List Char) : value text < capacity text.length := by
  simpa [value] using foldl_value_lt text 0

end TagCatalog.Text.Hexadecimal
