import TagCatalog.Json.Number
import TagCatalog.Proofs.Text.Decimal

/-!
# Integers are read as they were written

The text of a 64-bit integer is a numeral without fraction and exponent.  Its
digits fit into a significand, so no magnitude is too large, and the integer of
the numeral is the one that was written.
-/

namespace TagCatalog.Json

open Text

namespace Magnitude

/-- The number that a significand and some digits behind it stand for. -/
def longer (significand : Nat) (digits : List Char) : Nat :=
  digits.foldl (fun total character => 10 * total + Decimal.digitValue character) significand

theorem longer_cons (significand : Nat) (first : Char) (rest : List Char) :
    longer significand (first :: rest) =
      longer (10 * significand + Decimal.digitValue first) rest := by
  rfl

theorem takeWhole_cons (significand : Nat) (first : Char) (rest : List Char) :
    takeWhole significand (first :: rest) =
      match push? significand first with
      | some longer => takeWhole longer rest
      | none => ⟨significand, rest.length + 1⟩ := by
  rfl

theorem le_longer (significand : Nat) (digits : List Char) :
    significand ≤ longer significand digits := by
  induction digits generalizing significand with
  | nil => exact Nat.le_refl _
  | cons first rest inductionHypothesis =>
      have pushed := inductionHypothesis (10 * significand + Decimal.digitValue first)
      rw [longer_cons]
      omega

theorem takeWhole_of_lt {digits : List Char} {significand : Nat}
    (small : longer significand digits < UInt64.size) :
    takeWhole significand digits = ⟨longer significand digits, 0⟩ := by
  induction digits generalizing significand with
  | nil => rfl
  | cons first rest inductionHypothesis =>
      rw [longer_cons] at small ⊢
      have fits : push? significand first =
          some (10 * significand + Decimal.digitValue first) := by
        refine if_pos ?_
        rw [Nat.one_shiftLeft]
        exact Nat.lt_of_le_of_lt (le_longer _ rest) small
      rw [takeWhole_cons, fits]
      exact inductionHypothesis small

theorem round_le (number : Nat) : round number ≤ 3 * number + 2 := by
  have power : 2 ^ (Nat.log2 number + 1 - 53) ≤ 2 * number + 2 := by
    by_cases zero : number = 0
    · subst zero
      decide
    · have bound := Nat.log2_self_le zero
      have mono : 2 ^ (Nat.log2 number + 1 - 53) ≤ 2 ^ (Nat.log2 number + 1) :=
        Nat.pow_le_pow_right (by decide) (by omega)
      rw [Nat.pow_succ] at mono
      omega
  simp only [round]
  generalize Nat.log2 number + 1 - 53 = dropped at power
  have kept : number / 2 ^ dropped * 2 ^ dropped ≤ number := Nat.div_mul_le_self _ _
  simp only [Nat.shiftRight_eq_div_pow, Nat.shiftLeft_eq, Nat.one_mul, Nat.add_mul]
  split <;> omega

theorem isTooLarge_of_lt {significand : Nat} (small : significand < UInt64.size) :
    isTooLarge ⟨significand, 0⟩ = false := by
  have bound := round_le significand
  have one : round (Nat.pow 10 0) = 1 := by decide
  have far : 3 * UInt64.size + 2 < firstTooLarge := by decide
  have below : ¬firstTooLarge ≤ round significand * round (Nat.pow 10 0) := by
    rw [one]
    omega
  simp only [isTooLarge, Int.toNat_zero, below]
  split
  · rfl
  · rfl

end Magnitude

/-- Whether no further part of a number stands at the start of a text. -/
def EndsNumber (behind : List Char) : Prop :=
  ∀ character ∈ behind.head?, character.isDigit = false ∧ character ≠ '.' ∧ character ≠ 'e' ∧
    character ≠ 'E'

namespace Numeral

variable {run behind : List Char}

theorem digits_run (isNumeral : Decimal.isNumeral run = true) (ends : EndsNumber behind)
    (atEnd : Fault) : digits atEnd (run ++ behind) = .ok (run, behind) := by
  obtain ⟨nonempty, areDigits⟩ := Decimal.isNumeral_iff.mp isNumeral
  have taken : (run ++ behind).takeWhile Char.isDigit = run :=
    takeWhile_run areDigits fun character head => (ends character head).1
  simp [digits, taken, nonempty]

theorem hasLeadingZero_natural (number : Nat) :
    hasLeadingZero (Decimal.natural number) = false := by
  by_cases small : number < 10
  · rw [Decimal.natural, if_pos small]
    rfl
  · have head : (Decimal.natural number).head? ≠ some '0' :=
      Decimal.head?_natural_ne_zero (by omega)
    cases digits : Decimal.natural number with
    | nil => rfl
    | cons first rest =>
        rw [digits] at head
        cases rest with
        | nil => rfl
        | cons => simpa [hasLeadingZero] using head

theorem unsigned_natural (number : Nat) (ends : EndsNumber behind) (atEnd : Fault)
    (negative : Bool) : unsigned atEnd negative (Decimal.natural number ++ behind) =
      .ok (⟨negative, Decimal.natural number, none, none⟩, behind) := by
  have whole : wholeDigits atEnd (Decimal.natural number ++ behind) =
      .ok (Decimal.natural number, behind) := by
    simp [wholeDigits, digits_run (Decimal.isNumeral_natural number) ends,
      hasLeadingZero_natural, bind, Except.bind, pure, Except.pure]
  have noFraction : fractionDigits atEnd behind = .ok (none, behind) := by
    unfold fractionDigits
    split
    next => exact absurd rfl (ends '.' rfl).2.1
    next => rfl
  have noExponent : exponentDigits atEnd behind = .ok (none, behind) := by
    cases behind with
    | nil => rfl
    | cons first rest =>
        obtain ⟨-, -, notLower, notUpper⟩ := ends first rfl
        simp [exponentDigits, notLower, notUpper]
  simp [unsigned, whole, noFraction, noExponent, bind, Except.bind, pure, Except.pure]

theorem isTooLarge_natural {number : Nat} (small : number < UInt64.size) (negative : Bool) :
    isTooLarge ⟨negative, Decimal.natural number, none, none⟩ = false := by
  have value : Magnitude.longer 0 (Decimal.natural number) = number :=
    Decimal.value_natural number
  have whole : Magnitude.takeWhole 0 (Decimal.natural number) = ⟨number, 0⟩ := by
    rw [Magnitude.takeWhole_of_lt (by rwa [value]), value]
  have magnitude : Magnitude.ofDigits (Decimal.natural number) [] 0 = ⟨number, 0⟩ := by
    rw [Magnitude.ofDigits, whole]
    rfl
  have noPower : power ⟨negative, Decimal.natural number, none, none⟩ = 0 := rfl
  rw [isTooLarge, noPower, Option.getD_none, magnitude]
  exact Magnitude.isTooLarge_of_lt small

theorem integer?_natural (negative : Bool) (number : Nat)
    (nonzero : negative = true → number ≠ 0) :
    integer? ⟨negative, Decimal.natural number, none, none⟩ =
      Decimal.signed? negative (Decimal.natural number) := by
  have kept : (negative && Decimal.value (Decimal.natural number) == 0) = false := by
    rw [Decimal.value_natural]
    cases negative with
    | false => rfl
    | true => simp [nonzero rfl]
  simp [integer?, kept]

end Numeral

theorem natAbs_toInt_lt (value : Int64) : value.toInt.natAbs < UInt64.size := by
  have lower := Int64.le_toInt value
  have upper := Int64.toInt_lt value
  simp only [UInt64.size]
  omega

theorem number_integer (value : Int64) {behind : List Char} (ends : EndsNumber behind) :
    ∃ numeral, number (Decimal.integer value ++ behind) = .ok (numeral, behind) ∧
      numeral.integer? = some value := by
  have read : ∀ negative, (negative = true → value.toInt.natAbs ≠ 0) →
      Numeral.read .ended (Decimal.integer value ++ behind) =
        Numeral.unsigned .ended negative (Decimal.natural value.toInt.natAbs ++ behind) →
      Decimal.signed? negative (Decimal.natural value.toInt.natAbs) = some value →
      ∃ numeral, number (Decimal.integer value ++ behind) = .ok (numeral, behind) ∧
        numeral.integer? = some value := by
    intro negative nonzero read signed
    refine ⟨⟨negative, Decimal.natural value.toInt.natAbs, none, none⟩, ?_, ?_⟩
    · rw [number, read, Numeral.unsigned_natural _ ends]
      simp [Numeral.isTooLarge_natural (natAbs_toInt_lt value), bind, Except.bind, pure,
        Except.pure]
    · rw [Numeral.integer?_natural negative _ nonzero, signed]
  rcases Decimal.integer_eq value with ⟨sign, text, signed⟩ | ⟨sign, text, signed⟩
  · refine read true (fun _ => by omega) ?_ signed
    rw [text]
    rfl
  · refine read false nofun ?_ signed
    rw [text, Numeral.read]
    intro rest minus
    have head : (Decimal.natural value.toInt.natAbs).head? = some '-' := by
      have nonempty := Decimal.natural_ne_nil value.toInt.natAbs
      cases digits : Decimal.natural value.toInt.natAbs with
      | nil => exact absurd digits nonempty
      | cons first others =>
          rw [digits] at minus
          simpa using (List.cons.inj minus).1
    exact absurd head (Decimal.isNumeral_head_ne (Decimal.isNumeral_natural _) (by decide))

end TagCatalog.Json
