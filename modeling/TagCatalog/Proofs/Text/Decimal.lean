import TagCatalog.Tag.Name
import TagCatalog.Text.Decimal

/-!
# Decimal texts

The text of a 64-bit integer is a run of digits, behind a minus sign if the
integer is negative.  The run has no zero in front of other digits, and with the
sign it is read back as the integer.  Zeros in front do not change a number, and
zeros behind it scale it.  It is read as far as it goes: a run of characters of one
kind ends where a character of another kind, or nothing, stands behind it.
-/

namespace TagCatalog.Text

variable {isKind : Char → Bool} {run behind : List Char}

theorem forall_head?_cons {Holds : Char → Prop} {first : Char} (holds : Holds first)
    (rest : List Char) : ∀ character ∈ (first :: rest).head?, Holds character := by
  rintro character ⟨⟩
  exact holds

theorem takeWhile_run (ofKind : ∀ character ∈ run, isKind character = true)
    (ends : ∀ character ∈ behind.head?, isKind character = false) :
    (run ++ behind).takeWhile isKind = run := by
  rw [List.takeWhile_append_of_pos ofKind]
  cases behind with
  | nil => simp
  | cons first rest => simp [ends first rfl]

theorem dropWhile_run (ofKind : ∀ character ∈ run, isKind character = true)
    (ends : ∀ character ∈ behind.head?, isKind character = false) :
    (run ++ behind).dropWhile isKind = behind := by
  rw [List.dropWhile_append_of_pos ofKind]
  cases behind with
  | nil => rfl
  | cons first rest => simp [ends first rfl]

namespace Decimal

theorem isNumeral_iff {text : List Char} :
    isNumeral text = true ↔ text ≠ [] ∧ ∀ character ∈ text, character.isDigit = true := by
  simp [isNumeral]

theorem isDigit_of_mem_natural {number : Nat} {character : Char}
    (membership : character ∈ natural number) : character.isDigit = true :=
  (isNumeral_iff.mp (isNumeral_natural number)).2 character membership

theorem natural_ne_nil (number : Nat) : natural number ≠ [] :=
  (isNumeral_iff.mp (isNumeral_natural number)).1

theorem isNumeral_head_ne {text : List Char} (numeral : isNumeral text = true)
    {character : Char} (notDigit : character.isDigit = false) :
    text.head? ≠ some character := by
  intro head
  have digit := (isNumeral_iff.mp numeral).2 character (List.mem_of_head? head)
  rw [notDigit] at digit
  cases digit

theorem head?_natural {number : Nat} (large : 10 ≤ number) :
    (natural number).head? = (natural (number / 10)).head? := by
  rw [natural, if_neg (Nat.not_lt.mpr large)]
  cases digits : natural (number / 10) with
  | nil => exact absurd digits (natural_ne_nil _)
  | cons first rest => rfl

theorem head?_natural_ne_zero {number : Nat} (positive : 0 < number) :
    (natural number).head? ≠ some '0' := by
  induction number using natural.induct with
  | case1 number small =>
      have all : ∀ value : Fin 10, 0 < value.val → [digit value.val].head? ≠ some '0' := by decide
      rw [natural, if_pos small]
      exact all ⟨number, small⟩ positive
  | case2 number large inductionHypothesis =>
      rw [head?_natural (Nat.not_lt.mp large)]
      exact inductionHypothesis (by omega)

theorem length_natural_le {number count : Nat} (positive : 0 < count)
    (bound : number < Nat.pow 10 count) : (natural number).length ≤ count := by
  induction number using natural.induct generalizing count with
  | case1 number small =>
      rw [natural, if_pos small]
      exact positive
  | case2 number large inductionHypothesis =>
      rw [natural, if_neg large, List.length_append, List.length_singleton]
      cases count with
      | zero => exact absurd positive (Nat.lt_irrefl 0)
      | succ count =>
          have power : Nat.pow 10 (count + 1) = 10 * Nat.pow 10 count := Nat.mul_comm _ _
          rw [power] at bound
          have quotient : number / 10 < Nat.pow 10 count := Nat.div_lt_of_lt_mul bound
          by_cases single : count = 0
          · subst single
            have one : Nat.pow 10 0 = 1 := rfl
            omega
          · exact Nat.succ_le_succ (inductionHypothesis (Nat.pos_of_ne_zero single) quotient)

/-- The text of an integer is its sign and the digits of its magnitude, which
are read back as the integer. -/
theorem integer_eq (number : Int64) :
    (number.toInt < 0 ∧ integer number = '-' :: natural number.toInt.natAbs ∧
      signed? true (natural number.toInt.natAbs) = some number) ∨
    (0 ≤ number.toInt ∧ integer number = natural number.toInt.natAbs ∧
      signed? false (natural number.toInt.natAbs) = some number) := by
  by_cases negative : number.toInt < 0
  · have magnitude : (-(number.toInt.natAbs : Int)) = number.toInt := by omega
    refine .inl ⟨negative, by rw [integer, if_pos negative], ?_⟩
    rw [signed?, if_pos rfl, value_natural, magnitude, inRange?_toInt]
  · have magnitude : (number.toInt.natAbs : Int) = number.toInt := by omega
    refine .inr ⟨Int.not_lt.mp negative, by rw [integer, if_neg negative], ?_⟩
    rw [signed?, if_neg (by decide), value_natural, magnitude, inRange?_toInt]

theorem value_append_zeros (digits : List Char) (count : Nat) :
    value (digits ++ List.replicate count '0') = value digits * Nat.pow 10 count := by
  induction count with
  | zero => rw [List.replicate_zero, List.append_nil, Nat.pow_eq, Nat.pow_zero, Nat.mul_one]
  | succ count inductionHypothesis =>
      have zero : digitValue '0' = 0 := rfl
      have power : Nat.pow 10 (count + 1) = Nat.pow 10 count * 10 := rfl
      rw [List.replicate_succ', ← List.append_assoc, value_append_digit, inductionHypothesis, zero,
        power, Nat.add_zero, Nat.mul_comm, Nat.mul_assoc]

theorem value_zeros_append (count : Nat) (digits : List Char) :
    value (List.replicate count '0' ++ digits) = value digits := by
  induction count with
  | zero => rfl
  | succ count inductionHypothesis =>
      rw [List.replicate_succ, List.cons_append, ← inductionHypothesis]
      rfl

theorem value_padded (width number : Nat) : value (padded width number) = number := by
  rw [padded, value_zeros_append, value_natural]

theorem isDigit_of_mem_padded {width number : Nat} {character : Char}
    (membership : character ∈ padded width number) : character.isDigit = true := by
  rcases List.mem_append.mp membership with zero | digit
  · rw [(List.mem_replicate.mp zero).2]
    rfl
  · exact isDigit_of_mem_natural digit

theorem isNumeral_padded (width number : Nat) : isNumeral (padded width number) = true :=
  isNumeral_iff.mpr ⟨by simp [padded, natural_ne_nil], fun _ => isDigit_of_mem_padded⟩

theorem length_padded {width number : Nat} (positive : 0 < width)
    (bound : number < Nat.pow 10 width) : (padded width number).length = width := by
  have short := length_natural_le positive bound
  simp only [padded, List.length_append, List.length_replicate]
  omega

end Decimal

end TagCatalog.Text

namespace TagCatalog.Word

open Text

theorem isWordCharacter_of_isDigit {character : Char} (digit : character.isDigit = true) :
    isWordCharacter character = true := by
  obtain ⟨lower, upper⟩ := Char.isDigit_iff_toNat.mp digit
  have notBlank : isBlank character = false := by
    have code : 48 ≤ character.toNat ∧ character.toNat ≤ 57 := ⟨lower, upper⟩
    simp only [isBlank, Bool.or_eq_false_iff, Bool.and_eq_false_iff, decide_eq_false_iff_not,
      beq_eq_false_iff_ne]
    omega
  have notReserved : isReserved character = false := by
    simp only [isReserved, Bool.or_eq_false_iff, decide_eq_false_iff_not]
    refine ⟨⟨⟨⟨⟨?_, ?_⟩, ?_⟩, ?_⟩, ?_⟩, ?_⟩ <;> rintro rfl <;> revert digit <;> decide
  simp [isWordCharacter, notBlank, notReserved]

theorem isWordCharacter_of_mem_integer {number : Int64} {character : Char}
    (membership : character ∈ Decimal.integer number) : isWordCharacter character = true := by
  rcases Decimal.integer_eq number with ⟨-, text, -⟩ | ⟨-, text, -⟩ <;> rw [text] at membership
  · rcases List.mem_cons.mp membership with rfl | digit
    · decide
    · exact isWordCharacter_of_isDigit (Decimal.isDigit_of_mem_natural digit)
  · exact isWordCharacter_of_isDigit (Decimal.isDigit_of_mem_natural membership)

end TagCatalog.Word
