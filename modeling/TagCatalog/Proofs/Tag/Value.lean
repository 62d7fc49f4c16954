import TagCatalog.File
import TagCatalog.Proofs.Filter.Unbroken

/-!
# Values of tags as texts

A value is given as a number between blanks.  `IsNumber` says which texts without a plus
sign are numbers, and `Spells` allows the plus sign.  No number has blanks in it, so it is
what trimming leaves.
-/

namespace TagCatalog

namespace Text

variable {front word behind : List Char}

theorem exists_trim (text : List Char) : ∃ front behind,
    text = front ++ (trim text ++ behind) ∧ (∀ character ∈ front, isBlank character = true) ∧
      ∀ character ∈ behind, isBlank character = true := by
  refine ⟨text.takeWhile isBlank, ((trimStart text).reverse.takeWhile isBlank).reverse, ?_,
    List.all_eq_true.mp List.all_takeWhile, ?_⟩
  · calc
      text = text.takeWhile isBlank ++ trimStart text := List.takeWhile_append_dropWhile.symm
      _ = text.takeWhile isBlank ++ ((trimStart text).reverse.takeWhile isBlank ++
          trimStart (trimStart text).reverse).reverse := by
        have parts : (trimStart text).reverse.takeWhile isBlank ++
            trimStart (trimStart text).reverse = (trimStart text).reverse :=
          List.takeWhile_append_dropWhile
        rw [parts, List.reverse_reverse]
      _ = _ := by rw [List.reverse_append, trim]
  · intro character membership
    exact List.all_eq_true.mp List.all_takeWhile character (List.mem_reverse.mp membership)

theorem trim_append (blankFront : ∀ character ∈ front, isBlank character = true)
    (blankBehind : ∀ character ∈ behind, isBlank character = true)
    (nonempty : word ≠ []) (unbroken : ∀ character ∈ word, isBlank character = false) :
    trim (front ++ (word ++ behind)) = word := by
  have starts : ∀ character ∈ (word ++ behind).head?, isBlank character = false := by
    obtain ⟨first, others, rfl⟩ := List.exists_cons_of_ne_nil nonempty
    exact forall_head?_cons (unbroken first List.mem_cons_self) _
  have ends : ∀ character ∈ word.reverse.head?, isBlank character = false := fun character head =>
    unbroken character (List.mem_reverse.mp (List.mem_of_head? head))
  have blankReverse : ∀ character ∈ behind.reverse, isBlank character = true :=
    fun character membership => blankBehind character (List.mem_reverse.mp membership)
  rw [trim, trimStart, trimStart, dropWhile_run blankFront starts, List.reverse_append,
    dropWhile_run blankReverse ends, List.reverse_reverse]

end Text

namespace Text.Decimal

variable {number : Int} {value : Int64}

theorem inRange?_eq_some_iff : inRange? number = some value ↔ number = value.toInt := by
  constructor
  · intro found
    unfold inRange? at found
    split at found
    next inRange =>
      cases found
      exact (Int64.toInt_ofInt_of_le inRange.1 (Int.lt_add_one_of_le inRange.2)).symm
    next => cases found
  · rintro rfl
    exact inRange?_toInt value

theorem natural_eq_toDigits (number : Nat) : natural number = Nat.toDigits 10 number := by
  have digits : ∀ small : Fin 10, digit small.val = small.val.digitChar := by decide
  induction number using natural.induct with
  | case1 number small =>
      rw [natural, if_pos small, Nat.toDigits_of_lt_base small]
      exact congrArg ([·]) (digits ⟨number, small⟩)
  | case2 number large inductionHypothesis =>
      rw [natural, if_neg large, inductionHypothesis,
        Nat.toDigits_of_base_le (by decide) (Nat.not_lt.mp large)]
      exact congrArg (_ ++ [·]) (digits ⟨number % 10, Nat.mod_lt _ (by decide)⟩)

theorem integer_eq_toString (value : Int64) : integer value = (toString value).toList := by
  have text : toString value = value.toInt.repr := rfl
  rw [text, integer, natural_eq_toDigits]
  cases value.toInt with
  | ofNat magnitude => simp [Int.repr, Nat.toList_repr]
  | negSucc magnitude => simp [Int.repr, Nat.toList_repr]

end Text.Decimal

namespace Tag.Value

open Text TagCatalog.Filter

variable {word : List Char} {number : Int}

/-- Decimal digits, perhaps behind a sign of either kind, and the number that they stand
for. -/
inductive Spells : List Char → Int → Prop where
  | number {word : List Char} {number : Int} : IsNumber word number → Spells word number
  | plus {digits : List Char} : Decimal.isNumeral digits = true →
      Spells ('+' :: digits) (Nat.ofDigits 10 (digits.reverse.map Decimal.digitValue) : Nat)

/-- A number between blanks. -/
def IsValue (text : List Char) (number : Int) : Prop :=
  ∃ front word behind, text = front ++ (word ++ behind) ∧
    (∀ character ∈ front, isBlank character = true) ∧
    (∀ character ∈ behind, isBlank character = true) ∧ Spells word number

theorem signAndDigits_of_isNumeral (numeral : Decimal.isNumeral word = true) :
    signAndDigits word = (false, word) := by
  unfold signAndDigits
  split
  next => exact absurd rfl (Decimal.isNumeral_head_ne numeral (by decide))
  next => exact absurd rfl (Decimal.isNumeral_head_ne numeral (by decide))
  next => rfl

theorem spells_iff : Spells word number ↔ Decimal.isNumeral (signAndDigits word).2 = true ∧
    number = if (signAndDigits word).1 then -(Decimal.value (signAndDigits word).2 : Int)
      else Decimal.value (signAndDigits word).2 := by
  constructor
  · intro spells
    cases spells with
    | number isNumber =>
        cases isNumber with
        | unsigned numeral =>
            simp [signAndDigits_of_isNumeral numeral, numeral, Decimal.value_eq_ofDigits]
        | signed numeral => simp [signAndDigits, numeral, Decimal.value_eq_ofDigits]
    | plus numeral => simp [signAndDigits, numeral, Decimal.value_eq_ofDigits]
  · rintro ⟨numeral, rfl⟩
    simp only [Decimal.value_eq_ofDigits]
    fun_cases signAndDigits word with
    | case1 digits => exact .number (.signed numeral)
    | case2 digits => exact .plus numeral
    | case3 noMinus noPlus =>
        have unsigned : signAndDigits word = (false, word) := by simp [signAndDigits]
        rw [unsigned] at numeral
        exact .number (.unsigned numeral)

/-- The text of a value, between blanks or not, is that number. -/
theorem ofText?_eq_some_iff {text : String} {value : Int64} :
    ofText? text = some value ↔ Spells (trim text.toList) value.toInt := by
  rw [spells_iff, ofText?]
  simp only [Option.ite_none_right_eq_some, Decimal.signed?, Decimal.inRange?_eq_some_iff]
  exact and_congr_right fun _ => eq_comm

theorem Spells.unbroken (spells : Spells word number) : word ≠ [] ∧ Unbroken word := by
  cases spells with
  | number isNumber =>
      obtain ⟨nonempty, isWord⟩ := isNumber.isWord
      exact ⟨nonempty, unbroken_of_isWord isWord⟩
  | plus numeral =>
      obtain ⟨-, digits⟩ := Decimal.isNumeral_iff.mp numeral
      have noBlank := unbroken_of_isWord fun character membership =>
        Word.isWordCharacter_of_isDigit (digits character membership)
      exact ⟨by simp, List.forall_mem_cons.mpr ⟨by decide, noBlank⟩⟩

theorem isValue_iff {text : List Char} : IsValue text number ↔ Spells (trim text) number := by
  constructor
  · rintro ⟨front, word, behind, rfl, blankFront, blankBehind, spells⟩
    obtain ⟨nonempty, unbroken⟩ := spells.unbroken
    rwa [trim_append blankFront blankBehind nonempty unbroken]
  · intro spells
    obtain ⟨front, behind, split, blankFront, blankBehind⟩ := exists_trim text
    exact ⟨front, trim text, behind, split, blankFront, blankBehind, spells⟩

end Tag.Value

end TagCatalog
