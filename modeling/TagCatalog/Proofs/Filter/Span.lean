import Mathlib.Data.Nat.Digits.Defs
import TagCatalog.Proofs.Filter.Lexing

/-!
# Runs of characters and what they are

Between blanks, a text is a row of runs: single parentheses, operators with the equals
sign behind them, and words that are as long as possible.  `IsRun` says so without a
cursor, and says which token a run is or why it is none.  What a cursor takes is such a
run (`isRun_run`), and where a run stands, a cursor takes just that (`IsRun.run_eq`).
-/

namespace TagCatalog

namespace Text.Decimal

theorem value_eq_ofDigits (digits : List Char) :
    value digits = Nat.ofDigits 10 (digits.reverse.map digitValue) := by
  rw [value, ← List.foldr_reverse, Nat.ofDigits_eq_foldr, List.foldr_map]
  simp [Nat.add_comm]

end Text.Decimal

namespace Filter

open Text

/-- Decimal digits, perhaps behind a minus sign, and the number that they stand for. -/
inductive IsNumber : List Char → Int → Prop where
  | unsigned {digits : List Char} : Decimal.isNumeral digits = true →
      IsNumber digits (Nat.ofDigits 10 (digits.reverse.map Decimal.digitValue) : Nat)
  | signed {digits : List Char} : Decimal.isNumeral digits = true →
      IsNumber ('-' :: digits) (-(Nat.ofDigits 10 (digits.reverse.map Decimal.digitValue) : Nat))

inductive WordDenotes : List Char → Except LexFault Token → Prop where
  | and : WordDenotes Word.andKeyword.toList (.ok .and)
  | or : WordDenotes Word.orKeyword.toList (.ok .or)
  | integer {word : List Char} {value : Int64} : IsNumber word value.toInt →
      WordDenotes word (.ok (.integer value))
  | outOfRange {word : List Char} {number : Int} : IsNumber word number →
      (number < Int64.minValue.toInt ∨ Int64.maxValue.toInt < number) →
      WordDenotes word (.error (.integerOutOfRange (String.ofList word)))
  | malformed {word : List Char} : word.head? = some '-' → (∀ number, ¬IsNumber word number) →
      WordDenotes word (.error (.malformedInteger (String.ofList word)))
  | identifier {word : List Char} : String.ofList word ≠ Word.andKeyword →
      String.ofList word ≠ Word.orKeyword → (∀ number, ¬IsNumber word number) →
      word.head? ≠ some '-' → WordDenotes word (.ok (.identifier (String.ofList word)))

inductive OperatorDenotes : List Char → Except LexFault Token → Prop where
  | comparator (comparator : Comparator) :
      OperatorDenotes comparator.symbol.toList (.ok (.comparator comparator))
  | lone {first : Char} : first = '=' ∨ first = '!' →
      OperatorDenotes [first] (.error (.unexpectedCharacter first))

/-- The characters that belong together between a text in front of them and one behind
them, and what they are. -/
inductive IsRun (front behind : List Char) : List Char → Except LexFault Token → Prop where
  | openGroup : IsRun front behind ['('] (.ok .openGroup)
  | closeGroup : IsRun front behind [')'] (.ok .closeGroup)
  | operator {first : Char} {result : Except LexFault Token} :
      Cursor.startsOperator first = true → behind.head? ≠ some '=' →
      OperatorDenotes [first] result → IsRun front behind [first] result
  | extended {first : Char} {result : Except LexFault Token} :
      Cursor.startsOperator first = true → OperatorDenotes [first, '='] result →
      IsRun front behind [first, '='] result
  | word {word : List Char} {result : Except LexFault Token} : word ≠ [] →
      (∀ character ∈ word, Word.isWordCharacter character = true) →
      (∀ character ∈ front.getLast?, Word.isWordCharacter character = false) →
      (∀ character ∈ behind.head?, Word.isWordCharacter character = false) →
      WordDenotes word result → IsRun front behind word result

/-- Whether no word goes on from a text into the one behind it. -/
def Apart (front behind : List Char) : Prop :=
  (∀ character ∈ front.getLast?, Word.isWordCharacter character = false) ∨
    ∀ character ∈ behind.head?, Word.isWordCharacter character = false

section Words

variable {word : List Char} {number : Int} {result : Except LexFault Token}

theorem isNumber_iff : IsNumber word number ↔ ∃ negative digits,
    Token.numeral? word = some (negative, digits) ∧
      number = if negative then -(Decimal.value digits : Int) else Decimal.value digits := by
  constructor
  · intro isNumber
    cases isNumber with
    | unsigned numeral =>
        have unsigned : word.head? ≠ some '-' := Decimal.isNumeral_head_ne numeral (by decide)
        exact ⟨false, word, by simp [Token.numeral?_unsigned unsigned, numeral],
          by simp [Decimal.value_eq_ofDigits]⟩
    | signed numeral =>
        refine ⟨true, _, if_pos numeral, ?_⟩
        simp [Decimal.value_eq_ofDigits]
  · rintro ⟨negative, digits, found, rfl⟩
    by_cases hyphen : word.head? = some '-'
    · obtain ⟨rest, rfl⟩ := List.head?_eq_some_iff.mp hyphen
      simp only [Token.numeral?, Option.ite_none_right_eq_some, Option.some.injEq,
        Prod.mk.injEq] at found
      obtain ⟨numeral, rfl, rfl⟩ := found
      simpa [Decimal.value_eq_ofDigits] using IsNumber.signed numeral
    · simp only [Token.numeral?_unsigned hyphen, Option.ite_none_right_eq_some,
        Option.some.injEq, Prod.mk.injEq] at found
      obtain ⟨numeral, rfl, rfl⟩ := found
      simpa [Decimal.value_eq_ofDigits] using IsNumber.unsigned numeral

theorem numeral?_eq_none_iff :
    Token.numeral? word = none ↔ ∀ number, ¬IsNumber word number := by
  constructor
  · rintro none number isNumber
    obtain ⟨negative, digits, found, -⟩ := isNumber_iff.mp isNumber
    simp [none] at found
  · intro noNumber
    cases found : Token.numeral? word with
    | none => rfl
    | some numeral => exact absurd (isNumber_iff.mpr ⟨_, _, found, rfl⟩) (noNumber _)

theorem IsNumber.ofList_ne (isNumber : IsNumber word number) {keyword : String}
    (letter : keyword.toList.head? = some 'A' ∨ keyword.toList.head? = some 'O') :
    String.ofList word ≠ keyword := by
  rintro rfl
  rw [String.toList_ofList] at letter
  cases isNumber with
  | unsigned numeral =>
      rcases letter with head | head
      · exact Decimal.isNumeral_head_ne numeral (by decide) head
      · exact Decimal.isNumeral_head_ne numeral (by decide) head
  | signed => simp at letter

theorem IsNumber.ofWord_eq (isNumber : IsNumber word number) :
    Token.ofWord word = (Decimal.inRange? number).elim
      (.error (.integerOutOfRange (String.ofList word))) fun value => .ok (.integer value) := by
  obtain ⟨negative, digits, found, rfl⟩ := isNumber_iff.mp isNumber
  have noAnd : String.ofList word ≠ Word.andKeyword := isNumber.ofList_ne (.inl rfl)
  have noOr : String.ofList word ≠ Word.orKeyword := isNumber.ofList_ne (.inr rfl)
  simp only [Token.ofWord, if_neg noAnd, if_neg noOr, found, Decimal.signed?]
  generalize Decimal.inRange? _ = value
  cases value <;> rfl

theorem wordDenotes_ofWord (word : List Char) : WordDenotes word (Token.ofWord word) := by
  by_cases isNumeral : ∃ number, IsNumber word number
  · obtain ⟨number, isNumber⟩ := isNumeral
    rw [isNumber.ofWord_eq]
    by_cases inRange : Int64.minValue.toInt ≤ number ∧ number ≤ Int64.maxValue.toInt
    · have found : Decimal.inRange? number = some (Int64.ofInt number) := if_pos inRange
      have same : (Int64.ofInt number).toInt = number :=
        Int64.toInt_ofInt_of_le inRange.1 (Int.lt_add_one_of_le inRange.2)
      rw [found]
      apply WordDenotes.integer
      rwa [same]
    · have missing : Decimal.inRange? number = none := if_neg inRange
      rw [missing]
      exact .outOfRange isNumber (by omega)
  · have noNumber := not_exists.mp isNumeral
    simp only [Token.ofWord, numeral?_eq_none_iff.mpr noNumber]
    split
    next isAnd =>
      rw [← String.toList_ofList (l := word), isAnd]
      exact .and
    next noAnd =>
      split
      next isOr =>
        rw [← String.toList_ofList (l := word), isOr]
        exact .or
      next noOr =>
        split
        next hyphen => exact .malformed hyphen noNumber
        next noHyphen => exact .identifier noAnd noOr noNumber noHyphen

theorem WordDenotes.ofWord_eq (denotes : WordDenotes word result) :
    Token.ofWord word = result := by
  cases denotes with
  | and => rfl
  | or => rfl
  | integer isNumber =>
      rw [isNumber.ofWord_eq, Decimal.inRange?_toInt]
      rfl
  | @outOfRange _ number isNumber beyond =>
      have missing : Decimal.inRange? number = none := if_neg (by omega)
      rw [isNumber.ofWord_eq, missing]
      rfl
  | malformed hyphen noNumber =>
      have noKeyword : ∀ keyword : String, keyword.toList.head? ≠ some '-' →
          String.ofList word ≠ keyword := by
        rintro keyword other rfl
        exact other (by simpa using hyphen)
      have noAnd := noKeyword Word.andKeyword (by decide)
      have noOr := noKeyword Word.orKeyword (by decide)
      simp [Token.ofWord, noAnd, noOr, numeral?_eq_none_iff.mpr noNumber, hyphen]
  | identifier noAnd noOr noNumber noHyphen =>
      simp [Token.ofWord, noAnd, noOr, numeral?_eq_none_iff.mpr noNumber, noHyphen]

end Words

section Operators

variable {first : Char} {symbol : List Char} {result : Except LexFault Token}

theorem startsOperator_iff : Cursor.startsOperator first = true ↔
    first = '=' ∨ first = '!' ∨ first = '<' ∨ first = '>' := by
  simp [Cursor.startsOperator, or_assoc]

theorem operatorDenotes_single (starts : Cursor.startsOperator first = true) :
    OperatorDenotes [first] (Token.ofOperator first [first]) := by
  rcases startsOperator_iff.mp starts with rfl | rfl | rfl | rfl
  · exact .lone (.inl rfl)
  · exact .lone (.inr rfl)
  · exact .comparator .lessThan
  · exact .comparator .greaterThan

theorem operatorDenotes_extended (starts : Cursor.startsOperator first = true) :
    OperatorDenotes [first, '='] (Token.ofOperator first [first, '=']) := by
  rcases startsOperator_iff.mp starts with rfl | rfl | rfl | rfl
  · exact .comparator .equal
  · exact .comparator .notEqual
  · exact .comparator .lessOrEqual
  · exact .comparator .greaterOrEqual

theorem OperatorDenotes.ofOperator_eq (denotes : OperatorDenotes symbol result)
    (head : symbol.head? = some first) : Token.ofOperator first symbol = result := by
  cases denotes with
  | comparator comparator => simp [Token.ofOperator]
  | lone isLone =>
      cases head
      rcases isLone with rfl | rfl <;> rfl

end Operators

section Runs

variable {front behind run : List Char} {first : Char} {rest : List Char}
  {result : Except LexFault Token}

theorem IsRun.ne_nil (isRun : IsRun front behind run result) : run ≠ [] := by
  cases isRun with
  | word nonempty => exact nonempty
  | _ => simp

theorem not_isBlank_of_startsOperator (starts : Cursor.startsOperator first = true) :
    isBlank first = false := by
  rcases startsOperator_iff.mp starts with rfl | rfl | rfl | rfl <;> rfl

theorem IsRun.not_isBlank (isRun : IsRun front behind run result) :
    ∀ character ∈ run, isBlank character = false := by
  have equals : isBlank '=' = false := rfl
  cases isRun with
  | openGroup => simp [show isBlank '(' = false from rfl]
  | closeGroup => simp [show isBlank ')' = false from rfl]
  | operator starts => simp [not_isBlank_of_startsOperator starts]
  | extended starts => simp [not_isBlank_of_startsOperator starts, equals]
  | word _ isWord =>
      intro character membership
      have wordCharacter := isWord character membership
      simp only [Word.isWordCharacter, Bool.and_eq_true, Bool.not_eq_true'] at wordCharacter
      exact wordCharacter.1

theorem IsRun.apart (isRun : IsRun front behind run result) : Apart (front ++ run) behind := by
  cases isRun with
  | word _ _ _ ends => exact .inr ends
  | openGroup => left; simp; decide
  | closeGroup => left; simp; decide
  | operator starts =>
      left
      rcases startsOperator_iff.mp starts with rfl | rfl | rfl | rfl <;> simp <;> decide
  | extended => left; simp; decide

/-- A run stays one if what stands behind it is cut off somewhere. -/
theorem IsRun.of_append {kept : List Char} (isRun : IsRun front (kept ++ rest) run result) :
    IsRun front kept run result := by
  have head : ∀ character, kept.head? = some character →
      (kept ++ rest).head? = some character := by
    intro character found
    simp [found]
  cases isRun with
  | openGroup => exact .openGroup
  | closeGroup => exact .closeGroup
  | operator starts alone denotes =>
      exact .operator starts (fun found => alone (head '=' found)) denotes
  | extended starts denotes => exact .extended starts denotes
  | word nonempty isWord starts ends denotes =>
      exact .word nonempty isWord starts (fun character found => ends character
        (head character found)) denotes

theorem IsRun.run_eq (isRun : IsRun front behind (first :: rest) result) :
    Cursor.run first (rest ++ behind) = (first :: rest, result) := by
  cases isRun with
  | openGroup => rfl
  | closeGroup => rfl
  | operator starts alone denotes =>
      have noParenthesis : first ≠ '(' ∧ first ≠ ')' := by
        rcases startsOperator_iff.mp starts with rfl | rfl | rfl | rfl <;> decide
      have symbol : Cursor.operator first behind = [first] := if_neg alone
      simp [Cursor.run, noParenthesis, starts, symbol, denotes.ofOperator_eq rfl]
  | extended starts denotes =>
      have noParenthesis : first ≠ '(' ∧ first ≠ ')' := by
        rcases startsOperator_iff.mp starts with rfl | rfl | rfl | rfl <;> decide
      have symbol : Cursor.operator first ('=' :: behind) = [first, '='] := if_pos rfl
      simp [Cursor.run, noParenthesis, starts, symbol, denotes.ofOperator_eq rfl]
  | word nonempty isWord starts ends denotes =>
      rw [Cursor.run_word (isWord first List.mem_cons_self), ← List.cons_append,
        takeWhile_run isWord ends, denotes.ofWord_eq]

theorem isRun_operator (starts : Cursor.startsOperator first = true) :
    ∃ behind, first :: rest = Cursor.operator first rest ++ behind ∧
      IsRun front behind (Cursor.operator first rest)
        (Token.ofOperator first (Cursor.operator first rest)) := by
  by_cases follows : rest.head? = some '='
  · obtain ⟨behind, rfl⟩ := List.head?_eq_some_iff.mp follows
    rw [Cursor.operator, if_pos follows]
    exact ⟨behind, rfl, .extended starts (operatorDenotes_extended starts)⟩
  · rw [Cursor.operator, if_neg follows]
    exact ⟨rest, rfl, .operator starts follows (operatorDenotes_single starts)⟩

theorem isRun_word (isWord : Word.isWordCharacter first = true)
    (starts : ∀ character ∈ front.getLast?, Word.isWordCharacter character = false) :
    ∃ behind, first :: rest = (first :: rest).takeWhile Word.isWordCharacter ++ behind ∧
      IsRun front behind ((first :: rest).takeWhile Word.isWordCharacter)
        (Token.ofWord ((first :: rest).takeWhile Word.isWordCharacter)) := by
  refine ⟨(first :: rest).dropWhile Word.isWordCharacter,
    List.takeWhile_append_dropWhile.symm, .word ?_ ?_ starts ?_ (wordDenotes_ofWord _)⟩
  · simp [isWord]
  · exact List.all_eq_true.mp List.all_takeWhile
  · intro character found
    have ends := List.head?_dropWhile_not Word.isWordCharacter (first :: rest)
    rw [found] at ends
    simpa using ends

/-- What a cursor takes is a run, if no word goes on in front of it. -/
theorem isRun_run (notBlank : isBlank first = false)
    (starts : Word.isWordCharacter first = true →
      ∀ character ∈ front.getLast?, Word.isWordCharacter character = false) :
    ∃ behind, first :: rest = (Cursor.run first rest).1 ++ behind ∧
      IsRun front behind (Cursor.run first rest).1 (Cursor.run first rest).2 := by
  by_cases isWord : Word.isWordCharacter first = true
  · rw [Cursor.run_word isWord]
    exact isRun_word isWord (starts isWord)
  · unfold Cursor.run
    split
    next isOpen =>
      subst isOpen
      exact ⟨rest, rfl, .openGroup⟩
    next notOpen =>
      split
      next isClose =>
        subst isClose
        exact ⟨rest, rfl, .closeGroup⟩
      next notClose =>
        have reserved : Word.isReserved first = true := by
          simpa [Word.isWordCharacter, notBlank] using isWord
        have operator : Cursor.startsOperator first = true := by
          simpa [Word.isReserved, Cursor.startsOperator, notOpen, notClose] using reserved
        rw [if_pos operator]
        exact isRun_operator operator

end Runs

end Filter

end TagCatalog
