import TagCatalog.Command
import TagCatalog.Proofs.Store.Slot
import TagCatalog.Proofs.Tag.Value

/-!
# Integers in commands, filters and documents

Commands, filters and documents read integers in ways of their own.  They agree on the
numbers and their limits, and all of them read the decimal text of an integer as that
integer.
-/

namespace TagCatalog

namespace Tag.Value

open Text TagCatalog.Filter

variable {word : List Char} {number : Int}

/-- Without blanks and a plus sign, only the number is left. -/
theorem isValue_iff_isNumber (unbroken : Unbroken word) (noPlus : word.head? ≠ some '+') :
    IsValue word number ↔ IsNumber word number := by
  have empty {part : List Char} (inWord : ∀ character ∈ part, character ∈ word)
      (blank : ∀ character ∈ part, isBlank character = true) : part = [] := by
    apply List.eq_nil_iff_forall_not_mem.mpr
    intro character membership
    have notBlank := unbroken character (inWord character membership)
    rw [blank character membership] at notBlank
    cases notBlank
  constructor
  · rintro ⟨front, inner, behind, rfl, blankFront, blankBehind, spells⟩
    cases empty (by simp +contextual) blankFront
    cases empty (by simp +contextual) blankBehind
    rw [List.nil_append, List.append_nil] at noPlus ⊢
    cases spells with
    | number isNumber => exact isNumber
    | plus => exact absurd rfl noPlus
  · intro isNumber
    exact ⟨[], word, [], by simp, nofun, nofun, .number isNumber⟩

end Tag.Value

namespace Command

open Text TagCatalog.Filter Tag.Value

variable {text : String} {value : Int64}

theorem parseValue_eq_ok_iff :
    parseValue text = .ok value ↔ IsValue text.toList value.toInt := by
  rw [isValue_iff, ← ofText?_eq_some_iff, parseValue]
  cases ofText? text <;> simp

theorem eq_ok_or_eq_error_of_parseValue (text : String) :
    (∃ value, parseValue text = .ok value) ∨ parseValue text = .error (.invalidValue text) := by
  unfold parseValue
  cases ofText? text with
  | some value => exact .inl ⟨value, rfl⟩
  | none => exact .inr rfl

theorem parseValue_eq_error_iff : parseValue text = .error (.invalidValue text) ↔
    ∀ number, IsValue text.toList number → number < -2 ^ 63 ∨ 2 ^ 63 - 1 < number := by
  have least : Int64.minValue.toInt = -2 ^ 63 := rfl
  have greatest : Int64.maxValue.toInt = 2 ^ 63 - 1 := rfl
  rw [← least, ← greatest]
  constructor
  · intro refused number isValue
    by_contra inRange
    have same : (Int64.ofInt number).toInt = number := Int64.toInt_ofInt_of_le (by omega) (by omega)
    rw [← same, ← parseValue_eq_ok_iff, refused] at isValue
    cases isValue
  · intro beyond
    rcases eq_ok_or_eq_error_of_parseValue text with ⟨value, parsed⟩ | refused
    · have outside := beyond value.toInt (parseValue_eq_ok_iff.mp parsed)
      have lower := Int64.le_toInt value
      have upper := Int64.toInt_le value
      omega
    · exact refused

theorem exists_beyond_iff {word : String} (unbroken : Unbroken word.toList)
    (noPlus : word.toList.head? ≠ some '+') :
    (∃ number, IsNumber word.toList number ∧
      (number < Int64.minValue.toInt ∨ Int64.maxValue.toInt < number)) ↔
    (∃ number, IsNumber word.toList number) ∧ parseValue word = .error (.invalidValue word) := by
  simp only [parseValue_eq_error_iff, isValue_iff_isNumber unbroken noPlus]
  constructor
  · rintro ⟨number, isNumber, beyond⟩
    refine ⟨⟨number, isNumber⟩, fun other isOther => ?_⟩
    rw [isOther.unique isNumber]
    exact beyond
  · rintro ⟨⟨number, isNumber⟩, beyond⟩
    exact ⟨number, isNumber, beyond number isNumber⟩

/-- Whether a lexer and a command read a text alike. -/
structure ReadAlike (word : String) : Prop where
  integer : ∀ value, (∃ position stop, (Lexer.ofText word).remaining =
    [.lexeme ⟨position, .integer value⟩, .finish stop]) ↔ parseValue word = .ok value
  outOfRange : (∃ position, (Lexer.ofText word).remaining =
    [.fault ⟨position, .integerOutOfRange word⟩]) ↔
      (∃ number, IsNumber word.toList number) ∧ parseValue word = .error (.invalidValue word)
  /-- Nothing else is out of range if no character ends a word. -/
  only : (∀ character ∈ word.toList, Word.isWordCharacter character = true) →
    ∀ position name, .fault ⟨position, .integerOutOfRange name⟩ ∈ (Lexer.ofText word).remaining →
      (Lexer.ofText word).remaining = [.fault ⟨position, .integerOutOfRange word⟩]

theorem readAlike {word : String} (unbroken : Unbroken word.toList)
    (noPlus : word.toList.head? ≠ some '+') : ReadAlike word where
  integer value := by
    rw [parseValue_eq_ok_iff, isValue_iff_isNumber unbroken noPlus]
    exact unbroken.items_eq_integer_iff
  outOfRange := by
    rw [← exists_beyond_iff unbroken noPlus]
    exact unbroken.items_eq_outOfRange_iff
  only isWord position name membership := items_of_outOfRange_mem isWord membership

theorem isNumber_toString (value : Int64) : IsNumber (toString value).toList value.toInt := by
  have denotes := wordDenotes_ofWord (Decimal.integer value)
  rw [Token.ofWord_integer, Decimal.integer_eq_toString] at denotes
  generalize (toString value).toList = word at denotes
  cases denotes with
  | integer isNumber => exact isNumber

/-- A command, a filter and a document read integers alike.  A command reads a number
between blanks, with a sign of either kind or none, if it has 64 bits, and refuses every
other text.  A lexer reads a text without blanks and without a plus sign as an integer and
nothing else just if a command reads it as that, and gives it as out of range just if it is
a number that a command refuses.  The decimal text of an integer is read as that integer by
both.  Wherever the value of a label stands in a document that is saved, the document has
the decimal text of the value there, the rest of it is the same for all values, and it is
loaded with that value. -/
theorem integers_read_alike :
    (∀ (text : String) (value : Int64),
      parseValue text = .ok value ↔ IsValue text.toList value.toInt) ∧
    (∀ text : String, parseValue text = .error (.invalidValue text) ↔
      ∀ number, IsValue text.toList number → number < -2 ^ 63 ∨ 2 ^ 63 - 1 < number) ∧
    (∀ word : String, Unbroken word.toList → word.toList.head? ≠ some '+' → ReadAlike word) ∧
    (∀ value : Int64, parseValue (toString value) = .ok value ∧
      (Lexer.ofText (toString value)).remaining =
        [.lexeme ⟨0, .integer value⟩, .finish (toString value).utf8ByteSize]) ∧
    ∀ slot : Document.Slot, ∃ front behind, ∀ value, slot.Shows front behind value := by
  refine ⟨fun _ _ => parseValue_eq_ok_iff, fun _ => parseValue_eq_error_iff,
    fun _ => readAlike, fun value => ?_, Document.Slot.exists_shows⟩
  have isNumber := isNumber_toString value
  constructor
  · rw [parseValue_eq_ok_iff]
    exact ⟨[], _, [], by simp, nofun, nofun, .number isNumber⟩
  · exact isNumber.items_eq_integer

/-- The least integer with zeros and blanks, and the first integer that is too great. -/
theorem integers_read_alike_at_limits :
    parseValue " \t-0009223372036854775808\u2003" = .ok Int64.minValue ∧
      IsValue " \t-0009223372036854775808\u2003".toList Int64.minValue.toInt ∧
      (∃ position, (Lexer.ofText "9223372036854775808").remaining =
        [.fault ⟨position, .integerOutOfRange "9223372036854775808"⟩]) ∧
      (Lexer.ofText (toString Int64.minValue)).remaining =
        [.lexeme ⟨0, .integer Int64.minValue⟩, .finish 20] := by
  obtain ⟨accepts, -, alike, decimal, -⟩ := integers_read_alike
  have least : parseValue " \t-0009223372036854775808\u2003" = .ok Int64.minValue := rfl
  have isNumber : IsNumber "9223372036854775808".toList _ := .unsigned rfl
  have unbroken : Unbroken "9223372036854775808".toList := unbroken_of_isWord isNumber.isWord.2
  have refused : parseValue "9223372036854775808" = .error (.invalidValue "9223372036854775808") :=
    rfl
  refine ⟨least, (accepts _ _).mp least, ?_, (decimal Int64.minValue).2⟩
  exact (alike _ unbroken (by decide)).outOfRange.mpr ⟨⟨_, isNumber⟩, refused⟩

end Command

end TagCatalog
