import TagCatalog.Proofs.Filter.Partition

/-!
# Texts without blanks

A text without blanks starts with a run, unless there is nothing in it.  So a lexer reads
it as one integer and nothing else just if all of it is a number in range, and finds all of
it out of range just if all of it is a number that is.
-/

namespace TagCatalog.Filter

open Text

variable {front behind run : List Char} {token : Token} {fault : LexFault}
  {result : Except LexFault Token}

def Unbroken (text : List Char) : Prop :=
  ∀ character ∈ text, isBlank character = false

def IsNumeric (result : Except LexFault Token) : Prop :=
  (∃ value, result = .ok (.integer value)) ∨ ∃ word, result = .error (.integerOutOfRange word)

theorem OperatorDenotes.not_isNumeric {symbol : List Char}
    (denotes : OperatorDenotes symbol result) : ¬IsNumeric result := by
  cases denotes <;> simp [IsNumeric]

theorem IsRun.wordDenotes (isRun : IsRun front behind run result) (numeric : IsNumeric result) :
    WordDenotes run result := by
  cases isRun with
  | openGroup => simp [IsNumeric] at numeric
  | closeGroup => simp [IsNumeric] at numeric
  | operator _ _ denotes => exact absurd numeric denotes.not_isNumeric
  | extended _ denotes => exact absurd numeric denotes.not_isNumeric
  | word _ _ _ _ denotes => exact denotes

theorem IsRun.isNumber_of_integer {value : Int64}
    (isRun : IsRun front behind run (.ok (.integer value))) : IsNumber run value.toInt := by
  cases isRun.wordDenotes (.inl ⟨value, rfl⟩) with
  | integer isNumber => exact isNumber

theorem IsRun.isNumber_of_outOfRange {word : String}
    (isRun : IsRun front behind run (.error (.integerOutOfRange word))) :
    String.ofList run = word ∧ ∃ number, IsNumber run number ∧
      (number < Int64.minValue.toInt ∨ Int64.maxValue.toInt < number) := by
  cases isRun.wordDenotes (.inr ⟨word, rfl⟩) with
  | outOfRange isNumber beyond => exact ⟨rfl, _, isNumber, beyond⟩

theorem items_of_token (isRun : IsRun front behind run (.ok token)) (position : Nat) :
    (Lexed.ofCursor ⟨position, run ++ behind⟩).items = .lexeme ⟨position, token⟩ ::
      (Lexed.ofCursor ⟨position + byteLength run, behind⟩).items := by
  have step := @Cursor.next_run position front [] run behind _ nofun isRun
  rw [List.nil_append, byteLength_nil, Nat.add_zero] at step
  rw [Lexed.ofCursor_lexeme step, Lexed.items]

theorem items_of_fault (isRun : IsRun front behind run (.error fault)) (position : Nat) :
    (Lexed.ofCursor ⟨position, run ++ behind⟩).items = [.fault ⟨position, fault⟩] := by
  have step := @Cursor.next_run position front [] run behind _ nofun isRun
  rw [List.nil_append, byteLength_nil, Nat.add_zero] at step
  rw [Lexed.ofCursor_fault step, Lexed.items]

theorem items_nil (position : Nat) :
    (Lexed.ofCursor ⟨position, []⟩).items = [.finish position] := by
  have step := @Cursor.next_finish position [] nofun
  rw [byteLength_nil, Nat.add_zero] at step
  rw [Lexed.ofCursor_finish step, Lexed.items]

/-- What comes first in a text without blanks: its end, a token, or a run that is none. -/
inductive Starts (position : Nat) : List Char → List Item → Prop where
  | finish : Starts position [] [.finish position]
  | token {run behind : List Char} {token : Token} : IsRun [] behind run (.ok token) →
      Starts position (run ++ behind) (.lexeme ⟨position, token⟩ ::
        (Lexed.ofCursor ⟨position + byteLength run, behind⟩).items)
  | fault {run behind : List Char} {fault : LexFault} : IsRun [] behind run (.error fault) →
      Starts position (run ++ behind) [.fault ⟨position, fault⟩]

namespace Unbroken

variable {rest : List Char}

theorem starts (unbroken : Unbroken rest) (position : Nat) :
    Starts position rest (Lexed.ofCursor ⟨position, rest⟩).items := by
  cases rest with
  | nil =>
      rw [items_nil]
      exact .finish
  | cons first others =>
      obtain ⟨behind, cut, isRun⟩ := @isRun_run [] first others
        (unbroken first List.mem_cons_self) (by simp)
      rw [cut]
      cases result : (Cursor.run first others).2 with
      | ok token =>
          rw [result] at isRun
          rw [items_of_token isRun]
          exact .token isRun
      | error fault =>
          rw [result] at isRun
          rw [items_of_fault isRun]
          exact .fault isRun

theorem of_append (unbroken : Unbroken (front ++ behind)) : Unbroken behind :=
  fun character membership => unbroken character (List.mem_append_right front membership)

theorem eq_nil_of_items (unbroken : Unbroken rest) {position last : Nat}
    (items : (Lexed.ofCursor ⟨position, rest⟩).items = [.finish last]) : rest = [] := by
  have starts := unbroken.starts position
  rw [items] at starts
  cases starts
  rfl

end Unbroken

section Words

variable {text : String} {value : Int64}

theorem unbroken_of_isWord {word : List Char}
    (isWord : ∀ character ∈ word, Word.isWordCharacter character = true) : Unbroken word := by
  intro character membership
  have wordCharacter := isWord character membership
  simp only [Word.isWordCharacter, Bool.and_eq_true, Bool.not_eq_true'] at wordCharacter
  exact wordCharacter.1

theorem IsNumber.isWord {word : List Char} {number : Int} (isNumber : IsNumber word number) :
    word ≠ [] ∧ ∀ character ∈ word, Word.isWordCharacter character = true := by
  cases isNumber with
  | unsigned numeral =>
      obtain ⟨nonempty, digits⟩ := Decimal.isNumeral_iff.mp numeral
      exact ⟨nonempty, fun character membership =>
        Word.isWordCharacter_of_isDigit (digits character membership)⟩
  | signed numeral =>
      obtain ⟨-, digits⟩ := Decimal.isNumeral_iff.mp numeral
      exact ⟨by simp, List.forall_mem_cons.mpr ⟨by decide, fun character membership =>
        Word.isWordCharacter_of_isDigit (digits character membership)⟩⟩

theorem IsNumber.unique {word : List Char} {first second : Int} (isFirst : IsNumber word first)
    (isSecond : IsNumber word second) : first = second := by
  obtain ⟨_, _, found, rfl⟩ := isNumber_iff.mp isFirst
  obtain ⟨_, _, same, rfl⟩ := isNumber_iff.mp isSecond
  cases found.symm.trans same
  rfl

theorem items_of_isWord (nonempty : text.toList ≠ [])
    (isWord : ∀ character ∈ text.toList, Word.isWordCharacter character = true) :
    (Lexed.ofText text).items =
      match Token.ofWord text.toList with
      | .ok token => [.lexeme ⟨0, token⟩, .finish text.utf8ByteSize]
      | .error fault => [.fault ⟨0, fault⟩] := by
  have isRun {result : Except LexFault Token} (same : Token.ofWord text.toList = result) :
      IsRun [] [] text.toList result :=
    .word nonempty isWord nofun nofun (same ▸ wordDenotes_ofWord text.toList)
  have start : Cursor.start text.toList = ⟨0, text.toList ++ []⟩ := by
    rw [Cursor.start, List.append_nil]
  rw [Lexed.ofText, start]
  cases ofWord : Token.ofWord text.toList with
  | ok token =>
      rw [items_of_token (isRun ofWord), items_nil, Nat.zero_add, byteLength_toList]
  | error fault => rw [items_of_fault (isRun ofWord)]

theorem IsNumber.items_eq_integer (isNumber : IsNumber text.toList value.toInt) :
    (Lexed.ofText text).items = [.lexeme ⟨0, .integer value⟩, .finish text.utf8ByteSize] := by
  obtain ⟨nonempty, isWord⟩ := isNumber.isWord
  rw [items_of_isWord nonempty isWord, isNumber.ofWord_eq, Decimal.inRange?_toInt]
  rfl

theorem IsNumber.items_eq_outOfRange {number : Int} (isNumber : IsNumber text.toList number)
    (beyond : number < Int64.minValue.toInt ∨ Int64.maxValue.toInt < number) :
    (Lexed.ofText text).items = [.fault ⟨0, .integerOutOfRange text⟩] := by
  obtain ⟨nonempty, isWord⟩ := isNumber.isWord
  have missing : Decimal.inRange? number = none := if_neg (by omega)
  rw [items_of_isWord nonempty isWord, isNumber.ofWord_eq, missing, Option.elim_none,
    String.ofList_toList]

namespace Unbroken

variable (unbroken : Unbroken text.toList)
include unbroken

/-- A text without blanks is read as one integer just if it is a number of 64 bits. -/
theorem items_eq_integer_iff :
    (∃ position stop, (Lexed.ofText text).items =
      [.lexeme ⟨position, .integer value⟩, .finish stop]) ↔ IsNumber text.toList value.toInt := by
  constructor
  · rintro ⟨position, stop, items⟩
    have starts := unbroken.starts 0
    rw [← Cursor.start, ← Lexed.ofText, items] at starts
    generalize text.toList = characters at unbroken starts
    generalize last : [Item.finish stop] = others at starts
    cases starts with
    | @token run behind _ isRun =>
        rw [unbroken.of_append.eq_nil_of_items last.symm, List.append_nil]
        exact isRun.isNumber_of_integer
  · intro isNumber
    exact ⟨_, _, isNumber.items_eq_integer⟩

/-- A text without blanks is out of range as a whole just if it is a number that is. -/
theorem items_eq_outOfRange_iff :
    (∃ position, (Lexed.ofText text).items = [.fault ⟨position, .integerOutOfRange text⟩]) ↔
      ∃ number, IsNumber text.toList number ∧
        (number < Int64.minValue.toInt ∨ Int64.maxValue.toInt < number) := by
  constructor
  · rintro ⟨position, items⟩
    have starts := unbroken.starts 0
    rw [← Cursor.start, ← Lexed.ofText, items] at starts
    generalize characters : text.toList = rest at starts
    cases starts with
    | @fault run behind _ isRun =>
        obtain ⟨whole, beyond⟩ := isRun.isNumber_of_outOfRange
        rwa [← characters, ← whole, String.toList_ofList]
  · rintro ⟨number, isNumber, beyond⟩
    exact ⟨0, isNumber.items_eq_outOfRange beyond⟩

end Unbroken

theorem WordDenotes.eq_of_outOfRange {word : List Char} {name : String}
    (denotes : WordDenotes word (.error (.integerOutOfRange name))) :
    String.ofList word = name := by
  cases denotes
  rfl

/-- What is out of range in a word is all of the word. -/
theorem items_of_outOfRange_mem {position : Nat} {name : String}
    (isWord : ∀ character ∈ text.toList, Word.isWordCharacter character = true)
    (membership : .fault ⟨position, .integerOutOfRange name⟩ ∈ (Lexed.ofText text).items) :
    (Lexed.ofText text).items = [.fault ⟨position, .integerOutOfRange text⟩] := by
  by_cases empty : text.toList = []
  · rw [Lexed.ofText, Cursor.start, empty, items_nil] at membership
    cases List.mem_singleton.mp membership
  · have denotes := wordDenotes_ofWord text.toList
    rw [items_of_isWord empty isWord] at membership ⊢
    cases ofWord : Token.ofWord text.toList with
    | ok token =>
        rw [ofWord] at membership
        simp at membership
    | error fault =>
        rw [ofWord] at membership denotes
        cases List.mem_singleton.mp membership
        rw [← denotes.eq_of_outOfRange, String.ofList_toList]

end Words

end TagCatalog.Filter
