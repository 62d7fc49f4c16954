import TagCatalog.Filter.Lexer
import TagCatalog.Proofs.Text.Bytes
import TagCatalog.Proofs.Text.Decimal
import TagCatalog.Tag.Name

/-!
# Tokens and their texts

Every token has a text of its own (`Token.text`).  A cursor that stands in front
of blanks and the text of a token takes just that token, if what follows does
not belong to it as well (`Cursor.next_token`).  A name is lexed from a text only
if a tag may have it.
-/

namespace TagCatalog.Filter

open Text

namespace Token

def text : Token → List Char
  | identifier name => name.toList
  | integer value => Decimal.integer value
  | comparator operator => operator.symbol.toList
  | and => Word.andKeyword.toList
  | or => Word.orKeyword.toList
  | openGroup => ['(']
  | closeGroup => [')']

/-- Whether a token can come from a text: its name, if it has one, is one that a
tag may have. -/
def IsLexable : Token → Prop
  | identifier name => Tag.Name.fault? name = none
  | _ => True

/-- Whether a token ends in front of a text: a word in front of a character that
is not of a word, and an operator in front of anything but an equals sign. -/
def EndsBefore : Token → List Char → Prop
  | openGroup, _ | closeGroup, _ => True
  | comparator _, behind => behind.head? ≠ some '='
  | _, behind => ∀ character ∈ behind.head?, Word.isWordCharacter character = false

theorem numeral?_unsigned {word : List Char} (unsigned : word.head? ≠ some '-') :
    numeral? word = if Decimal.isNumeral word then some (false, word) else none := by
  unfold numeral?
  split
  next => exact absurd rfl unsigned
  next => rfl

/-- A word with the characters of a name is the name if a tag may have it. -/
theorem ofWord_eq_identifier_iff {name : String} (nonempty : name.toList ≠ [])
    (isWord : ∀ character ∈ name.toList, Word.isWordCharacter character = true) :
    ofWord name.toList = .ok (.identifier name) ↔ Tag.Name.fault? name = none := by
  have noneFound : name.toList.find? (fun character => !Word.isWordCharacter character) = none :=
    List.find?_eq_none.mpr fun character membership => by simp [isWord character membership]
  simp only [ofWord, String.ofList_toList, Tag.Name.fault?, noneFound, List.isEmpty_iff,
    if_neg nonempty, Bool.or_eq_true, decide_eq_true_eq]
  by_cases isAnd : name = Word.andKeyword
  · simp [isAnd]
  by_cases isOr : name = Word.orKeyword
  · subst isOr
    simp [isAnd]
  simp only [isAnd, isOr, or_self, if_false]
  by_cases hyphen : name.toList.head? = some '-'
  · obtain ⟨digits, characters⟩ := List.head?_eq_some_iff.mp hyphen
    have read : numeral? ('-' :: digits) =
      if Decimal.isNumeral digits then some (true, digits) else none := rfl
    rw [characters, read]
    cases Decimal.isNumeral digits
    · simp
    · simp only [if_true]
      split <;> simp
  · have numeral : Decimal.isNumeral name.toList = name.toList.all Char.isDigit := by
      simp [Decimal.isNumeral, nonempty]
    rw [numeral?_unsigned hyphen, numeral, if_neg hyphen]
    cases name.toList.all Char.isDigit
    · simp [hyphen]
    · simp only [if_true, if_neg hyphen]
      split <;> simp

theorem eq_ofList_of_ofWord_eq {word : List Char} {name : String}
    (read : ofWord word = .ok (.identifier name)) : name = String.ofList word := by
  simp only [ofWord] at read
  split at read
  next => cases read
  next =>
    split at read
    next => cases read
    next =>
      split at read
      next => split at read <;> cases read
      next =>
        split at read
        next => cases read
        next =>
          cases read
          rfl

theorem ofWord_integer (value : Int64) :
    ofWord (Decimal.integer value) = .ok (.integer value) := by
  have noKeyword : ∀ keyword : String, keyword.toList.head? = some 'A' ∨
      keyword.toList.head? = some 'O' → String.ofList (Decimal.integer value) ≠ keyword := by
    rintro keyword letter rfl
    rw [String.toList_ofList] at letter
    rcases Decimal.integer_eq value with ⟨-, text, -⟩ | ⟨-, text, -⟩
    · simp [text] at letter
    · rw [text] at letter
      exact letter.elim (Decimal.isNumeral_head_ne (Decimal.isNumeral_natural _) (by decide))
        (Decimal.isNumeral_head_ne (Decimal.isNumeral_natural _) (by decide))
  have read : ∃ negative digits, numeral? (Decimal.integer value) = some (negative, digits) ∧
      Decimal.signed? negative digits = some value := by
    rcases Decimal.integer_eq value with ⟨-, text, signed⟩ | ⟨-, text, signed⟩ <;> rw [text]
    · exact ⟨true, _, by simp [numeral?, Decimal.isNumeral_natural], signed⟩
    · refine ⟨false, _, ?_, signed⟩
      rw [numeral?_unsigned (Decimal.isNumeral_head_ne (Decimal.isNumeral_natural _) (by decide)),
        if_pos (Decimal.isNumeral_natural _)]
  obtain ⟨negative, digits, numeral, signed⟩ := read
  simp only [ofWord, if_neg (noKeyword Word.andKeyword (.inl rfl)),
    if_neg (noKeyword Word.orKeyword (.inr rfl)), numeral, signed]

structure IsWord (token : Token) : Prop where
  nonempty : token.text ≠ []
  isWordCharacter : ∀ character ∈ token.text, Word.isWordCharacter character = true
  ofWord_text : ofWord token.text = .ok token

theorem isWord_identifier {name : String} (free : Tag.Name.fault? name = none) :
    (identifier name).IsWord := by
  have nonempty : name.toList ≠ [] := by
    intro empty
    simp [Tag.Name.fault?, empty] at free
  have isWord : ∀ character ∈ name.toList, Word.isWordCharacter character = true := by
    intro character membership
    cases found : name.toList.find? (fun character => !Word.isWordCharacter character) with
    | none => simpa using List.find?_eq_none.mp found character membership
    | some other => simp [Tag.Name.fault?, nonempty, found] at free
  exact ⟨nonempty, isWord, (ofWord_eq_identifier_iff nonempty isWord).mpr free⟩

theorem isWord_integer (value : Int64) : (integer value).IsWord where
  nonempty := by
    rcases Decimal.integer_eq value with ⟨-, text, -⟩ | ⟨-, text, -⟩
    · simp [Token.text, text]
    · simp [Token.text, text, Decimal.natural_ne_nil]
  isWordCharacter _ := Word.isWordCharacter_of_mem_integer
  ofWord_text := ofWord_integer value

theorem isWord_and : and.IsWord := ⟨nofun, List.all_eq_true.mp rfl, rfl⟩

theorem isWord_or : or.IsWord := ⟨nofun, List.all_eq_true.mp rfl, rfl⟩

end Token

def Item.position : Item → Nat
  | .lexeme found => found.position
  | .finish position => position
  | .fault error => error.position

def Item.ofRun (position : Nat) : Except LexFault Token → Item
  | .ok found => .lexeme ⟨position, found⟩
  | .error reason => .fault ⟨position, reason⟩

@[simp]
theorem Item.position_ofRun (position : Nat) (result : Except LexFault Token) :
    (Item.ofRun position result).position = position := by
  cases result <;> rfl

namespace Cursor

theorem run_word {first : Char} (isWord : Word.isWordCharacter first = true) (rest : List Char) :
    run first rest = ((first :: rest).takeWhile Word.isWordCharacter,
      Token.ofWord ((first :: rest).takeWhile Word.isWordCharacter)) := by
  have free : Word.isReserved first = false := by
    simp only [Word.isWordCharacter, Bool.and_eq_true, Bool.not_eq_true'] at isWord
    exact isWord.2
  simp only [Word.isReserved, Bool.or_eq_false_iff, decide_eq_false_iff_not] at free
  obtain ⟨⟨⟨⟨⟨notOpen, notClose⟩, notEqual⟩, notBang⟩, notLess⟩, notGreater⟩ := free
  simp [run, startsOperator, notOpen, notClose, notEqual, notBang, notLess, notGreater]

/-- The characters at the start of a text that belong to a token, when the text
starts with that of the token. -/
theorem run_text {token : Token} {behind : List Char} (lexable : token.IsLexable)
    (ends : token.EndsBefore behind) : ∃ first rest, token.text = first :: rest ∧
      isBlank first = false ∧ run first (rest ++ behind) = (token.text, .ok token) := by
  have word : token.IsWord → (∀ character ∈ behind.head?, Word.isWordCharacter character = false) →
      ∃ first rest, token.text = first :: rest ∧ isBlank first = false ∧
        run first (rest ++ behind) = (token.text, .ok token) := by
    intro isWord ends
    obtain ⟨first, rest, text⟩ := List.exists_cons_of_ne_nil isWord.nonempty
    have firstIsWord : Word.isWordCharacter first = true :=
      isWord.isWordCharacter first (text ▸ List.mem_cons_self)
    have notBlank : isBlank first = false := by
      simp only [Word.isWordCharacter, Bool.and_eq_true, Bool.not_eq_true'] at firstIsWord
      exact firstIsWord.1
    refine ⟨first, rest, text, notBlank, ?_⟩
    rw [run_word firstIsWord, ← List.cons_append, ← text,
      takeWhile_run isWord.isWordCharacter ends, isWord.ofWord_text]
  cases token with
  | identifier name => exact word (Token.isWord_identifier lexable) ends
  | integer value => exact word (Token.isWord_integer value) ends
  | and => exact word Token.isWord_and ends
  | or => exact word Token.isWord_or ends
  | openGroup => exact ⟨'(', [], rfl, by decide, rfl⟩
  | closeGroup => exact ⟨')', [], rfl, by decide, rfl⟩
  | comparator operator =>
      have alone : ∀ first : Char, Cursor.operator first behind = [first] := fun _ => if_neg ends
      cases operator with
      | equal => exact ⟨'=', ['='], rfl, by decide, rfl⟩
      | notEqual => exact ⟨'!', ['='], rfl, by decide, rfl⟩
      | lessOrEqual => exact ⟨'<', ['='], rfl, by decide, rfl⟩
      | greaterOrEqual => exact ⟨'>', ['='], rfl, by decide, rfl⟩
      | lessThan =>
          refine ⟨'<', [], rfl, by decide, ?_⟩
          simp [run, startsOperator, alone, Token.text, Comparator.symbol]
          rfl
      | greaterThan =>
          refine ⟨'>', [], rfl, by decide, ?_⟩
          simp [run, startsOperator, alone, Token.text, Comparator.symbol]
          rfl

theorem advance_append (position : Nat) (front behind : List Char) :
    (⟨position, front ++ behind⟩ : Cursor).advance front.length =
      ⟨position + byteLength front, behind⟩ := by
  simp [advance]

theorem skipBlanks_append {position : Nat} {gap behind : List Char}
    (blank : ∀ character ∈ gap, isBlank character = true)
    (ends : ∀ character ∈ behind.head?, isBlank character = false) :
    (⟨position, gap ++ behind⟩ : Cursor).skipBlanks = ⟨position + byteLength gap, behind⟩ := by
  rw [skipBlanks, takeWhile_run blank ends, advance_append]

theorem next_of_run {position : Nat} {gap rest behind : List Char} {first : Char}
    {result : Except LexFault Token} (blank : ∀ character ∈ gap, isBlank character = true)
    (notBlank : isBlank first = false)
    (taken : run first (rest ++ behind) = (first :: rest, result)) :
    (⟨position, gap ++ (first :: rest ++ behind)⟩ : Cursor).next =
      (Item.ofRun (position + byteLength gap) result,
        ⟨position + byteLength gap + byteLength (first :: rest), behind⟩) := by
  have skipped : (⟨position, gap ++ (first :: rest ++ behind)⟩ : Cursor).skipBlanks =
      ⟨position + byteLength gap, first :: rest ++ behind⟩ :=
    skipBlanks_append blank (by simp [notBlank])
  rw [next, skipped]
  simp only [List.cons_append, taken]
  rw [← List.cons_append, advance_append]
  cases result <;> rfl

theorem next_token {position : Nat} {gap behind : List Char} {token : Token}
    (blank : ∀ character ∈ gap, isBlank character = true) (lexable : token.IsLexable)
    (ends : token.EndsBefore behind) :
    (⟨position, gap ++ (token.text ++ behind)⟩ : Cursor).next =
      (.lexeme ⟨position + byteLength gap, token⟩,
        ⟨position + byteLength gap + byteLength token.text, behind⟩) := by
  obtain ⟨first, rest, text, notBlank, taken⟩ := run_text lexable ends
  rw [text] at taken ⊢
  exact next_of_run blank notBlank taken

theorem next_finish {position : Nat} {gap : List Char}
    (blank : ∀ character ∈ gap, isBlank character = true) :
    (⟨position, gap⟩ : Cursor).next =
      (.finish (position + byteLength gap), ⟨position + byteLength gap, []⟩) := by
  have skipped : (⟨position, gap⟩ : Cursor).skipBlanks = ⟨position + byteLength gap, []⟩ := by
    simpa using @skipBlanks_append position gap [] blank nofun
  rw [next, skipped]

theorem isBlank_of_skipBlanks {cursor : Cursor} {first : Char} {rest : List Char}
    (here : cursor.skipBlanks.rest = first :: rest) : isBlank first = false := by
  have head := List.head?_dropWhile_not isBlank cursor.rest
  rw [← rest_skipBlanks, here] at head
  simpa using head

theorem isLexable_of_run {first : Char} {rest characters : List Char} {token : Token}
    (notBlank : isBlank first = false) (taken : run first rest = (characters, .ok token)) :
    token.IsLexable := by
  unfold run at taken
  split at taken
  next =>
    cases taken
    trivial
  next notOpen =>
    split at taken
    next =>
      cases taken
      trivial
    next notClose =>
      split at taken
      next =>
        obtain ⟨-, found⟩ := Prod.mk.inj taken
        unfold Token.ofOperator at found
        split at found <;> cases found
        trivial
      next notOperator =>
        obtain ⟨-, found⟩ := Prod.mk.inj taken
        cases token with
        | identifier name =>
            have isWord : Word.isWordCharacter first = true := by
              simp only [startsOperator, Bool.or_eq_true, decide_eq_true_eq, not_or]
                at notOperator
              simp [Word.isWordCharacter, Word.isReserved, notBlank, notOpen, notClose,
                notOperator]
            have characters := Token.eq_ofList_of_ofWord_eq found
            have word : name.toList = (first :: rest).takeWhile Word.isWordCharacter := by
              rw [characters, String.toList_ofList]
            rw [← word] at found
            refine (Token.ofWord_eq_identifier_iff ?_ fun character membership => ?_).mp found
            · simp [word, isWord]
            · rw [word] at membership
              exact List.all_eq_true.mp List.all_takeWhile character membership
        | _ => trivial

theorem isLexable_of_next {cursor after : Cursor} {lexeme : Lexeme}
    (step : cursor.next = (.lexeme lexeme, after)) : lexeme.token.IsLexable := by
  simp only [next] at step
  split at step
  next => cases step
  next first rest here =>
    split at step
    next token taken =>
      cases step
      exact isLexable_of_run (isBlank_of_skipBlanks here) (Prod.ext rfl taken)
    next => cases step

/-- Whether a cursor stands in front of the rest of a text. -/
def LiesIn (text : String) (cursor : Cursor) : Prop :=
  ∃ front, text.toList = front ++ cursor.rest ∧ byteLength front = cursor.position

theorem LiesIn.isBoundary {text : String} {cursor : Cursor} (lies : cursor.LiesIn text) :
    IsBoundary text cursor.position := by
  obtain ⟨front, parts, position⟩ := lies
  rw [← position]
  exact isBoundary_of_append parts

theorem LiesIn.advance {text : String} {cursor : Cursor} (lies : cursor.LiesIn text)
    (count : Nat) : (cursor.advance count).LiesIn text := by
  obtain ⟨front, parts, position⟩ := lies
  refine ⟨front ++ cursor.rest.take count, ?_, ?_⟩
  · rw [parts, List.append_assoc, Cursor.advance, List.take_append_drop]
  · rw [byteLength_append, position, Cursor.advance]

theorem LiesIn.next {text : String} {cursor after : Cursor} {item : Item}
    (lies : cursor.LiesIn text) (step : cursor.next = (item, after)) : after.LiesIn text := by
  have here : cursor.skipBlanks.LiesIn text := lies.advance _
  simp only [Cursor.next] at step
  split at step
  next =>
    cases step
    exact here
  next =>
    cases step
    exact here.advance _

end Cursor

theorem Cursor.position_of_next {cursor after : Cursor} {item : Item}
    (step : cursor.next = (item, after)) : item.position = cursor.skipBlanks.position := by
  simp only [next] at step
  split at step
  next =>
    cases step
    rfl
  next =>
    cases step
    split <;> rfl

end TagCatalog.Filter
