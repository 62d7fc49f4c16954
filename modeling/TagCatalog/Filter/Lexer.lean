import TagCatalog.Filter.Token
import TagCatalog.Text.Bytes

/-!
The division of filter texts into tokens.

A `Cursor` stands between two characters of a text.  `Cursor.next` skips blanks
and takes the longest run of characters that belong together: a parenthesis, an
operator with the equals sign behind it, or a word.  It moves past that run also
if it is no token.  `Lexed.ofText` collects the tokens up to the end of the text
or the first run that is none, which is all that a reader of filters sees; a
`Lexer` gives the same items one at a time.
-/

namespace TagCatalog.Filter

/-- A place in a text: its offset in bytes and the characters behind it. -/
structure Cursor where
  position : Nat
  rest : List Char
deriving DecidableEq

inductive Item where
  | lexeme (lexeme : Lexeme)
  | finish (position : Nat)
  | fault (error : LexError)
deriving DecidableEq

namespace Cursor

def start (text : List Char) : Cursor :=
  ⟨0, text⟩

def advance (cursor : Cursor) (count : Nat) : Cursor :=
  ⟨cursor.position + Text.byteLength (cursor.rest.take count), cursor.rest.drop count⟩

def skipBlanks (cursor : Cursor) : Cursor :=
  cursor.advance (cursor.rest.takeWhile Text.isBlank).length

def startsOperator (character : Char) : Bool :=
  character = '=' || character = '!' || character = '<' || character = '>'

def operator (first : Char) (rest : List Char) : List Char :=
  if rest.head? = some '=' then [first, '='] else [first]

/-- The characters that belong together at the start of a text, and what they
are. -/
def run (first : Char) (rest : List Char) : List Char × Except LexFault Token :=
  if first = '(' then
    ([first], .ok .openGroup)
  else if first = ')' then
    ([first], .ok .closeGroup)
  else if startsOperator first then
    (operator first rest, Token.ofOperator first (operator first rest))
  else
    let word := (first :: rest).takeWhile Word.isWordCharacter
    (word, Token.ofWord word)

/-- The next item, and the place behind it. -/
def next (cursor : Cursor) : Item × Cursor :=
  let here := cursor.skipBlanks
  match here.rest with
  | [] => (.finish here.position, here)
  | first :: rest =>
      let (characters, result) := run first rest
      let item :=
        match result with
        | .ok token => Item.lexeme ⟨here.position, token⟩
        | .error fault => Item.fault ⟨here.position, fault⟩
      (item, here.advance characters.length)

theorem run_ne_nil {first : Char} {rest : List Char}
    (notBlank : Text.isBlank first = false) : (run first rest).1 ≠ [] := by
  unfold run
  split
  · simp
  · split
    · simp
    · split
      · unfold operator
        split <;> simp
      next notOpen notClose notOperator =>
        have isWord : Word.isWordCharacter first = true := by
          simp only [startsOperator, Bool.or_eq_true, decide_eq_true_eq, not_or] at notOperator
          simp [Word.isWordCharacter, Word.isReserved, notBlank, notOpen, notClose,
            notOperator]
        simp [isWord]

theorem rest_skipBlanks (cursor : Cursor) :
    cursor.skipBlanks.rest = cursor.rest.dropWhile Text.isBlank := by
  simp only [skipBlanks, advance]
  generalize cursor.rest = text
  induction text with
  | nil => rfl
  | cons first rest inductionHypothesis =>
      by_cases blank : Text.isBlank first = true
      · simp [blank, inductionHypothesis]
      · simp [blank]

/-- Every item but the end of the text takes some of it. -/
theorem next_rest_length_lt {cursor : Cursor} {item : Item} {after : Cursor}
    (step : cursor.next = (item, after)) (more : ∀ position, item ≠ .finish position) :
    after.rest.length < cursor.rest.length := by
  simp only [next] at step
  split at step
  next => exact absurd (congrArg Prod.fst step).symm (more _)
  next first rest here =>
    have shorter : (first :: rest).length ≤ cursor.rest.length := by
      rw [← here, rest_skipBlanks]
      exact (List.dropWhile_sublist _).length_le
    have notBlank : Text.isBlank first = false := by
      have head := List.head?_dropWhile_not Text.isBlank cursor.rest
      rw [← rest_skipBlanks, here] at head
      simpa using head
    have positive : 0 < (run first rest).1.length :=
      List.length_pos_iff.mpr (run_ne_nil notBlank)
    have behind : after = cursor.skipBlanks.advance (run first rest).1.length :=
      (congrArg Prod.snd step).symm
    rw [behind]
    simp only [advance, List.length_drop, here]
    simp only [List.length_cons] at shorter ⊢
    omega

end Cursor

/-- A text divided into tokens, up to its end or the first run of characters
that is no token. -/
inductive Lexed where
  | finish (position : Nat)
  | fault (error : LexError)
  | token (lexeme : Lexeme) (rest : Lexed)

namespace Lexed

def ofCursor (cursor : Cursor) : Lexed :=
  match _step : cursor.next with
  | (.finish position, _) => finish position
  | (.fault error, _) => fault error
  | (.lexeme lexeme, after) => token lexeme (ofCursor after)
termination_by cursor.rest.length
decreasing_by exact Cursor.next_rest_length_lt ‹_› (by simp)

def ofText (text : String) : Lexed :=
  ofCursor (Cursor.start text.toList)

def items : Lexed → List Item
  | finish position => [.finish position]
  | fault error => [.fault error]
  | token lexeme rest => .lexeme lexeme :: rest.items

end Lexed

/-- A reader of items that can be stopped, restarted and copied.  Once it has
given the end of the text or a fault as its next item, it is finished. -/
structure Lexer where
  text : List Char
  cursor : Cursor
  finished : Bool

namespace Lexer

def ofText (text : String) : Lexer :=
  ⟨text.toList, Cursor.start text.toList, false⟩

def reset (lexer : Lexer) : Lexer :=
  { lexer with cursor := Cursor.start lexer.text, finished := false }

/-- The item at the cursor, whether or not the lexer is finished. -/
def take (lexer : Lexer) : Item × Lexer :=
  let (item, cursor) := lexer.cursor.next
  (item, { lexer with cursor })

/-- The next item, unless the lexer is finished. -/
def next (lexer : Lexer) : Option Item × Lexer :=
  if lexer.finished then
    (none, lexer)
  else
    match lexer.take with
    | (.lexeme lexeme, after) => (some (.lexeme lexeme), after)
    | (item, after) => (some item, { after with finished := true })

def remaining (lexer : Lexer) : List Item :=
  if lexer.finished then [] else (Lexed.ofCursor lexer.cursor).items

end Lexer

end TagCatalog.Filter
