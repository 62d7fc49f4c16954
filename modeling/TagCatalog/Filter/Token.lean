import TagCatalog.Filter.Comparator
import TagCatalog.Tag.Name
import TagCatalog.Text.Decimal
import TagCatalog.Text.Quoted

/-!
The tokens of filter texts.

A token is a word, a comparator or a parenthesis; words are names, integers and
the two keywords.  `ofWord` says which token a word is.  Positions are offsets
in bytes into the UTF-8 form of the text.
-/

namespace TagCatalog.Filter

inductive Token where
  | identifier (name : String)
  | integer (value : Int64)
  | comparator (comparator : Comparator)
  | and
  | or
  | openGroup
  | closeGroup
deriving DecidableEq

/-- What an error says about a token; the end of the text counts as one. -/
inductive TokenKind where
  | identifier
  | integer
  | comparator
  | and
  | or
  | openGroup
  | closeGroup
  | finish
deriving DecidableEq

namespace TokenKind

def description : TokenKind → String
  | identifier => "identifier"
  | integer => "integer"
  | comparator => "comparator"
  | and => "AND"
  | or => "OR"
  | openGroup => "'('"
  | closeGroup => "')'"
  | finish => "end of input"

def describeList : List TokenKind → String
  | [] => "nothing"
  | [last] => last.description
  | [first, last] => first.description ++ " or " ++ last.description
  | first :: rest => first.description ++ ", " ++ describeList rest

end TokenKind

def Token.kind : Token → TokenKind
  | identifier _ => .identifier
  | integer _ => .integer
  | comparator _ => .comparator
  | and => .and
  | or => .or
  | openGroup => .openGroup
  | closeGroup => .closeGroup

structure Lexeme where
  position : Nat
  token : Token
deriving DecidableEq

inductive LexFault where
  | unexpectedCharacter (character : Char)
  | malformedInteger (word : String)
  | integerOutOfRange (word : String)
deriving DecidableEq

structure LexError where
  position : Nat
  fault : LexFault
deriving DecidableEq

def LexFault.message : LexFault → String
  | unexpectedCharacter character => "unexpected character " ++ Text.quotedCharacter character
  | malformedInteger word => "malformed integer literal '" ++ word ++ "'"
  | integerOutOfRange word => "integer literal '" ++ word ++ "' is out of range"

def LexError.message (error : LexError) : String :=
  error.fault.message ++ " at position " ++ toString error.position

namespace Token

def numeral? (word : List Char) : Option (Bool × List Char) :=
  match word with
  | '-' :: digits => if Text.Decimal.isNumeral digits then some (true, digits) else none
  | digits => if Text.Decimal.isNumeral digits then some (false, digits) else none

/-- The token that a word is: a keyword, an integer if it looks like one, and a
name otherwise.  A word that starts with a hyphen must be an integer. -/
def ofWord (word : List Char) : Except LexFault Token :=
  let name := String.ofList word
  if name = Word.andKeyword then
    .ok .and
  else if name = Word.orKeyword then
    .ok .or
  else
    match numeral? word with
    | some (negative, digits) =>
        match Text.Decimal.signed? negative digits with
        | some value => .ok (.integer value)
        | none => .error (.integerOutOfRange name)
    | none =>
        if word.head? = some '-' then
          .error (.malformedInteger name)
        else
          .ok (.identifier name)

def ofOperator (first : Char) (symbol : List Char) : Except LexFault Token :=
  match Comparator.ofSymbol? (String.ofList symbol) with
  | some found => .ok (.comparator found)
  | none => .error (.unexpectedCharacter first)

end Token

end TagCatalog.Filter
