import TagCatalog.Text.Character
import TagCatalog.Text.Quoted

/-!
The names that a tag may be given.

Filter texts are made of words, which end at a blank or at a reserved character,
and two of which are keywords.  A name without a fault (`fault?`) is a word that a
filter text reads as a name.
-/

namespace TagCatalog.Word

/-- The characters that mean something of their own in a filter text. -/
def isReserved (character : Char) : Bool :=
  character = '(' || character = ')' || character = '=' || character = '!' ||
    character = '<' || character = '>'

def isWordCharacter (character : Char) : Bool :=
  !Text.isBlank character && !isReserved character

def orKeyword : String := "OR"

def andKeyword : String := "AND"

end TagCatalog.Word

namespace TagCatalog.Tag.Name

inductive Fault where
  | empty
  | invalidCharacter (character : Char)
  | keyword (word : String)
  | leadingHyphen
  | numeric
deriving DecidableEq

/-- What is wrong with a name, if anything is: it is empty, has a character
that ends a word, is a keyword, or would be read as a number. -/
def fault? (name : String) : Option Fault :=
  let characters := name.toList
  if characters.isEmpty then
    some .empty
  else
    match characters.find? fun character => !Word.isWordCharacter character with
    | some character => some (.invalidCharacter character)
    | none =>
        if name = Word.andKeyword || name = Word.orKeyword then
          some (.keyword name)
        else if characters.head? = some '-' then
          some .leadingHyphen
        else if characters.all Char.isDigit then
          some .numeric
        else
          none

def Fault.message : Fault → String
  | .empty => "tag name cannot be empty"
  | .invalidCharacter character =>
      "tag name contains invalid character " ++ Text.quotedCharacter character ++
        " (whitespace, parentheses and = ! < > are reserved)"
  | .keyword word => "tag name cannot be the keyword '" ++ word ++ "'"
  | .leadingHyphen => "tag name cannot start with a hyphen"
  | .numeric => "tag name cannot be a number"

end TagCatalog.Tag.Name
