import TagCatalog.Text.Hexadecimal
import TagCatalog.Text.Printable

/-!
Quoted text, in which every character can be seen.

`quoted` puts a text between double quotes and `quotedCharacter` a character
between single ones.  The quotation mark itself, the backslash, the common
controls and the characters that do not print are written as escapes.
-/

namespace TagCatalog.Text

def numberEscape (character : Char) : List Char :=
  ['\\', 'u', '\x7b'] ++ Hexadecimal.shortest character.toNat ++ ['\x7d']

def escaped (mark character : Char) : List Char :=
  if character = mark || character = '\\' then
    ['\\', character]
  else if character = '\n' then
    ['\\', 'n']
  else if character = '\r' then
    ['\\', 'r']
  else if character = '\t' then
    ['\\', 't']
  else if character = '\x00' then
    ['\\', '0']
  else if isPrintable character then
    [character]
  else
    numberEscape character

def quoted (text : String) : String :=
  String.ofList ('"' :: text.toList.flatMap (escaped '"') ++ ['"'])

def quotedCharacter (character : Char) : String :=
  String.ofList ('\'' :: escaped '\'' character ++ ['\''])

end TagCatalog.Text
