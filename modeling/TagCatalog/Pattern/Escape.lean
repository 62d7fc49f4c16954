import TagCatalog.Pattern.Flags
import TagCatalog.Text.Hexadecimal

/-!
What a backslash and the characters behind it stand for in a pattern.

`Escape.read?` reads what is behind a backslash.  No pattern holds a closing
brace, so an escape that has to end with one is never read.
-/

namespace TagCatalog.Pattern

open Text

inductive Escape where
  /-- A character for itself; it may be a byte that is written by its number. -/
  | literal (character : Char) (byte : Bool)
  /-- The class of the digits, the blanks or the letters, or all but these. -/
  | shorthand (negated : Bool)
  /-- A place at a boundary of words, or at none. -/
  | boundary
  /-- The start or the end of the text. -/
  | anchor

namespace Escape

/-- Reads some hexadecimal digits, with what does not count behind each. -/
def digits? (flags : Flags) : (count : Nat) → List Char → Option (List Char × List Char)
  | 0, text => some ([], text)
  | _ + 1, [] => none
  | count + 1, first :: rest =>
      if Hexadecimal.isDigit first then
        (digits? flags count (flags.skip rest)).map fun (digits, rest) => (first :: digits, rest)
      else
        none

def number? (flags : Flags) (count : Nat) (byte : Bool) (text : List Char) :
    Option (Escape × List Char) := do
  let (digits, rest) ← digits? flags count (flags.skip text)
  let number := Hexadecimal.value digits
  if number.isValidChar then
    some (.literal (Char.ofNat number) byte, rest)
  else
    none

def controls : List (Char × Char) :=
  [('a', '\x07'), ('f', '\x0c'), ('t', '\t'), ('n', '\n'), ('r', '\r'), ('v', '\x0b')]

def isMark (character : Char) : Bool :=
  character.toNat < 0x80 && !character.isAlphanum && character ≠ '<' && character ≠ '>'

def read? (flags : Flags) : List Char → Option (Escape × List Char)
  | [] => none
  | first :: rest =>
      match first with
      | 'x' => number? flags 2 true rest
      | 'u' => number? flags 4 false rest
      | 'U' => number? flags 8 false rest
      | 'd' | 's' | 'w' => some (.shorthand false, rest)
      | 'D' | 'S' | 'W' => some (.shorthand true, rest)
      | 'b' | 'B' | '<' | '>' => some (.boundary, rest)
      | 'A' | 'z' => some (.anchor, rest)
      | _ =>
          match controls.lookup first with
          | some control => some (.literal control false, rest)
          | none => if isMark first then some (.literal first false, rest) else none

end Escape

end TagCatalog.Pattern
