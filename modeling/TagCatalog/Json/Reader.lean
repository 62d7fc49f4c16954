/-!
Readers of JSON text.

A reader goes over a text from left to right and stops at the first problem it
meets.  A problem is one of three faults: the text ends too early, it is not
JSON, or it is JSON of another shape than the one asked for.
-/

namespace TagCatalog.Json

inductive Fault where
  /-- The text ends too early. -/
  | ended
  /-- The text is not JSON. -/
  | malformed
  /-- A value is not of the kind that is asked for. -/
  | mismatched
deriving DecidableEq

def Fault.message : Fault → String
  | ended => "the document ends too early"
  | malformed => "the document is not JSON"
  | mismatched => "the document has a value of the wrong kind"

/-- Reads something at the start of a text and gives it together with the rest. -/
abbrev Reader (Result : Type) : Type :=
  List Char → Except Fault (Result × List Char)

def isSpace (character : Char) : Bool :=
  character = ' ' || character = '\n' || character = '\t' || character = '\r'

def skipSpace (text : List Char) : List Char :=
  text.dropWhile isSpace

def expect : List Char → List Char → Except Fault (List Char)
  | [], text => .ok text
  | _ :: _, [] => .error .ended
  | character :: more, first :: rest =>
      if character = first then expect more rest else .error .malformed

/-- Reads one mark, after space. -/
def mark (character : Char) (text : List Char) : Except Fault (List Char) :=
  expect [character] (skipSpace text)

end TagCatalog.Json
