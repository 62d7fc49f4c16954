import TagCatalog.Json.Number
import TagCatalog.Json.Quotation

/-!
Values of any kind that do not count.

`skipValue` passes over one value, however deep.  It remembers the brackets that
are open.  Every step takes at least one character, so the text itself bounds
their number.
-/

namespace TagCatalog.Json

inductive Bracket where
  | array
  | object
deriving DecidableEq

def Bracket.closing : Bracket → Char
  | array => ']'
  | object => '}'

namespace Ignored

inductive Place where
  /-- A value has to come. -/
  | value
  /-- An opening bracket. -/
  | opening
  /-- A value. -/
  | behind

/-- Where a passage over a value is: what was read last, the brackets that are
open, innermost first, and the rest of the text. -/
structure Position where
  place : Place
  brackets : List Bracket
  rest : List Char

def skipString (text : List Char) : Except Fault (List Char) :=
  (Quotation.body true text).map Prod.snd

def skipKey (text : List Char) : Except Fault (List Char) := do
  let rest ← mark '"' text
  let rest ← skipString rest
  mark ':' rest

/-- Passes over a value without parts, or over an opening bracket. -/
def startValue (brackets : List Bracket) (first : Char) (rest : List Char) :
    Except Fault Position :=
  if first = 'n' then
    (expect ['u', 'l', 'l'] rest).map (⟨.behind, brackets, ·⟩)
  else if first = 't' then
    (expect ['r', 'u', 'e'] rest).map (⟨.behind, brackets, ·⟩)
  else if first = 'f' then
    (expect ['a', 'l', 's', 'e'] rest).map (⟨.behind, brackets, ·⟩)
  else if first = '"' then
    (skipString rest).map (⟨.behind, brackets, ·⟩)
  else if first = '[' then
    .ok ⟨.opening, .array :: brackets, rest⟩
  else if first = '{' then
    .ok ⟨.opening, .object :: brackets, rest⟩
  else if first = '-' || first.isDigit then
    (Numeral.read .malformed (first :: rest)).map fun read => ⟨.behind, brackets, read.2⟩
  else
    .error .malformed

def stepInside (place : Place) (bracket : Bracket) (around : List Bracket)
    (first : Char) (rest : List Char) : Except Fault Position :=
  match place with
  | .value => startValue (bracket :: around) first rest
  | .opening =>
      if first = bracket.closing then
        .ok ⟨.behind, around, rest⟩
      else
        match bracket with
        | .array => startValue (.array :: around) first rest
        | .object => (skipKey (first :: rest)).map (⟨.value, .object :: around, ·⟩)
  | .behind =>
      if first = bracket.closing then
        .ok ⟨.behind, around, rest⟩
      else if first = ',' then
        match bracket with
        | .array => .ok ⟨.value, .array :: around, rest⟩
        | .object => (skipKey rest).map (⟨.value, .object :: around, ·⟩)
      else
        .error .malformed

def step (position : Position) : Except Fault Position :=
  match skipSpace position.rest with
  | [] => .error .ended
  | first :: rest =>
      match position.brackets with
      | [] => startValue [] first rest
      | bracket :: around => stepInside position.place bracket around first rest

def Position.isComplete (position : Position) : Bool :=
  match position.place with
  | .behind => position.brackets.isEmpty
  | _ => false

/-- Goes on until the value is complete.  A step takes at least one character,
so where none of the text's characters is left for a further step, the text has
ended. -/
def run (characters : List Char) (position : Position) : Except Fault (List Char) :=
  if position.isComplete then
    .ok position.rest
  else
    match characters with
    | [] => .error .ended
    | _ :: characters =>
        match step position with
        | .ok next => run characters next
        | .error fault => .error fault

end Ignored

def skipValue (text : List Char) : Except Fault (List Char) :=
  Ignored.run text ⟨.value, [], text⟩

end TagCatalog.Json
