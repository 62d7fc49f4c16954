import TagCatalog.Json.Reader
import TagCatalog.Text.Bytes
import TagCatalog.Text.Hexadecimal

/-!
Strings in JSON text, and its arrangement in lines.

`write` puts a text between quotation marks, with escapes for the marks, the
backslash and the controls; `body` reads what follows the opening mark.  A
character may be written as one or two escaped units of sixteen bits.  Two
units must be a leading and a trailing one; where the content does not count,
`loose` reading takes any units.

Every element of a bracket stands on a line of its own, two spaces deeper than the
bracket; empty brackets stay closed on one line.
-/

namespace TagCatalog.Json

namespace Quotation

open Text

def escapeLetter? (character : Char) : Option Char :=
  if character = '"' then some '"'
  else if character = '\\' then some '\\'
  else if character = '\x08' then some 'b'
  else if character = '\x0c' then some 'f'
  else if character = '\n' then some 'n'
  else if character = '\r' then some 'r'
  else if character = '\t' then some 't'
  else none

def writeCharacter (character : Char) : List Char :=
  match escapeLetter? character with
  | some letter => ['\\', letter]
  | none =>
      if character.toNat < 0x20 then
        '\\' :: 'u' :: Hexadecimal.lower 4 character.toNat
      else
        [character]

def write (text : String) : List Char :=
  '"' :: text.toList.flatMap writeCharacter ++ ['"']

def ofEscapeLetter? (letter : Char) : Option Char :=
  if letter = '"' then some '"'
  else if letter = '\\' then some '\\'
  else if letter = '/' then some '/'
  else if letter = 'b' then some '\x08'
  else if letter = 'f' then some '\x0c'
  else if letter = 'n' then some '\n'
  else if letter = 'r' then some '\r'
  else if letter = 't' then some '\t'
  else none

def unit : List Char → Except Fault (Nat × List Char)
  | first :: second :: third :: fourth :: rest =>
      let digits := [first, second, third, fourth]
      if digits.all Hexadecimal.isDigit then
        .ok (Hexadecimal.value digits, rest)
      else
        .error .malformed
  | short => .error (if byteLength short < 4 then .ended else .malformed)

def isLeading (unit : Nat) : Bool :=
  0xD800 ≤ unit && unit < 0xDC00

def isTrailing (unit : Nat) : Bool :=
  0xDC00 ≤ unit && unit < 0xE000

def ofPair (leading trailing : Nat) : Char :=
  Char.ofNat (0x10000 + (leading - 0xD800) * 0x400 + (trailing - 0xDC00))

/-- Reads the escape that has to follow a leading unit. -/
def trailingUnit (text : List Char) : Except Fault (Nat × List Char) := do
  let rest ← expect ['\\', 'u'] text
  let (second, rest) ← unit rest
  if isTrailing second then return (second, rest) else throw .malformed

def units (text : List Char) : Except Fault (Char × List Char) := do
  let (first, rest) ← unit text
  if isTrailing first then
    throw .malformed
  else if isLeading first then
    let (second, rest) ← trailingUnit rest
    return (ofPair first second, rest)
  else
    return (Char.ofNat first, rest)

def anyUnit (text : List Char) : Except Fault (Char × List Char) := do
  let (_, rest) ← unit text
  return ('\ufffd', rest)

def escape (loose : Bool) : List Char → Except Fault (Char × List Char)
  | [] => .error .ended
  | letter :: rest =>
      if letter = 'u' then
        if loose then anyUnit rest else units rest
      else
        match ofEscapeLetter? letter with
        | some character => .ok (character, rest)
        | none => .error .malformed

def next (loose : Bool) : List Char → Except Fault (Option Char × List Char)
  | [] => .error .ended
  | first :: rest =>
      if first = '"' then
        .ok (none, rest)
      else if first = '\\' then
        (escape loose rest).map fun (character, rest) => (some character, rest)
      else if first.toNat < 0x20 then
        .error .malformed
      else
        .ok (some first, rest)

theorem unit_length_le {text rest : List Char} {number : Nat}
    (read : unit text = .ok (number, rest)) : rest.length ≤ text.length := by
  unfold unit at read
  split at read
  · simp only at read
    split at read
    · obtain ⟨-, rfl⟩ := Prod.mk.inj (Except.ok.inj read)
      simp only [List.length_cons]
      omega
    · exact nomatch read
  · exact nomatch read

theorem expect_length_le {characters text rest : List Char}
    (read : expect characters text = .ok rest) : rest.length ≤ text.length := by
  induction characters generalizing text with
  | nil =>
      cases read
      exact Nat.le_refl _
  | cons character more inductionHypothesis =>
      cases text with
      | nil => exact nomatch read
      | cons first others =>
          simp only [expect] at read
          split at read
          · exact Nat.le_succ_of_le (inductionHypothesis read)
          · exact nomatch read

theorem trailingUnit_length_le {text rest : List Char} {number : Nat}
    (read : trailingUnit text = .ok (number, rest)) : rest.length ≤ text.length := by
  simp only [trailingUnit, bind, Except.bind] at read
  split at read
  next => exact nomatch read
  next behind marked =>
    split at read
    next => exact nomatch read
    next second unitRead =>
      split at read
      · obtain ⟨-, rfl⟩ := Prod.mk.inj (Except.ok.inj read)
        exact Nat.le_trans (unit_length_le unitRead) (expect_length_le marked)
      · exact nomatch read

theorem units_length_le {text rest : List Char} {character : Char}
    (read : units text = .ok (character, rest)) : rest.length ≤ text.length := by
  simp only [units, bind, Except.bind] at read
  split at read
  next => exact nomatch read
  next first unitRead =>
    split at read
    · exact nomatch read
    · split at read
      · split at read
        next => exact nomatch read
        next second trailingRead =>
          obtain ⟨-, rfl⟩ := Prod.mk.inj (Except.ok.inj read)
          exact Nat.le_trans (trailingUnit_length_le trailingRead) (unit_length_le unitRead)
      · obtain ⟨-, rfl⟩ := Prod.mk.inj (Except.ok.inj read)
        exact unit_length_le unitRead

theorem anyUnit_length_le {text rest : List Char} {character : Char}
    (read : anyUnit text = .ok (character, rest)) : rest.length ≤ text.length := by
  simp only [anyUnit, bind, Except.bind] at read
  split at read
  next => exact nomatch read
  next first unitRead =>
    obtain ⟨-, rfl⟩ := Prod.mk.inj (Except.ok.inj read)
    exact unit_length_le unitRead

theorem escape_length_le {loose : Bool} {text rest : List Char} {character : Char}
    (read : escape loose text = .ok (character, rest)) : rest.length ≤ text.length := by
  cases text with
  | nil => exact nomatch read
  | cons letter others =>
      simp only [escape] at read
      split at read
      · split at read
        · exact Nat.le_succ_of_le (anyUnit_length_le read)
        · exact Nat.le_succ_of_le (units_length_le read)
      · split at read
        · obtain ⟨-, rfl⟩ := Prod.mk.inj (Except.ok.inj read)
          exact Nat.le_succ _
        · exact nomatch read

/-- Every character takes some of the text. -/
theorem next_length_lt {loose : Bool} {text rest : List Char} {character : Option Char}
    (read : next loose text = .ok (character, rest)) : rest.length < text.length := by
  cases text with
  | nil => exact nomatch read
  | cons first others =>
      simp only [next] at read
      split at read
      · obtain ⟨-, rfl⟩ := Prod.mk.inj (Except.ok.inj read)
        exact Nat.lt_succ_self _
      · split at read
        · cases escaped : escape loose others with
          | error fault =>
              rw [escaped] at read
              exact nomatch read
          | ok result =>
              rw [escaped] at read
              obtain ⟨-, rfl⟩ := Prod.mk.inj (Except.ok.inj read)
              exact Nat.lt_succ_of_le (escape_length_le escaped)
        · split at read
          · exact nomatch read
          · obtain ⟨-, rfl⟩ := Prod.mk.inj (Except.ok.inj read)
            exact Nat.lt_succ_self _

def body (loose : Bool) (text : List Char) : Except Fault (List Char × List Char) :=
  match _step : next loose text with
  | .error fault => .error fault
  | .ok (none, rest) => .ok ([], rest)
  | .ok (some character, rest) =>
      (body loose rest).map fun (characters, rest) => (character :: characters, rest)
termination_by text.length
decreasing_by exact next_length_lt ‹_›

end Quotation

namespace Lines

def start (depth : Nat) : List Char :=
  '\n' :: List.replicate (2 * depth) ' '

/-- The lines of the elements, with a comma behind each but the last. -/
def separated (depth : Nat) : List (List Char) → List Char
  | [] => []
  | [last] => start depth ++ last
  | element :: rest => start depth ++ element ++ ',' :: separated depth rest

/-- A bracket around elements that are written for the next depth. -/
def bracket (opening closing : Char) (depth : Nat) (elements : List (List Char)) : List Char :=
  if elements.isEmpty then
    [opening, closing]
  else
    opening :: separated (depth + 1) elements ++ start depth ++ [closing]

def array (depth : Nat) (elements : List (List Char)) : List Char :=
  bracket '[' ']' depth elements

def object (depth : Nat) (members : List (List Char)) : List Char :=
  bracket '{' '}' depth members

def member (key : String) (value : List Char) : List Char :=
  Quotation.write key ++ ':' :: ' ' :: value

end Lines

end TagCatalog.Json
