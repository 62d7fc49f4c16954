import TagCatalog.Text.Character

/-!
The flags under which a pattern is read.

Flags are switched on and off by letters, as in `i-u`.  Under `x` blanks and
comments between the parts of a pattern do not count.  Without the tables of
Unicode, no character can be taken regardless of case and no class of Unicode can
be named; `allowsMember` and its like say what is left.
-/

namespace TagCatalog.Pattern

open Text

structure Flags where
  /-- Whether the case of letters does not count. -/
  ignoreCase : Bool := false
  /-- Whether a pattern is about characters, and not about bytes. -/
  unicode : Bool := true
  /-- Whether blanks and comments do not count. -/
  spaced : Bool := false

/-- Drops blanks and comments.  A comment goes from its mark to the end of the
line. -/
def dropSpace (comment : Bool) : List Char → List Char
  | [] => []
  | first :: rest =>
      if comment then
        dropSpace (first ≠ '\n') rest
      else if isBlank first then
        dropSpace false rest
      else if first = '#' then
        dropSpace true rest
      else
        first :: rest

/-- The first character that is not blank.  Of a comment, only the mark is passed
over. -/
def firstUnspaced? (marked : Bool) : List Char → Option Char
  | [] => none
  | first :: rest =>
      if isBlank first then
        firstUnspaced? marked rest
      else if first = '#' && !marked then
        firstUnspaced? true rest
      else
        some first

namespace Flags

def skip (flags : Flags) (text : List Char) : List Char :=
  if flags.spaced then dropSpace false text else text

def peek? (flags : Flags) (text : List Char) : Option Char :=
  if flags.spaced then firstUnspaced? false text else text.head?

/-- The letters of flags; most of them do not matter for what a pattern may
hold. -/
def letters : List Char := ['i', 'm', 's', 'U', 'u', 'R', 'x']

def switch (state : Bool) (flags : Flags) (letter : Char) : Flags :=
  match letter with
  | 'i' => { flags with ignoreCase := state }
  | 'u' => { flags with unicode := state }
  | 'x' => { flags with spaced := state }
  | _ => flags

/-- The flags after a change: those of the letters before the hyphen are switched
on, those behind it off.  No letter comes twice. -/
def change? (flags : Flags) (text : List Char) : Option Flags :=
  let on := text.takeWhile fun letter => letter ≠ '-'
  let behind := text.drop on.length
  let off := behind.drop 1
  let given := on ++ off
  let once (letter : Char) : Bool := letters.contains letter && given.count letter = 1
  if given.all once && behind ≠ ['-'] then
    some (off.foldl (switch false) (on.foldl (switch true) flags))
  else
    none

/-- Whether a pattern may hold a character for itself.  A byte that is written by
its number has to be one of ASCII. -/
def allowsCharacter (flags : Flags) (character : Char) (byte : Bool) : Bool :=
  if flags.unicode then !flags.ignoreCase else !byte || character.toNat < 0x80

def allowsMember (flags : Flags) (character : Char) : Bool :=
  if flags.unicode then !flags.ignoreCase else character.toNat < 0x80

def allowsNamed (flags : Flags) (negated : Bool) : Bool :=
  if flags.unicode then !flags.ignoreCase else !negated

def allowsShorthand (flags : Flags) (negated : Bool) : Bool :=
  !flags.unicode && !negated

def allowsNegation (flags : Flags) : Bool :=
  flags.unicode

def allowsDot (flags : Flags) : Bool :=
  flags.unicode

end Flags

/-- How deep some parts that stand side by side are nested, given how deep each of
them is.  A part that stands alone is no deeper for it. -/
def depthOf : List Nat → Nat
  | [] => 0
  | [only] => only
  | several => several.foldl max 0 + 1

end TagCatalog.Pattern
