import TagCatalog.Pattern.Class
import TagCatalog.Text.Alphabetic
import TagCatalog.Text.Alphanumeric

/-!
Patterns that describe texts: regular expressions.

`Pattern.fault?` says what keeps a pattern from being used; it is not looked at
what the pattern matches.  A pattern is read from left to right: groups that are
open wait on a stack, each with the flags that hold again behind it.  A pattern
stands before a closing brace and never holds one, so an opening brace outside of
classes, which starts a count, is always a mistake.
-/

namespace TagCatalog.Pattern

open Text

inductive Fault where
  | malformed
  /-- A boundary of words needs to know the letters of Unicode. -/
  | boundary
deriving DecidableEq

def Fault.message : Fault → String
  | malformed => "error building NFA"
  | boundary =>
      "unsupported regex feature for DFAs: cannot build DFAs for regexes with Unicode word " ++
        "boundaries; switch to ASCII word boundaries, or heuristically enable Unicode word " ++
        "boundaries or use a different regex engine"

/-- A part of a pattern. -/
inductive Item where
  /-- A change of flags, which cannot be repeated. -/
  | directive
  | expression (depth : Nat)

def Item.depth : Item → Nat
  | directive => 0
  | expression depth => depth

/-- Alternatives: how deep the finished ones are nested, and the parts of the
last one, latest first. -/
structure Alternatives where
  finished : List Nat := []
  items : List Item := []

namespace Alternatives

def lastDepth (alternatives : Alternatives) : Nat :=
  depthOf (alternatives.items.map Item.depth)

def depth (alternatives : Alternatives) : Nat :=
  depthOf (alternatives.lastDepth :: alternatives.finished)

def add (alternatives : Alternatives) (item : Item) : Alternatives :=
  { alternatives with items := item :: alternatives.items }

def finish (alternatives : Alternatives) : Alternatives :=
  ⟨alternatives.lastDepth :: alternatives.finished, []⟩

def repeat? (alternatives : Alternatives) : Option Alternatives :=
  match alternatives.items with
  | .expression depth :: items =>
      some { alternatives with items := .expression (depth + 1) :: items }
  | _ => none

end Alternatives

structure Reading where
  flags : Flags := {}
  /-- What has been read of the innermost group. -/
  current : Alternatives := {}
  /-- What stands before the groups that are open, with the flags there. -/
  outer : List (Flags × Alternatives) := []
  /-- The names of groups. -/
  names : List (List Char) := []
  /-- Whether the pattern asks for boundaries of words of Unicode. -/
  boundaries : Bool := false

namespace Reading

/-- The greatest depth to which the parts of a pattern may be nested. -/
def depthLimit : Nat := 250

def add (reading : Reading) (item : Item) : Reading :=
  { reading with current := reading.current.add item }

def addIf (allowed : Bool) (reading : Reading) : Option Reading :=
  if allowed then some (reading.add (.expression 0)) else none

def openGroup (reading : Reading) (flags : Flags) : Reading :=
  { reading with
    flags
    current := {}
    outer := (reading.flags, reading.current) :: reading.outer }

def closeGroup? (reading : Reading) : Option Reading :=
  match reading.outer with
  | [] => none
  | (flags, alternatives) :: outer =>
      some { reading with
        flags
        current := alternatives.add (.expression (reading.current.depth + 1))
        outer }

def isName : List Char → Bool
  | [] => false
  | first :: rest =>
      (first = '_' || isAlphabetic first) && rest.all fun character =>
        ['_', '.', '[', ']'].contains character || isAlphanumeric character

/-- Opens a group behind the start of its name.  No two groups have one name. -/
def openNamed? (reading : Reading) (text : List Char) : Option (Reading × List Char) :=
  let name := text.takeWhile fun character => character ≠ '>'
  match text.drop name.length with
  | '>' :: rest =>
      if isName name && !reading.names.contains name then
        some ({ reading.openGroup reading.flags with names := name :: reading.names }, rest)
      else
        none
  | _ => none

/-- Changes the flags, for a group or for what is left of the group. -/
def changeFlags? (reading : Reading) (text : List Char) : Option (Reading × List Char) := do
  let letters := text.takeWhile fun character => character ≠ ':' && character ≠ ')'
  let flags ← reading.flags.change? letters
  match text.drop letters.length with
  | ':' :: rest => some (reading.openGroup flags, rest)
  | ')' :: rest =>
      if letters.isEmpty then none else some ({ reading.add .directive with flags }, rest)
  | _ => none

def readGroup? (reading : Reading) (text : List Char) : Option (Reading × List Char) :=
  match reading.flags.skip text with
  | '?' :: 'P' :: '<' :: rest => reading.openNamed? rest
  | '?' :: '<' :: rest => reading.openNamed? rest
  | '?' :: rest => reading.changeFlags? rest
  | rest => some (reading.openGroup reading.flags, rest)

def addEscape? (reading : Reading) : Escape → Option Reading
  | .literal character byte => reading.addIf (reading.flags.allowsCharacter character byte)
  | .shorthand negated => reading.addIf (reading.flags.allowsShorthand negated)
  | .boundary =>
      some { reading.add (.expression 0) with
        boundaries := reading.boundaries || reading.flags.unicode }
  | .anchor => some (reading.add (.expression 0))

/-- Repeats the last part.  A question mark says that it is repeated as little as
possible. -/
def repeatLast? (reading : Reading) (text : List Char) : Option (Reading × List Char) :=
  reading.current.repeat?.map fun current =>
    ({ reading with current }, if text.head? = some '?' then text.tail else text)

/-- Takes a character, and more characters if it starts something. -/
def step? (reading : Reading) (first : Char) (rest : List Char) :
    Option (Reading × List Char) :=
  match first with
  | '(' => reading.readGroup? rest
  | ')' => reading.closeGroup?.map fun reading => (reading, rest)
  | '|' => some ({ reading with current := reading.current.finish }, rest)
  | '[' =>
      (Class.read? reading.flags rest).map fun (depth, rest) =>
        (reading.add (.expression depth), rest)
  | '?' | '*' | '+' => reading.repeatLast? rest
  | '\x7b' => none
  | '\\' => do
      let (escape, rest) ← Escape.read? reading.flags rest
      (reading.addEscape? escape).map fun reading => (reading, rest)
  | '.' => (reading.addIf reading.flags.allowsDot).map fun reading => (reading, rest)
  | '^' | '$' => some (reading.add (.expression 0), rest)
  | _ =>
      (reading.addIf (reading.flags.allowsCharacter first false)).map fun reading =>
        (reading, rest)

/-- Reads on to the end.  Every step takes a character, so there are never more
steps than characters. -/
def readOn? (reading : Reading) : (steps text : List Char) → Option Reading
  | steps, text =>
      match reading.flags.skip text, steps with
      | [], _ => some reading
      | _ :: _, [] => none
      | first :: rest, _ :: steps => do
          let (reading, rest) ← reading.step? first rest
          reading.readOn? steps rest

def isComplete (reading : Reading) : Bool :=
  reading.outer.isEmpty && reading.current.depth ≤ depthLimit

end Reading

def fault? (text : List Char) : Option Fault :=
  match Reading.readOn? {} text text with
  | none => some .malformed
  | some reading =>
      if !reading.isComplete then
        some .malformed
      else if reading.boundaries then
        some .boundary
      else
        none

end TagCatalog.Pattern
