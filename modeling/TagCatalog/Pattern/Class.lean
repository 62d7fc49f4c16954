import TagCatalog.Pattern.Escape

/-!
Classes of characters in a pattern, which stand between brackets.

A class has members: characters, ranges of characters, classes of ASCII with a
name, and further classes.  Operators between members combine what stands before
them with what stands behind them.  `Class.read?` reads a class and gives how deep
it is nested.
-/

namespace TagCatalog.Pattern.Class

open Text

def names : List String :=
  ["alnum", "alpha", "ascii", "blank", "cntrl", "digit", "graph", "lower", "print", "punct",
    "space", "upper", "word", "xdigit"]

/-- Reads a class with a name behind the bracket in front of it, and whether it is
negated. -/
def named? (text : List Char) : Option (Bool × List Char) :=
  match text with
  | ':' :: rest =>
      let negated : Bool := rest.head? = some '^'
      let rest := if negated then rest.tail else rest
      let name := rest.takeWhile fun character => character ≠ ':'
      match rest.drop name.length with
      | ':' :: ']' :: rest =>
          if names.contains (String.ofList name) then some (negated, rest) else none
      | _ => none
  | _ => none

def item? (flags : Flags) : List Char → Option (Escape × List Char)
  | [] => none
  | '\\' :: rest => Escape.read? flags rest
  | first :: rest => some (.literal first false, rest)

def allows (flags : Flags) : Escape → Bool
  | .literal character _ => flags.allowsMember character
  | .shorthand negated => flags.allowsShorthand negated
  | .boundary | .anchor => false

def allowsRange (flags : Flags) : Escape → Escape → Bool
  | .literal first _, .literal last _ =>
      first.toNat ≤ last.toNat && flags.allowsMember first && flags.allowsMember last
  | _, _ => false

/-- Reads a member that is no class in brackets: a range if a hyphen follows that
is not the last character of the class or a part of an operator. -/
def member? (flags : Flags) (text : List Char) : Option (List Char) := do
  let (first, rest) ← item? flags text
  let single : Option (List Char) := if allows flags first then some rest else none
  match flags.skip rest with
  | '-' :: behind =>
      let next := flags.peek? behind
      if next = some ']' || next = some '-' then
        single
      else do
        let (last, rest) ← item? flags (flags.skip behind)
        if allowsRange flags first last then some rest else none
  | _ => single

inductive Opening where
  /-- Nothing has come, so a closing bracket is a member. -/
  | fresh
  /-- Only hyphens have come, which are members. -/
  | hyphens
  | inside
deriving DecidableEq

/-- What has been read of a class. -/
structure Level where
  opening : Opening := .fresh
  /-- How deep what stands before the last operator is nested. -/
  left : Option Nat := none
  /-- How deep the members behind it are nested. -/
  members : List Nat := []

namespace Level

/-- The class with a further member. -/
def add (level : Level) (depth : Nat) : Level :=
  { level with opening := .inside, members := depth :: level.members }

def addHyphen (level : Level) : Level :=
  { level.add 0 with opening := .hyphens }

def depth (level : Level) : Nat :=
  match level.left with
  | none => depthOf level.members
  | some left => max left (depthOf level.members) + 1

def combine (level : Level) : Level :=
  { opening := .inside, left := some level.depth }

end Level

/-- Whether a character that comes twice is an operator. -/
def isOperator (character : Char) : Bool :=
  character = '&' || character = '-' || character = '~'

def open? (flags : Flags) (text : List Char) : Option (List Char) :=
  match flags.skip text with
  | '^' :: rest => if flags.allowsNegation then some rest else none
  | rest => some rest

/-- Reads on in a class within others, up to the end of the outermost.  Every step
takes a character, so there are never more steps than characters. -/
def readOn? (flags : Flags) :
    (steps : List Char) → Level → List Level → List Char → Option (Nat × List Char)
  | [], _, _, _ => none
  | _ :: steps, level, outer, text =>
      match flags.skip text with
      | [] => none
      | first :: rest =>
          if first = '-' && level.opening ≠ .inside then
            if flags.allowsMember '-' then
              readOn? flags steps level.addHyphen outer rest
            else
              none
          else if first = ']' && level.opening = .fresh then
            if flags.allowsMember ']' then readOn? flags steps (level.add 0) outer rest else none
          else if first = ']' then
            match outer with
            | [] => some (level.depth + 1, rest)
            | next :: outer => readOn? flags steps (next.add (level.depth + 1)) outer rest
          else if first = '[' then
            match named? rest with
            | some (negated, rest) =>
                if flags.allowsNamed negated then
                  readOn? flags steps (level.add 0) outer rest
                else
                  none
            | none => do
                let rest ← open? flags rest
                readOn? flags steps {} (level :: outer) rest
          else if isOperator first && rest.head? = some first then
            readOn? flags steps level.combine outer rest.tail
          else do
            let rest ← member? flags (first :: rest)
            readOn? flags steps (level.add 0) outer rest

def read? (flags : Flags) (text : List Char) : Option (Nat × List Char) := do
  let rest ← open? flags text
  readOn? flags rest {} [] rest

end TagCatalog.Pattern.Class
