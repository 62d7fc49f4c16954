import TagCatalog.Filter.Automaton
import TagCatalog.Filter.Lexer

/-!
Filters read from text.

`parsePrefix` reads a filter as far as it goes, and `parse` a text that is a filter
as a whole.  Both stop at the first item at which no filter is left to find: a run of
characters that is no token, a token that may not come there, or a group too many.
What has been read so far has to be a filter then, so `a AND` is none.
-/

namespace TagCatalog.Filter

/-- Why a text is no filter.  Every error has a position in the text. -/
inductive ParseError where
  | lex (error : LexError)
  | unexpected (position : Nat) (expected : List TokenKind) (found : TokenKind)
  | tooDeep (position : Nat)
deriving DecidableEq

namespace ParseError

def position : ParseError → Nat
  | lex error => error.position
  | unexpected position _ _ => position
  | tooDeep position => position

def message : ParseError → String
  | lex error => error.message
  | unexpected position expected found =>
      "expected " ++ TokenKind.describeList expected ++ " at position " ++
        toString position ++ ", found " ++ found.description
  | tooDeep position =>
      "filter nests deeper than " ++ toString maximalDepth ++
        " groups at position " ++ toString position

end ParseError

/-- A filter with the place behind it and the kind of what stands there. -/
structure Parsed where
  filter : Filter
  position : Nat
  found : TokenKind
  /-- What could have stood there instead. -/
  expected : List TokenKind

namespace State

/-- Stops in front of an item that the automaton cannot take. -/
def stop (state : State) (position : Nat) (found : TokenKind) : Except ParseError Parsed :=
  match state.filter? with
  | some filter => .ok ⟨filter, position, found, state.expected⟩
  | none => .error (.unexpected position state.expected found)

def run (state : State) : Lexed → Except ParseError Parsed
  | .finish position => state.stop position .finish
  | .fault error => .error (.lex error)
  | .token lexeme rest =>
      match state.step lexeme.token with
      | .shift next => next.run rest
      | .refuse => state.stop lexeme.position lexeme.token.kind
      | .tooDeep => .error (.tooDeep lexeme.position)

end State

/-- The filter that the tokens are up to the first that cannot go on with it, and the
position of that one. -/
def parsePrefix (text : String) : Except ParseError (Filter × Nat) :=
  (State.initial.run (Lexed.ofText text)).map fun parsed => (parsed.filter, parsed.position)

def parse (text : String) : Except ParseError Filter :=
  match State.initial.run (Lexed.ofText text) with
  | .ok parsed =>
      if parsed.found = .finish then
        .ok parsed.filter
      else
        .error (.unexpected parsed.position parsed.expected parsed.found)
  | .error error => .error error

end TagCatalog.Filter
