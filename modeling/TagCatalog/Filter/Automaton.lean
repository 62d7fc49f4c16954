import TagCatalog.Filter
import TagCatalog.Filter.Token

/-!
An automaton that builds filters from tokens.

A filter text is a chain of alternatives joined by `OR`, an alternative is a
chain of conditions joined by `AND`, and a condition is a name, a comparison or
a filter in parentheses.  `State.step` takes one token; `State.filter?` gives
the filter that the tokens so far are the text of, and `State.expected` the
kinds of token that may come next.  At most `maximalDepth` groups may be open
at once.
-/

namespace TagCatalog.Filter

def maximalDepth : Nat := 200

/-- The conjunction of a chain of conditions, latest first.  A single condition
stands for itself. -/
def conjunction : List Filter → Filter
  | [only] => only
  | conditions => .all conditions.reverse

/-- The disjunction of a chain of alternatives, latest first.  A single
alternative stands for itself. -/
def disjunction : List Filter → Filter
  | [only] => only
  | alternatives => .any alternatives.reverse

/-- The part of a group that has been read: the alternatives that are complete
and the conditions of the one that is not, each latest first. -/
structure Level where
  alternatives : List Filter
  conditions : List Filter

namespace Level

def empty : Level := ⟨[], []⟩

/-- The level after a further condition, which `AND` follows. -/
def addCondition (level : Level) (condition : Filter) : Level :=
  { level with conditions := condition :: level.conditions }

/-- The level after the last condition of an alternative, which `OR` follows. -/
def addAlternative (level : Level) (condition : Filter) : Level :=
  ⟨conjunction (condition :: level.conditions) :: level.alternatives, []⟩

def close (level : Level) (condition : Filter) : Filter :=
  disjunction (level.addAlternative condition).alternatives

end Level

/-- What the last tokens were. -/
inductive Phase where
  /-- A condition has to come. -/
  | start
  /-- A name, which is a condition unless a comparator follows. -/
  | name (name : String)
  /-- A name and a comparator, which an integer has to follow. -/
  | comparison (name : String) (comparator : Comparator)
  /-- A condition that is complete. -/
  | complete (condition : Filter)

/-- The condition that has just been read, if it can end here. -/
def Phase.condition? : Phase → Option Filter
  | start => none
  | name tagName => some (.present tagName)
  | comparison _ _ => none
  | complete condition => some condition

/-- What the automaton remembers: the levels around the open groups, innermost
first, the level it is in, and its phase. -/
structure State where
  outer : List Level
  level : Level
  phase : Phase

inductive Move where
  | shift (state : State)
  /-- The token cannot come here. -/
  | refuse
  /-- The token would open one group too many. -/
  | tooDeep

namespace State

/-- The state before the first token. -/
def initial : State := ⟨[], .empty, .start⟩

def filter? (state : State) : Option Filter :=
  if state.outer.isEmpty then state.phase.condition?.map state.level.close else none

def openGroup (state : State) : Move :=
  if state.outer.length < maximalDepth then
    .shift ⟨state.level :: state.outer, .empty, .start⟩
  else
    .tooDeep

def continueWith (outer : List Level) (level : Level) (condition : Filter) : Token → Move
  | .and => .shift ⟨outer, level.addCondition condition, .start⟩
  | .or => .shift ⟨outer, level.addAlternative condition, .start⟩
  | .closeGroup =>
      match outer with
      | [] => .refuse
      | around :: rest => .shift ⟨rest, around, .complete (level.close condition)⟩
  | _ => .refuse

def step (state : State) (token : Token) : Move :=
  match state.phase, token with
  | .start, .identifier name => .shift { state with phase := .name name }
  | .start, .openGroup => state.openGroup
  | .start, _ => .refuse
  | .name name, .comparator comparator =>
      .shift { state with phase := .comparison name comparator }
  | .name name, token => continueWith state.outer state.level (.present name) token
  | .comparison name comparator, .integer literal =>
      .shift { state with phase := .complete (.compare name comparator literal) }
  | .comparison _ _, _ => .refuse
  | .complete condition, token => continueWith state.outer state.level condition token

def closing (state : State) : TokenKind :=
  if state.outer.isEmpty then .finish else .closeGroup

def expected (state : State) : List TokenKind :=
  match state.phase with
  | .start => [.identifier, .openGroup]
  | .name _ => [.comparator, .and, .or, state.closing]
  | .comparison _ _ => [.integer]
  | .complete _ => [.and, .or, state.closing]

end State

end TagCatalog.Filter
