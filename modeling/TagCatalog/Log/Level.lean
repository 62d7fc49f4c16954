import TagCatalog.Terminal.Style

/-!
Levels of log lines.

A level says how much a line matters; a threshold lets through the lines that
matter at least as much as it says.
-/

namespace TagCatalog.Log

inductive Level where
  | error
  | warn
  | info
  | debug
  | trace
deriving DecidableEq

namespace Level

/-- The place of a level, from the lines that matter most. -/
def rank : Level → Nat
  | error => 1
  | warn => 2
  | info => 3
  | debug => 4
  | trace => 5

/-- The level as it stands in a line, five characters wide. -/
def label : Level → String
  | error => "ERROR"
  | warn => " WARN"
  | info => " INFO"
  | debug => "DEBUG"
  | trace => "TRACE"

def colour : Level → Terminal.Style
  | error => .red
  | warn => .yellow
  | info => .green
  | debug => .blue
  | trace => .purple

end Level

/-- The least a line has to matter; there is none if nothing is let through. -/
abbrev Threshold : Type := Option Level

def Threshold.allows (threshold : Threshold) (level : Level) : Bool :=
  match threshold with
  | some most => level.rank ≤ most.rank
  | none => false

end TagCatalog.Log
