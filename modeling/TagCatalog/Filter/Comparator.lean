/-!
The six comparisons of integers that a filter can make.

`holds` decides a comparison, `symbol` writes it, and `ofSymbol?` reads it;
`ofSymbol?_symbol` says that reading undoes writing.
-/

namespace TagCatalog

inductive Comparator where
  | equal
  | notEqual
  | lessThan
  | greaterThan
  | lessOrEqual
  | greaterOrEqual
deriving DecidableEq

namespace Comparator

def holds : Comparator → Int64 → Int64 → Bool
  | equal, left, right => left = right
  | notEqual, left, right => left ≠ right
  | lessThan, left, right => left < right
  | greaterThan, left, right => right < left
  | lessOrEqual, left, right => left ≤ right
  | greaterOrEqual, left, right => right ≤ left

def symbol : Comparator → String
  | equal => "=="
  | notEqual => "!="
  | lessThan => "<"
  | greaterThan => ">"
  | lessOrEqual => "<="
  | greaterOrEqual => ">="

def all : List Comparator :=
  [equal, notEqual, lessThan, greaterThan, lessOrEqual, greaterOrEqual]

def ofSymbol? (symbol : String) : Option Comparator :=
  all.find? fun comparator => comparator.symbol = symbol

@[simp]
theorem ofSymbol?_symbol (comparator : Comparator) :
    ofSymbol? comparator.symbol = some comparator := by
  cases comparator <;> rfl

theorem symbol_eq_of_ofSymbol? {symbol : String} {comparator : Comparator}
    (found : ofSymbol? symbol = some comparator) : comparator.symbol = symbol := by
  simpa using List.find?_some found

def invalidMessage (symbol : String) : String :=
  "invalid comparator '" ++ symbol ++ "'"

end Comparator

end TagCatalog
