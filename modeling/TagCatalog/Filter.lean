import TagCatalog.File
import TagCatalog.Filter.Comparator

/-!
Filters: conditions on the tags of a file.

`accepts` evaluates a filter on a list of tags, of which only the first tag of
each name counts.  `display` shows a filter in one line; it does not tell the
two kinds of connective apart.
-/

namespace TagCatalog

inductive Filter where
  /-- Some tag has this name. -/
  | present (name : String)
  /-- The first tag with this name has a value that compares as asked. -/
  | compare (name : String) (comparator : Comparator) (literal : Int64)
  /-- Every condition holds. -/
  | all (conditions : List Filter)
  /-- Some alternative holds. -/
  | any (alternatives : List Filter)

namespace Filter

/-- The first tag with a name. -/
def firstNamed (name : String) (tags : List Tag) : Option Tag :=
  tags.find? fun tag => tag.name = name

/-- Whether a comparison holds of a tag; it never does of a plain one. -/
def comparison (comparator : Comparator) (literal : Int64) (tag : Tag) : Bool :=
  match tag.value with
  | some value => comparator.holds value literal
  | none => false

mutual

def accepts : Filter → List Tag → Bool
  | present name, tags => (firstNamed name tags).isSome
  | compare name comparator literal, tags =>
      (firstNamed name tags).any (comparison comparator literal)
  | all conditions, tags => allAccept conditions tags
  | any alternatives, tags => anyAccepts alternatives tags

def allAccept : List Filter → List Tag → Bool
  | [], _ => true
  | filter :: rest, tags => filter.accepts tags && allAccept rest tags

def anyAccepts : List Filter → List Tag → Bool
  | [], _ => false
  | filter :: rest, tags => filter.accepts tags || anyAccepts rest tags

end

theorem allAccept_eq_all (filters : List Filter) (tags : List Tag) :
    allAccept filters tags = filters.all fun filter => filter.accepts tags := by
  induction filters with
  | nil => rfl
  | cons filter rest inductionHypothesis => simp [allAccept, inductionHypothesis]

theorem anyAccepts_eq_any (filters : List Filter) (tags : List Tag) :
    anyAccepts filters tags = filters.any fun filter => filter.accepts tags := by
  induction filters with
  | nil => rfl
  | cons filter rest inductionHypothesis => simp [anyAccepts, inductionHypothesis]

def comparisonText (name : String) (comparator : Comparator) (literal : Int64) : String :=
  name ++ " " ++ comparator.symbol ++ " " ++ String.ofList (Text.Decimal.integer literal)

def parenthesized (operands : List String) : String :=
  "(" ++ String.intercalate ", " operands ++ ")"

mutual

def display : Filter → String
  | present name => name
  | compare name comparator literal => comparisonText name comparator literal
  | all conditions => parenthesized (displays conditions)
  | any alternatives => parenthesized (displays alternatives)

def displays : List Filter → List String
  | [] => []
  | filter :: rest => filter.display :: displays rest

end

theorem displays_eq_map (filters : List Filter) : displays filters = filters.map display := by
  induction filters with
  | nil => rfl
  | cons filter rest inductionHypothesis => simp [displays, inductionHypothesis]

instance : ToString Filter := ⟨display⟩

end Filter

end TagCatalog
