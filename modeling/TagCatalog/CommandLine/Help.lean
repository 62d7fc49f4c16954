import TagCatalog.CommandLine.Verb

/-!
Help texts.

`general` lists all commands in groups, and `ofVerb` explains one.  Both are
rendered from the table of commands.
-/

namespace TagCatalog.CommandLine.Help

def version : String := "tagger 0.1.0\n"

def padEnd (width : Nat) (text : String) : String :=
  text ++ String.ofList (List.replicate (width - text.length) ' ')

def columns (width : Nat) (rows : List (String × String)) : String :=
  String.join (rows.map fun row => "  " ++ padEnd width row.1 ++ row.2 ++ "\n")

/-- Lines of two columns, of which the first is as narrow as it can be. -/
def alignedColumns (rows : List (String × String)) : String :=
  let width := (rows.map fun row => row.1.length).foldl max 0
  columns (width + 2) rows

def groups : List (String × List Verb) :=
  [("File Commands:", [.add, .remove, .move, .files]),
    ("Tag Commands:", [.set, .unset, .get, .select]),
    ("Miscellaneous:", [.config, .version, .help])]

def group (heading : String) (verbs : List Verb) : String :=
  "\n" ++ heading ++ "\n" ++
    columns 13 (verbs.map fun verb => (verb.shape.name, verb.shape.about))

def filterLines : List (String × String) :=
  [("name", "tag is present (any value)"),
    ("name OP INTEGER", "OP is one of == != < > <= >="),
    ("a AND b, a OR b", "AND binds tighter than OR"),
    ("( ... )", "grouping")]

/-- A switch as it is shown; switches without a letter leave room for one. -/
def switchForm (switch : Switch) : String :=
  match switch.letter? with
  | some letter => String.ofList ['-', letter] ++ ", --" ++ switch.word
  | none => "    --" ++ switch.word

def generalOptions : List (String × String) :=
  ("    --db <PATH>", "Tag database to use") ::
    [Switch.verbose, Switch.help, Switch.version].map fun switch =>
      (switchForm switch, switch.about)

def general : String :=
  version ++ "Tag files and find them with filter expressions\n\n" ++
    "Usage: tagger [OPTIONS] [COMMAND]\n" ++
    String.join (groups.map fun (heading, verbs) => group heading verbs) ++
    "\nFilter syntax:\n" ++ columns 21 filterLines ++
    "\nOptions:\n" ++ alignedColumns generalOptions

def operandForm (operand : Operand) : String :=
  let dots := if operand.repeats then "..." else ""
  if operand.required then
    "<" ++ operand.name ++ ">" ++ dots
  else
    "[" ++ operand.name ++ "]" ++ dots

def usage (shape : Shape) : String :=
  let options := if shape.switches.isEmpty then "" else " [OPTIONS]"
  shape.name ++ options ++
    String.join (shape.operands.map fun operand => " " ++ operandForm operand)

def operands (shape : Shape) : String :=
  if shape.operands.isEmpty then
    ""
  else
    "\nArguments:\n" ++
      alignedColumns (shape.operands.map fun operand => (operandForm operand, operand.about))

/-- What is said about the switch for help; the help for filters has more to say
than fits here. -/
def helpAbout (verb : Verb) : String :=
  if verb = .select then Switch.help.about ++ " (see more with '--help')" else Switch.help.about

def switches (verb : Verb) : String :=
  let own := verb.shape.switches.map fun switch => (switchForm switch, switch.about)
  "\nOptions:\n" ++ alignedColumns (own ++ [(switchForm .help, helpAbout verb)])

def ofVerb (verb : Verb) : String :=
  verb.shape.about ++ "\n\nUsage: " ++ usage verb.shape ++ "\n" ++
    operands verb.shape ++ switches verb

end TagCatalog.CommandLine.Help
