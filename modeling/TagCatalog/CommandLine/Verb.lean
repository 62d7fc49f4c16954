/-!
The commands of the command line, and what can be given to them.

Every command has a name, for some commands an alias, operands in a fixed order
and switches of its own.  `Verb.shape` is the table of all that.
-/

namespace TagCatalog.CommandLine

inductive Switch where
  | verbose
  | help
  | version
  | long
  | strict
deriving DecidableEq

namespace Switch

/-- The name behind two hyphens. -/
def word : Switch → String
  | verbose => "verbose"
  | help => "help"
  | version => "version"
  | long => "long"
  | strict => "strict"

/-- The letter behind one hyphen. -/
def letter? : Switch → Option Char
  | verbose => some 'v'
  | help => some 'h'
  | version => some 'V'
  | long => some 'l'
  | strict => none

def about : Switch → String
  | verbose => "Verbose output"
  | help => "Print help"
  | version => "Print version"
  | long => "Show when each file was added"
  | strict => "Fail when nothing matches"

end Switch

/-- What stands in a place of its own behind a command. -/
structure Operand where
  name : String
  about : String
  required : Bool := true
  /-- Whether it may start with a hyphen, if it is no known option. -/
  hyphens : Bool := false
  /-- Whether all words from here on belong to it. -/
  repeats : Bool := false

inductive Verb where
  | add
  | remove
  | move
  | files
  | set
  | unset
  | get
  | select
  | config
  | version
  | help
deriving DecidableEq

/-- How a command is written. -/
structure Shape where
  name : String
  alias? : Option String := none
  about : String
  operands : List Operand := []
  switches : List Switch := []

namespace Verb

def all : List Verb :=
  [add, remove, move, files, set, unset, get, select, config, version, help]

def fileOperand : Operand := ⟨"FILE", "Path of the file, or uuid:<id>", true, false, false⟩

def tagOperand : Operand := ⟨"NAME", "Tag name", true, false, false⟩

def shape : Verb → Shape
  | add =>
      { name := "add"
        about := "Register a file"
        operands := [{ name := "PATH", about := "Path of the file" }] }
  | remove =>
      { name := "remove"
        alias? := some "rm"
        about := "Forget a file and its tags"
        operands := [fileOperand] }
  | move =>
      { name := "move"
        alias? := some "mv"
        about := "Change a file's path, keeping its tags"
        operands := [fileOperand, { name := "NEW_PATH", about := "New path" }] }
  | files =>
      { name := "files"
        alias? := some "ls"
        about := "List registered files"
        switches := [.long] }
  | set =>
      { name := "set"
        about := "Set a tag, optionally with an integer value"
        operands := [fileOperand, tagOperand,
          { name := "VALUE"
            about := "Integer value (omit for a plain tag)"
            required := false
            hyphens := true }] }
  | unset =>
      { name := "unset"
        about := "Remove a tag"
        operands := [fileOperand, tagOperand] }
  | get =>
      { name := "get"
        about := "Show a file's tags"
        operands := [fileOperand] }
  | select =>
      { name := "match"
        alias? := some "m"
        about := "List files matching a filter expression"
        operands :=
          [{ name := "FILTER"
             about :=
               "Filter words (joined with spaces), e.g. status == 1 AND draft. " ++
                 "Options must precede them"
             hyphens := true
             repeats := true }]
        switches := [.strict] }
  | config =>
      { name := "config"
        about := "Get or set configuration"
        operands :=
          [{ name := "KEY"
             about := "Configuration key (database-path, log-level)"
             required := false },
            { name := "VALUE"
              about := "Value to set (if omitted, prints current value)"
              required := false }] }
  | version => { name := "version", about := "Print version" }
  | help =>
      { name := "help"
        about := "Print help for tagger or a subcommand"
        operands :=
          [{ name := "COMMAND"
             about := "Subcommand to get help for"
             required := false }] }

def ofName? (word : String) : Option Verb :=
  all.find? fun verb => verb.shape.name = word

def ofWord? (word : String) : Option Verb :=
  all.find? fun verb => verb.shape.name = word || verb.shape.alias? = some word

end Verb

end TagCatalog.CommandLine
