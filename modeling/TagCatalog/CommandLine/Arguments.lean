import TagCatalog.CommandLine.Verb
import TagCatalog.Terminal.Style

/-!
Command lines read from their words.

The words before the command and those behind it are read in the same way.  A
word that starts with a hyphen is an option, unless the operand whose turn it is
may start with one and the word is no known option; behind two hyphens alone,
all words are operands.  The path behind `--db` is looked at when the next option
or operand comes, so a mistake in it is found only then.
-/

namespace TagCatalog.CommandLine

open Terminal

inductive UsageError where
  | unknownCommand (word : String)
  | unexpected (word : String)
  | missingOperands
  | missingPath
  | repeated (option : String)
  | unexpectedValue (value option : String)
deriving DecidableEq

def databaseOption : String := "--db <PATH>"

namespace UsageError

def faulty (text : String) : StyledText :=
  .plain "'" ++ .styled [.yellow] text ++ .plain "'"

def literal (text : String) : StyledText :=
  .plain "'" ++ .styled [.bold] text ++ .plain "'"

def message : UsageError → StyledText
  | unknownCommand word => .plain "unrecognized subcommand " ++ faulty word
  | unexpected word => .plain "unexpected argument " ++ faulty word ++ .plain " found"
  | missingOperands => .plain "the following required arguments were not provided:"
  | missingPath =>
      .plain "a value is required for " ++ faulty databaseOption ++
        .plain " but none was supplied"
  | repeated option =>
      .plain "the argument " ++ faulty option ++ .plain " cannot be used multiple times"
  | unexpectedValue value option =>
      .plain "unexpected value " ++ faulty value ++ .plain " for " ++ literal option ++
        .plain " found; no more were expected"

def line (error : UsageError) : StyledText :=
  .styled [.bold, .red] "error:" ++ .plain " " ++ error.message ++ .plain "\n"

end UsageError

/-- Why a command line is not read to its end. -/
inductive Stop where
  | usage (error : UsageError)
  /-- Only the version is asked for. -/
  | version
deriving DecidableEq

/-- What can stand before the command, or behind a command. -/
structure Level where
  operands : List Operand
  switches : List Switch
  /-- Whether a command can come. -/
  commands : Bool

namespace Level

/-- The level before the command. -/
def outer : Level := ⟨[], [.verbose, .help, .version], true⟩

def ofVerb (verb : Verb) : Level :=
  ⟨verb.shape.operands, .verbose :: .help :: verb.shape.switches, false⟩

def ofWord? (level : Level) (word : List Char) : Option Switch :=
  level.switches.find? fun switch => switch.word.toList = word

def ofLetter? (level : Level) (letter : Char) : Option Switch :=
  level.switches.find? fun switch => switch.letter? = some letter

def operand? (level : Level) (values : List String) : Option Operand :=
  match level.operands[values.length]? with
  | some operand => some operand
  | none => level.operands.getLast?.filter fun operand => operand.repeats

/-- Whether a word of unknown meaning is a value although it starts with a
hyphen. -/
def takesHyphens (level : Level) (values : List String) : Bool :=
  (level.operand? values).any fun operand => operand.hyphens

end Level

/-- What has been read of a level. -/
structure Reading where
  /-- Whether all further words are operands. -/
  onlyOperands : Bool := false
  /-- The path behind `--db` that has not been looked at; it may be still to
  come. -/
  pending : Option (Option String) := none
  database : Option String := none
  switches : List Switch := []
  values : List String := []

namespace Reading

/-- Takes the path of the database. -/
def setDatabase (reading : Reading) (path : String) : Except Stop Reading :=
  if reading.database.isSome then
    .error (.usage (.repeated databaseOption))
  else if path.isEmpty then
    .error (.usage .missingPath)
  else
    .ok { reading with database := some path, pending := none }

/-- Looks at the path that is pending. -/
def settle (reading : Reading) : Except Stop Reading :=
  match reading.pending with
  | none => .ok reading
  | some none => .error (.usage .missingPath)
  | some (some path) => reading.setDatabase path

def awaitsPath (reading : Reading) : Bool :=
  reading.pending = some none

def addSwitch (reading : Reading) (switch : Switch) : Except Stop Reading := do
  let reading ← reading.settle
  if switch = .version then
    throw .version
  else if reading.switches.contains switch then
    throw (.usage (.repeated ("--" ++ switch.word)))
  else
    return { reading with switches := switch :: reading.switches }

def addValue (level : Level) (reading : Reading) (word : String) : Except Stop Reading :=
  match level.operand? reading.values with
  | some operand => do
      let reading ← reading.settle
      return { reading with
        onlyOperands := reading.onlyOperands || operand.repeats
        values := reading.values ++ [word] }
  | none =>
      if level.commands && !(reading.onlyOperands && (Verb.ofWord? word).isSome) then
        .error (.usage (.unknownCommand word))
      else
        .error (.usage (.unexpected word))

/-- Takes a word that is no option: the path that is awaited, or an operand. -/
def addWord (level : Level) (reading : Reading) (word : String) : Except Stop Reading :=
  if reading.awaitsPath && !reading.onlyOperands then
    .ok { reading with pending := some (some word) }
  else
    reading.addValue level word

/-- Takes an option with a long name, given without the hyphens: the name and
perhaps a value behind an equals sign. -/
def addLong (level : Level) (reading : Reading) (word : String) (option : List Char) :
    Except Stop Reading :=
  let name := option.takeWhile fun character => character ≠ '='
  let value? := (option.drop name.length).tail?.map String.ofList
  if name = ['d', 'b'] then do
    let reading ← reading.settle
    match value? with
    | some path => reading.setDatabase path
    | none => return { reading with pending := some none }
  else
    match level.ofWord? name, value? with
    | some switch, some value => .error (.usage (.unexpectedValue value ("--" ++ switch.word)))
    | some switch, none => reading.addSwitch switch
    | none, _ =>
        if level.takesHyphens reading.values then
          reading.addWord level word
        else
          .error (.usage (.unexpected ("--" ++ String.ofList name)))

def addLetters (level : Level) (reading : Reading) : List Char → Except Stop Reading
  | [] => .ok reading
  | letter :: rest =>
      match level.ofLetter? letter with
      | some switch => do
          let reading ← reading.addSwitch switch
          reading.addLetters level rest
      | none => .error (.usage (.unexpected (String.ofList ['-', letter])))

/-- Takes letters behind a hyphen: switches, or a value if it may start with a
hyphen and some letter is unknown. -/
def addShort (level : Level) (reading : Reading) (word : String) (letters : List Char) :
    Except Stop Reading :=
  if level.takesHyphens reading.values &&
      letters.any fun letter => (level.ofLetter? letter).isNone then
    reading.addWord level word
  else
    reading.addLetters level letters

def add (level : Level) (reading : Reading) (word : String) : Except Stop Reading :=
  if reading.onlyOperands then
    reading.addValue level word
  else
    match word.toList with
    | ['-', '-'] => .ok { reading with onlyOperands := true }
    | '-' :: '-' :: option => reading.addLong level word option
    | '-' :: first :: letters => reading.addShort level word (first :: letters)
    | _ => reading.addWord level word

def command? (level : Level) (reading : Reading) (word : String) : Option Verb :=
  if level.commands && !reading.onlyOperands && !reading.awaitsPath then
    Verb.ofWord? word
  else
    none

def addAll (level : Level) (reading : Reading) :
    List String → Except Stop (Reading × Option (Verb × List String))
  | [] => .ok (reading, none)
  | word :: rest =>
      match reading.command? level word with
      | some verb => .ok (reading, some (verb, rest))
      | none => do
          let reading ← reading.add level word
          reading.addAll level rest

def finish (level : Level) (reading : Reading) : Except Stop Reading := do
  let reading ← reading.settle
  let required := level.operands.filter fun operand => operand.required
  if reading.values.length < required.length then
    throw (.usage .missingOperands)
  else
    return reading

end Reading

structure Invocation where
  verb : Option Verb
  values : List String
  database : Option String
  switches : List Switch

namespace Invocation

def behind (verb : Verb) (words : List String) : Except Stop Reading := do
  let (reading, _) ← Reading.addAll (Level.ofVerb verb) {} words
  reading.finish (Level.ofVerb verb)

/-- The command line of some words.  What is given behind the command counts more
than what is given before it. -/
def ofWords (words : List String) : Except Stop Invocation := do
  let (outer, command?) ← Reading.addAll Level.outer {} words
  match command? with
  | none => do
      let outer ← outer.finish Level.outer
      return ⟨none, [], outer.database, outer.switches⟩
  | some (verb, rest) => do
      let inner ← behind verb rest
      let outer ← outer.finish Level.outer
      return ⟨some verb, inner.values, inner.database.or outer.database,
        inner.switches ++ outer.switches⟩

def has (invocation : Invocation) (switch : Switch) : Bool :=
  invocation.switches.contains switch

end Invocation

end TagCatalog.CommandLine
