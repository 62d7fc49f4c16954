import TagCatalog.Command
import TagCatalog.CommandLine.Arguments
import TagCatalog.CommandLine.Help
import TagCatalog.Log.Directive
import TagCatalog.Settings.Command
import TagCatalog.Store.Journal
import TagCatalog.Terminal.Sequence

/-!
One run of the program.

A session gets the words of the command line, the environment, the time, an
identifier that is still free and the disk.  It gives what is written to the two
outputs, the exit code and the disk after the run.
-/

namespace TagCatalog.CommandLine

open Terminal

/-- Where a run takes place. -/
structure Environment where
  assignments : List (String × String)
  /-- Whether the outputs go to a terminal. -/
  terminal : Bool
  now : Instant
  /-- An identifier that no file has. -/
  fresh : Uuid

/-- What a run writes, and its exit code. -/
structure Output where
  code : Nat := 0
  standard : String := ""
  diagnostic : String := ""

namespace Environment

def get? (environment : Environment) (name : String) : Option String :=
  environment.assignments.lookup name

/-- Whether the output has colours: if they are demanded, and on a terminal unless
they are declined. -/
def colours (environment : Environment) : Bool :=
  let wanted (name : String) : Option Bool :=
    (environment.get? name).map fun value => value ≠ "0"
  if wanted "CLICOLOR_FORCE" = some true then
    true
  else if (wanted "NO_COLOR").isSome then
    false
  else
    (wanted "CLICOLOR").getD true && environment.terminal

def isGiven (environment : Environment) (name : String) : Bool :=
  (environment.get? name).any fun value => !value.isEmpty

/-- Whether errors of usage have colours: unless they are declined, and if they are
demanded or on a terminal.  A variable that is empty counts as not set. -/
def usageColours (environment : Environment) : Bool :=
  if environment.isGiven "NO_COLOR" then
    false
  else
    environment.isGiven "CLICOLOR_FORCE" ||
      (environment.get? "CLICOLOR" ≠ some "0" && environment.terminal)

/-- Whether the log has colours: unless they are declined. -/
def logColours (environment : Environment) : Bool :=
  !environment.isGiven "NO_COLOR"

/-- The directory of the user for files of some kind: that of a variable if it
starts at the root, else one in the home directory. -/
def userDirectory (environment : Environment) (name usual : String) :
    Except Error String :=
  match (environment.get? name).filter Path.isAbsolute with
  | some directory => .ok (Path.join directory "tagger")
  | none =>
      match (environment.get? "HOME").filter fun home => !home.isEmpty with
      | some home => .ok (Path.join (Path.join home usual) "tagger")
      | none => .error (.settings .noHomeDirectory)

def settingsDirectory (environment : Environment) : Except Error String :=
  match environment.get? "TAGGER_CONFIG_DIR" with
  | some directory => .ok directory
  | none => environment.userDirectory "XDG_CONFIG_HOME" ".config"

def databasePath (environment : Environment) (command : Option String)
    (settings : Settings) : Except Error String :=
  match Settings.chooseDatabase command (environment.get? "TAGGER_DB") settings with
  | some path => .ok path
  | none =>
      (environment.userDirectory "XDG_DATA_HOME" ".local/share").map fun directory =>
        Path.join directory "tagger.json"

end Environment

namespace Output

def addDiagnostic (output : Output) (line : String) : Output :=
  { output with diagnostic := output.diagnostic ++ line ++ "\n" }

def addLine (output : Output) (line : String) : Output :=
  { output with standard := output.standard ++ line ++ "\n" }

def fail (output : Output) (error : Error) : Output :=
  { output.addDiagnostic ("Error: " ++ error.message) with code := 1 }

end Output

structure Display where
  colours : Bool
  /-- Whether files are shown with the times of their registration. -/
  long : Bool

namespace Display

def message (display : Display) (output : Output) (message : Message) : Output :=
  let styled (style : Style) : String := style.apply display.colours message.text
  match message.level with
  | .info => output.addLine (styled .dimmed)
  | .success => output.addLine (styled .green)
  | .warning => output.addLine (styled .yellow)
  | .error => output.addDiagnostic (styled .red)

/-- The time in front of a file; a dash stands for one that is not known. -/
def timeColumn : Option Instant → String
  | some time => String.ofList time.listingText
  | none => Help.padEnd 16 "-"

def file (display : Display) (listed : ListedFile) : String :=
  if display.long then
    timeColumn listed.addedAt ++ "  " ++ listed.file.text
  else
    listed.file.text

def tag (display : Display) (tag : Tag) : String :=
  let name := Style.bold.apply display.colours tag.name
  match tag.value with
  | some value => name ++ "=" ++ String.ofList (Text.Decimal.integer value)
  | none => name

def setting (display : Display) (key value : String) : String :=
  Style.cyan.apply display.colours key ++ " = " ++ value

/-- The lines of the settings, which are shown only if there is no message. -/
def settingLines (display : Display) (report : Report) : List String :=
  match report.settings with
  | some settings =>
      if report.messages.isEmpty then
        settings.shown.map fun (key, value) => display.setting key value
      else
        []
  | none => []

def report (display : Display) (verb : Verb) (output : Output) (report : Report) : Output :=
  let output := report.messages.foldl display.message output
  let lines :=
    match verb with
    | .files | .select => report.listed.map display.file
    | .get => report.tags.map display.tag
    | .config => display.settingLines report
    | _ => []
  lines.foldl Output.addLine output

end Display

/-- What a run works with once its surroundings are known. -/
structure Context where
  environment : Environment
  invocation : Invocation
  settingsDirectory : String
  settings : Settings
  database : String

namespace Context

def find (environment : Environment) (invocation : Invocation) (disk : Disk) :
    Except Error Context := do
  let settingsDirectory ← environment.settingsDirectory
  let settings ← Settings.load settingsDirectory disk
  let database ← environment.databasePath invocation.database settings
  return ⟨environment, invocation, settingsDirectory, settings, database⟩

def settingsRequest : List String → Settings.Request
  | [] => .showAll
  | [key] => .showKey key
  | key :: value :: _ => .set key value

def settingsCommand (context : Context) : Action Workspace Report := fun workspace =>
  let request := settingsRequest context.invocation.values
  let (outcome, disk) := Settings.run context.settingsDirectory request workspace.disk
  (outcome, { workspace with disk })

def command (context : Context) (verb : Verb) : Action Workspace Report :=
  let store := Workspace.store context.database
  let now := context.environment.now
  match verb, context.invocation.values with
  | .add, [path] => Command.add store now context.environment.fresh path
  | .remove, [selector] => Command.remove store selector
  | .move, [selector, path] => Command.move store now selector path
  | .files, _ => Command.files store
  | .set, [selector, name] => Command.set store selector name none
  | .set, [selector, name, value] => Command.set store selector name (some value)
  | .unset, [selector, name] => Command.unset store selector name
  | .get, [selector] => Command.tags store selector
  | .select, words =>
      Command.matchWords store words (context.invocation.has .strict)
  | .config, _ => context.settingsCommand
  | _, _ => pure {}

def logLines (context : Context) (rules : List Log.Rule) (journal : List Log.Event) :
    List String :=
  let time := String.ofList context.environment.now.microsecondText
  (journal.filter (Log.Rule.allow rules)).map fun event =>
    let line := event.line time
    if context.environment.logColours then line.shown else line.content

def run (context : Context) (verb : Verb) (disk : Disk) : Output × Disk :=
  let (notes, rules) := Log.setUp (context.invocation.has .verbose)
    (context.environment.get? "TAGGER_LOG") context.settings.logLevel
  let (outcome, workspace) := context.command verb ⟨disk, [.databaseChosen context.database]⟩
  let lines := notes ++ context.logLines rules workspace.journal
  let output := lines.foldl Output.addDiagnostic {}
  let display : Display := ⟨context.environment.colours, context.invocation.has .long⟩
  match outcome with
  | .ok report => (display.report verb output report, workspace.disk)
  | .error error => (output.fail error, workspace.disk)

end Context

/-- The help for the command with a name; for an unknown name, all commands. -/
def helpFor (name : String) : Output :=
  match Verb.ofName? name with
  | some verb => { standard := Help.ofVerb verb }
  | none =>
      { standard := Help.general
        diagnostic := "Unknown command: " ++ name ++ "\n\n" }

/-- What is shown without looking at settings or databases, if that is all that
is asked for. -/
def immediate? (invocation : Invocation) : Option Output :=
  match invocation.verb with
  | none => some { standard := Help.general }
  | some verb =>
      if invocation.has .help then
        some (helpFor verb.shape.name)
      else
        match verb, invocation.values with
        | .help, name :: _ => some (helpFor name)
        | .help, [] => some { standard := Help.general }
        | .version, _ => some { standard := Help.version }
        | _, _ => none

/-- The line about an error of usage.  Without colours, escape sequences are left
out, those in the words of the command line too. -/
def usageLine (colours : Bool) (error : UsageError) : String :=
  if colours then error.line.shown else withoutSequences error.line.shown

def stopped (environment : Environment) : Stop → Output
  | .usage error =>
      { code := 2, diagnostic := usageLine environment.usageColours error }
  | .version => { standard := Help.version }

def perform (environment : Environment) (invocation : Invocation) (verb : Verb)
    (disk : Disk) : Output × Disk :=
  match Context.find environment invocation disk with
  | .ok context => context.run verb disk
  | .error error => (Output.fail {} error, disk)

def run (environment : Environment) (words : List String) (disk : Disk) : Output × Disk :=
  match Invocation.ofWords words with
  | .error stop => (stopped environment stop, disk)
  | .ok invocation =>
      match immediate? invocation, invocation.verb with
      | none, some verb => perform environment invocation verb disk
      | some output, _ => (output, disk)
      | none, none => ({}, disk)

end TagCatalog.CommandLine
