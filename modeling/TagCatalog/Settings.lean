import TagCatalog.Error
import TagCatalog.Json.Quotation
import TagCatalog.Json.Typed

/-!
Settings: where the database is, and how much the log says.

Settings are kept in a directory of their own, as a document that may be
missing.  A user reads and changes them by keys; `get?` gives the shown value of
a key and `set` changes it.  The document is written in place, so if that fails
it may be lost; the calls that write it are a parameter of `saveBy`.
-/

namespace TagCatalog

structure Settings where
  /-- Where the database is, if it is not in its usual place. -/
  databasePath : Option String
  logLevel : String
deriving DecidableEq

namespace Settings

open Json

/-- The level of a log for which nothing else is said. -/
def defaultLogLevel : String := "warn"

def default : Settings := ⟨none, defaultLogLevel⟩

inductive Key where
  | databasePath
  | logLevel
deriving DecidableEq

namespace Key

def name : Key → String
  | databasePath => "database-path"
  | logLevel => "log-level"

def all : List Key := [databasePath, logLevel]

def ofName? (name : String) : Option Key :=
  all.find? fun key => key.name = name

end Key

def valueOf (settings : Settings) : Key → String
  | .databasePath => settings.databasePath.getD "(default)"
  | .logLevel => settings.logLevel

def get? (settings : Settings) (name : String) : Option String :=
  (Key.ofName? name).map settings.valueOf

def shown (settings : Settings) : List (String × String) :=
  Key.all.map fun key => (key.name, settings.valueOf key)

/-- The settings with another value of a key.  The empty path stands for the
usual place. -/
def setKey (settings : Settings) (value : String) : Key → Except Error Settings
  | .databasePath =>
      .ok { settings with databasePath := if value.isEmpty then none else some value }
  | .logLevel =>
      let level := String.ofList (value.toList.map Char.toLower)
      if logLevelNames.contains level then
        .ok { settings with logLevel := level }
      else
        .error (.settings (.invalidLogLevel value))

def set (settings : Settings) (name value : String) : Except Error Settings :=
  match Key.ofName? name with
  | some key => settings.setKey value key
  | none => .error (.settings (.unknownKey name))

/-- The path of the database: that of the command if it gives one, else that of
the environment, else that of the settings. -/
def chooseDatabase (command environment : Option String) (settings : Settings) :
    Option String :=
  command.or (environment.or settings.databasePath)

def encode (settings : Settings) : String :=
  let path :=
    match settings.databasePath with
    | some path => [Lines.member "database_path" (Quotation.write path)]
    | none => []
  String.ofList (Lines.object 0
    (path ++ [Lines.member "log_level" (Quotation.write settings.logLevel)]))

structure Draft where
  databasePath : Option (Option String)
  logLevel : Option String

def fields : Fields Draft Settings where
  empty := ⟨none, none⟩
  field key draft :=
    if key = "database_path" then
      some (Fields.once draft.databasePath (optional string) fun path =>
        { draft with databasePath := some path })
    else if key = "log_level" then
      some (Fields.once draft.logLevel string fun level =>
        { draft with logLevel := some level })
    else
      none
  inOrder text := do
    let (path, rest) ← Fields.element true (optional string) text
    let (level, rest) ← Fields.element false string rest
    return (⟨path, level⟩, rest)
  complete draft :=
    some ⟨draft.databasePath.getD none, draft.logLevel.getD defaultLogLevel⟩

def decode (text : String) : Except Fault Settings :=
  document fields.read text.toList

def path (directory : String) : String :=
  Path.join directory "config.json"

def load (directory : String) (disk : Disk) : Except Error Settings :=
  if disk.contains (path directory) then
    match disk.read (path directory) with
    | .ok text => (decode text).mapError .document
    | .error fault => .error (.disk fault)
  else
    .ok default

/-- Keeps settings in a directory, which is made if it is missing. -/
def saveBy (calls : Disk.Calls) (directory : String) (settings : Settings) :
    Disk.Change Unit := do
  let disk ← get
  if disk.contains directory then pure () else calls.makeDirectories directory
  calls.write (path directory) settings.encode

/-- Keeps settings on a disk that lets them be kept. -/
def save (directory : String) (settings : Settings) : Disk.Change Unit :=
  saveBy Disk.calls directory settings

end Settings

end TagCatalog
