import TagCatalog.Disk
import TagCatalog.Filter.Parse
import TagCatalog.Json.Reader
import TagCatalog.Tag.Name
import TagCatalog.Uuid

/-!
Why an operation on a catalog can fail.

Every error is a cause; `message` puts it into words.
-/

namespace TagCatalog

inductive StoreFault where
  /-- Two files have the same path. -/
  | sharedPath (path : String) (earlier later : Uuid)
  /-- A tag has no name. -/
  | namelessTag
  /-- A fault of a store of another kind, in its own words. -/
  | other (message : String)
deriving DecidableEq

/-- What can be wrong with a request for settings. -/
inductive SettingsFault where
  | unknownKey (key : String)
  | invalidLogLevel (value : String)
  | noHomeDirectory
deriving DecidableEq

inductive RequestFault where
  | emptyPath
  | emptyNewPath
deriving DecidableEq

inductive Error where
  | unknownFile (id : Uuid)
  | unknownPath (path : String)
  | unknownTag (name : String)
  | noMatches
  | invalidValue (text : String)
  | emptyTagName
  | invalidTagName (name : String) (fault : Tag.Name.Fault)
  | pathInUse (path : String) (owner : Uuid)
  | invalidFileId (text : String)
  | filter (error : Filter.ParseError)
  | disk (fault : Disk.Fault)
  | document (fault : Json.Fault)
  | store (fault : StoreFault)
  | settings (fault : SettingsFault)
  | request (fault : RequestFault)
deriving DecidableEq

def emptyTagNameMessage : String := "Tag name cannot be empty"

/-- The names of the levels of log lines that settings can hold. -/
def logLevelNames : List String := ["error", "warn", "info", "debug", "trace"]

def StoreFault.message : StoreFault → String
  | sharedPath path earlier later =>
      "path " ++ path ++ " is registered to both " ++ toString earlier ++ " and " ++
        toString later
  | namelessTag => "corrupt tag record: " ++ emptyTagNameMessage
  | other message => message

def SettingsFault.message : SettingsFault → String
  | unknownKey key => "Unknown config key: " ++ key
  | invalidLogLevel value =>
      "Invalid log level '" ++ value ++ "', expected one of: " ++
        String.intercalate ", " logLevelNames
  | noHomeDirectory => "Could not determine home directory"

def RequestFault.message : RequestFault → String
  | emptyPath => "Path cannot be empty"
  | emptyNewPath => "New path cannot be empty"

def Error.message : Error → String
  | unknownFile id => "No such file in storage: " ++ toString id
  | unknownPath path => "No such file in storage: " ++ path
  | unknownTag name => "No such tag on file: " ++ name
  | noMatches => "No matching files in storage"
  | invalidValue text => "Invalid tag value: " ++ text
  | emptyTagName => emptyTagNameMessage
  | invalidTagName name fault => "Invalid tag name '" ++ name ++ "': " ++ fault.message
  | pathInUse path owner =>
      "Path " ++ path ++ " is already registered to file " ++ toString owner
  | invalidFileId text => "Invalid file id: " ++ text
  | filter error => "Filter error: " ++ error.message
  | disk fault => "IO error: " ++ fault.message
  | document fault => "Serialization error: " ++ fault.message
  | store fault => "Store error: " ++ fault.message
  | settings fault => "Config error: " ++ fault.message
  | request fault => "Api Error: " ++ fault.message

end TagCatalog
