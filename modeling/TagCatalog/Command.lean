import TagCatalog.Selector
import TagCatalog.Settings
import TagCatalog.Store

/-!
The commands on a catalog.

A command works on any store.  What can be wrong with its arguments alone is
found before the store is asked for anything.  The time and the identifier that
a registration needs are given to it.  It gives back a report, which has the files
that the command was about, a listing, tags, settings and messages, each as far as
the command has any.
-/

namespace TagCatalog

inductive MessageLevel where
  | info
  | success
  | warning
  | error
deriving DecidableEq

structure Message where
  level : MessageLevel
  text : String
deriving DecidableEq

structure Report where
  affected : List File := []
  listed : List ListedFile := []
  tags : List Tag := []
  settings : Option Settings := none
  messages : List Message := []

namespace Command

variable {State : Type}

def ofExcept {Result : Type} (outcome : Except Error Result) : Action State Result :=
  ExceptT.mk (pure outcome)

def resolve (store : Store State) : Selector → Action State File
  | .id id => store.file id
  | .path path => store.fileAt path

def resolveText (store : Store State) (selector : String) : Action State File := do
  let selector ← ofExcept (Selector.ofText selector)
  resolve store selector

def registered? (store : Store State) (path : String) : Action State (Option File) :=
  tryCatch (do
    let file ← store.fileAt path
    return some file)
    fun error =>
      match error with
      | .unknownPath _ | .unknownFile _ => return none
      | other => throw other

/-- Registers a file without tags, unless it is registered already. -/
def add (store : Store State) (now : Instant) (fresh : Uuid) (path : String) :
    Action State Report := do
  if path.isEmpty then throw (.request .emptyPath)
  match ← registered? store path with
  | some existing =>
      return {
        affected := [existing]
        messages := [⟨.warning, "Already registered: " ++ existing.text⟩] }
  | none => do
      let file : File := ⟨fresh, path⟩
      store.updateFile now file []
      store.announce (.fileRegistered file)
      return { affected := [file], messages := [⟨.success, "Added " ++ file.text⟩] }

def remove (store : Store State) (selector : String) : Action State Report := do
  let file ← resolveText store selector
  store.removeFile file.id
  return { affected := [file], messages := [⟨.success, "Removed " ++ file.text⟩] }

/-- Gives a file that has been found another path; its tags stay. -/
def moveFile (store : Store State) (now : Instant) (file : File) (path : String) :
    Action State Report := do
  let tags ← store.tags file
  let moved : File := { file with path }
  store.updateFile now moved tags
  store.announce (.fileMoved file path)
  return {
    affected := [moved]
    messages := [⟨.success, "Moved " ++ file.path ++ " to " ++ path⟩] }

/-- Gives a file another path; its tags stay. -/
def move (store : Store State) (now : Instant) (selector path : String) :
    Action State Report := do
  let selector ← ofExcept (Selector.ofText selector)
  if path.isEmpty then throw (.request .emptyNewPath)
  let file ← resolve store selector
  if file.path = path then
    return {
      affected := [file]
      messages := [⟨.info, toString file.id ++ " is already at " ++ path⟩] }
  else
    moveFile store now file path

def parseValue (text : String) : Except Error Int64 :=
  match Tag.Value.ofText? text with
  | some value => .ok value
  | none => .error (.invalidValue text)

def parseTag (name : String) (value : Option String) : Except Error Tag := do
  match Tag.Name.fault? name with
  | some fault => throw (.invalidTagName name fault)
  | none => pure ()
  let number ← value.mapM parseValue
  match Tag.of? name number with
  | some tag => return tag
  | none => throw .emptyTagName

def set (store : Store State) (selector name : String) (value : Option String) :
    Action State Report := do
  let selector ← ofExcept (Selector.ofText selector)
  let tag ← ofExcept (parseTag name value)
  let file ← resolve store selector
  store.updateTag file.id tag
  store.announce (.tagSet file.id tag)
  return {
    affected := [file]
    tags := [tag]
    messages := [⟨.success, "Set " ++ tag.text ++ " on " ++ file.path⟩] }

def unset (store : Store State) (selector name : String) : Action State Report := do
  let file ← resolveText store selector
  if name.isEmpty then throw .emptyTagName
  store.removeTag file.id name
  store.announce (.tagUnset file.id name)
  return {
    affected := [file]
    messages := [⟨.success, "Removed " ++ name ++ " from " ++ file.path⟩] }

def tags (store : Store State) (selector : String) : Action State Report := do
  let file ← resolveText store selector
  let tags ← store.tags file
  return { affected := [file], tags }

def files (store : Store State) : Action State Report := do
  let listed ← store.listing
  return { listed }

def parseFilter (text : String) : Except Error Filter :=
  (Filter.parse text).mapError .filter

def find (store : Store State) (text : String) : Action State (List File) := do
  let filter ← ofExcept (parseFilter text)
  store.announce (.filterParsed text filter)
  store.matching filter

/-- The files that a filter accepts, which is given in words.  A strict command
fails if there are none. -/
def matchWords (store : Store State) (words : List String) (strict : Bool) :
    Action State Report := do
  let found ← find store (String.intercalate " " words)
  if strict && found.isEmpty then throw .noMatches
  return { listed := found.map fun file => ⟨file, none⟩ }

end Command

end TagCatalog
