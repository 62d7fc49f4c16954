import TagCatalog.Command

/-!
The commands on settings.

Settings are shown as a whole or by key, and changed by key.  A change that is
refused leaves the disk as it was; one that cannot be saved leaves what the calls
leave that save it.
-/

namespace TagCatalog.Settings

inductive Request where
  | showAll
  | showKey (key : String)
  | set (key value : String)

def showAll (directory : String) (disk : Disk) : Except Error Report := do
  let settings ← load directory disk
  return { settings := some settings }

def showKey (directory key : String) (disk : Disk) : Except Error Report := do
  let settings ← load directory disk
  match settings.get? key with
  | some value => return { messages := [⟨.info, value⟩] }
  | none => throw (.settings (.unknownKey key))

def changed (settings : Settings) (key value : String) : Report where
  settings := some settings
  messages := [⟨.success, key ++ " set to " ++ (settings.get? key).getD value⟩]

def change (calls : Disk.Calls) (directory key value : String) (disk : Disk) :
    Except Error Report × Disk :=
  match (load directory disk).bind fun settings => settings.set key value with
  | .error error => (.error error, disk)
  | .ok settings =>
      match saveBy calls directory settings disk with
      | (.ok (), altered) => (.ok (changed settings key value), altered)
      | (.error fault, altered) => (.error (.disk fault), altered)

def runBy (calls : Disk.Calls) (directory : String) (request : Request) (disk : Disk) :
    Except Error Report × Disk :=
  match request with
  | .showAll => (showAll directory disk, disk)
  | .showKey key => (showKey directory key disk, disk)
  | .set key value => change calls directory key value disk

/-- Does what a user asks on a disk that lets settings be kept. -/
def run (directory : String) (request : Request) (disk : Disk) :
    Except Error Report × Disk :=
  runBy Disk.calls directory request disk

end TagCatalog.Settings
