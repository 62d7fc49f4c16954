import TagCatalog.Store.OnDisk

/-!
Stores on a disk that tell what they do.

A workspace is a disk with a journal of events.  A journaled store does to the
disk what the store without a journal does; it notes how the document was found
and, if all went well, what came of the operation.
-/

namespace TagCatalog

structure Workspace where
  disk : Disk
  /-- What has happened, in order. -/
  journal : List Log.Event

namespace Workspace

/-- The workspace after some events. -/
def note (workspace : Workspace) (events : List Log.Event) : Workspace :=
  { workspace with journal := workspace.journal ++ events }

/-- How an operation finds the document at a path. -/
def finding (path : String) (disk : Disk) : List Log.Event :=
  match OnDisk.load path disk with
  | .ok database =>
      if disk.contains path then
        [.databaseLoaded path database.records.size]
      else
        [.databaseMissing path]
  | .error _ => []

/-- An operation on the disk, with the events that follow from its result. -/
def noting {Result : Type} (path : String) (operation : Action Disk Result)
    (events : Result → List Log.Event) : Action Workspace Result := fun workspace =>
  let (outcome, disk) := operation workspace.disk
  let found := finding path workspace.disk
  match outcome with
  | .ok result => (.ok result, { workspace with disk }.note (found ++ events result))
  | .error error => (.error error, { workspace with disk }.note found)

def asking {Result : Type} (path : String) (operation : Action Disk Result) :
    Action Workspace Result :=
  noting path operation fun _ => []

/-- Matching, of which the count of all files is noted too. -/
def matching (path : String) (filter : Filter) : Action Workspace (List File) :=
  fun workspace =>
    let total := ((OnDisk.load path workspace.disk).toOption.map
      fun database => database.records.size).getD 0
    noting path ((OnDisk.store path).matching filter)
      (fun found => [.filesMatched filter total found.length]) workspace

def store (path : String) : Store Workspace :=
  let silent := OnDisk.store path
  { file := fun id => asking path (silent.file id)
    fileAt := fun place => asking path (silent.fileAt place)
    allFiles := asking path silent.allFiles
    tags := fun file => asking path (silent.tags file)
    updateTag := fun id tag =>
      noting path (silent.updateTag id tag) fun _ => [.tagUpdated id tag]
    removeTag := fun id name =>
      noting path (silent.removeTag id name) fun _ => [.tagRemoved id name]
    updateFile := fun now file tags =>
      noting path (silent.updateFile now file tags) fun _ => [.fileUpdated file]
    removeFile := fun id =>
      noting path (silent.removeFile id) fun _ => [.fileRemoved id]
    addedAt := fun id => asking path (silent.addedAt id)
    listing := asking path silent.listing
    matching := matching path
    announce := fun event => modify fun workspace => workspace.note [event] }

end Workspace

end TagCatalog
