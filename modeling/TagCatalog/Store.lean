import TagCatalog.Error
import TagCatalog.File
import TagCatalog.Log.Event

/-!
Stores: what keeps the files of a catalog and their tags.

A store is given by its operations on states of some kind.  A file has at most
one tag of each name; files come in the order of their paths and tags in the
order of their names.  What a store must provide is enough for listings and for
matching: `listingOf` and `matchingOf` go over all files and stop at the first
error.
-/

namespace TagCatalog

/-- An operation on a state; it may fail, and may have changed the state by
then. -/
abbrev Action (State Result : Type) : Type :=
  ExceptT Error (StateM State) Result

namespace Store

variable {State : Type}

/-- The listing of some files, with the times that a look-up gives. -/
def listingFrom (addedAt : Uuid → Action State (Option Instant)) :
    List File → Action State (List ListedFile)
  | [] => pure []
  | file :: rest => do
      let time ← addedAt file.id
      let listed ← listingFrom addedAt rest
      return ⟨file, time⟩ :: listed

def matchingFrom (tags : File → Action State (List Tag)) (filter : Filter) :
    List File → Action State (List File)
  | [] => pure []
  | file :: rest => do
      let carried ← tags file
      let found ← matchingFrom tags filter rest
      return if filter.accepts carried then file :: found else found

/-- The listing of all files, with one look-up for each. -/
def listingOf (allFiles : Action State (List File))
    (addedAt : Uuid → Action State (Option Instant)) : Action State (List ListedFile) := do
  let files ← allFiles
  listingFrom addedAt files

/-- Those of all files whose tags a filter accepts, with one look-up for each. -/
def matchingOf (allFiles : Action State (List File)) (tags : File → Action State (List Tag))
    (filter : Filter) : Action State (List File) := do
  let files ← allFiles
  matchingFrom tags filter files

end Store

structure Store (State : Type) where
  /-- The file with an identifier. -/
  file : Uuid → Action State File
  /-- The file at a path. -/
  fileAt : String → Action State File
  /-- All files, in the order of their paths. -/
  allFiles : Action State (List File)
  /-- The tags of a file, in the order of their names. -/
  tags : File → Action State (List Tag)
  /-- Puts a tag on a file, in place of the one of that name. -/
  updateTag : Uuid → Tag → Action State Unit
  /-- Takes the tag of a name from a file. -/
  removeTag : Uuid → String → Action State Unit
  /-- Registers a file or changes its path, and replaces all its tags.  The time
  is that of the registration if the file is new. -/
  updateFile : Instant → File → List Tag → Action State Unit
  /-- Forgets a file with its tags. -/
  removeFile : Uuid → Action State Unit
  /-- When a file was registered, if the store knows that. -/
  addedAt : Uuid → Action State (Option Instant) := fun id => do
    let _ ← file id
    return none
  /-- All files with the times of their registration. -/
  listing : Action State (List ListedFile) := Store.listingOf allFiles addedAt
  /-- The files that a filter accepts. -/
  matching : Filter → Action State (List File) := Store.matchingOf allFiles tags
  /-- Tells the log of an event. -/
  announce : Log.Event → Action State Unit := fun _ => pure ()

namespace Store

variable {State : Type}

/-- Asks a state, which stays as it is. -/
def query {Result : Type} (ask : State → Except Error Result) : Action State Result :=
  fun state => (ask state, state)

/-- Changes a state, which stays as it is if the change fails. -/
def change (alter : State → Except Error State) : Action State Unit := fun state =>
  match alter state with
  | .ok altered => (.ok (), altered)
  | .error error => (.error error, state)

/-- The last tag of each name, in the order of the names. -/
def normalized (tags : List Tag) : List Tag :=
  (Table.ofList (tags.map fun tag => (tag.name, tag))).values

def inPathOrder (files : List File) : List File :=
  files.mergeSort File.comesBefore

end Store

end TagCatalog
