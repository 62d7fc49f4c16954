import TagCatalog.Store.Document

/-!
Stores that keep a document on a disk.

Every operation reads the document anew, and every change writes it back whole:
first beside its place, then over it.  A document that is missing is an empty
database.  A database that is not consistent is refused before anything else.
-/

namespace TagCatalog.OnDisk

/-- The consistent database of a text. -/
def ofText (text : String) : Except Error Database :=
  match Document.decode text with
  | .error fault => .error (.document fault)
  | .ok database =>
      match database.firstFault? with
      | some fault => .error (.store fault)
      | none => .ok database

def load (path : String) (disk : Disk) : Except Error Database :=
  if disk.contains path then
    match disk.read path with
    | .ok text => ofText text
    | .error fault => .error (.disk fault)
  else
    .ok .empty

/-- Where a document is written before it takes its place. -/
def draftPath (path : String) : String :=
  Path.withExtension path "json.tmp"

def makeParent (path : String) : Disk.Change Unit := do
  let disk ← get
  match Path.parent? path with
  | some parent =>
      if parent.isEmpty || disk.contains parent then pure () else Disk.makeDirectories parent
  | none => pure ()

/-- Writes a text to its place by way of another. -/
def writeOver (path text : String) : Disk.Change Unit := do
  makeParent path
  Disk.write (draftPath path) text
  Disk.rename (draftPath path) path

def ofChange (change : Disk.Change Unit) : Action Disk Unit := fun disk =>
  match change disk with
  | (.ok (), altered) => (.ok (), altered)
  | (.error fault, altered) => (.error (.disk fault), altered)

def save (path : String) (database : Database) : Action Disk Unit :=
  ofChange (writeOver path (Document.encode database))

def query {Result : Type} (path : String) (ask : Database → Except Error Result) :
    Action Disk Result :=
  Store.query fun disk => (load path disk).bind ask

def change (path : String) (alter : Database → Except Error Database) : Action Disk Unit :=
  fun disk =>
    match (load path disk).bind alter with
    | .ok altered => save path altered disk
    | .error error => (.error error, disk)

def store (path : String) : Store Disk where
  file id := query path fun database => database.file id
  fileAt place := query path fun database => database.fileAt place
  allFiles := query path fun database => .ok database.allFiles
  tags file := query path fun database => database.tags file.id
  updateTag id tag := change path fun database => database.updateTag id tag
  removeTag id name := change path fun database => database.removeTag id name
  updateFile now file tags := change path fun database => database.updateFile now file tags
  removeFile id := change path fun database => database.removeFile id
  addedAt id := query path fun database => (database.addedAt id).map some
  listing := query path fun database => .ok database.listing
  matching filter := query path fun database => database.matching filter

end TagCatalog.OnDisk
