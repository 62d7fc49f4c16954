import TagCatalog.Store

/-!
Stores that keep everything in memory.

A memory is a table of records, and a record has a table of its tags, so no file
has two tags of one name.  Every operation is a function of the memory;
`Memory.store` puts them together.
-/

namespace TagCatalog

namespace Memory

structure Record where
  path : String
  addedAt : Instant
  tags : Table String Tag

end Memory

structure Memory where
  records : Table Uuid Memory.Record

namespace Memory

def empty : Memory := ⟨.empty⟩

def record (memory : Memory) (id : Uuid) : Except Error Record :=
  match memory.records.get? id with
  | some record => .ok record
  | none => .error (.unknownFile id)

def owner? (memory : Memory) (path : String) : Option Uuid :=
  (memory.records.entries.find? fun entry => entry.2.path = path).map Prod.fst

def file (memory : Memory) (id : Uuid) : Except Error File :=
  (memory.record id).map fun record => ⟨id, record.path⟩

def fileAt (memory : Memory) (path : String) : Except Error File :=
  match memory.owner? path with
  | some id => .ok ⟨id, path⟩
  | none => .error (.unknownPath path)

def allFiles (memory : Memory) : List File :=
  Store.inPathOrder (memory.records.entries.map fun entry => ⟨entry.1, entry.2.path⟩)

def tags (memory : Memory) (id : Uuid) : Except Error (List Tag) :=
  (memory.record id).map fun record => record.tags.values

def addedAt (memory : Memory) (id : Uuid) : Except Error Instant :=
  (memory.record id).map Record.addedAt

def put (memory : Memory) (id : Uuid) (record : Record) : Memory :=
  ⟨memory.records.insert id record⟩

def updateTag (memory : Memory) (id : Uuid) (tag : Tag) : Except Error Memory :=
  (memory.record id).map fun record =>
    memory.put id { record with tags := record.tags.insert tag.name tag }

def removeTag (memory : Memory) (id : Uuid) (name : String) : Except Error Memory := do
  let record ← memory.record id
  if record.tags.contains name then
    return memory.put id { record with tags := record.tags.erase name }
  else
    throw (.unknownTag name)

/-- The identifier of another file that has the path of a file. -/
def rival? (memory : Memory) (file : File) : Option Uuid :=
  (memory.owner? file.path).filter fun owner => owner ≠ file.id

def updateFile (memory : Memory) (now : Instant) (file : File) (tags : List Tag) :
    Except Error Memory :=
  match memory.rival? file with
  | some owner => .error (.pathInUse file.path owner)
  | none =>
      let addedAt := ((memory.records.get? file.id).map Record.addedAt).getD now
      .ok (memory.put file.id
        ⟨file.path, addedAt, Table.ofList (tags.map fun tag => (tag.name, tag))⟩)

def removeFile (memory : Memory) (id : Uuid) : Except Error Memory :=
  if memory.records.contains id then
    .ok ⟨memory.records.erase id⟩
  else
    .error (.unknownFile id)

def store : Store Memory where
  file id := Store.query fun memory => memory.file id
  fileAt path := Store.query fun memory => memory.fileAt path
  allFiles := Store.query fun memory => .ok memory.allFiles
  tags file := Store.query fun memory => memory.tags file.id
  updateTag id tag := Store.change fun memory => memory.updateTag id tag
  removeTag id name := Store.change fun memory => memory.removeTag id name
  updateFile now file tags := Store.change fun memory => memory.updateFile now file tags
  removeFile id := Store.change fun memory => memory.removeFile id
  addedAt id := Store.query fun memory => (memory.addedAt id).map some

end Memory

end TagCatalog
