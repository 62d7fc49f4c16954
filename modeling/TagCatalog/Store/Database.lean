import TagCatalog.Store

/-!
Databases: what a document keeps.

A database is a table of records.  The labels of a record stand in the order in
which the document has them and may repeat a name; of the labels of one name the
last counts.  A database is consistent if no two records have the same path and
no label is without a name; `firstFault?` finds the first offence.
-/

namespace TagCatalog

namespace Database

/-- A tag as a document has it. -/
structure Label where
  name : String
  value : Option Int64
deriving DecidableEq

def Label.ofTag (tag : Tag) : Label := ⟨tag.name, tag.value⟩

def Label.tag? (label : Label) : Option Tag :=
  Tag.of? label.name label.value

@[simp]
theorem Label.tag?_ofTag (tag : Tag) : (ofTag tag).tag? = some tag :=
  Tag.of?_self tag

structure Record where
  path : String
  addedAt : Instant
  labels : List Label
deriving DecidableEq

end Database

structure Database where
  records : Table Uuid Database.Record

namespace Database

def empty : Database := ⟨.empty⟩

/-- The first offence in some records, in their order, if the paths before them
belong to the given files. -/
def firstFaultAfter? (seen : List (String × Uuid)) :
    List (Uuid × Record) → Option StoreFault
  | [] => none
  | (id, record) :: rest =>
      match seen.find? fun entry => entry.1 = record.path with
      | some (path, other) => some (.sharedPath path other id)
      | none =>
          if record.labels.any fun label => label.name = "" then
            some .namelessTag
          else
            firstFaultAfter? ((record.path, id) :: seen) rest

def firstFault? (database : Database) : Option StoreFault :=
  firstFaultAfter? [] database.records.entries

def record (database : Database) (id : Uuid) : Except Error Record :=
  match database.records.get? id with
  | some record => .ok record
  | none => .error (.unknownFile id)

def owner? (database : Database) (path : String) : Option Uuid :=
  (database.records.entries.find? fun entry => entry.2.path = path).map Prod.fst

/-- The tags of labels: the last of each name, in the order of the names. -/
def tagsOf (labels : List Label) : Except Error (List Tag) :=
  match labels.mapM Label.tag? with
  | some tags => .ok (Store.normalized tags)
  | none => .error (.store .namelessTag)

def file (database : Database) (id : Uuid) : Except Error File :=
  (database.record id).map fun record => ⟨id, record.path⟩

def fileAt (database : Database) (path : String) : Except Error File :=
  match database.owner? path with
  | some id => .ok ⟨id, path⟩
  | none => .error (.unknownPath path)

def inPathOrder (database : Database) : List (Uuid × Record) :=
  database.records.entries.mergeSort fun first second => first.2.path ≤ second.2.path

def allFiles (database : Database) : List File :=
  database.inPathOrder.map fun entry => ⟨entry.1, entry.2.path⟩

def listing (database : Database) : List ListedFile :=
  database.inPathOrder.map fun entry => ⟨⟨entry.1, entry.2.path⟩, some entry.2.addedAt⟩

def tags (database : Database) (id : Uuid) : Except Error (List Tag) := do
  let record ← database.record id
  tagsOf record.labels

def addedAt (database : Database) (id : Uuid) : Except Error Instant :=
  (database.record id).map Record.addedAt

/-- Those of some records whose tags a filter accepts, up to the first error. -/
def matchingFrom (filter : Filter) : List (Uuid × Record) → Except Error (List File)
  | [] => .ok []
  | (id, record) :: rest => do
      let tags ← tagsOf record.labels
      let found ← matchingFrom filter rest
      return if filter.accepts tags then ⟨id, record.path⟩ :: found else found

def matching (database : Database) (filter : Filter) : Except Error (List File) :=
  matchingFrom filter database.inPathOrder

def put (database : Database) (id : Uuid) (record : Record) : Database :=
  ⟨database.records.insert id record⟩

def without (name : String) (labels : List Label) : List Label :=
  labels.filter fun label => label.name ≠ name

/-- Labels in the order of their names; those of one name keep their order. -/
def inNameOrder (labels : List Label) : List Label :=
  labels.mergeSort fun first second => first.name ≤ second.name

def updateTag (database : Database) (id : Uuid) (tag : Tag) : Except Error Database :=
  (database.record id).map fun record =>
    database.put id
      { record with labels := inNameOrder (without tag.name record.labels ++ [Label.ofTag tag]) }

def removeTag (database : Database) (id : Uuid) (name : String) : Except Error Database := do
  let record ← database.record id
  if record.labels.any fun label => label.name = name then
    return database.put id { record with labels := without name record.labels }
  else
    throw (.unknownTag name)

/-- The identifier of another file that has the path of a file. -/
def rival? (database : Database) (file : File) : Option Uuid :=
  (database.owner? file.path).filter fun owner => owner ≠ file.id

def updateFile (database : Database) (now : Instant) (file : File) (tags : List Tag) :
    Except Error Database :=
  match database.rival? file with
  | some owner => .error (.pathInUse file.path owner)
  | none =>
      let addedAt := ((database.records.get? file.id).map Record.addedAt).getD now
      .ok (database.put file.id
        ⟨file.path, addedAt, (Store.normalized tags).map Label.ofTag⟩)

def removeFile (database : Database) (id : Uuid) : Except Error Database :=
  if database.records.contains id then
    .ok ⟨database.records.erase id⟩
  else
    .error (.unknownFile id)

end Database

end TagCatalog
